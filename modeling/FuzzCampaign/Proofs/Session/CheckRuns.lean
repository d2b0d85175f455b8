import FuzzCampaign.Proofs.CallSteps
import FuzzCampaign.Proofs.Check.Isolation
import FuzzCampaign.Proofs.Session.States
set_option autoImplicit false

/-! # The checks that a session runs

One engine is carried through the calls and the attempts of a session. Nothing happens to it but runs of its checks,
and the outcomes of these runs are what the session reports (`RunsOnly`). With the isolation of checks this is
`checks_isolated`: over a whole session the live state of a check is a matter of its own runs. -/

namespace FuzzCampaign

open World (Sends Queued send_cases queued_look queued_apply sends_interact)

variable {μ : Type}

/-- The outcomes of the user's checks among messages. -/
def userOutcomes (messages : List ClientMessage) : List CheckProgress :=
  messages.filterMap fun
    | .checkProgress p => if p.userProperty = true ∧ p.status ≠ .start then some p else none
    | _ => none

namespace CheckEngine

/-- The outcomes of runs, in order. -/
def outcomes : CheckEngine μ → List (CheckRun μ) → List Outcome
  | _, [] => []
  | engine, r :: runs => (engine.outcome? r).toList ++ outcomes (engine.after r.call) runs

/-- From one engine and world to the next these runs were made, and nothing else happened to the engine. Their
outcomes were reported in order, but for those that were not. -/
structure Made (engine : CheckEngine μ) (w : World μ) (runs : List (CheckRun μ)) (unreported : List CheckProgress)
    (engine' : CheckEngine μ) (w' : World μ) : Prop where
  leaves : engine' = engine.afterRuns runs
  reported : ∃ messages, w'.sent = w.sent ++ messages ∧
    userOutcomes messages ++ unreported = (engine.outcomes runs).map Outcome.progress

/-- From one engine and world to the next nothing happened to the engine but runs, all of which were reported,
except the last one in case that this is the error. -/
def RunsOnly {α : Type} (engine : CheckEngine μ) (w : World μ) (result : Except CampaignError α)
    (engine' : CheckEngine μ) (w' : World μ) : Prop :=
  ∃ runs unreported, Made engine w runs unreported engine' w' ∧
    (unreported = [] ∨ unreported.length = 1 ∧ result = .error World.writerStopped)

theorem outcomes_append (engine : CheckEngine μ) (runs more : List (CheckRun μ)) :
    engine.outcomes (runs ++ more) = engine.outcomes runs ++ (engine.afterRuns runs).outcomes more := by
  induction runs generalizing engine with
  | nil => rfl
  | cons r runs ih =>
    rw [List.cons_append, outcomes, outcomes, ih, List.append_assoc]
    rfl

theorem userOutcomes_append (messages more : List ClientMessage) :
    userOutcomes (messages ++ more) = userOutcomes messages ++ userOutcomes more := List.filterMap_append

section
variable {α β : Type} {engine engine' engine'' : CheckEngine μ} {w w' w'' : World μ} {result : Except CampaignError α}
  {runs more : List (CheckRun μ)} {unreported : List CheckProgress} {messages : List ClientMessage}

theorem Made.trans (h : Made engine w runs [] engine' w') (h' : Made engine' w' more unreported engine'' w'') :
    Made engine w (runs ++ more) unreported engine'' w'' := by
  obtain ⟨rfl, messages, hsent, hreported⟩ := h
  obtain ⟨rfl, further, hsent', hreported'⟩ := h'
  rw [List.append_nil] at hreported
  refine ⟨List.foldl_append.symm, messages ++ further, by rw [hsent', hsent, List.append_assoc], ?_⟩
  rw [userOutcomes_append, List.append_assoc, hreported, hreported', outcomes_append, List.map_append]

/-- Messages that report no outcome. -/
theorem made_of_sends (h : Sends w messages w') (hnone : userOutcomes messages = []) :
    Made engine w [] [] engine w' := ⟨rfl, messages, h.sent, by rw [hnone]; rfl⟩

/-- Nothing happened to the engine, and no outcome was reported. -/
theorem runsOnly_of_sends (result : Except CampaignError α) (h : Sends w messages w')
    (hnone : userOutcomes messages = []) : RunsOnly engine w result engine w' :=
  ⟨[], [], made_of_sends h hnone, Or.inl rfl⟩

/-- A part that did not end with an error, and what follows it. -/
theorem RunsOnly.trans {a : β} (h : RunsOnly engine w (.ok a : Except CampaignError β) engine' w')
    (h' : RunsOnly engine' w' result engine'' w'') : RunsOnly engine w result engine'' w'' := by
  obtain ⟨runs, unreported, hmade, rfl | ⟨-, hresult⟩⟩ := h
  · obtain ⟨more, unreported', hmade', hcut⟩ := h'
    exact ⟨runs ++ more, unreported', hmade.trans hmade', hcut⟩
  · cases hresult

theorem RunsOnly.after (h : Queued w [] w') (h' : RunsOnly engine w' result engine' w'') :
    RunsOnly engine w result engine' w'' := (runsOnly_of_sends (.ok ()) h.toSends rfl).trans h'

/-- The same part with another result; an error stays the same. -/
theorem RunsOnly.throw {result' : Except CampaignError β} (h : RunsOnly engine w result engine' w')
    (herror : result = .error World.writerStopped → result' = .error World.writerStopped) :
    RunsOnly engine w result' engine' w' := by
  obtain ⟨runs, unreported, hmade, hcut⟩ := h
  exact ⟨runs, unreported, hmade, hcut.imp_right fun ⟨hone, hresult⟩ => ⟨hone, herror hresult⟩⟩

/-- A part that did not end with an error, with any result after it. -/
theorem RunsOnly.ends {a : β} (h : RunsOnly engine w (.ok a : Except CampaignError β) engine' w')
    (result' : Except CampaignError α) : RunsOnly engine w result' engine' w' :=
  h.throw fun herror => by cases herror

/-- A message that reports no outcome. -/
theorem runsOnly_send (engine : CheckEngine μ) (w : World μ) {m : ClientMessage} (hnone : userOutcomes [m] = []) :
    RunsOnly engine w (w.send m).1 engine (w.send m).2 := by
  obtain ⟨w', ⟨hsend, hqueued⟩ | ⟨hsend, hqueued⟩⟩ := send_cases w m
  · rw [hsend]
    exact runsOnly_of_sends _ hqueued.toSends rfl
  · rw [hsend]
    exact runsOnly_of_sends _ hqueued.toSends hnone

end

end CheckEngine

open CheckEngine (RunsOnly Made runsOnly_of_sends runsOnly_send)

namespace CallExecution

/-! ## Calls -/

/-- The outcome of a check of the user is reported as one. -/
theorem userOutcomes_progress {o : Outcome} (huser : o.userProperty = true) :
    userOutcomes [.checkProgress o.progress] = [o.progress] := by
  have hstatus : o.progress.status ≠ .start := by cases h : o.status <;> simp [Outcome.progress, OutcomeStatus.verif, h]
  have hreported : o.progress.userProperty = true ∧ o.progress.status ≠ .start := ⟨huser, hstatus⟩
  simp [userOutcomes, hreported]

section
variable {effects : Effects μ → Prop} {engine engine' : CheckEngine μ} {w w' : World μ}
  {result : Except CampaignError Unit}

theorem userOutcomes_start (label : CheckLabel) : userOutcomes [label.start] = [] := by
  simp [userOutcomes, CheckLabel.start, CheckProgress.start]

/-- A report that is none of a check of the user. -/
theorem runsOnly_report (engine : CheckEngine μ) {o : Outcome} (huser : o.userProperty = false) (w : World μ) :
    RunsOnly engine w (report o w).1 engine (report o w).2 := by
  have hnone : userOutcomes [.checkProgress o.progress] = [] := by
    have hreported : o.progress.userProperty = false := huser
    simp [userOutcomes, hreported]
  obtain ⟨w', ⟨hreport, hw'⟩ | ⟨hreport, hw'⟩⟩ := report_cases o w
  · rw [hreport]
    exact runsOnly_of_sends _ hw'.toSends rfl
  · rw [hreport]
    exact runsOnly_of_sends _ hw'.toSends hnone

/-- A run, and the report of its outcome. -/
theorem runsOnly_run {r : CheckRun μ} {outcome : Outcome} {w : World μ}
    (hrun : engine.run r.index r.request r.response r.callDeadline r.world = .ok (outcome, engine', w)) :
    RunsOnly engine r.world (report outcome w).1 engine' (report outcome w).2 := by
  obtain ⟨-, -, -, hqueued, -, -, -, huser⟩ := CheckEngine.of_run hrun
  have hengine : engine' = engine.afterRuns [r] := by
    simp only [CheckEngine.afterRuns, List.foldl_cons, List.foldl_nil, CheckRun.call, CheckEngine.after, hrun]
  have houtcomes : (engine.outcomes [r]).map Outcome.progress = [outcome.progress] := by
    simp only [CheckEngine.outcomes, CheckEngine.outcome?, hrun]
    rfl
  obtain ⟨w', ⟨hreport, hw'⟩ | ⟨hreport, hw'⟩⟩ := report_cases outcome w
  · rw [hreport]
    exact ⟨[r], [outcome.progress], ⟨hengine, [], (hqueued.after hw').sent, houtcomes.symm⟩, Or.inr ⟨rfl, rfl⟩⟩
  · rw [hreport]
    refine ⟨[r], [], ⟨hengine, _, (hqueued.after hw').sent, ?_⟩, Or.inl rfl⟩
    rw [userOutcomes_progress huser, houtcomes]
    rfl

theorem Step.runsOnly (h : Step effects engine w result engine' w') : RunsOnly engine w result engine' w' := by
  cases h with
  | look => exact runsOnly_of_sends _ (queued_look w).toSends rfl
  | preparation => exact runsOnly_of_sends _ (queued_apply w _).toSends rfl
  | interaction => exact runsOnly_of_sends _ ((sends_interact w).after (queued_apply _ _).toSends) rfl
  | interrupted => exact runsOnly_of_sends _ (.refl w) rfl
  | publication hm =>
    refine runsOnly_send engine w ?_
    cases hm <;> rfl
  | unannounced label hsend =>
    have hstart : RunsOnly engine w _ _ _ := runsOnly_send engine w (userOutcomes_start label)
    rwa [hsend] at hstart
  | @modelCheck _ w₁ check _ _ e _ hsend =>
    have hstart : RunsOnly engine w _ _ _ := runsOnly_send engine w (userOutcomes_start (modelLabel check))
    rw [hsend] at hstart
    have hrun : Queued w₁ [] (w₁.look.apply e).look := ((queued_look w₁).after (queued_apply _ e)).after (queued_look _)
    exact hstart.trans (.after hrun (runsOnly_report engine rfl _))
  | @userCheck _ _ w₁ w₂ kind i request response deadline outcome _ hsend hrun =>
    have hstart : RunsOnly engine w _ _ _ := runsOnly_send engine w (userOutcomes_start (userLabel engine kind i))
    rw [hsend] at hstart
    exact hstart.trans (runsOnly_run (r := ⟨i, request, response, deadline, w₁⟩) hrun)

theorem Steps.runsOnly (h : Steps effects engine w result engine' w') : RunsOnly engine w result engine' w' := by
  induction h with
  | none => exact runsOnly_of_sends _ (.refl _) rfl
  | fail hstep => exact hstep.runsOnly
  | cons hstep _ ih => exact hstep.runsOnly.trans ih

end

/-- A call does nothing to the engine but run its checks. -/
theorem runsOnly_execute (model : Model μ) (callBudget : Nat) (call : Call) (engine : CheckEngine μ) (w : World μ) :
    RunsOnly engine w (execute model callBudget call engine w).1 (execute model callBudget call engine w).2.1
      (execute model callBudget call engine w).2.2 := by
  cases hprepare : (model.prepare call w.outside).1 with
  | error e =>
    rw [execute_refused model callBudget call engine w hprepare]
    exact runsOnly_of_sends _ (queued_afterPreparing model call w).toSends rfl
  | ok caller =>
    refine (steps_execute model callBudget call engine w hprepare).runsOnly.throw fun herror => ?_
    generalize (execute model callBudget call engine w).1 = result at herror ⊢
    cases result <;> cases herror
    rfl

end CallExecution

/-! ## Sessions -/

theorem ResetBlock.no_outcomes {block : List ClientMessage} {ending : Except CampaignError Unit}
    (h : ResetBlock block ending) : userOutcomes block = [] := by
  cases h <;> rfl

namespace Session

variable {σ α : Type}

/-- From one session to another nothing happened to the engine but runs of its checks, all of which were reported,
except the last one in case that this is the error. -/
def ChecksOnly (s : Session σ μ) (result : Except CampaignError α) (s' : Session σ μ) : Prop :=
  RunsOnly s.engine s.world result s'.engine s'.world

/-- The error with which an attempt ends in a turn. -/
def TurnEnd.outcome : TurnEnd → Except CampaignError Unit
  | .ended result => result.map fun _ => ()
  | .goesOn _ => .ok ()

section
variable {plan : SessionPlan σ μ} {env : EnvSnapshot} {a a' : Attempt} {s s' : Session σ μ}
  {messages : List ServerMessage} {seed : List UInt8} {start : Session σ μ}

/-- The engine stayed the same and no outcome was reported. -/
theorem checksOnly_of_sends (result : Except CampaignError α) {queued : List ClientMessage}
    (hengine : s'.engine = s.engine) (h : Sends s.world queued s'.world) (hnone : userOutcomes queued = []) :
    ChecksOnly s result s' := by
  rw [ChecksOnly, hengine]
  exact runsOnly_of_sends result h hnone

theorem Idle.checksOnly (h : Idle s s') (result : Except CampaignError α) : ChecksOnly s result s' :=
  checksOnly_of_sends result h.engine h.queued.toSends rfl

/-- A reset is no concern of the engine. -/
theorem checksOnly_executeReset (plan : SessionPlan σ μ) (env : EnvSnapshot) (a : Attempt) (s : Session σ μ) :
    ChecksOnly s (.ok ()) (executeReset plan env a s).2 := by
  have hengine : (executeReset plan env a s).2.engine = s.engine := by rw [executeReset_session]
  obtain ⟨s', block, hmoves, ⟨a', result, hreset, -, hblock, -⟩ | ⟨e, whole, result, hreset, -, hblock, hfront⟩ |
    ⟨a', hreset, -, rfl, -⟩⟩ := executeReset_cases plan env a s
  all_goals rw [hreset] at hengine ⊢
  · exact checksOnly_of_sends _ hengine hmoves.world hblock.no_outcomes
  · refine checksOnly_of_sends _ hengine hmoves.world ?_
    obtain ⟨rest, rfl⟩ := hfront
    have hnone := hblock.no_outcomes
    rw [CheckEngine.userOutcomes_append] at hnone
    exact (List.append_eq_nil_iff.1 hnone).1
  · exact checksOnly_of_sends _ hengine hmoves.world rfl

theorem checksOnly_dispatch (plan : SessionPlan σ μ) (env : EnvSnapshot) (a : Attempt) (s : Session σ μ)
    (payload : ServerPayload) :
    ChecksOnly s (dispatch plan env a s payload).1.outcome (dispatch plan env a s payload).2 := by
  cases payload with
  | fuzzingReport report => exact checksOnly_of_sends _ rfl (World.queued_present _ _).toSends rfl
  | call call =>
    have hcall : ChecksOnly s (executeCall plan call s).1 (executeCall plan call s).2 :=
      (CallExecution.runsOnly_execute plan.model plan.options.callBudget call s.engine s.world).throw fun he => by
        rw [executeCall]
        simp only [enter, he]
        rfl
    dsimp only [dispatch]
    generalize executeCall plan call s = executed at hcall ⊢
    obtain ⟨e | u, s'⟩ := executed
    · exact hcall.throw fun he => by cases he; rfl
    · exact hcall
  | reset =>
    have hreset := checksOnly_executeReset plan env a s
    dsimp only [dispatch]
    generalize executeReset plan env a s = executed at hreset ⊢
    obtain ⟨e | a', s'⟩ := executed <;> exact hreset.ends _
  | fuzzingResult result => exact checksOnly_of_sends _ rfl (.refl _) rfl

theorem Turns.checksOnly (h : Turns plan env a s messages a' s') : ChecksOnly s (.ok ()) s' := by
  induction h with
  | nil => exact runsOnly_of_sends _ (.refl _) rfl
  | @cons a a₁ a₂ a' s s₁ s₂ s' m messages htakes hdispatch _ ih =>
    have hdispatched := checksOnly_dispatch plan env a₁ s₁ m.payload
    rw [hdispatch] at hdispatched
    exact ((htakes.idle.checksOnly (.ok ())).trans hdispatched).trans ih

theorem checksOnly_turn (plan : SessionPlan σ μ) (env : EnvSnapshot) (a : Attempt) (s : Session σ μ) :
    ChecksOnly s (turn plan env a s).1.outcome (turn plan env a s).2 := by
  rcases turn_cases plan env a s with ⟨e, s', hawait, hturn⟩ | ⟨m, e, s', hawait, -, hturn⟩ |
    ⟨m, a₁, s₁, htakes, hturn⟩
  · have hidle := idle_await plan s
    rw [hawait] at hidle
    rw [hturn]
    exact hidle.checksOnly _
  · have hidle := idle_await plan s
    rw [hawait] at hidle
    rw [hturn]
    exact hidle.checksOnly _
  · rw [hturn]
    exact RunsOnly.trans (htakes.idle.checksOnly (.ok ())) (checksOnly_dispatch plan env a₁ s₁ m.payload)

/-- The attempt goes through its turns with the engine that it began with. -/
theorem checksOnly_driven (plan : SessionPlan σ μ) (seed : List UInt8) (start : Session σ μ) :
    ChecksOnly start (driven plan seed start).1 (driven plan seed start).2 := by
  have hannounced : ChecksOnly start (announce plan seed start).1 (announce plan seed start).2 :=
    .after (queued_apply _ _) (runsOnly_send start.engine (equipped plan start).world rfl)
  cases hannounce : (announce plan seed start).1 with
  | error e =>
    rw [hannounce] at hannounced
    rw [driven_unannounced hannounce]
    exact hannounced.throw fun he => by cases he; rfl
  | ok u =>
    rw [hannounce] at hannounced
    obtain ⟨messages, a, s, result, final, hturns, hend, hdriven⟩ := driven_turns hannounce
    have hlast := checksOnly_turn plan (campaign plan seed start).env a s
    rw [hend] at hlast
    rw [hdriven]
    refine (hannounced.trans hturns.checksOnly).trans (hlast.throw fun he => ?_)
    cases result <;> cases he
    rfl

theorem checksOnly_attempt (plan : SessionPlan σ μ) (seed : List UInt8) (start : Session σ μ) :
    ChecksOnly start (attempt plan seed start).1 (attempt plan seed start).2 := by
  cases hbuild : (plan.lifecycle.build start.lifecycleState start.world.outside).1 with
  | error e =>
    rw [attempt_unequipped seed hbuild]
    exact checksOnly_of_sends _ rfl ((moves_equipped plan start).world.after (moves_flush plan _).world) rfl
  | ok u =>
    have hcleanup : Sends (driven plan seed start).2.world []
        (flush plan (release plan (driven plan seed start).2).2).2.world :=
      (moves_release plan _).world.after (moves_flush plan _).world
    have hdriven := checksOnly_driven plan seed start
    rw [attempt_equipped seed hbuild]
    generalize driven plan seed start = own at hdriven hcleanup ⊢
    obtain ⟨e | ending, s'⟩ := own
    · rw [(precedence_finish _ _ _).own_error e rfl]
      -- nothing is reported in the cleanup, so what was not reported stays so
      obtain ⟨runs, unreported, hmade, hcut⟩ := hdriven
      refine ⟨runs, unreported, ⟨hmade.leaves, ?_⟩, hcut⟩
      obtain ⟨messages, hsent, hreported⟩ := hmade.reported
      exact ⟨messages, by rw [hcleanup.sent, hsent, List.append_nil], hreported⟩
    · exact hdriven.trans (checksOnly_of_sends _ rfl hcleanup rfl)

theorem checksOnly_runAttempts (plan : SessionPlan σ μ) (fuel : Nat) (seed : List UInt8) (s : Session σ μ) :
    ChecksOnly s (runAttempts plan fuel seed s).1 (runAttempts plan fuel seed s).2 := by
  induction fuel generalizing seed s with
  | zero => exact runsOnly_of_sends _ (.refl _) rfl
  | succ fuel ih =>
    have hattempt : ChecksOnly s _ _ := checksOnly_attempt plan seed (counted s)
    rw [runAttempts, ← counted]
    generalize attempt plan seed (counted s) = attempted at hattempt ⊢
    obtain ⟨e | next | verdict, stop⟩ := attempted
    · exact hattempt.throw fun he => by cases he; rfl
    · exact hattempt.trans (ih next stop)
    · exact hattempt.ends _

end

end Session

namespace CheckEngine

/-- **The state of a check is its own.** In every engine that can be reached a check is isolated from the others: it
begins each run with the state that its previous run left, and comes to the same outcomes and states as if it were
the only check and only its own runs were made, given that these observe the same interruptions. All that happens
to an engine in a session, over all its calls and attempts, is a sequence of such runs, the outcomes of which are
those that the session reports. -/
theorem checks_isolated (filter : TagFilter) (limits : CheckLimits) {calls : List (EngineCall μ)} {k : Nat}
    {check : Check μ} (hcheck : (reached filter limits calls).checks[k]? = some check) :
    Isolated (reached filter limits calls) k check ∧
      ∀ {σ : Type} (plan : SessionPlan σ μ) (s : Session σ μ), s.engine = reached filter limits calls →
        ∃ runs unreported,
          Made (reached filter limits calls) s.world runs unreported (Session.run plan s).2.engine
            (Session.run plan s).2.world ∧
          (unreported = [] ∨ unreported.length = 1 ∧ (Session.run plan s).1 = .error World.writerStopped) := by
  refine ⟨isolated_of_keptEmpty hcheck (keptEmpty_reached filter limits hcheck), fun plan s hengine => ?_⟩
  have hchecks := Session.checksOnly_runAttempts plan (plan.options.maxAttempts - s.attempts) plan.descriptor.seed s
  rwa [Session.ChecksOnly, hengine] at hchecks

/-! ## A check that counts beside one that fails -/

/-- A hook that counts its runs. -/
def countingHook : HookProgram Unit :=
  .state (fun
    | .dict [("runs", .int n)] => .dict [("runs", .int (n + 1))]
    | _ => .dict [("runs", .int 1)]) fun _ => .done

/-- The count that it keeps. -/
def count? : Tree → Option Int64
  | .dict [("runs", .int n)] => some n
  | _ => none

/-- A check that counts is registered, and then a careless one. -/
def countingHistory : List (EngineCall Unit) :=
  [.register { name := "b", after := some { program := fun _ => carelessHook } },
    .register { name := "a", after := some { program := fun _ => countingHook } }]

/-- Two runs are counted, whatever becomes of the state of the other check between them. -/
theorem counting_check_isolated :
    ∃ check, (reached ⟨.empty, .empty⟩ {} countingHistory).checks[0]? = some check ∧
      Isolated (reached ⟨.empty, .empty⟩ {} countingHistory) 0 check ∧
      (((reached ⟨.empty, .empty⟩ {} countingHistory).afterRuns
        ([1, 0, 1, 0].map fun i => ⟨i, .emptyDict, none, 1000, { outside := () }⟩)).live 0).bind count? = some 2 :=
  ⟨_, rfl, (checks_isolated _ _ rfl).1, by decide +kernel⟩

end CheckEngine

end FuzzCampaign
