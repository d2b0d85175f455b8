import FuzzCampaign.Progress
import Mathlib.Data.List.Chain
set_option autoImplicit false

/-! # Counters that never fall

An update is compared with the counters that are held, which are those of the latest accepted update. That
is enough to order any two accepted updates: `Precedes` is transitive, because totals that are the same at
both ends were the same in between. `lawful_updates` says which updates are accepted and what becomes of the
others. -/

namespace FuzzCampaign.Progress

/-! ## One update -/

/-- Counters that may come after others in the same attempt. -/
structure Precedes (p q : Progress) : Prop where
  tests : p.tests ≤ q.tests
  calls : p.calls ≤ q.calls
  checks : p.checks ≤ q.checks
  testCalls : p.tests = q.tests → p.testCalls ≤ q.testCalls
  callChecks : p.calls = q.calls → p.callChecks ≤ q.callChecks

theorem Precedes.trans {p q r : Progress} (h : p.Precedes q) (h' : q.Precedes r) : p.Precedes r where
  tests := UInt32.le_trans h.tests h'.tests
  calls := UInt32.le_trans h.calls h'.calls
  checks := UInt32.le_trans h.checks h'.checks
  testCalls := by
    intro heq
    -- a total that comes back to what it was did not move in between
    have hbetween : p.tests = q.tests := UInt32.le_antisymm h.tests (heq ▸ h'.tests)
    exact UInt32.le_trans (h.testCalls hbetween) (h'.testCalls (hbetween ▸ heq))
  callChecks := by
    intro heq
    have hbetween : p.calls = q.calls := UInt32.le_antisymm h.calls (heq ▸ h'.calls)
    exact UInt32.le_trans (h.callChecks hbetween) (h'.callChecks (hbetween ▸ heq))

instance : Trans Precedes Precedes Precedes := ⟨Precedes.trans⟩

/-- All counters may come after zero. -/
theorem zero_precedes (p : Progress) : Precedes {} p where
  tests := UInt32.zero_le
  calls := UInt32.zero_le
  checks := UInt32.zero_le
  testCalls := fun _ => UInt32.zero_le
  callChecks := fun _ => UInt32.zero_le

theorem notDecreasing_bind (counter : String) (current next : UInt32) (rest : Unit → Except CampaignError Progress) :
    notDecreasing counter current next >>= rest =
      if next < current then .error (backwards counter current next) else rest () := by
  unfold notDecreasing
  split <;> rfl

/-- The comparisons of an update, in their order. -/
theorem apply_eq (current update : Progress) :
    current.apply update =
      if update.tests < current.tests then .error (backwards "total_tests_count" current.tests update.tests)
      else if update.calls < current.calls then .error (backwards "total_calls_count" current.calls update.calls)
      else if update.checks < current.checks then
        .error (backwards "total_checks_count" current.checks update.checks)
      else if update.tests = current.tests ∧ update.testCalls < current.testCalls then
        .error (backwards "test_calls_count" current.testCalls update.testCalls)
      else if update.calls = current.calls ∧ update.callChecks < current.callChecks then
        .error (backwards "call_checks_count" current.callChecks update.callChecks)
      else .ok update := by
  unfold apply
  simp only [notDecreasing_bind, ite_and]
  rfl

/-- An update replaces the counters exactly when it may come after them; otherwise one of them went
backwards. -/
theorem apply_cases (current update : Progress) :
    (current.Precedes update ∧ current.apply update = .ok update) ∨
      (¬ current.Precedes update ∧ ∃ message, current.apply update = .error (.directive message)) := by
  rw [apply_eq]
  split
  · next hback => exact Or.inr ⟨fun h => UInt32.not_le.2 hback h.tests, _, rfl⟩
  next htests =>
  split
  · next hback => exact Or.inr ⟨fun h => UInt32.not_le.2 hback h.calls, _, rfl⟩
  next hcalls =>
  split
  · next hback => exact Or.inr ⟨fun h => UInt32.not_le.2 hback h.checks, _, rfl⟩
  next hchecks =>
  split
  · next hback => exact Or.inr ⟨fun h => UInt32.not_le.2 hback.2 (h.testCalls hback.1.symm), _, rfl⟩
  next htest =>
  split
  · next hback => exact Or.inr ⟨fun h => UInt32.not_le.2 hback.2 (h.callChecks hback.1.symm), _, rfl⟩
  next hcall =>
  exact Or.inl ⟨
    { tests := UInt32.not_lt.1 htests
      calls := UInt32.not_lt.1 hcalls
      checks := UInt32.not_lt.1 hchecks
      testCalls := fun heq => UInt32.not_lt.1 fun hlt => htest ⟨heq.symm, hlt⟩
      callChecks := fun heq => UInt32.not_lt.1 fun hlt => hcall ⟨heq.symm, hlt⟩ }, rfl⟩

theorem apply_eq_ok_iff {current update next : Progress} :
    current.apply update = .ok next ↔ current.Precedes update ∧ next = update := by
  rcases apply_cases current update with ⟨h, happly⟩ | ⟨h, message, happly⟩
  · simp [happly, h, eq_comm]
  · simp [happly, h]

/-! ## Many updates -/

/-- The counters held after an update: those of the update, or as they were when it is refused. -/
def held (current update : Progress) : Progress :=
  match current.apply update with
  | .ok next => next
  | .error _ => current

/-- The updates that are accepted, one after the other. -/
def accepted (current : Progress) : List Progress → List Progress
  | [] => []
  | update :: rest =>
    match current.apply update with
    | .ok next => next :: accepted next rest
    | .error _ => accepted current rest

section
variable {current update : Progress} {updates rest : List Progress}

theorem accepted_cons_of_precedes (h : current.Precedes update) :
    accepted current (update :: rest) = update :: accepted update rest := by
  rw [accepted, apply_eq_ok_iff.2 ⟨h, rfl⟩]

theorem accepted_cons_of_not (h : ¬ current.Precedes update) :
    accepted current (update :: rest) = accepted current rest := by
  rcases apply_cases current update with ⟨h', -⟩ | ⟨-, message, happly⟩
  · exact absurd h' h
  · rw [accepted, happly]

theorem held_of_precedes (h : current.Precedes update) : held current update = update := by
  rw [held, apply_eq_ok_iff.2 ⟨h, rfl⟩]

theorem held_of_not (h : ¬ current.Precedes update) : held current update = current := by
  rcases apply_cases current update with ⟨h', -⟩ | ⟨-, message, happly⟩
  · exact absurd h' h
  · rw [held, happly]

/-- Each accepted update may come after the one before it. -/
theorem isChain_accepted (current : Progress) (updates : List Progress) :
    (current :: accepted current updates).IsChain Precedes := by
  induction updates generalizing current with
  | nil => exact List.isChain_singleton current
  | cons update rest ih =>
    by_cases h : current.Precedes update
    · rw [accepted_cons_of_precedes h]
      exact List.isChain_cons_cons.2 ⟨h, ih update⟩
    · rw [accepted_cons_of_not h]
      exact ih current

/-- Updates of which each may come after the one before it are all accepted. -/
theorem accepted_of_isChain (h : (current :: updates).IsChain Precedes) : accepted current updates = updates := by
  induction updates generalizing current with
  | nil => rfl
  | cons update rest ih =>
    obtain ⟨hfirst, hrest⟩ := List.isChain_cons_cons.1 h
    rw [accepted_cons_of_precedes hfirst, ih hrest]

theorem accepted_sublist (current : Progress) (updates : List Progress) :
    (accepted current updates).Sublist updates := by
  induction updates generalizing current with
  | nil => exact List.Sublist.slnil
  | cons update rest ih =>
    by_cases h : current.Precedes update
    · rw [accepted_cons_of_precedes h]
      exact (ih update).cons_cons update
    · rw [accepted_cons_of_not h]
      exact (ih current).cons update

theorem accepted_append (current : Progress) (updates more : List Progress) :
    accepted current (updates ++ more) =
      accepted current updates ++ accepted (updates.foldl held current) more := by
  induction updates generalizing current with
  | nil => rfl
  | cons update rest ih =>
    by_cases h : current.Precedes update
    · rw [List.cons_append, List.foldl_cons, accepted_cons_of_precedes h, accepted_cons_of_precedes h,
        held_of_precedes h, ih, List.cons_append]
    · rw [List.cons_append, List.foldl_cons, accepted_cons_of_not h, accepted_cons_of_not h, held_of_not h, ih]

/-- When all updates are accepted, each of them may come after the counters that were held before it. -/
theorem precedes_of_accepted {before after : List Progress}
    (h : accepted current (before ++ update :: after) = before ++ update :: after) :
    (before.foldl held current).Precedes update := by
  by_contra hnot
  rw [accepted_append, accepted_cons_of_not hnot] at h
  -- without this update there are too few of them
  have hlength := congrArg List.length h
  have hbefore := (accepted_sublist current before).length_le
  have hafter := (accepted_sublist (before.foldl held current) after).length_le
  simp only [List.length_append, List.length_cons] at hlength
  omega

end

/-- Which of some updates are accepted, and what becomes of a refused one. -/
structure Lawful (updates : List Progress) : Prop where
  /-- Any two accepted updates are in order, and all of them come after zero. -/
  ordered : (({} : Progress) :: accepted {} updates).Pairwise Precedes
  /-- Updates that are in order are all accepted. -/
  complete : updates.Pairwise Precedes → accepted {} updates = updates
  /-- A refused update is answered with an error, is none of the accepted ones and changes no counter. -/
  refused : ∀ before update after, updates = before ++ update :: after →
    ¬ (before.foldl held {}).Precedes update →
    (∃ message, (before.foldl held {}).apply update = .error (.directive message)) ∧
      (before ++ [update]).foldl held {} = before.foldl held {} ∧
      accepted {} updates = accepted {} (before ++ after)

theorem lawful_updates (updates : List Progress) : Lawful updates where
  ordered := List.isChain_iff_pairwise.1 (isChain_accepted {} updates)
  complete := fun h =>
    accepted_of_isChain (List.isChain_iff_pairwise.2 (List.pairwise_cons.2 ⟨fun p _ => p.zero_precedes, h⟩))
  refused := by
    rintro before update after rfl hnot
    rcases apply_cases (before.foldl held {}) update with ⟨h, -⟩ | ⟨-, hrefused⟩
    · exact absurd h hnot
    · refine ⟨hrefused, ?_, ?_⟩
      · rw [List.foldl_append, List.foldl_cons, List.foldl_nil, held_of_not hnot]
      · rw [accepted_append, accepted_append, accepted_cons_of_not hnot]

end FuzzCampaign.Progress
