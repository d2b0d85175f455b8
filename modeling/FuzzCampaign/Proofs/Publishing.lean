import FuzzCampaign.Proofs.CallTrace
import FuzzCampaign.Proofs.TreeConversion
set_option autoImplicit false

/-! # The response that a call publishes

A caller gives its response as a tree, made of the JSON value that the system answered. What is published is
that value as the tree keeps it: nothing changes but integers of `2 ^ 63` or more, which a tree does not hold and
which come out as floats. -/

namespace FuzzCampaign.CallExecution

variable {μ : Type}

/-- The tree of a JSON value is published as the tree keeps the value. -/
theorem publishedResponse_ofJson {v : Json} (h : ∀ node, Json.Holds node v → ¬ node.Unbounded) :
    publishedResponse (some (Tree.ofJson v)) = v.narrowed := by
  simp only [publishedResponse, Tree.toJson_ofJson v h]

/-- What is queued in front of a message that is not. -/
theorem front_of_notMem {queued front more : List ClientMessage} {m : ClientMessage}
    (h : queued <+: front ++ m :: more) (hm : m ∉ queued) : queued <+: front := by
  have hfront : front ++ [m] <+: front ++ m :: more := by
    rw [List.prefix_append_right_inj]
    exact List.prefix_append [m] more
  rcases List.prefix_or_prefix_of_prefix h hfront with hshort | hlong
  · rcases List.prefix_concat_iff.1 hshort with rfl | hshort
    · exact absurd (List.mem_append_right _ List.mem_cons_self) hm
    · exact hshort
  · exact absurd (hlong.subset (List.mem_append_right _ List.mem_cons_self)) hm

section
variable {before builtIn after : List CheckLabel} {raw verified : Json} {B C A queued : List ClientMessage}
  {result : Except CampaignError CallVerdict}

/-- A call queues no other response. -/
theorem CallTrace.response_eq (h : CallTrace before builtIn after raw verified B C A queued result)
    {response : Json} (hmem : .callResponseVerified response ∈ queued) : response = verified := by
  obtain ⟨_, -, hB⟩ := h.before_begun
  obtain ⟨_, -, hC⟩ := h.builtIn_begun
  obtain ⟨_, -, hA⟩ := h.after_begun
  have hwhole := h.queued_front.subset hmem
  simpa [hB.notMem, hC.notMem, hA.notMem] using hwhole

/-- A call that passed queued its response. -/
theorem CallTrace.response_queued (h : CallTrace before builtIn after raw verified B C A queued result)
    (hpassed : result = .ok .passed) : .callResponseVerified verified ∈ queued := by
  obtain ⟨_, -, hB⟩ := h.before_begun
  obtain ⟨_, -, hC⟩ := h.builtIn_begun
  have hdone := h.done_queued.2 hpassed
  have hfront : queued <+: (B ++ .callResponseRaw raw :: C) ++ .callResponseVerified verified ::
      (A ++ [.checkProgress .done]) := by simpa using h.queued_front
  by_cases hmem : .callResponseVerified verified ∈ queued
  · exact hmem
  · have hearly := (front_of_notMem hfront hmem).subset hdone
    simp [hB.notMem, hC.notMem] at hearly

end

/-- **The published response.** A call whose interaction yields the tree of a JSON value has that value published,
except that every integer of `2 ^ 63` or more is published as the float next to it; so exactly the values without
such an integer are published as they are. No other response is queued, and a call that passes has queued
this one. -/
theorem response_published (model : Model μ) (callBudget : Nat) (call : Call) (engine : CheckEngine μ) (w : World μ)
    {caller : Caller μ} {v : Json} (hcaller : (model.prepare call w.outside).1 = .ok caller)
    (hresponse : (interactionOf model callBudget call engine w caller).response = some (Tree.ofJson v))
    (hvalue : ∀ node, Json.Holds node v → ¬ node.Unbounded) :
    publishedResponse (some (Tree.ofJson v)) = v.narrowed ∧
      (v.narrowed = v ↔ ∀ node, Json.Holds node v → ¬ node.Oversized) ∧
      ∃ queued, (execute model callBudget call engine w).2.2.sent = w.sent ++ queued ∧
        (∀ response, .callResponseVerified response ∈ queued → response = v.narrowed) ∧
        ((execute model callBudget call engine w).1 = .ok .passed →
          .callResponseVerified v.narrowed ∈ queued) := by
  have hpublished := publishedResponse_ofJson hvalue
  obtain ⟨result, engine', w', B, C, A, queued, hexecute, hw', -, htrace, -⟩ :=
    execute_prepared model callBudget call engine w hcaller
  rw [hresponse, hpublished] at htrace
  rw [hexecute]
  exact ⟨hpublished, v.narrowed_eq_iff, queued, hw'.sent, fun _ => htrace.response_eq, htrace.response_queued⟩

/-! ## Large numbers in a response -/

/-- The largest integer without a sign. -/
def largestInt : WireInt := ⟨2 ^ 64 - 1, by decide, by decide⟩

theorem narrowedInt_largestInt : Json.narrowedInt largestInt = .float (.ofDecimal false (2 ^ 64) 0) := by
  have hfloat : Binary64.ofInt largestInt.val = .ofDecimal false (2 ^ 64) 0 := by decide +kernel
  rw [Json.narrowedInt, if_neg (by decide), hfloat]

theorem int_not_unbounded {n : WireInt} : ∀ node, Json.Holds node (.int n) → ¬ node.Unbounded := by
  rintro node (_ | _)
  exact id

/-- It is published as the float next to it, `2 ^ 64`, so it is not published as it is. -/
theorem largest_integer_not_published :
    publishedResponse (some (Tree.ofJson (.int largestInt))) = .float (.ofDecimal false (2 ^ 64) 0) ∧
      publishedResponse (some (Tree.ofJson (.int largestInt))) ≠ .int largestInt := by
  rw [publishedResponse_ofJson int_not_unbounded, Json.narrowed, narrowedInt_largestInt]
  exact ⟨rfl, nofun⟩

/-- A model whose calls are all answered by one JSON value. -/
def answering (v : Json) : Model Unit where
  prepare _ _ := (.ok {
    request := .null
    invoke _ _ := { effects := { outside := () }, raw := .null, response := some (Tree.ofJson v), checks := [] } },
    { outside := () })

/-- An answer of a small number and the largest integer. -/
def twoNumbers : Json := .obj [("id", .int (.ofUInt64 7)), ("total", .int largestInt)]

/-- A call that gets this answer publishes the second number as a float. -/
theorem second_number_published_as_float :
    ∃ queued,
      (execute (answering twoNumbers) 1000 ⟨1, .null⟩ ⟨⟨.empty, .empty⟩, {}, []⟩ { outside := () }).2.2.sent = queued ∧
        ∀ response, .callResponseVerified response ∈ queued →
          response = .obj [("id", .int (.ofUInt64 7)), ("total", .float (.ofDecimal false (2 ^ 64) 0))] := by
  have hvalue : ∀ node, Json.Holds node twoNumbers → ¬ node.Unbounded := by
    refine Json.forall_holds_obj.2 ⟨id, List.forall_mem_cons.2 ⟨int_not_unbounded, ?_⟩⟩
    exact List.forall_mem_singleton.2 int_not_unbounded
  have hnarrowed : twoNumbers.narrowed =
      .obj [("id", .int (.ofUInt64 7)), ("total", .float (.ofDecimal false (2 ^ 64) 0))] := by
    have hseven : Json.narrowedInt (.ofUInt64 7) = .int (.ofUInt64 7) := (Json.narrowedInt_eq_iff _).2 (by decide)
    simp only [twoNumbers, Json.narrowed, Json.narrowedMembers, hseven, narrowedInt_largestInt]
  obtain ⟨-, -, queued, hsent, hresponse, -⟩ :=
    response_published (answering twoNumbers) 1000 ⟨1, .null⟩ ⟨⟨.empty, .empty⟩, {}, []⟩ { outside := () } rfl rfl
      hvalue
  exact ⟨queued, hsent, fun response hmem => (hresponse response hmem).trans hnarrowed⟩

end FuzzCampaign.CallExecution
