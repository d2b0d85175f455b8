import FuzzCampaign.Proofs.Json.RoundTrip
set_option autoImplicit false

/-! # Values that nest too deep

The text of a value with more containers around its innermost value than a reader has room for is refused
(`readTerm_print_of_lt`). A list is refused at its first element that is; those before it are read back. So the
text of a value is a document exactly when the value nests at most `maxDepth` containers. -/

namespace FuzzCampaign.Json

/-- A reader that refuses the text of a value, whatever follows a value. -/
def Refuses (read : List Char → Option (Term × List Char)) (v : Json) : Prop :=
  ∀ rest, Follows rest → read (v.print ++ rest) = none

/-! ## Elements and members -/

section
variable {read : List Char → Option (Term × List Char)}

/-- A list is refused when one of its elements is. -/
theorem readItems_refused {items : List Json} (hread : ∀ item ∈ items, ReadsBack read item ∨ Refuses read item)
    (hrefused : ∃ item ∈ items, Refuses read item) (fuel : Nat) (before : List Term) (rest : List Char) :
    readItems read fuel (printItems items ++ rest) before = none := by
  induction items generalizing fuel before with
  | nil =>
    obtain ⟨item, hitem, -⟩ := hrefused
    cases hitem
  | cons item more ih =>
    cases fuel with
    | zero => rfl
    | succ fuel =>
      obtain ⟨hfirst, hmore⟩ := List.forall_mem_cons.1 hread
      rw [readItems, printItems_cons, List.append_assoc]
      by_cases hitem : Refuses read item
      · rw [hitem _ (follows_itemsTail more rest)]
      · -- this element is read back, so the one that is refused comes later
        rw [hfirst.resolve_right hitem _ (follows_itemsTail more rest)]
        have hlater : ∃ later ∈ more, Refuses read later := by simpa [hitem] using hrefused
        cases more with
        | nil =>
          obtain ⟨later, hlater, -⟩ := hlater
          cases hlater
        | cons next more =>
          dsimp only
          rw [itemsTail, List.cons_append, skipSpace_cons rfl]
          exact ih hmore hlater fuel _

/-- An object is refused when one of its members is. -/
theorem readMembers_refused {members : List (String × Json)}
    (hread : ∀ member ∈ members, ReadsBack read member.2 ∨ Refuses read member.2)
    (hrefused : ∃ member ∈ members, Refuses read member.2) (fuel : Nat) (before : List (Option String × Term))
    (rest : List Char) : readMembers read fuel (printMembers members ++ rest) before = none := by
  induction members generalizing fuel before with
  | nil =>
    obtain ⟨member, hmember, -⟩ := hrefused
    cases hmember
  | cons member more ih =>
    obtain ⟨key, value⟩ := member
    cases fuel with
    | zero => rfl
    | succ fuel =>
      obtain ⟨hfirst, hmore⟩ := List.forall_mem_cons.1 hread
      obtain ⟨cs, hkey, htext⟩ := readText_printText key (':' :: (value.print ++ (membersTail more ++ rest)))
      rw [readMembers, printMembers_cons, List.append_assoc, List.cons_append, List.append_assoc, hkey,
        skipSpace_cons rfl]
      by_cases hvalue : Refuses read value
      · simp only [htext, skipSpace_cons (c := ':') rfl, hvalue _ (follows_membersTail more rest)]
      · simp only [htext, skipSpace_cons (c := ':') rfl, hfirst.resolve_right hvalue _ (follows_membersTail more rest)]
        have hlater : ∃ later ∈ more, Refuses read later.2 := by simpa [hvalue] using hrefused
        cases more with
        | nil =>
          obtain ⟨later, hlater, -⟩ := hlater
          cases hlater
        | cons next more =>
          rw [membersTail, List.cons_append, skipSpace_cons rfl]
          exact ih hmore hlater fuel _

end

/-! ## Values -/

theorem exists_depth_of_depthItems {items : List Json} {room : Nat} (h : room < depthItems items) :
    ∃ item ∈ items, room < item.depth := by
  induction items with
  | nil => cases h
  | cons item rest ih =>
    rw [depthItems] at h
    by_cases hitem : room < item.depth
    · exact ⟨item, List.mem_cons_self, hitem⟩
    · obtain ⟨deep, hdeep, hdepth⟩ := ih (by omega)
      exact ⟨deep, List.mem_cons_of_mem _ hdeep, hdepth⟩

theorem exists_depth_of_depthMembers {members : List (String × Json)} {room : Nat} (h : room < depthMembers members) :
    ∃ member ∈ members, room < member.2.depth := by
  rw [depthMembers_eq] at h
  obtain ⟨_, hdeep, hdepth⟩ := exists_depth_of_depthItems h
  obtain ⟨member, hmember, rfl⟩ := List.mem_map.1 hdeep
  exact ⟨member, hmember, hdepth⟩

/-- A container is refused where there is no room for any. -/
theorem readTerm_zero {v : Json} (hdepth : 0 < v.depth) : Refuses (readTerm 0) v := by
  intro rest _
  cases v with
  | arr items =>
    rw [print, readTerm.eq_def, List.cons_append, skipSpace_cons rfl]
    rfl
  | obj members =>
    rw [print, readTerm.eq_def, List.cons_append, skipSpace_cons rfl]
    rfl
  | null | bool | int | float | str => cases hdepth

/-- **A printed value is refused by a reader without room for its containers.** -/
theorem readTerm_print_of_lt {room : Nat} {v : Json} (hdepth : room < v.depth) : Refuses (readTerm room) v := by
  induction room generalizing v with
  | zero => exact readTerm_zero hdepth
  | succ room ih =>
    -- with one container less there is either room for all of an element or not enough for its depth
    have hread : ∀ w : Json, ReadsBack (readTerm room) w ∨ Refuses (readTerm room) w := fun w =>
      (Nat.lt_or_ge room w.depth).elim (fun h => .inr (ih h)) fun h => .inl (readTerm_print h)
    intro rest _
    cases v with
    | arr items =>
      rw [depth] at hdepth
      obtain ⟨deep, hdeep, hroom⟩ := exists_depth_of_depthItems (Nat.lt_of_succ_lt_succ hdepth)
      rw [readTerm_arr room (List.ne_nil_of_mem hdeep),
        readItems_refused (fun item _ => hread item) ⟨deep, hdeep, ih hroom⟩]
      rfl
    | obj members =>
      rw [depth] at hdepth
      obtain ⟨deep, hdeep, hroom⟩ := exists_depth_of_depthMembers (Nat.lt_of_succ_lt_succ hdepth)
      rw [readTerm_obj room (List.ne_nil_of_mem hdeep),
        readMembers_refused (fun member _ => hread member.2) ⟨deep, hdeep, ih hroom⟩]
      rfl
    | null | bool | int | float | str => cases hdepth

/-- The text of a value that nests too deep is no document. -/
theorem parse?_render_of_lt {v : Json} (hdepth : maxDepth < v.depth) : Term.parse? v.render = none := by
  have hread := readTerm_print_of_lt hdepth [] follows_nil
  rw [List.append_nil] at hread
  rw [Term.parse?, render, String.toList_ofList, hread]

end FuzzCampaign.Json
