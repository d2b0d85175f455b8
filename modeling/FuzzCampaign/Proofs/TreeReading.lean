import FuzzCampaign.Proofs.Json.Nesting
import FuzzCampaign.Proofs.TreeConversion
set_option autoImplicit false

/-! # Trees read back from their canonical text

A tree that has a canonical text is read back from it when it nests no more containers than a document may, its
dictionaries are in order and its floats are read as they are shown. The last is a condition of its own: a float
is shown with the fewest digits that round to it, but these digits are read with a rounding at each of two steps,
and another float may come out of them. -/

namespace FuzzCampaign

namespace Tree

/-- A node that is read back as itself when the nodes inside it are. -/
def Rereadable : Tree → Prop
  | .float x => x.reread? = some x
  | .dict entries => Entries.Sorted entries
  | _ => True

/-- The float next to `1e-23` is what comes of its digits. -/
example : (Binary64.ofDecimal false 1 (-23)).reread? = some ⟨(Binary64.ofDecimal false 1 (-23)).bits + 1⟩ := by
  decide +kernel

/-- A tree that can be read back from its canonical text. -/
structure Restorable (t : Tree) : Prop where
  literal : ∀ node, Holds node t → ¬ node.Unwritable
  shallow : t.depth ≤ Json.maxDepth
  rereadable : ∀ node, Holds node t → node.Rereadable

/-! ## Depth -/

mutual

/-- A tree is written with as many containers as it nests. -/
theorem depth_toJson (t : Tree) {v : Json} (h : t.toJson = .ok v) : v.depth = t.depth := by
  cases t with
  | list items =>
    obtain ⟨vs, hvs, rfl⟩ := written_list.1 ⟨v, h, Eq.refl v⟩
    rw [Json.depth, depth, depthItems_itemsToJson items hvs]
  | dict entries =>
    obtain ⟨vs, hvs, rfl⟩ := written_dict.1 ⟨v, h, Eq.refl v⟩
    rw [Json.depth, depth, depthMembers_entriesToJson entries hvs]
  | float x =>
    obtain ⟨-, rfl⟩ := written_float.1 ⟨v, h, Eq.refl v⟩
    rfl
  | opaqueValue kind => cases h
  | null | bool | int | str =>
    cases h
    rfl

theorem depthItems_itemsToJson (items : List Tree) {vs : List Json} (h : itemsToJson items = .ok vs) :
    Json.depthItems vs = depthItems items := by
  cases items with
  | nil =>
    cases h
    rfl
  | cons item rest =>
    obtain ⟨v, hv, us, hus, rfl⟩ := written_items.1 ⟨vs, h, Eq.refl vs⟩
    rw [Json.depthItems, depthItems, depth_toJson item hv, depthItems_itemsToJson rest hus]

theorem depthMembers_entriesToJson (entries : List (String × Tree)) {vs : List (String × Json)}
    (h : entriesToJson entries = .ok vs) : Json.depthMembers vs = depthEntries entries := by
  cases entries with
  | nil =>
    cases h
    rfl
  | cons e rest =>
    obtain ⟨key, value⟩ := e
    obtain ⟨v, hv, us, hus, rfl⟩ := written_entries.1 ⟨vs, h, Eq.refl vs⟩
    rw [Json.depthMembers, depthEntries, depth_toJson value hv, depthMembers_entriesToJson rest hus]

end

/-! ## Keys -/

theorem keys_entriesToJson {entries : List (String × Tree)} {vs : List (String × Json)}
    (h : entriesToJson entries = .ok vs) : vs.map Prod.fst = entries.map Prod.fst := by
  induction entries generalizing vs with
  | nil =>
    cases h
    rfl
  | cons e rest ih =>
    obtain ⟨key, value⟩ := e
    obtain ⟨v, -, us, hus, rfl⟩ := written_entries.1 ⟨vs, h, Eq.refl vs⟩
    rw [List.map_cons, List.map_cons, ih hus]

theorem keys_memberValues? {vs ws : List (String × Json)} (h : Json.memberValues? (Json.rereadMembers vs) = some ws) :
    ws.map Prod.fst = vs.map Prod.fst := by
  induction vs generalizing ws with
  | nil =>
    cases h
    rfl
  | cons member rest ih =>
    obtain ⟨key, value⟩ := member
    rw [Json.rereadMembers, Json.memberValues?.eq_def] at h
    dsimp only at h
    split at h
    · next hkey hvalue hvalues =>
      cases hkey
      cases h
      rw [List.map_cons, List.map_cons, ih hvalues]
    · cases h

theorem keys_entriesOfJson (members : List (String × Json)) :
    (entriesOfJson members).map Prod.fst = members.map Prod.fst := by
  induction members with
  | nil => rfl
  | cons member rest ih =>
    obtain ⟨key, value⟩ := member
    rw [entriesOfJson, List.map_cons, List.map_cons, ih]

theorem sorted_iff_keys {α : Type} {entries : List (String × α)} :
    Entries.Sorted entries ↔ (entries.map Prod.fst).Pairwise (· < ·) := List.pairwise_map.symm

/-! ## Reading back -/

/-- Members are read as a dictionary that is in order, so they are read back when it was. -/
theorem dict_reread_iff {entries : List (String × Tree)} {vs : List (String × Json)}
    (h : entriesToJson entries = .ok vs) :
    (Json.reread (.obj vs)).value?.map ofJson = some (.dict entries) ↔
      Entries.Sorted entries ∧ (Json.memberValues? (Json.rereadMembers vs)).map entriesOfJson = some entries := by
  rw [Json.reread, Json.Term.value?]
  cases hvalues : Json.memberValues? (Json.rereadMembers vs) with
  | none => simp
  | some ws =>
    -- the text has the keys of the tree in the order of the tree; reading puts them in order
    have hkeys : ws.map Prod.fst = entries.map Prod.fst := (keys_memberValues? hvalues).trans (keys_entriesToJson h)
    simp only [Option.map_some, ofJson, Option.some.injEq, dict.injEq]
    constructor
    · intro hread
      have hsorted : Entries.Sorted entries := by
        rw [sorted_iff_keys, ← hread, keys_entriesOfJson, ← sorted_iff_keys]
        exact Entries.sorted_ofList ws
      have hwritten : Entries.Sorted ws := by
        rw [sorted_iff_keys, hkeys, ← sorted_iff_keys]
        exact hsorted
      rw [Entries.ofList_of_sorted hwritten] at hread
      exact ⟨hsorted, hread⟩
    · rintro ⟨hsorted, hread⟩
      have hwritten : Entries.Sorted ws := by
        rw [sorted_iff_keys, hkeys, ← sorted_iff_keys]
        exact hsorted
      rw [Entries.ofList_of_sorted hwritten, hread]

mutual

/-- A tree is read back from what is written of it when all its nodes are. -/
theorem reread_iff (t : Tree) {v : Json} (h : t.toJson = .ok v) :
    v.reread.value?.map ofJson = some t ↔ ∀ node, Holds node t → node.Rereadable := by
  cases t with
  | list items =>
    obtain ⟨vs, hvs, rfl⟩ := written_list.1 ⟨v, h, Eq.refl v⟩
    have hitems : (Json.reread (.arr vs)).value?.map ofJson = some (.list items) ↔
        (Json.itemValues? (Json.rereadItems vs)).map itemsOfJson = some items := by
      rw [Json.reread, Json.Term.value?]
      cases Json.itemValues? (Json.rereadItems vs) <;> simp [ofJson]
    rw [hitems, items_reread_iff items hvs]
    simp only [holds_list]
    constructor
    · rintro hread node (rfl | ⟨item, mem, inside⟩)
      · trivial
      · exact hread item mem node inside
    · exact fun hread item mem node inside => hread node (.inr ⟨item, mem, inside⟩)
  | dict entries =>
    obtain ⟨vs, hvs, rfl⟩ := written_dict.1 ⟨v, h, Eq.refl v⟩
    rw [dict_reread_iff hvs, entries_reread_iff entries hvs]
    simp only [holds_dict]
    constructor
    · rintro ⟨hsorted, hread⟩ node (rfl | ⟨e, mem, inside⟩)
      · exact hsorted
      · exact hread e mem node inside
    · exact fun hread => ⟨hread _ (.inl rfl), fun e mem node inside => hread node (.inr ⟨e, mem, inside⟩)⟩
  | float x =>
    obtain ⟨-, rfl⟩ := written_float.1 ⟨v, h, Eq.refl v⟩
    have hfloat : (Json.reread (.float x)).value?.map ofJson = some (.float x) ↔ x.reread? = some x := by
      rw [Json.reread, Json.Term.value?]
      cases x.reread? <;> simp [ofJson]
    rw [hfloat]
    constructor
    · rintro hread node (_ | _)
      exact hread
    · exact fun hread => hread _ .self
  | opaqueValue kind => cases h
  | int n =>
    cases h
    refine iff_of_true ?_ (by rintro _ (_ | _); trivial)
    rw [Json.reread, Json.Term.value?, Option.map_some, ofJson, ofWireInt_ofInt64]
  | null | bool | str =>
    cases h
    exact iff_of_true rfl (by rintro _ (_ | _); trivial)

theorem items_reread_iff (items : List Tree) {vs : List Json} (h : itemsToJson items = .ok vs) :
    (Json.itemValues? (Json.rereadItems vs)).map itemsOfJson = some items ↔
      ∀ item ∈ items, ∀ node, Holds node item → node.Rereadable := by
  cases items with
  | nil =>
    cases h
    simp [Json.rereadItems, Json.itemValues?, itemsOfJson]
  | cons item rest =>
    obtain ⟨v, hv, us, hus, rfl⟩ := written_items.1 ⟨vs, h, Eq.refl vs⟩
    rw [List.forall_mem_cons, ← reread_iff item hv, ← items_reread_iff rest hus, Json.rereadItems, Json.itemValues?]
    cases v.reread.value? <;> cases Json.itemValues? (Json.rereadItems us) <;> simp [itemsOfJson]

theorem entries_reread_iff (entries : List (String × Tree)) {vs : List (String × Json)}
    (h : entriesToJson entries = .ok vs) :
    (Json.memberValues? (Json.rereadMembers vs)).map entriesOfJson = some entries ↔
      ∀ e ∈ entries, ∀ node, Holds node e.2 → node.Rereadable := by
  cases entries with
  | nil =>
    cases h
    simp [Json.rereadMembers, Json.memberValues?, entriesOfJson]
  | cons e rest =>
    obtain ⟨key, value⟩ := e
    obtain ⟨v, hv, us, hus, rfl⟩ := written_entries.1 ⟨vs, h, Eq.refl vs⟩
    rw [List.forall_mem_cons, ← reread_iff value hv, ← entries_reread_iff rest hus, Json.rereadMembers]
    cases hvalue : v.reread.value? <;> cases hvalues : Json.memberValues? (Json.rereadMembers us) <;>
      simp [Json.memberValues?, hvalue, hvalues, entriesOfJson]

end

/-- **A tree is read back from its canonical text exactly when it is restorable.** -/
theorem parse?_canonical_iff {t : Tree} {text : String} (h : t.canonical = .ok text) :
    parse? text = some t ↔ t.Restorable := by
  obtain ⟨v, hv, rfl⟩ := canonical_eq_ok.1 h
  have hliteral := (toJson_ok_iff t).1 ⟨v, hv⟩
  have hdepth := depth_toJson t hv
  rw [parse?, Json.parse?]
  by_cases hshallow : t.depth ≤ Json.maxDepth
  · rw [Json.parse?_render_eq_reread (by rwa [hdepth]), Option.bind_some, reread_iff t hv]
    exact ⟨fun hread => ⟨hliteral, hshallow, hread⟩, Restorable.rereadable⟩
  · rw [Json.parse?_render_of_lt (by rw [hdepth]; omega)]
    exact iff_of_false nofun fun hrestorable => hshallow hrestorable.shallow

/-- The text of a tree that nests too deep is read as none. -/
theorem parse?_canonical_of_lt {t : Tree} {text : String} (h : t.canonical = .ok text)
    (hdeep : Json.maxDepth < t.depth) : parse? text = none := by
  obtain ⟨v, hv, rfl⟩ := canonical_eq_ok.1 h
  rw [parse?, Json.parse?, Json.parse?_render_of_lt (by rwa [depth_toJson t hv])]
  rfl

/-! ## Trees without floats -/

/-- A tree without floats can be read back when it is literal and in order and does not nest too deep. -/
theorem restorable_of_floatless {t : Tree} (hliteral : t.isLiteral = true) (hshallow : t.depth ≤ Json.maxDepth)
    (hfloatless : ∀ x, ¬ Holds (.float x) t)
    (hsorted : ∀ entries, Holds (.dict entries) t → Entries.Sorted entries) : t.Restorable where
  literal := t.isLiteral_iff_nodes.1 hliteral
  shallow := hshallow
  rereadable := by
    intro node hnode
    cases node with
    | float x => exact absurd hnode (hfloatless x)
    | dict entries => exact hsorted entries hnode
    | null | bool | int | str | list | opaqueValue => trivial

/-- **Trees without floats are read back.** A literal tree without floats, whose dictionaries are in the order of
their keys, has a canonical text at any depth; the tree is read back from the text when it nests at most 127
lists and dictionaries, and nothing is read from it when it nests more. -/
theorem canonical_read_back {t : Tree} (hliteral : t.isLiteral = true) (hfloatless : ∀ x, ¬ Holds (.float x) t)
    (hsorted : ∀ entries, Holds (.dict entries) t → Entries.Sorted entries) :
    ∃ text, t.canonical = .ok text ∧ (t.depth ≤ 127 → parse? text = some t) ∧
      (127 < t.depth → parse? text = none) := by
  obtain ⟨text, htext⟩ := t.isLiteral_iff_canonical.1 hliteral
  refine ⟨text, htext, fun hshallow => ?_, parse?_canonical_of_lt htext⟩
  exact (parse?_canonical_iff htext).2 (restorable_of_floatless hliteral hshallow hfloatless hsorted)

/-- A dictionary with a key and a text that are written with escapes, and the least integer in a list. -/
def awkward : Tree := .dict [("\n\"", .str "\\ \u0001 😀"), ("a", .list [.int (-9223372036854775808)])]

/-- It is read back. -/
theorem awkward_read_back : ∃ text, awkward.canonical = .ok text ∧ parse? text = some awkward := by
  have hnodes : ∀ node, Holds node awkward → node = awkward ∨ (∃ s, node = .str s) ∨ (∃ items, node = .list items) ∨
      ∃ n, node = .int n := by
    intro node hnode
    rcases holds_dict.1 hnode with rfl | ⟨e, he, hinside⟩
    · exact .inl rfl
    · rw [List.mem_cons, List.mem_singleton] at he
      rcases he with rfl | rfl
      · cases hinside
        exact .inr (.inl ⟨_, rfl⟩)
      · rcases holds_list.1 hinside with rfl | ⟨item, hitem, hinside⟩
        · exact .inr (.inr (.inl ⟨_, rfl⟩))
        · rw [List.mem_singleton.1 hitem] at hinside
          cases hinside
          exact .inr (.inr (.inr ⟨_, rfl⟩))
  have hfloatless : ∀ x, ¬ Holds (.float x) awkward := by
    intro x hnode
    rcases hnodes _ hnode with h | ⟨_, h⟩ | ⟨_, h⟩ | ⟨_, h⟩ <;> cases h
  have hsorted : ∀ entries, Holds (.dict entries) awkward → Entries.Sorted entries := by
    intro entries hnode
    rcases hnodes _ hnode with h | ⟨_, h⟩ | ⟨_, h⟩ | ⟨_, h⟩ <;> cases h
    decide
  obtain ⟨text, htext, hread, -⟩ := canonical_read_back (t := awkward) rfl hfloatless hsorted
  exact ⟨text, htext, hread (by decide)⟩

end Tree

end FuzzCampaign
