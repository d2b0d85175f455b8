import FuzzCampaign.Proofs.Tree
set_option autoImplicit false

/-! # Trees and the JSON values they are written as

Three functions decide whether a tree is literal: the test of a definition, the writer of canonical texts and
the converter to JSON values. They agree on every tree, and a converted tree is told by its JSON value, floats
bit by bit. The other way round a JSON value is told by its tree only up to integers: a tree has no integers of
`2 ^ 63` or more, and one comes back as the float next to it (`Json.narrowed`). -/

namespace FuzzCampaign

namespace Tree

/-! ## Literal trees -/

mutual

/-- The literal trees are those that are written. -/
theorem isLiteral_iff (t : Tree) : t.isLiteral = true ↔ ∃ v, t.toJson = .ok v := by
  rw [written_any]
  cases t with
  | list items =>
    rw [written_list, isLiteral, allLiteral_iff items]
    simp only [and_true]
  | dict entries =>
    rw [written_dict, isLiteral, allLiteralEntries_iff entries]
    simp only [and_true]
  | float x => rw [isLiteral, written_float, and_true]
  | opaqueValue kind => exact iff_of_false Bool.false_ne_true written_opaqueValue
  | null | bool | int | str => exact iff_of_true rfl ⟨_, rfl, trivial⟩

theorem allLiteral_iff (items : List Tree) : allLiteral items = true ↔ ∃ vs, itemsToJson items = .ok vs := by
  cases items with
  | nil => exact iff_of_true rfl ⟨_, rfl⟩
  | cons item rest =>
    rw [allLiteral, Bool.and_eq_true, isLiteral_iff item, allLiteral_iff rest]
    simpa using (written_items (p := fun _ => True)).symm

theorem allLiteralEntries_iff (entries : List (String × Tree)) :
    allLiteralEntries entries = true ↔ ∃ vs, entriesToJson entries = .ok vs := by
  cases entries with
  | nil => exact iff_of_true rfl ⟨_, rfl⟩
  | cons e rest =>
    obtain ⟨key, value⟩ := e
    rw [allLiteralEntries, Bool.and_eq_true, isLiteral_iff value, allLiteralEntries_iff rest]
    simpa using (written_entries (p := fun _ => True)).symm

end

/-- The literal trees are those with a canonical text. -/
theorem isLiteral_iff_canonical (t : Tree) : t.isLiteral = true ↔ ∃ text, t.canonical = .ok text := by
  rw [isLiteral_iff, canonical]
  cases t.toJson <;> simp [Except.map]

/-- No node of a literal tree is without a literal form. -/
theorem isLiteral_iff_nodes (t : Tree) : t.isLiteral = true ↔ ∀ node, Holds node t → ¬ node.Unwritable := by
  rw [isLiteral_iff, toJson_ok_iff]

/-! ## From a tree to JSON and back -/

theorem ofWireInt_ofInt64 (n : Int64) : ofWireInt (.ofInt64 n) = .int n := by
  have hlt := n.toInt_lt
  rw [ofWireInt, if_pos (by simpa [WireInt.ofInt64] using hlt)]
  simp [WireInt.ofInt64]

mutual

/-- A tree is the tree of what it is written as. -/
theorem ofJson_toJson (t : Tree) {v : Json} (h : t.toJson = .ok v) : ofJson v = t := by
  cases t with
  | list items =>
    obtain ⟨vs, hvs, rfl⟩ := written_list.1 ⟨v, h, Eq.refl v⟩
    rw [ofJson, itemsOfJson_itemsToJson items hvs]
  | dict entries =>
    obtain ⟨vs, hvs, rfl⟩ := written_dict.1 ⟨v, h, Eq.refl v⟩
    rw [ofJson, entriesOfJson_entriesToJson entries hvs]
  | float x =>
    obtain ⟨-, rfl⟩ := written_float.1 ⟨v, h, Eq.refl v⟩
    rfl
  | int n =>
    cases h
    rw [ofJson, ofWireInt_ofInt64]
  | opaqueValue kind => cases h
  | null | bool | str =>
    cases h
    rfl

theorem itemsOfJson_itemsToJson (items : List Tree) {vs : List Json} (h : itemsToJson items = .ok vs) :
    itemsOfJson vs = items := by
  cases items with
  | nil =>
    cases h
    rfl
  | cons item rest =>
    obtain ⟨v, hv, us, hus, rfl⟩ := written_items.1 ⟨vs, h, Eq.refl vs⟩
    rw [itemsOfJson, ofJson_toJson item hv, itemsOfJson_itemsToJson rest hus]

theorem entriesOfJson_entriesToJson (entries : List (String × Tree)) {vs : List (String × Json)}
    (h : entriesToJson entries = .ok vs) : entriesOfJson vs = entries := by
  cases entries with
  | nil =>
    cases h
    rfl
  | cons e rest =>
    obtain ⟨key, value⟩ := e
    obtain ⟨v, hv, us, hus, rfl⟩ := written_entries.1 ⟨vs, h, Eq.refl vs⟩
    rw [entriesOfJson, ofJson_toJson value hv, entriesOfJson_entriesToJson rest hus]

end

end Tree

/-! ## Integers that a tree does not hold -/

namespace Binary64

theorem isFinite_ofMagnitude {magnitude : Nat} (h : magnitude < 2047 * 2 ^ 52) :
    (ofMagnitude false magnitude).isFinite = true := by
  have hbits : (ofMagnitude false magnitude).bits.toNat = magnitude := by
    simp only [ofMagnitude, Bool.false_eq_true, if_false, UInt64.toNat_ofNat']
    omega
  have hfield : (ofMagnitude false magnitude).exponentField < 2047 := by
    rw [exponentField, hbits]
    omega
  simp only [isFinite, bne_iff_ne]
  omega

theorem roundDiv_le (num den : Nat) : roundDiv num den ≤ num / den + 1 := by
  unfold roundDiv
  dsimp only
  split
  · omega
  · split
    · omega
    · omega

theorem logRatio_large {n : Nat} (hlow : 2 ^ 63 ≤ n) (hhigh : n < 2 ^ 64) : logRatio n 1 = 63 := by
  have hne : n ≠ 0 := by omega
  have hle : 63 ≤ n.log2 := (Nat.le_log2 hne).2 hlow
  have hlt : n.log2 < 64 := (Nat.log2_lt hne).2 hhigh
  have hlog : n.log2 = 63 := by omega
  have hreached : (1 * 2 ^ 63 ≤ n) = True := by simpa using hlow
  simp [logRatio, hlog, show Nat.log2 1 = 0 from rfl, hreached]

/-- An integer of 64 bits without a sign is far below the largest finite number. -/
theorem isFinite_ofRatio_large {n : Nat} (hlow : 2 ^ 63 ≤ n) (hhigh : n < 2 ^ 64) :
    (ofRatio false n 1).isFinite = true := by
  have hne : n ≠ 0 := by omega
  have hsteps := roundDiv_le n (1 * 2 ^ 11)
  have hmagnitude : 1085 * 2 ^ 52 + roundDiv n (1 * 2 ^ 11) < 2047 * 2 ^ 52 := by omega
  have hform : ofRatio false n 1 = ofMagnitude false (1085 * 2 ^ 52 + roundDiv n (1 * 2 ^ 11)) := by
    rw [ofRatio, if_neg hne, logRatio_large hlow hhigh]
    exact if_neg (Nat.not_le.2 hmagnitude)
  rw [hform]
  exact isFinite_ofMagnitude hmagnitude

end Binary64

namespace Json

/-- The nodes of a value. -/
inductive Holds (node : Json) : Json → Prop
  | self : Holds node node
  | item {items : List Json} {item : Json} (mem : item ∈ items) (inside : Holds node item) :
      Holds node (.arr items)
  | member {members : List (String × Json)} {key : String} {value : Json} (mem : (key, value) ∈ members)
      (inside : Holds node value) : Holds node (.obj members)

/-- The number as a tree keeps it: an integer of `2 ^ 63` or more gives way to the float next to it. -/
def narrowedInt (n : WireInt) : Json := if n.val < 2 ^ 63 then .int n else .float (.ofInt n.val)

mutual

/-- The value as a tree keeps it. -/
def narrowed : Json → Json
  | .int n => narrowedInt n
  | .arr items => .arr (narrowedItems items)
  | .obj members => .obj (narrowedMembers members)
  | .null => .null
  | .bool b => .bool b
  | .float x => .float x
  | .str s => .str s

/-- Elements as a tree keeps them. -/
def narrowedItems : List Json → List Json
  | [] => []
  | item :: rest => item.narrowed :: narrowedItems rest

/-- Members as a tree keeps them. -/
def narrowedMembers : List (String × Json) → List (String × Json)
  | [] => []
  | (key, value) :: rest => (key, value.narrowed) :: narrowedMembers rest

end

theorem narrowedInt_eq_iff (n : WireInt) : narrowedInt n = .int n ↔ n.val < 2 ^ 63 := by
  unfold narrowedInt
  split
  · rename_i hlt
    exact iff_of_true rfl hlt
  · rename_i hge
    exact iff_of_false nofun hge

section
variable {p : Json → Prop}

/-! A property of all nodes, for each constructor. -/

theorem forall_holds_arr {items : List Json} : (∀ node, Holds node (.arr items) → p node) ↔
    p (.arr items) ∧ ∀ item ∈ items, ∀ node, Holds node item → p node := by
  constructor
  · intro h
    exact ⟨h _ .self, fun item mem node inside => h node (.item mem inside)⟩
  · rintro ⟨hself, hitems⟩ node (_ | ⟨mem, inside⟩)
    · exact hself
    · exact hitems _ mem node inside

theorem forall_holds_obj {members : List (String × Json)} : (∀ node, Holds node (.obj members) → p node) ↔
    p (.obj members) ∧ ∀ member ∈ members, ∀ node, Holds node member.2 → p node := by
  constructor
  · intro h
    exact ⟨h _ .self, fun member mem node inside => h node (.member mem inside)⟩
  · rintro ⟨hself, hmembers⟩ node (_ | _ | ⟨mem, inside⟩)
    · exact hself
    · exact hmembers _ mem node inside

end

/-- A number that is an integer of `2 ^ 63` or more. -/
def Oversized : Json → Prop
  | .int n => 2 ^ 63 ≤ n.val
  | _ => False

/-- A float that is not finite, which no JSON text has. -/
def Unbounded : Json → Prop
  | .float x => x.isFinite = false
  | _ => False

mutual

/-- A value is kept as it is when no integer in it is too large. -/
theorem narrowed_eq_iff (v : Json) : v.narrowed = v ↔ ∀ node, Holds node v → ¬ node.Oversized := by
  cases v with
  | arr items =>
    rw [forall_holds_arr, narrowed, arr.injEq, narrowedItems_eq_iff items]
    exact (and_iff_right id).symm
  | obj members =>
    rw [forall_holds_obj, narrowed, obj.injEq, narrowedMembers_eq_iff members]
    exact (and_iff_right id).symm
  | int n =>
    rw [narrowed, narrowedInt_eq_iff]
    constructor
    · rintro hlt node (_ | _)
      exact Int.not_le.2 hlt
    · exact fun h => Int.not_le.1 (h _ .self)
  | null | bool | float | str => exact iff_of_true rfl (by rintro node (_ | _); exact id)

theorem narrowedItems_eq_iff (items : List Json) :
    narrowedItems items = items ↔ ∀ item ∈ items, ∀ node, Holds node item → ¬ node.Oversized := by
  cases items with
  | nil => exact iff_of_true rfl (by simp)
  | cons item rest =>
    rw [List.forall_mem_cons, narrowedItems, List.cons.injEq, narrowed_eq_iff item, narrowedItems_eq_iff rest]

theorem narrowedMembers_eq_iff (members : List (String × Json)) :
    narrowedMembers members = members ↔ ∀ member ∈ members, ∀ node, Holds node member.2 → ¬ node.Oversized := by
  cases members with
  | nil => exact iff_of_true rfl (by simp)
  | cons member rest =>
    obtain ⟨key, value⟩ := member
    rw [List.forall_mem_cons, narrowedMembers, List.cons.injEq, Prod.mk.injEq, narrowed_eq_iff value,
      narrowedMembers_eq_iff rest, and_iff_right rfl]

end

end Json

namespace Tree

/-! ## From JSON to a tree and back -/

theorem toJson_ofWireInt (n : WireInt) : (ofWireInt n).toJson = .ok (Json.narrowedInt n) := by
  rw [ofWireInt, Json.narrowedInt]
  split
  · rename_i hlt
    have hval : (Int64.ofInt n.val).toInt = n.val := Int64.toInt_ofInt_of_le n.lower hlt
    rw [toJson, WireInt.ofInt64]
    simp only [hval]
  · rename_i hge
    obtain ⟨m, hm⟩ := Int.eq_ofNat_of_zero_le (show 0 ≤ n.val by omega)
    have hupper := n.upper
    have hfinite : (Binary64.ofInt n.val).isFinite = true := by
      rw [Binary64.ofInt, hm, decide_eq_false (by omega)]
      exact Binary64.isFinite_ofRatio_large (by omega) (by omega)
    rw [toJson, if_pos hfinite]

mutual

/-- The tree of a JSON value is written as the value the tree keeps. -/
theorem toJson_ofJson (v : Json) (h : ∀ node, Json.Holds node v → ¬ node.Unbounded) :
    (ofJson v).toJson = .ok v.narrowed := by
  cases v with
  | arr items =>
    rw [ofJson, toJson, itemsToJson_itemsOfJson items (Json.forall_holds_arr.1 h).2]
    rfl
  | obj members =>
    rw [ofJson, toJson, entriesToJson_entriesOfJson members (Json.forall_holds_obj.1 h).2]
    rfl
  | int n => rw [ofJson, toJson_ofWireInt, Json.narrowed]
  | float x =>
    have hfinite : x.isFinite = true := Bool.of_not_eq_false (h _ .self)
    rw [ofJson, toJson, if_pos hfinite, Json.narrowed]
  | null | bool | str => rfl

theorem itemsToJson_itemsOfJson (items : List Json)
    (h : ∀ item ∈ items, ∀ node, Json.Holds node item → ¬ node.Unbounded) :
    itemsToJson (itemsOfJson items) = .ok (Json.narrowedItems items) := by
  cases items with
  | nil => rfl
  | cons item rest =>
    obtain ⟨hitem, hrest⟩ := List.forall_mem_cons.1 h
    rw [itemsOfJson, itemsToJson, toJson_ofJson item hitem, itemsToJson_itemsOfJson rest hrest]
    rfl

theorem entriesToJson_entriesOfJson (members : List (String × Json))
    (h : ∀ member ∈ members, ∀ node, Json.Holds node member.2 → ¬ node.Unbounded) :
    entriesToJson (entriesOfJson members) = .ok (Json.narrowedMembers members) := by
  cases members with
  | nil => rfl
  | cons member rest =>
    obtain ⟨key, value⟩ := member
    obtain ⟨hvalue, hrest⟩ := List.forall_mem_cons.1 h
    rw [entriesOfJson, entriesToJson, toJson_ofJson value hvalue, entriesToJson_entriesOfJson rest hrest]
    rfl

end

end Tree

end FuzzCampaign
