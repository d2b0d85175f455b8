import FuzzCampaign.Tree
import FuzzCampaign.Proofs.Json.Print
set_option autoImplicit false

/-! # The canonical text of a tree

A tree has a canonical text unless it holds an opaque value or a float that is not finite, and two trees have
one text when they are the same but for floats that are shown alike. -/

namespace FuzzCampaign.Tree

/-! ## Nodes -/

/-- The nodes of a tree. -/
inductive Holds (node : Tree) : Tree → Prop
  | self : Holds node node
  | item {items : List Tree} {item : Tree} (mem : item ∈ items) (inside : Holds node item) :
      Holds node (.list items)
  | entry {entries : List (String × Tree)} {key : String} {value : Tree} (mem : (key, value) ∈ entries)
      (inside : Holds node value) : Holds node (.dict entries)

theorem holds_list {node : Tree} {items : List Tree} :
    Holds node (.list items) ↔ node = .list items ∨ ∃ item ∈ items, Holds node item := by
  constructor
  · rintro (_ | ⟨mem, inside⟩)
    · exact .inl rfl
    · exact .inr ⟨_, mem, inside⟩
  · rintro (rfl | ⟨item, mem, inside⟩)
    · exact .self
    · exact .item mem inside

theorem holds_dict {node : Tree} {entries : List (String × Tree)} :
    Holds node (.dict entries) ↔ node = .dict entries ∨ ∃ e ∈ entries, Holds node e.2 := by
  constructor
  · rintro (_ | _ | ⟨mem, inside⟩)
    · exact .inl rfl
    · exact .inr ⟨_, mem, inside⟩
  · rintro (rfl | ⟨⟨key, value⟩, mem, inside⟩)
    · exact .self
    · exact .entry mem inside

theorem holds_bool {node : Tree} {b : Bool} : Holds node (.bool b) ↔ node = .bool b := by
  constructor
  · rintro (_ | _)
    rfl
  · rintro rfl
    exact .self

/-- A node that has no literal form itself. -/
def Unwritable : Tree → Prop
  | .float x => x.isFinite = false
  | .opaqueValue _ => True
  | _ => False

/-! ## What is written of a tree

For each constructor, when a value is written that has a property. -/

section
variable {p : Json → Prop}

attribute [local simp] toJson itemsToJson entriesToJson

theorem written_null : (∃ v, Tree.null.toJson = .ok v ∧ p v) ↔ p .null := by simp

theorem written_bool {b : Bool} : (∃ v, (Tree.bool b).toJson = .ok v ∧ p v) ↔ p (.bool b) := by simp

theorem written_int {n : Int64} : (∃ v, (Tree.int n).toJson = .ok v ∧ p v) ↔ p (.int (.ofInt64 n)) := by
  simp

theorem written_str {s : String} : (∃ v, (Tree.str s).toJson = .ok v ∧ p v) ↔ p (.str s) := by simp

theorem written_float {x : Binary64} :
    (∃ v, (Tree.float x).toJson = .ok v ∧ p v) ↔ x.isFinite = true ∧ p (.float x) := by
  cases hfinite : x.isFinite <;> simp [hfinite]

theorem written_opaqueValue {kind : String} : ¬ ∃ v, (Tree.opaqueValue kind).toJson = .ok v ∧ p v := by
  simp

theorem written_list {items : List Tree} :
    (∃ v, (Tree.list items).toJson = .ok v ∧ p v) ↔ ∃ vs, itemsToJson items = .ok vs ∧ p (.arr vs) := by
  rw [toJson]
  cases itemsToJson items <;> simp [Except.map]

theorem written_dict {entries : List (String × Tree)} :
    (∃ v, (Tree.dict entries).toJson = .ok v ∧ p v) ↔ ∃ vs, entriesToJson entries = .ok vs ∧ p (.obj vs) := by
  rw [toJson]
  cases entriesToJson entries <;> simp [Except.map]

end

theorem written_items {item : Tree} {rest : List Tree} {p : List Json → Prop} :
    (∃ vs, itemsToJson (item :: rest) = .ok vs ∧ p vs) ↔
      ∃ v, item.toJson = .ok v ∧ ∃ vs, itemsToJson rest = .ok vs ∧ p (v :: vs) := by
  rw [itemsToJson]
  cases item.toJson <;> cases itemsToJson rest <;> simp [Except.map]

theorem written_entries {key : String} {value : Tree} {rest : List (String × Tree)}
    {p : List (String × Json) → Prop} :
    (∃ vs, entriesToJson ((key, value) :: rest) = .ok vs ∧ p vs) ↔
      ∃ v, value.toJson = .ok v ∧ ∃ vs, entriesToJson rest = .ok vs ∧ p ((key, v) :: vs) := by
  rw [entriesToJson]
  cases value.toJson <;> cases entriesToJson rest <;> simp [Except.map]

theorem written_any {t : Tree} : (∃ v, t.toJson = .ok v) ↔ ∃ v, t.toJson = .ok v ∧ True := by
  simp only [and_true]

/-! ## Literal trees -/

mutual

/-- A tree is written as JSON when no node of it is without a literal form. -/
theorem toJson_ok_iff (t : Tree) : (∃ v, t.toJson = .ok v) ↔ ∀ node, Holds node t → ¬ node.Unwritable := by
  rw [written_any]
  cases t with
  | list items =>
    rw [written_list]
    simp only [and_true, itemsToJson_ok_iff items, holds_list]
    constructor
    · rintro h node (rfl | ⟨item, mem, inside⟩)
      · exact id
      · exact h item mem node inside
    · exact fun h item mem node inside => h node (.inr ⟨item, mem, inside⟩)
  | dict entries =>
    rw [written_dict]
    simp only [and_true, entriesToJson_ok_iff entries, holds_dict]
    constructor
    · rintro h node (rfl | ⟨e, mem, inside⟩)
      · exact id
      · exact h e mem node inside
    · exact fun h e mem node inside => h node (.inr ⟨e, mem, inside⟩)
  | float x =>
    rw [written_float, and_true]
    constructor
    · rintro hfinite node (_ | _)
      simp [Unwritable, hfinite]
    · intro h
      simpa [Unwritable] using h _ .self
  | opaqueValue kind => exact iff_of_false written_opaqueValue fun h => h _ .self trivial
  | null | bool | int | str => exact iff_of_true ⟨_, rfl, trivial⟩ (by rintro _ (_ | _) h; exact h)

theorem itemsToJson_ok_iff (items : List Tree) : (∃ vs, itemsToJson items = .ok vs) ↔
    ∀ item ∈ items, ∀ node, Holds node item → ¬ node.Unwritable := by
  cases items with
  | nil => simp [itemsToJson]
  | cons item rest =>
    rw [List.forall_mem_cons, ← toJson_ok_iff item, ← itemsToJson_ok_iff rest]
    simpa using written_items (p := fun _ => True)

theorem entriesToJson_ok_iff (entries : List (String × Tree)) : (∃ vs, entriesToJson entries = .ok vs) ↔
    ∀ e ∈ entries, ∀ node, Holds node e.2 → ¬ node.Unwritable := by
  cases entries with
  | nil => simp [entriesToJson]
  | cons e rest =>
    obtain ⟨key, value⟩ := e
    rw [List.forall_mem_cons, ← toJson_ok_iff value, ← entriesToJson_ok_iff rest]
    simpa using written_entries (p := fun _ => True)

end

/-! ## The same tree -/

mutual

/-- The same tree: floats are compared by the way they are shown, everything else exactly. -/
def alike : Tree → Tree → Bool
  | .null, .null => true
  | .bool a, .bool b => a == b
  | .int a, .int b => a == b
  | .float a, .float b => a.display == b.display
  | .str a, .str b => a == b
  | .list a, .list b => alikeItems a b
  | .dict a, .dict b => alikeEntries a b
  | .opaqueValue a, .opaqueValue b => a == b
  | _, _ => false

/-- Elements pairwise alike. -/
def alikeItems : List Tree → List Tree → Bool
  | [], [] => true
  | a :: as, b :: bs => alike a b && alikeItems as bs
  | _, _ => false

/-- Entries pairwise alike. -/
def alikeEntries : List (String × Tree) → List (String × Tree) → Bool
  | [], [] => true
  | (k, a) :: as, (l, b) :: bs => k == l && alike a b && alikeEntries as bs
  | _, _ => false

end

theorem ofInt64_inj {m n : Int64} : WireInt.ofInt64 m = .ofInt64 n ↔ m = n := by
  simp [WireInt.ofInt64, Int64.toInt_inj]

mutual

/-- A tree that is alike to a literal tree is a literal tree too, and they are written alike. -/
theorem alike_iff {t : Tree} {v : Json} (hv : t.toJson = .ok v) (u : Tree) :
    t.alike u = true ↔ ∃ w, u.toJson = .ok w ∧ v.alike w = true := by
  -- with `u` of another constructor both sides are false
  cases t with
  | null | bool | int | str =>
    cases hv
    cases u <;> simp only [written_null, written_bool, written_int, written_str, written_float,
      written_opaqueValue, written_list, written_dict] <;> simp [alike, Json.alike, ofInt64_inj]
  | float x =>
    obtain ⟨hfinite, rfl⟩ := written_float.1 ⟨v, hv, Eq.refl v⟩
    cases u <;> simp only [written_null, written_bool, written_int, written_str, written_float,
      written_opaqueValue, written_list, written_dict] <;>
      simp [alike, Json.alike, Binary64.display_eq_iff hfinite]
  | list items =>
    obtain ⟨vs, hvs, rfl⟩ := written_list.1 ⟨v, hv, Eq.refl v⟩
    cases u with
    | list items' =>
      rw [written_list]
      simp only [alike, Json.alike, alikeItems_iff hvs items']
    | _ =>
      simp only [written_null, written_bool, written_int, written_str, written_float,
        written_opaqueValue, written_dict]
      simp [alike, Json.alike]
  | dict entries =>
    obtain ⟨vs, hvs, rfl⟩ := written_dict.1 ⟨v, hv, Eq.refl v⟩
    cases u with
    | dict entries' =>
      rw [written_dict]
      simp only [alike, Json.alike, alikeEntries_iff hvs entries']
    | _ =>
      simp only [written_null, written_bool, written_int, written_str, written_float,
        written_opaqueValue, written_list]
      simp [alike, Json.alike]
  | opaqueValue kind => cases hv

theorem alikeItems_iff {items : List Tree} {vs : List Json} (hvs : itemsToJson items = .ok vs)
    (items' : List Tree) :
    alikeItems items items' = true ↔ ∃ ws, itemsToJson items' = .ok ws ∧ Json.alikeItems vs ws = true := by
  cases items with
  | nil =>
    cases hvs
    cases items' with
    | nil => simp [itemsToJson, alikeItems, Json.alikeItems]
    | cons item' rest' =>
      rw [written_items]
      simp [alikeItems, Json.alikeItems]
  | cons item rest =>
    obtain ⟨v, hv, us, hus, rfl⟩ := written_items.1 ⟨vs, hvs, Eq.refl vs⟩
    cases items' with
    | nil => simp [itemsToJson, alikeItems, Json.alikeItems]
    | cons item' rest' =>
      rw [written_items, alikeItems, Bool.and_eq_true, alike_iff hv item', alikeItems_iff hus rest']
      simp only [Json.alikeItems, Bool.and_eq_true]
      constructor
      · rintro ⟨⟨w, hw, hvw⟩, ws, hws, hrest⟩
        exact ⟨w, hw, ws, hws, hvw, hrest⟩
      · rintro ⟨w, hw, ws, hws, hvw, hrest⟩
        exact ⟨⟨w, hw, hvw⟩, ws, hws, hrest⟩

theorem alikeEntries_iff {entries : List (String × Tree)} {vs : List (String × Json)}
    (hvs : entriesToJson entries = .ok vs) (entries' : List (String × Tree)) :
    alikeEntries entries entries' = true ↔
      ∃ ws, entriesToJson entries' = .ok ws ∧ Json.alikeMembers vs ws = true := by
  cases entries with
  | nil =>
    cases hvs
    cases entries' with
    | nil => simp [entriesToJson, alikeEntries, Json.alikeMembers]
    | cons e' rest' =>
      obtain ⟨key', value'⟩ := e'
      rw [written_entries]
      simp [alikeEntries, Json.alikeMembers]
  | cons e rest =>
    obtain ⟨key, value⟩ := e
    obtain ⟨v, hv, us, hus, rfl⟩ := written_entries.1 ⟨vs, hvs, Eq.refl vs⟩
    cases entries' with
    | nil => simp [entriesToJson, alikeEntries, Json.alikeMembers]
    | cons e' rest' =>
      obtain ⟨key', value'⟩ := e'
      rw [written_entries, alikeEntries, Bool.and_eq_true, Bool.and_eq_true, beq_iff_eq, alike_iff hv value',
        alikeEntries_iff hus rest']
      simp only [Json.alikeMembers, Bool.and_eq_true, beq_iff_eq]
      constructor
      · rintro ⟨⟨hkey, w, hw, hvw⟩, ws, hws, hrest⟩
        exact ⟨w, hw, ws, hws, ⟨hkey, hvw⟩, hrest⟩
      · rintro ⟨w, hw, ws, hws, ⟨hkey, hvw⟩, hrest⟩
        exact ⟨⟨hkey, w, hw, hvw⟩, ws, hws, hrest⟩

end

/-! ## The canonical text -/

theorem canonical_eq_ok {t : Tree} {text : String} :
    t.canonical = .ok text ↔ ∃ v, t.toJson = .ok v ∧ text = v.render := by
  unfold canonical
  cases t.toJson <;> simp [Except.map, eq_comm]

/-- What stands in the way of a canonical text. -/
theorem canonical_eq_error {t : Tree} :
    (∃ e, t.canonical = .error e) ↔ ∃ node, Holds node t ∧ node.Unwritable := by
  have hlacks : (∃ node, Holds node t ∧ node.Unwritable) ↔ ¬ ∃ v, t.toJson = .ok v := by
    simp [toJson_ok_iff]
  rw [hlacks, canonical]
  cases t.toJson <;> simp [Except.map]

/-- Two trees have one canonical text when they are alike. -/
theorem canonical_eq_iff {t : Tree} {text : String} (h : t.canonical = .ok text) (u : Tree) :
    u.canonical = .ok text ↔ t.alike u = true := by
  obtain ⟨v, hv, rfl⟩ := canonical_eq_ok.1 h
  simp only [canonical_eq_ok, alike_iff hv, Json.render_eq_iff]

end FuzzCampaign.Tree
