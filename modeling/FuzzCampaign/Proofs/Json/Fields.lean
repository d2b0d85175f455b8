import FuzzCampaign.Json.Record
import FuzzCampaign.Proofs.Json.RoundTrip
set_option autoImplicit false

/-! # Records are read back

A number, a text, a list or a map is read from its document as what it was. The members of an object that
have the names of a record's fields, each at most once, are its fields: each of them is looked up among
the members as they were written. -/

namespace FuzzCampaign

/-- The names of entries stay when the values are changed. -/
theorem Entries.get?_map {α β : Type} (f : α → β) (key : String) (entries : List (String × α)) :
    Entries.get? key (entries.map fun (k, v) => (k, f v)) = (Entries.get? key entries).map f := by
  induction entries with
  | nil => rfl
  | cons head rest ih =>
    obtain ⟨k, v⟩ := head
    rw [List.map_cons]
    simp only [Entries.get?, ih]
    split <;> rfl

theorem Entries.get?_eq_none {α : Type} {key : String} {entries : List (String × α)}
    (h : key ∉ entries.map Prod.fst) : Entries.get? key entries = none := by
  induction entries with
  | nil => rfl
  | cons head rest ih =>
    rw [List.map_cons, List.mem_cons, not_or] at h
    rw [Entries.get?, if_neg (Ne.symm h.1), ih h.2]

namespace Json

/-! ## Documents of lists -/

theorem itemTerms_eq_map (items : List Json) : itemTerms items = items.map toTerm := by
  induction items with
  | nil => rfl
  | cons item rest ih => rw [itemTerms, ih, List.map_cons]

namespace Term

/-! ## Scalars -/

theorem nat?_int_ofUInt64 {bound : Nat} {n : UInt64} (h : n.toNat < bound) :
    nat? bound (.int (.ofUInt64 n)) = some n.toNat := by
  have hrange : (0 : Int) ≤ (n.toNat : Int) ∧ (n.toNat : Int) < (bound : Int) := by omega
  rw [nat?, WireInt.ofUInt64, if_pos hrange, Int.toNat_natCast]

@[simp]
theorem uint64?_ofUInt64 (n : UInt64) : uint64? (Json.ofUInt64 n).toTerm = some n := by
  rw [uint64?, Json.ofUInt64, toTerm, nat?_int_ofUInt64 n.toNat_lt, Option.map_some, UInt64.ofNat_toNat]

@[simp]
theorem uint32?_ofUInt32 (n : UInt32) : uint32? (Json.ofUInt32 n).toTerm = some n := by
  have hlt : n.toUInt64.toNat < 2 ^ 32 := by simpa using n.toNat_lt
  rw [uint32?, Json.ofUInt32, toTerm, nat?_int_ofUInt64 hlt, Option.map_some, UInt32.toNat_toUInt64,
    UInt32.ofNat_toNat]

theorem uint8?_byte (b : UInt8) : uint8? (Json.int (.ofUInt64 b.toUInt64)).toTerm = some b := by
  have hlt : b.toUInt64.toNat < 2 ^ 8 := by simpa using b.toNat_lt
  rw [uint8?, toTerm, nat?_int_ofUInt64 hlt, Option.map_some, UInt8.toNat_toUInt64, UInt8.ofNat_toNat]

@[simp]
theorem bool?_bool (b : Bool) : bool? (Json.bool b).toTerm = some b := rfl

@[simp]
theorem text?_str (s : String) : text? (Json.str s).toTerm = some s := rfl

/-! ## Lists and maps -/

variable {α : Type} {read : Term → Option α} {write : α → Json}

theorem list?_arr (items : List α) (h : ∀ a, read (write a).toTerm = some a) :
    list? read (Json.arr (items.map write)).toTerm = some items := by
  rw [toTerm, list?, itemTerms_eq_map]
  induction items with
  | nil => rfl
  | cons a rest ih =>
    rw [List.map_cons, List.map_cons, List.mapM_cons, h, ih]
    rfl

@[simp]
theorem list?_ofTexts (texts : List String) : list? text? (Json.ofTexts texts).toTerm = some texts :=
  list?_arr texts text?_str

@[simp]
theorem list?_ofBytes (bytes : List UInt8) : list? uint8? (Json.ofBytes bytes).toTerm = some bytes :=
  list?_arr bytes uint8?_byte

@[simp]
theorem list?_ofUInt32 (numbers : List UInt32) :
    list? uint32? (Json.arr (numbers.map Json.ofUInt32)).toTerm = some numbers :=
  list?_arr numbers uint32?_ofUInt32

theorem members?_memberTerms (entries : List (String × α)) (h : ∀ a, read (write a).toTerm = some a) :
    members? read (memberTerms (entries.map fun (k, a) => (k, write a))) = some entries := by
  induction entries with
  | nil => rfl
  | cons entry rest ih =>
    obtain ⟨k, a⟩ := entry
    simp [memberTerms, members?, h, ih]

@[simp]
theorem map?_obj (map : StringMap String) :
    map? text? (Json.obj (map.entries.map fun (k, v) => (k, .str v))).toTerm = some map := by
  rw [toTerm, map?, members?_memberTerms map.entries text?_str, Option.map_some, StringMap.ofList_entries]

/-- A value whose document is not `null` is there. -/
theorem option?_of_eq_some {t : Term} {a : α} (hread : read t = some a) (hnull : t ≠ .null) :
    option? read t = some (some a) := by
  cases t with
  | null => exact absurd rfl hnull
  | _ => simp [option?, hread]

/-! ## Records -/

end Term

/-- The fields that members make. -/
def fieldTerms (members : List (String × Json)) : Fields := members.map fun (key, value) => (key, value.toTerm)

namespace Term

theorem fieldsOf?_memberTerms {names : List String} {members : List (String × Json)}
    (hnames : ∀ m ∈ members, m.1 ∈ names) (hdistinct : (members.map Prod.fst).Nodup) :
    fieldsOf? names (memberTerms members) = some (fieldTerms members) := by
  induction members with
  | nil => rfl
  | cons member rest ih =>
    obtain ⟨key, value⟩ := member
    obtain ⟨hname, hnames⟩ := List.forall_mem_cons.1 hnames
    obtain ⟨hnew, hdistinct⟩ := List.nodup_cons.1 (List.map_cons ▸ hdistinct)
    have hnone := Entries.get?_eq_none hnew
    rw [memberTerms, fieldsOf?, ih hnames hdistinct]
    simp only [bind, Option.bind, fieldTerms, Entries.get?_map, hnone, if_pos hname, Option.map_none,
      Option.isSome_none]
    rfl

/-- The members of an object with field names are the fields of a record. -/
theorem fields?_obj {names : List String} {members : List (String × Json)}
    (hnames : ∀ m ∈ members, m.1 ∈ names) (hdistinct : (members.map Prod.fst).Nodup) :
    fields? names (Json.obj members).toTerm = some (fieldTerms members) :=
  fieldsOf?_memberTerms hnames hdistinct

end Term

namespace Fields

variable {α : Type}

theorem required_eq_some_iff {members : List (String × Json)} {name : String} {read : Term → Option α} {a : α} :
    required (fieldTerms members) name read = some a ↔
      ∃ value, Entries.get? name members = some value ∧ read value.toTerm = some a := by
  rw [required, fieldTerms, Entries.get?_map, Option.bind_map, Option.bind_eq_some_iff]
  rfl

theorem optional_eq_some_iff {members : List (String × Json)} {name : String} {read : Term → Option α}
    {default a : α} :
    optional (fieldTerms members) name read default = some a ↔
      (∃ value, Entries.get? name members = some value ∧ read value.toTerm = some a) ∨
        Entries.get? name members = none ∧ default = a := by
  rw [optional, fieldTerms, Entries.get?_map]
  cases Entries.get? name members <;> simp

end Fields

/-! ## Tagged values -/

theorem splitKind?_memberTerms {members : List (String × Json)} (h : ∀ m ∈ members, m.1 ≠ "kind") :
    splitKind? (memberTerms members) = some (none, memberTerms members) := by
  induction members with
  | nil => rfl
  | cons member rest ih =>
    obtain ⟨hkey, hrest⟩ := List.forall_mem_cons.1 h
    rw [memberTerms, splitKind?, ih hrest]
    simp only [bind, Option.bind, if_neg hkey]
    rfl

/-- A kind before members with other names is told from them. -/
theorem Term.tagged?_obj (kind : Json) {members : List (String × Json)} (h : ∀ m ∈ members, m.1 ≠ "kind") :
    Term.tagged? (Json.obj (("kind", kind) :: members)).toTerm =
      some (kind.toTerm, (Json.obj members).toTerm) := by
  have hvalue : (Json.obj members).toTerm.hasValue = true := by
    obtain ⟨w, hw, -⟩ := value?_toTerm (.obj members)
    rw [Term.hasValue, hw]
    rfl
  have hsplit : splitKind? (memberTerms (("kind", kind) :: members)) =
      some (some kind.toTerm, memberTerms members) := by
    rw [memberTerms, splitKind?, splitKind?_memberTerms h]
    rfl
  rw [toTerm] at hvalue ⊢
  rw [toTerm, Term.tagged?, hsplit]
  exact if_pos hvalue

/-! ## Documents without floats -/

theorem floatless_arr_map {α : Type} (items : List α) {write : α → Json} (h : ∀ a, (write a).floatless = true) :
    (Json.arr (items.map write)).floatless = true := by
  rw [floatless, floatlessItems_iff]
  intro item hitem
  obtain ⟨a, -, rfl⟩ := List.mem_map.1 hitem
  exact h a

@[simp]
theorem floatless_str (s : String) : (str s).floatless = true := rfl

@[simp]
theorem floatless_bool (b : Bool) : (bool b).floatless = true := rfl

@[simp]
theorem floatless_ofUInt32 (n : UInt32) : (ofUInt32 n).floatless = true := rfl

@[simp]
theorem floatless_ofUInt64 (n : UInt64) : (ofUInt64 n).floatless = true := rfl

@[simp]
theorem floatless_ofTexts (texts : List String) : (ofTexts texts).floatless = true :=
  floatless_arr_map texts fun _ => rfl

@[simp]
theorem floatless_ofBytes (bytes : List UInt8) : (ofBytes bytes).floatless = true :=
  floatless_arr_map bytes fun _ => rfl

theorem floatless_obj_iff {members : List (String × Json)} :
    (Json.obj members).floatless = true ↔ ∀ member ∈ members, member.2.floatless = true := by
  rw [floatless, floatlessMembers_iff]

theorem floatless_obj_map {α : Type} (entries : List α) {write : α → String × Json}
    (h : ∀ a, (write a).2.floatless = true) : (Json.obj (entries.map write)).floatless = true := by
  rw [floatless_obj_iff]
  intro member hmember
  obtain ⟨a, -, rfl⟩ := List.mem_map.1 hmember
  exact h a

end Json

end FuzzCampaign
