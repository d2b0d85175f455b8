import FuzzCampaign.Json.Term
set_option autoImplicit false

/-! # Typed JSON

Reading terms at a type. A record is an object whose members are its fields, or a list of its fields in
order; members that are not fields are passed over, a field that is given twice is refused. A tagged
value is an object with a `kind`, or a list whose first element is the kind. -/

namespace FuzzCampaign.Json

namespace Term

/-! ## Scalars and lists -/

/-- A natural number below a bound. -/
def nat? (bound : Nat) : Term → Option Nat
  | .int n => if 0 ≤ n.val ∧ n.val < bound then some n.val.toNat else none
  | _ => none

/-- A natural number of 8 bits. -/
def uint8? (t : Term) : Option UInt8 := (t.nat? (2 ^ 8)).map UInt8.ofNat

/-- A natural number of 32 bits. -/
def uint32? (t : Term) : Option UInt32 := (t.nat? (2 ^ 32)).map UInt32.ofNat

/-- A natural number of 64 bits. -/
def uint64? (t : Term) : Option UInt64 := (t.nat? (2 ^ 64)).map UInt64.ofNat

/-- A truth value. -/
def bool? : Term → Option Bool
  | .bool b => some b
  | _ => none

/-- A text. -/
def text? : Term → Option String
  | .str s => s
  | _ => none

/-- A list whose elements are read by `read`. -/
def list? {α : Type} (read : Term → Option α) : Term → Option (List α)
  | .arr items => items.mapM read
  | _ => none

/-- The members of an object, each read by `read`. -/
def members? {α : Type} (read : Term → Option α) :
    List (Option String × Term) → Option (List (String × α))
  | [] => some []
  | (key, value) :: rest => do return (← key, ← read value) :: (← members? read rest)

/-- An object whose members are read by `read`, ordered by name; of two with one name the last counts. -/
def map? {α : Type} (read : Term → Option α) : Term → Option (StringMap α)
  | .obj members => (members? read members).map StringMap.ofList
  | _ => none

/-- `null` is the absent value. -/
def option? {α : Type} (read : Term → Option α) : Term → Option (Option α)
  | .null => some none
  | t => (read t).map some

/-- One of some names; also written as an object whose only member has that name and holds nothing. -/
def choice? {α : Type} (names : List (String × α)) : Term → Option α
  | .str (some s) => Entries.get? s names
  | .obj [(some s, .null)] => Entries.get? s names
  | .obj [(some s, .obj [])] => Entries.get? s names
  | _ => none

/-- Whether the term has a value in every place. -/
def hasValue (t : Term) : Bool := t.value?.isSome

end Term

/-! ## Records -/

/-- The fields of a record that are given. -/
abbrev Fields := List (String × Term)

/-- The fields among the members of an object. -/
def fieldsOf? (names : List String) : List (Option String × Term) → Option Fields
  | [] => some []
  | (key, value) :: rest => do
    let key ← key
    let fields ← fieldsOf? names rest
    if key ∈ names then
      if (Entries.get? key fields).isSome then none else return (key, value) :: fields
    else return fields

/-- The given fields of a record with these field names. -/
def Term.fields? (names : List String) : Term → Option Fields
  | .obj members => fieldsOf? names members
  | .arr items => if items.length ≤ names.length then some (names.zip items) else none
  | _ => none

namespace Fields

/-- A field that must be given. -/
def required {α : Type} (fields : Fields) (name : String) (read : Term → Option α) : Option α :=
  (Entries.get? name fields).bind read

/-- A field with a default. -/
def optional {α : Type} (fields : Fields) (name : String) (read : Term → Option α) (default : α) :
    Option α :=
  match Entries.get? name fields with
  | some t => read t
  | none => some default

end Fields

/-! ## Tagged values -/

/-- The kind among the members of an object, and the other members; `none` unless it is given once. -/
def splitKind? : List (Option String × Term) → Option (Option Term × List (Option String × Term))
  | [] => some (none, [])
  | (key, value) :: rest => do
    let key ← key
    let (kind, others) ← splitKind? rest
    if key = "kind" then
      if kind.isSome then none else return (some value, others)
    else return (kind, (some key, value) :: others)

/-- The kind of a tagged value and the record that goes with it. Everything in that record must have a
value, read or not. -/
def Term.tagged? : Term → Option (Term × Term)
  | .obj members => do
    let (kind, others) ← splitKind? members
    let kind ← kind
    if (Term.obj others).hasValue then return (kind, .obj others) else none
  | .arr (kind :: rest) => if (Term.arr rest).hasValue then some (kind, .arr rest) else none
  | _ => none

/-- A kind given by its name. -/
def Term.kind? {α : Type} (names : List (String × α)) : Term → Option α
  | .str (some s) => Entries.get? s names
  | _ => none

/-- A kind given by its name or by its position among the names. -/
def Term.kindOrIndex? {α : Type} (names : List (String × α)) : Term → Option α
  | .int n => if 0 ≤ n.val then (names[n.val.toNat]?).map Prod.snd else none
  | t => t.kind? names

end FuzzCampaign.Json
