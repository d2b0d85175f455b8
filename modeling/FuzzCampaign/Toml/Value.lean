import FuzzCampaign.Number.Decimal
set_option autoImplicit false

/-! # TOML values

What a TOML document denotes, and reading values at a type. A record is a table whose entries are its
fields, or an array of its fields in order; entries that are not fields are passed over, and so are
elements after the last field. A moment is a table of none of the fields of any record. -/

namespace FuzzCampaign

/-- A TOML value. -/
inductive Toml where
  | string (value : String)
  | integer (value : Int)
  | float (value : Binary64)
  | boolean (value : Bool)
  /-- A date, a time of day or both, as written. -/
  | moment (text : String)
  | array (items : List Toml)
  | table (entries : List (String × Toml))
deriving Inhabited

namespace Toml

/-- A text. -/
def text? : Toml → Option String
  | .string s => some s
  | _ => none

/-- A natural number below a bound. -/
def nat? (bound : Nat) : Toml → Option Nat
  | .integer n => if 0 ≤ n ∧ n < bound then some n.toNat else none
  | _ => none

/-- A natural number of 32 bits. -/
def uint32? (v : Toml) : Option UInt32 := (v.nat? (2 ^ 32)).map UInt32.ofNat

/-- A natural number of 64 bits. -/
def uint64? (v : Toml) : Option UInt64 := (v.nat? (2 ^ 64)).map UInt64.ofNat

/-- A list of texts. -/
def texts? : Toml → Option (List String)
  | .array items => items.mapM text?
  | _ => none

/-- The fields that a record gives, by name. -/
def fields? (names : List String) : Toml → Option (List (String × Toml))
  | .table entries => some entries
  | .array items => some (names.zip items)
  | .moment _ => some []
  | _ => none

/-- A field that has a default. -/
def field {α : Type} (read : Toml → Option α) (default : α) (name : String)
    (fields : List (String × Toml)) : Option α :=
  match fields.lookup name with
  | some value => read value
  | none => some default

end Toml

end FuzzCampaign
