import FuzzCampaign.Json.Term
set_option autoImplicit false

/-! # State trees

What a check sees as request, response and state: literal trees of scalars, lists and dictionaries, and
opaque values of the hook language that have no literal form. A literal tree has one canonical JSON text;
a tree that holds an opaque value or a float that is not finite has none. -/

namespace FuzzCampaign

/-- A value of the hook language. The entries of a dictionary are in the order of their keys. -/
inductive Tree where
  | null
  | bool (value : Bool)
  | int (value : Int64)
  | float (value : Binary64)
  | str (value : String)
  | list (items : List Tree)
  | dict (entries : List (String × Tree))
  /-- A value without a literal form, known by the name of its type. -/
  | opaqueValue (kind : String)
deriving Repr, Inhabited

namespace Tree

/-- The empty dictionary, with which the state of a check begins. -/
def emptyDict : Tree := .dict []

/-- Whether the value is a dictionary. -/
def isDict : Tree → Bool
  | .dict _ => true
  | _ => false

/-- Whether the value is the empty dictionary. -/
def isEmptyDict : Tree → Bool
  | .dict [] => true
  | _ => false

mutual

/-- Whether every node is a literal. -/
def isLiteral : Tree → Bool
  | .null | .bool _ | .int _ | .str _ => true
  | .float x => x.isFinite
  | .list items => allLiteral items
  | .dict entries => allLiteralEntries entries
  | .opaqueValue _ => false

/-- Whether every element is a literal. -/
def allLiteral : List Tree → Bool
  | [] => true
  | item :: rest => item.isLiteral && allLiteral rest

/-- Whether every entry is a literal. -/
def allLiteralEntries : List (String × Tree) → Bool
  | [] => true
  | (_, value) :: rest => value.isLiteral && allLiteralEntries rest

end

/-- The name of the value's type. -/
def typeName : Tree → String
  | .null => "null"
  | .bool _ => "bool"
  | .int _ => "int"
  | .float _ => "float"
  | .str _ => "string"
  | .list _ => "list"
  | .dict _ => "dict"
  | .opaqueValue kind => kind

/-- The entry of a key, when the value is a dictionary. -/
def get? (key : String) : Tree → Option Tree
  | .dict entries => Entries.get? key entries
  | _ => none

mutual

/-- The same value: floats are compared by value, everything else exactly. -/
def same : Tree → Tree → Bool
  | .null, .null => true
  | .bool a, .bool b => a == b
  | .int a, .int b => a == b
  | .float a, .float b => a.same b
  | .str a, .str b => a == b
  | .list a, .list b => sameItems a b
  | .dict a, .dict b => sameEntries a b
  | .opaqueValue a, .opaqueValue b => a == b
  | _, _ => false

/-- Elements pairwise the same. -/
def sameItems : List Tree → List Tree → Bool
  | [], [] => true
  | a :: as, b :: bs => same a b && sameItems as bs
  | _, _ => false

/-- Entries pairwise the same. -/
def sameEntries : List (String × Tree) → List (String × Tree) → Bool
  | [], [] => true
  | (k, a) :: as, (l, b) :: bs => k == l && same a b && sameEntries as bs
  | _, _ => false

end

/-! ## Trees and JSON -/

/-- Why a value has no literal form. -/
inductive NotLiteral where
  | float (value : Binary64)
  | opaqueValue (kind : String)
deriving DecidableEq, Repr

/-- The text of the reason. -/
def NotLiteral.message : NotLiteral → String
  | .float x => "float " ++ x.display ++ " has no literal form"
  | .opaqueValue kind => "value of type " ++ kind ++ " has no literal form"

mutual

/-- The JSON value of a literal tree, or the first node without a literal form. -/
def toJson : Tree → Except NotLiteral Json
  | .null => .ok .null
  | .bool b => .ok (.bool b)
  | .int n => .ok (.int (.ofInt64 n))
  | .float x => if x.isFinite then .ok (.float x) else .error (.float x)
  | .str s => .ok (.str s)
  | .list items => (itemsToJson items).map .arr
  | .dict entries => (entriesToJson entries).map .obj
  | .opaqueValue kind => .error (.opaqueValue kind)

/-- The JSON values of elements. -/
def itemsToJson : List Tree → Except NotLiteral (List Json)
  | [] => .ok []
  | item :: rest =>
    match item.toJson with
    | .error e => .error e
    | .ok v => (itemsToJson rest).map (v :: ·)

/-- The JSON values of entries. -/
def entriesToJson : List (String × Tree) → Except NotLiteral (List (String × Json))
  | [] => .ok []
  | (key, value) :: rest =>
    match value.toJson with
    | .error e => .error e
    | .ok v => (entriesToJson rest).map ((key, v) :: ·)

end

/-- The canonical text of a literal tree. Keys are in order, so equal trees have equal texts. -/
def canonical (tree : Tree) : Except NotLiteral String := tree.toJson.map Json.render

/-- The tree of a number: an integer that does not fit 64 bits with a sign becomes a float. -/
def ofWireInt (n : WireInt) : Tree :=
  if n.val < 2 ^ 63 then .int (Int64.ofInt n.val) else .float (.ofInt n.val)

mutual

/-- The tree of a JSON value. -/
def ofJson : Json → Tree
  | .null => .null
  | .bool b => .bool b
  | .int n => ofWireInt n
  | .float x => .float x
  | .str s => .str s
  | .arr items => .list (itemsOfJson items)
  | .obj members => .dict (entriesOfJson members)

/-- The trees of elements. -/
def itemsOfJson : List Json → List Tree
  | [] => []
  | item :: rest => ofJson item :: itemsOfJson rest

/-- The trees of members. -/
def entriesOfJson : List (String × Json) → List (String × Tree)
  | [] => []
  | (key, value) :: rest => (key, ofJson value) :: entriesOfJson rest

end

/-- The tree of a JSON text. -/
def parse? (text : String) : Option Tree := (Json.parse? text).map ofJson

/-! ## Depth -/

mutual

/-- The number of lists and dictionaries around the innermost value. -/
def depth : Tree → Nat
  | .list items => depthItems items + 1
  | .dict entries => depthEntries entries + 1
  | _ => 0

/-- The greatest depth of the elements. -/
def depthItems : List Tree → Nat
  | [] => 0
  | item :: rest => max item.depth (depthItems rest)

/-- The greatest depth of the entries. -/
def depthEntries : List (String × Tree) → Nat
  | [] => 0
  | (_, value) :: rest => max value.depth (depthEntries rest)

end

end Tree

end FuzzCampaign
