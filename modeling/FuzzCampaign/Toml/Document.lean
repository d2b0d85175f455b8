import FuzzCampaign.Toml.Scalar
set_option autoImplicit false

/-! # TOML documents

A document is a list of sections, each a header and its entries; entries before the first header belong
to the document itself. The tree that the sections build remembers how each table came to be, because
that decides what may still be added to it:

* a table with a header of its own, or a value in braces, is defined and cannot be defined again;
* a table on the path of a header is implied, and a header of its own may still define it;
* a table on the path of a dotted key can only be extended by dotted keys and by headers below it. -/

namespace FuzzCampaign.Toml

/-! ## Keys -/

/-- A character of a key without quotes. -/
def isKeyChar (c : Char) : Bool := c.isAlphanum || c == '_' || c == '-'

/-- One part of a key. -/
def keyPart? (cs : List Char) : Option (String × List Char) :=
  match cs with
  | '"' :: rest => basicString (rest.length + 1) rest []
  | '\x27' :: rest => literalString rest
  | _ =>
    let word := cs.takeWhile isKeyChar
    if word.isEmpty then none else some (String.ofList word, cs.drop word.length)

/-- The parts of a key between periods; at most `room` of them. -/
def keyParts? : Nat → Reader (List String)
  | 0, _ => none
  | room + 1, cs =>
    match keyPart? (skipSpace cs) with
    | none => none
    | some (part, rest) =>
      match skipSpace rest with
      | '.' :: rest =>
        match keyParts? room rest with
        | some (parts, rest) => some (part :: parts, rest)
        | none => none
      | rest => some ([part], rest)

/-- How deep values nest, and how many parts a key has, at most. -/
def maxNesting : Nat := 79

/-- A key: its parts but the last, and the last. -/
def key? (cs : List Char) : Option ((List String × String) × List Char) := do
  let (parts, rest) ← keyParts? maxNesting cs
  return ((parts.dropLast, ← parts.getLast?), rest)

/-! ## The tree -/

/-- How a table came to be. -/
inductive Origin where
  | defined
  | implied
  | dotted
deriving DecidableEq, Repr

/-- A place of the tree that a document builds. -/
inductive Node where
  /-- A value, to which nothing can be added. -/
  | value (value : Toml)
  | table (origin : Origin) (entries : List (String × Node))
  /-- The tables of one header in double brackets. -/
  | tables (elements : List (Origin × List (String × Node)))

namespace Node

/-- The entry of a key put in the place of the one that was there. -/
def put (key : String) (node : Node) : List (String × Node) → List (String × Node)
  | [] => [(key, node)]
  | (k, n) :: rest => if k = key then (k, node) :: rest else (k, n) :: put key node rest

/-- The value of a place. -/
def toValue : Node → Toml
  | .value v => v
  | .table _ entries => .table (ofEntries entries)
  | .tables elements => .array (ofElements elements)
where
  /-- The values of entries. -/
  ofEntries : List (String × Node) → List (String × Toml)
    | [] => []
    | (key, node) :: rest => (key, toValue node) :: ofEntries rest
  /-- The values of elements. -/
  ofElements : List (Origin × List (String × Node)) → List Toml
    | [] => []
    | (_, entries) :: rest => .table (ofEntries entries) :: ofElements rest

/-- Change the entries of the table at a path, given how it came to be. Tables that are missing on the
way are made; a path leads through the last of the tables of double brackets. A path of a dotted key does
not lead through a defined table. -/
def change (byDots : Bool) (edit : Origin → List (String × Node) → Option (List (String × Node))) :
    List String → Origin → List (String × Node) → Option (List (String × Node))
  | [], origin, entries => edit origin entries
  | key :: path, _, entries =>
    match entries.lookup key with
    | none =>
      let made : Origin := if byDots then .dotted else .implied
      (change byDots edit path made []).map fun inner => put key (.table made inner) entries
    | some (.value _) => none
    | some (.table origin inner) =>
      if byDots && origin == .defined then none
      else (change byDots edit path origin inner).map fun inner => put key (.table origin inner) entries
    | some (.tables elements) =>
      match elements.getLast? with
      | none => none
      | some (origin, inner) => (change byDots edit path origin inner).map fun inner =>
          put key (.tables (elements.dropLast ++ [(origin, inner)])) entries

/-- Add an entry to a table, which an entry with a dotted key does by way of tables of its own kind. -/
def add (entries : List (String × Node)) (key : List String × String) (value : Toml) :
    Option (List (String × Node)) :=
  change true (fun origin inner =>
    if (origin == .dotted) == key.1.isEmpty || (inner.lookup key.2).isSome then none
    else some (inner ++ [(key.2, .value value)])) key.1 .defined entries

/-- Add entries in order. -/
def addAll (entries : List (String × Node)) :
    List ((List String × String) × Toml) → Option (List (String × Node))
  | [] => some entries
  | (key, v) :: rest =>
    match add entries key v with
    | some entries => addAll entries rest
    | none => none

end Node

/-- The table in braces of some entries. -/
def inlineTable? (pairs : List ((List String × String) × Toml)) : Option Toml :=
  (Node.addAll [] pairs).map fun entries => (Node.table .defined entries).toValue

/-! ## Values -/

/-- How the items of a container stand. -/
structure Layout where
  /-- The mark that closes the container. -/
  close : Char
  /-- Drops what may stand between items and marks. -/
  skip : List Char → List Char
  /-- Whether a comma may follow the last item. -/
  trailing : Bool

/-- The rest after the closing mark. -/
def Layout.closed? (layout : Layout) (cs : List Char) : Option (List Char) :=
  after? layout.close (layout.skip cs)

/-- Items with commas between them, at least one, and the closing mark. -/
def items? {α : Type} (layout : Layout) (item : Reader α) : Nat → List Char → List α →
    Option (List α × List Char)
  | 0, _, _ => none
  | fuel + 1, cs, found =>
    match item (layout.skip cs) with
    | none => none
    | some (x, rest) =>
      match layout.closed? rest with
      | some rest => some ((x :: found).reverse, rest)
      | none =>
        match after? ',' (layout.skip rest) with
        | none => none
        | some rest =>
          match if layout.trailing then layout.closed? rest else none with
          | some rest => some ((x :: found).reverse, rest)
          | none => items? layout item fuel rest (x :: found)

/-- Items with commas between them, possibly none, and the closing mark. -/
def container? {α : Type} (layout : Layout) (item : Reader α) (cs : List Char) :
    Option (List α × List Char) :=
  match layout.closed? cs with
  | some rest => some ([], rest)
  | none => items? layout item (cs.length + 1) cs []

/-- Arrays go over several lines and may end with a comma. -/
def arrayLayout : Layout := ⟨']', fun cs => skipLines cs.length cs, true⟩

/-- Tables in braces stand on one line and do not end with a comma. -/
def braceLayout : Layout := ⟨'\x7d', skipSpace, false⟩

/-- A key and its value, as `value` reads it. -/
def pair? (value : Reader Toml) (cs : List Char) : Option (((List String × String) × Toml) × List Char) := do
  let (key, rest) ← key? cs
  let (v, rest) ← value (skipSpace (← after? '=' rest))
  return ((key, v), rest)

/-- A value whose containers nest at most `room` deep. -/
def value? : Nat → Reader Toml
  | 0, cs => if cs.head? = some '[' ∨ cs.head? = some '\x7b' then none else scalar? cs
  | room + 1, cs =>
    match cs with
    | '[' :: rest => (container? arrayLayout (value? room) rest).map fun (items, rest) => (.array items, rest)
    | '\x7b' :: rest =>
      match container? braceLayout (pair? (value? room)) rest with
      | none => none
      | some (pairs, rest) => (inlineTable? pairs).map fun table => (table, rest)
    | _ => scalar? cs

/-! ## Sections -/

/-- A header or an entry. -/
inductive Line where
  /-- A header, in double brackets or not. -/
  | header (double : Bool) (path : List String) (key : String)
  | entry (key : List String × String) (value : Toml)

/-- A header or an entry with the end of its line. -/
def line? (cs : List Char) : Option (Line × List Char) :=
  match cs with
  | '[' :: '[' :: rest => do
    let ((path, key), rest) ← key? rest
    let rest ← after? ']' (← after? ']' rest)
    return (.header true path key, ← endLine? rest)
  | '[' :: rest => do
    let ((path, key), rest) ← key? rest
    return (.header false path key, ← endLine? (← after? ']' rest))
  | _ => do
    let ((key, value), rest) ← pair? (value? maxNesting) cs
    return (.entry key value, ← endLine? rest)

/-- The lines of a document that are no blanks and comments. -/
def lines? : Nat → List Char → Option (List Line)
  | 0, _ => none
  | fuel + 1, cs =>
    match skipLines cs.length cs with
    | [] => some []
    | cs =>
      match line? cs with
      | none => none
      | some (line, rest) => (lines? fuel rest).map (line :: ·)

/-- A header with the entries that follow it. -/
structure Section where
  double : Bool
  path : List String
  key : String
  entries : List ((List String × String) × Toml)

/-- The entries of the document itself, and its sections. -/
def sections : List Line → List ((List String × String) × Toml) × List Section
  | [] => ([], [])
  | .entry key value :: rest =>
    let (entries, later) := sections rest
    ((key, value) :: entries, later)
  | .header double path key :: rest =>
    let (entries, later) := sections rest
    ([], ⟨double, path, key, entries⟩ :: later)

/-- Add a section to the tree. -/
def addSection (root : List (String × Node)) (s : Section) : Option (List (String × Node)) :=
  Node.change false (fun _ entries =>
    match s.double, entries.lookup s.key with
    | false, none => (Node.addAll [] s.entries).map fun inner =>
        entries ++ [(s.key, .table .defined inner)]
    | false, some (.table .implied inner) => (Node.addAll inner s.entries).map fun inner =>
        Node.put s.key (.table .defined inner) entries
    | true, none => (Node.addAll [] s.entries).map fun inner =>
        entries ++ [(s.key, .tables [(.defined, inner)])]
    | true, some (.tables elements) => (Node.addAll [] s.entries).map fun inner =>
        Node.put s.key (.tables (elements ++ [(.defined, inner)])) entries
    | _, _ => none) s.path .defined root

/-- Add sections in order. -/
def addSections (root : List (String × Node)) : List Section → Option (List (String × Node))
  | [] => some root
  | s :: rest =>
    match addSection root s with
    | some root => addSections root rest
    | none => none

/-- The value of a document; a byte order mark at its beginning does not count. -/
def parse? (text : String) : Option Toml :=
  let cs := match text.toList with
    | '\ufeff' :: rest => rest
    | cs => cs
  match lines? (cs.length + 1) cs with
  | none => none
  | some lines =>
    let (entries, later) := sections lines
    match Node.addAll [] entries with
    | none => none
    | some root => (addSections root later).map fun root => (Node.table .defined root).toValue

end FuzzCampaign.Toml
