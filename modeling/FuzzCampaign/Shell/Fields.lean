import FuzzCampaign.Shell.Pattern
import FuzzCampaign.Shell.Variables
set_option autoImplicit false

/-! # Fields

What expansions leave of a word is a sequence of fragments: text that was written there, text that was
quoted, and text that came out of an expansion and is cut into fields where separators stand. Braces are
expanded before anything else, on the pieces of the word. -/

namespace FuzzCampaign.Shell

/-! ## Fragments -/

/-- A fragment of an expanded word. -/
inductive Fragment where
  /-- Text that was written, outside quotes. -/
  | plain (s : Str)
  /-- Text that stands for itself, and makes a field even when it is empty. -/
  | quoted (s : Str)
  /-- Text that came out of an expansion outside quotes. -/
  | loose (s : Str)
  /-- The end of one of several fields; when they are joined, with this between them. -/
  | cut (joint : Str)

namespace Fragment

/-- The text of fragments, joined. -/
def joined (fragments : List Fragment) : Str :=
  fragments.flatMap fun f =>
    match f with
    | .plain s => s
    | .quoted s => s
    | .loose s => s
    | .cut joint => joint

/-- The characters of fragments, joined, with marks on those that were quoted. -/
def marked (fragments : List Fragment) : List Marked :=
  fragments.flatMap fun f =>
    match f with
    | .plain s => mark false s
    | .quoted s => mark true s
    | .loose s => mark false s
    | .cut joint => mark false joint

/-- Text that is written inside an expansion outside quotes is text that comes out of it. -/
def loosen (f : Fragment) : Fragment :=
  match f with
  | .plain s => .loose s
  | f => f

end Fragment

/-! ## Cutting into fields -/

/-- What is known while a word is cut: the fields found, the field being made, and whether blanks ended
the last one. -/
structure Cutting where
  found : List (List Marked) := []
  current : Option (List Marked) := none
  afterBlank : Bool := false

namespace Cutting

/-- Add characters to the field being made. -/
def add (c : Cutting) (s : List Marked) : Cutting :=
  { c with current := some (c.current.getD [] ++ s), afterBlank := false }

/-- The field being made ends. -/
def close (c : Cutting) (afterBlank : Bool) : Cutting :=
  match c.current with
  | some f => { found := c.found ++ [f], current := none, afterBlank }
  | none => c

/-- A character that came out of an expansion. -/
def loose (separators : Str) (c : Cutting) (ch : Char) : Cutting :=
  if !separators.contains ch then c.add [(ch, false)]
  else if ch == ' ' || ch == '\t' || ch == '\n' then c.close true
  else
    match c.current, c.afterBlank with
    | some f, _ => { found := c.found ++ [f], current := none, afterBlank := false }
    | none, true => { c with afterBlank := false }
    | none, false => { c with found := c.found ++ [[]] }

/-- A fragment. -/
def fragment (separators : Str) (c : Cutting) : Fragment → Cutting
  | .plain s => if s.isEmpty then c else c.add (mark false s)
  | .quoted s => c.add (mark true s)
  | .loose s => s.foldl (loose separators) c
  | .cut _ => { c.close false with afterBlank := false }

end Cutting

/-- The fields of fragments. -/
def fieldsOf (separators : Str) (fragments : List Fragment) : List (List Marked) :=
  ((fragments.foldl (Cutting.fragment separators) {}).close false).found

/-! ## Braces -/

/-- A character outside quotes or any other piece of a word. -/
inductive Atom where
  | char (c : Char)
  | part (p : Part)

/-- The atoms of a word. -/
def atomsOf (parts : List Part) : List Atom :=
  parts.flatMap fun p =>
    match p with
    | .plain s => s.map .char
    | p => [.part p]

/-- The pieces of atoms. -/
def partsOf (atoms : List Atom) : List Part :=
  joinParts (atoms.map fun a =>
    match a with
    | .char c => .plain [c]
    | .part p => p)

/-- The alternatives between braces, after the opening one, and what follows; none when the brace is
never closed. The first number is how many braces are open inside. -/
def braceItems : Nat → Nat → List Atom → List (List Atom) → List Atom →
    Option (List (List Atom) × List Atom)
  | 0, _, _, _, _ => none
  | fuel + 1, depth, current, found, atoms =>
    match atoms with
    | [] => none
    | .char '\x7b' :: rest => braceItems fuel (depth + 1) (current ++ [.char '\x7b']) found rest
    | .char '\x7d' :: rest =>
      if depth = 0 then some (found ++ [current], rest)
      else braceItems fuel (depth - 1) (current ++ [.char '\x7d']) found rest
    | .char ',' :: rest =>
      if depth = 0 then braceItems fuel 0 [] (found ++ [current]) rest
      else braceItems fuel depth (current ++ [.char ',']) found rest
    | a :: rest => braceItems fuel depth (current ++ [a]) found rest

/-- The text of atoms that are all characters. -/
def atomText? (atoms : List Atom) : Option Str :=
  atoms.mapM fun a =>
    match a with
    | .char c => some c
    | .part _ => none

/-- A whole number with an optional sign. -/
def readInt? (s : Str) : Option Int :=
  let digits (s : Str) : Option Nat :=
    if !s.isEmpty && s.all Char.isDigit then some (Decimal.valueFrom 0 s) else none
  match s with
  | '-' :: rest => (digits rest).map fun n => -(n : Int)
  | '+' :: rest => (digits rest).map fun n => (n : Int)
  | s => (digits s).map fun n => (n : Int)

/-- A number with at least so many characters, with zeros in front. -/
def paddedInt (width : Nat) (n : Int) : Str :=
  let digits := showNat n.natAbs
  if n < 0 then '-' :: (List.replicate (width - 1 - digits.length) '0' ++ digits)
  else List.replicate (width - digits.length) '0' ++ digits

/-- The numbers from one to another by steps. -/
def stepsBetween (first last step : Int) : List Int :=
  let size := if step.natAbs = 0 then 1 else step.natAbs
  let count := (last - first).natAbs / size
  (List.range (count + 1)).map fun (i : Nat) =>
    if first ≤ last then first + (i * size : Nat) else first - (i * size : Nat)

/-- The texts of a range such as those from one number or letter to another. -/
def braceRange? (s : Str) : Option (List Str) :=
  match ((String.ofList s).splitOn "..").map String.toList with
  | [a, b] => between a b 1
  | [a, b, step] => (readInt? step).bind (between a b)
  | _ => none
where
  /-- The texts from one to another. -/
  between (a b : Str) (step : Int) : Option (List Str) :=
    match readInt? a, readInt? b with
    | some m, some n =>
      let padded (t : Str) : Bool :=
        let digits := if t.head? == some '-' then t.drop 1 else t
        digits.length > 1 && digits.head? == some '0'
      let width := if padded a || padded b then max a.length b.length else 0
      some ((stepsBetween m n step).map (paddedInt width))
    | _, _ =>
      match a, b with
      | [c], [d] =>
        if c.isAlpha && d.isAlpha then
          some ((stepsBetween c.toNat d.toNat step).map fun n => [Char.ofNat n.toNat])
        else none
      | _, _ => none

/-- The words that a word with braces stands for. -/
def braceWords : Nat → List Atom → List (List Atom)
  | 0, atoms => [atoms]
  | fuel + 1, atoms =>
    match atoms with
    | [] => [[]]
    | .char '\x7b' :: rest =>
      match braceItems (rest.length + 1) 0 [] [] rest with
      | none => (braceWords fuel rest).map fun w => .char '\x7b' :: w
      | some ([only], after) =>
        match (atomText? only).bind braceRange? with
        | some texts =>
          let tails := braceWords fuel after
          texts.flatMap fun t => tails.map fun w => t.map .char ++ w
        | none => (braceWords fuel rest).map fun w => .char '\x7b' :: w
      | some (items, after) =>
        let tails := braceWords fuel after
        (items.flatMap (braceWords fuel)).flatMap fun front => tails.map fun w => front ++ w
    | a :: rest => (braceWords fuel rest).map fun w => a :: w

/-- The words that a word stands for, as pieces. -/
def expandBraces (parts : List Part) : List (List Part) :=
  let mayExpand := parts.any fun p =>
    match p with
    | .plain s => s.contains '\x7b'
    | _ => false
  if !mayExpand then [parts]
  else
    let atoms := atomsOf parts
    (braceWords (atoms.length + 1) atoms).map partsOf

end FuzzCampaign.Shell
