import FuzzCampaign.Shell.Pattern
set_option autoImplicit false

/-! # Regular expressions

Regular expressions in their two spellings: the extended one, where operators stand alone, and the basic
one, where most of them stand behind a backslash. Of the matches of an expression in a text the leftmost
counts, and of those the longest. -/

namespace FuzzCampaign.Shell

/-- A regular expression. -/
inductive Regex where
  | nothing
  | set (negated : Bool) (ranges : List (Char × Char))
  | sequence (a b : Regex)
  | either (a b : Regex)
  /-- Several times; the second bound may be missing. -/
  | times (a : Regex) (least : Nat) (most : Option Nat)
  | group (number : Nat) (a : Regex)
  /-- What a group matched, again. -/
  | again (number : Nat)
  | front
  | back
  /-- Where a word begins or ends: `b` for both, `<` and `>` for one of them, `B` for neither. -/
  | edge (kind : Char)

namespace Regex

/-! ## Reading -/

/-- A character for itself. -/
def char (c : Char) : Regex := .set false [(c, c)]

/-- The classes behind a backslash. -/
def escapedClass? (c : Char) : Option Regex :=
  match c with
  | 'w' => some (.set false (classRanges "word".toList))
  | 'W' => some (.set true (classRanges "word".toList))
  | 's' => some (.set false (classRanges "space".toList))
  | 'S' => some (.set true (classRanges "space".toList))
  | 'b' => some (.edge 'b')
  | 'B' => some (.edge 'B')
  | '<' => some (.edge '<')
  | '>' => some (.edge '>')
  | _ => none

/-- The operator at the front of a text, in one spelling for both kinds of expressions, and the rest. -/
def operator? (extended : Bool) (s : Str) : Option (Char × Str) :=
  match s with
  | '\\' :: c :: rest =>
    if !extended && ['(', ')', '\x7b', '\x7d', '+', '?', '|'].contains c then some (c, rest) else none
  | c :: rest =>
    if extended && ['(', ')', '\x7b', '+', '?', '|'].contains c then some (c, rest)
    else if c == '*' then some (c, rest)
    else none
  | [] => none

/-- The bounds of a repetition between braces, and the rest. -/
def bounds? (extended : Bool) (s : Str) : Option (Nat × Option Nat × Str) :=
  let least := s.takeWhile Char.isDigit
  let afterLeast := s.drop least.length
  let close (rest : Str) : Option Str :=
    match extended, rest with
    | true, '\x7d' :: rest => some rest
    | false, '\\' :: '\x7d' :: rest => some rest
    | _, _ => none
  match afterLeast with
  | ',' :: rest =>
    let most := rest.takeWhile Char.isDigit
    (close (rest.drop most.length)).map fun after =>
      (Decimal.valueFrom 0 least, if most.isEmpty then none else some (Decimal.valueFrom 0 most), after)
  | rest =>
    if least.isEmpty then none
    else
      let n := Decimal.valueFrom 0 least
      (close rest).map fun after => (n, some n, after)

/-- Put repetitions behind an expression. -/
def repeats (extended : Bool) : Nat → Regex → Str → Regex × Str
  | 0, r, s => (r, s)
  | fuel + 1, r, s =>
    match operator? extended s with
    | some ('*', rest) => repeats extended fuel (.times r 0 none) rest
    | some ('+', rest) => repeats extended fuel (.times r 1 none) rest
    | some ('?', rest) => repeats extended fuel (.times r 0 (some 1)) rest
    | some ('\x7b', rest) =>
      match bounds? extended rest with
      | some (least, most, rest) => repeats extended fuel (.times r least most) rest
      | none => (r, s)
    | _ => (r, s)

/-- Read alternatives up to the end or a closing parenthesis; the number counts the groups so far. -/
def readAlternatives (extended : Bool) : Nat → Nat → Str → Option (Regex × Nat × Str)
  | 0, _, _ => none
  | fuel + 1, groups, s => do
    let (first, groups, rest) ← branch fuel true groups s .nothing
    match operator? extended rest with
    | some ('|', rest) =>
      let (second, groups, rest) ← readAlternatives extended fuel groups rest
      return (.either first second, groups, rest)
    | _ => return (first, groups, rest)
where
  /-- Read what follows one after the other. -/
  branch : Nat → Bool → Nat → Str → Regex → Option (Regex × Nat × Str)
    | 0, _, _, _, _ => none
    | fuel + 1, isFront, groups, s, found =>
      let put (r : Regex) (groups : Nat) (rest : Str) : Option (Regex × Nat × Str) :=
        let (r, rest) := repeats extended fuel r rest
        branch fuel false groups rest (.sequence found r)
      match operator? extended s with
      | some ('|', _) => some (found, groups, s)
      | some (')', _) => some (found, groups, s)
      | some ('(', rest) =>
        match readAlternatives extended fuel (groups + 1) rest with
        | none => none
        | some (inner, groups', rest) =>
          match operator? extended rest with
          | some (')', rest) => put (.group (groups + 1) inner) groups' rest
          | _ => none
      | some (c, rest) =>
        if isFront then
          if c == '*' && !extended then put (char '*') groups rest
          else if extended then branch fuel true groups rest found
          else put (char c) groups rest
        else put (char c) groups rest
      | none =>
        match s with
        | [] => some (found, groups, [])
        | '^' :: rest =>
          if extended || isFront then branch fuel isFront groups rest (.sequence found .front)
          else put (char '^') groups rest
        | '$' :: rest =>
          let ends := extended || rest.isEmpty || (operator? extended rest).any fun (c, _) => c == ')' || c == '|'
          if ends then put .back groups rest else put (char '$') groups rest
        | '.' :: rest => put (.set true []) groups rest
        | '[' :: rest =>
          let (negated, inner) := match rest with
            | '^' :: inner => (true, inner)
            | _ => (false, rest)
          let marks := inner.map fun c => (c, c == '\\')
          match bracketRanges (inner.length + 1) true [] marks with
          | some (ranges, after) => put (.set negated ranges) groups (unmark after)
          | none => none
        | ['\\'] => none
        | '\\' :: c :: rest =>
          match escapedClass? c with
          | some r => put r groups rest
          | none => if c.isDigit && c != '0' then put (.again (c.toNat - 48)) groups rest
              else put (char c) groups rest
        | c :: rest => put (char c) groups rest

/-- The regular expression that a text stands for. -/
def read? (extended : Bool) (s : Str) : Option Regex :=
  match readAlternatives extended (s.length + 2) 0 s with
  | some (r, _, []) => some r
  | _ => none

/-! ## Matching -/

/-- Where a match has come to, and what the groups matched. -/
structure Point where
  place : Nat
  groups : List (Nat × Nat × Nat) := []

/-- Points with different places; of those with the same place the first. -/
def distinct (ps : List Point) : List Point :=
  ps.foldl (fun kept p => if kept.any fun q => q.place == p.place then kept else kept ++ [p]) []

/-- Whether a character belongs to words. -/
def inWord (text : Array Char) (i : Nat) : Bool := (text[i]?).any isNameChar

/-- The points that several rounds lead to: a round starts where the one before it ended, and goes on. -/
def rounds (step : Point → List Point) (least : Nat) (most : Option Nat) :
    Nat → Nat → List Point → List Point
  | 0, _, _ => []
  | fuel + 1, count, here =>
    let done := if least ≤ count then here else []
    let next := distinct (here.flatMap fun p =>
      (step p).filter fun q => p.place < q.place || count < least)
    if next.isEmpty || most.any fun m => m ≤ count then done
    else rounds step least most fuel (count + 1) next ++ done

/-- The points to which an expression leads from a point. -/
def reach (text : Array Char) : Regex → Point → List Point
  | .nothing, p => [p]
  | .set negated ranges, p =>
    match text[p.place]? with
    | some c => if (Glob.set negated ranges).takes c then [{ p with place := p.place + 1 }] else []
    | none => []
  | .sequence a b, p => distinct ((reach text a p).flatMap (reach text b))
  | .either a b, p => distinct (reach text a p ++ reach text b p)
  | .times a least most, p =>
    distinct (rounds (reach text a) least most (text.size + least + 1) 0 [p])
  | .group n a, p =>
    (reach text a p).map fun q =>
      { q with groups := (n, p.place, q.place) :: q.groups.filter fun (m, _) => m != n }
  | .again n, p =>
    match p.groups.find? fun (m, _) => m == n with
    | some (_, first, last) =>
      let size := last - first
      if text.extract first last == text.extract p.place (p.place + size) &&
          p.place + size ≤ text.size then [{ p with place := p.place + size }] else []
    | none => []
  | .front, p => if p.place = 0 then [p] else []
  | .back, p => if p.place = text.size then [p] else []
  | .edge kind, p =>
    let before := p.place ≠ 0 && inWord text (p.place - 1)
    let after := inWord text p.place
    let holds := match kind with
      | 'b' => before != after
      | 'B' => before == after
      | '<' => !before && after
      | _ => before && !after
    if holds then [p] else []

/-- The longest match at a place. -/
def longestAt (r : Regex) (text : Array Char) (start : Nat) : Option Point :=
  (reach text r ⟨start, []⟩).foldl (fun best p =>
    match best with
    | none => some p
    | some b => if b.place < p.place then some p else best) none

/-- The leftmost match from a place on, of the longest there: where it begins and where it leads. -/
def find? (r : Regex) (text : Array Char) (start : Nat) : Option (Nat × Point) :=
  (List.range (text.size + 1 - start)).findSome? fun i =>
    (longestAt r text (start + i)).map fun p => (start + i, p)

/-- Whether an expression matches somewhere in a text. -/
def matchesIn (r : Regex) (text : Str) : Bool := (r.find? text.toArray 0).isSome

/-- The text that a group matched. -/
def groupText (text : Array Char) (p : Point) (n : Nat) : Str :=
  match p.groups.find? fun (m, _) => m == n with
  | some (_, first, last) => (text.extract first last).toList
  | none => []

end Regex

end FuzzCampaign.Shell
