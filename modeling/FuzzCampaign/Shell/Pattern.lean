import FuzzCampaign.Shell.Source
set_option autoImplicit false

/-! # Patterns

Patterns match texts in `case`, in conditions, in the removal and replacement of parts of values, and
names of files. A pattern comes as characters that may be quoted, and quoted characters stand for
themselves. -/

namespace FuzzCampaign.Shell

/-- A character and whether it is quoted. -/
abbrev Marked : Type := Char × Bool

/-- The text of marked characters. -/
def unmark (s : List Marked) : Str := s.map (·.1)

/-- Text with every character marked in the same way. -/
def mark (quoted : Bool) (s : Str) : List Marked := s.map fun c => (c, quoted)

/-- A part of a pattern. -/
inductive Glob where
  | char (c : Char)
  | any
  /-- Any text. -/
  | star
  /-- A character of some ranges, or of none of them. -/
  | set (negated : Bool) (ranges : List (Char × Char))
deriving DecidableEq

/-! ## Reading patterns -/

/-- The ranges of a class of characters. -/
def classRanges (name : Str) : List (Char × Char) :=
  match String.ofList name with
  | "alpha" => [('a', 'z'), ('A', 'Z')]
  | "digit" => [('0', '9')]
  | "alnum" => [('a', 'z'), ('A', 'Z'), ('0', '9')]
  | "upper" => [('A', 'Z')]
  | "lower" => [('a', 'z')]
  | "space" => [('\t', '\r'), (' ', ' ')]
  | "blank" => [('\t', '\t'), (' ', ' ')]
  | "punct" => [('!', '/'), (':', '@'), ('[', '\x60'), ('\x7b', '~')]
  | "print" => [(' ', '~')]
  | "graph" => [('!', '~')]
  | "cntrl" => [(Char.ofNat 0, Char.ofNat 31), (Char.ofNat 127, Char.ofNat 127)]
  | "xdigit" => [('0', '9'), ('a', 'f'), ('A', 'F')]
  | "word" => [('a', 'z'), ('A', 'Z'), ('0', '9'), ('_', '_')]
  | _ => []

/-- The ranges between brackets up to the closing one, and what follows it. -/
def bracketRanges : Nat → Bool → List (Char × Char) → List Marked → Option (List (Char × Char) × List Marked)
  | 0, _, _, _ => none
  | fuel + 1, front, found, s =>
    match s with
    | [] => none
    | (']', false) :: rest =>
      if front then bracketRanges fuel false (found ++ [(']', ']')]) rest else some (found, rest)
    | ('[', false) :: (':', false) :: rest =>
      let name := unmark (rest.takeWhile fun m => m.1 != ':')
      match rest.drop name.length with
      | (':', _) :: (']', _) :: rest => bracketRanges fuel false (found ++ classRanges name) rest
      | _ => bracketRanges fuel false (found ++ [('[', '[')]) ((':', false) :: rest)
    | ('\\', false) :: (c, _) :: rest => range fuel found c rest
    | (c, _) :: rest => range fuel found c rest
where
  /-- A character that may begin a range. -/
  range (fuel : Nat) (found : List (Char × Char)) (c : Char) (rest : List Marked) :
      Option (List (Char × Char) × List Marked) :=
    match rest with
    | ('-', false) :: ('\\', false) :: (d, _) :: after => bracketRanges fuel false (found ++ [(c, d)]) after
    | ('-', false) :: (d, q) :: after =>
      if d == ']' && !q then bracketRanges fuel false (found ++ [(c, c)]) rest
      else bracketRanges fuel false (found ++ [(c, d)]) after
    | _ => bracketRanges fuel false (found ++ [(c, c)]) rest

/-- The pattern that marked characters stand for. -/
def readGlobs : Nat → List Marked → List Glob
  | 0, _ => []
  | fuel + 1, s =>
    match s with
    | [] => []
    | ('*', false) :: rest => .star :: readGlobs fuel rest
    | ('?', false) :: rest => .any :: readGlobs fuel rest
    | ('\\', false) :: (c, _) :: rest => .char c :: readGlobs fuel rest
    | ('[', false) :: rest =>
      let (negated, inner) := match rest with
        | ('!', false) :: inner => (true, inner)
        | ('^', false) :: inner => (true, inner)
        | _ => (false, rest)
      match bracketRanges (inner.length + 1) true [] inner with
      | some (ranges, after) => .set negated ranges :: readGlobs fuel after
      | none => .char '[' :: readGlobs fuel rest
    | (c, _) :: rest => .char c :: readGlobs fuel rest

/-- The pattern of marked characters. -/
def globs (s : List Marked) : List Glob := readGlobs (s.length + 1) s

/-- Whether a pattern matches more than one text. -/
def isGlob (p : List Glob) : Bool :=
  p.any fun g =>
    match g with
    | .char _ => false
    | _ => true

/-! ## Matching -/

/-- Whether a part of a pattern takes a character. -/
def Glob.takes (g : Glob) (c : Char) : Bool :=
  match g with
  | .char d => c == d
  | .any => true
  | .star => true
  | .set negated ranges => (ranges.any fun (lo, hi) => lo ≤ c && c ≤ hi) != negated

/-- Whether a property holds of some end of a text. -/
def anyEnd (p : Str → Bool) : Str → Bool
  | [] => p []
  | c :: rest => p (c :: rest) || anyEnd p rest

/-- Whether a pattern matches a text. -/
def matchGlobs : List Glob → Str → Bool
  | [], s => s.isEmpty
  | .star :: p, s => anyEnd (matchGlobs p) s
  | g :: p, s =>
    match s with
    | [] => false
    | c :: rest => g.takes c && matchGlobs p rest

/-! ## Parts of texts -/

/-- The lengths of the beginnings of a text that match, in increasing order. -/
def matchingFronts (p : List Glob) (s : Str) : List Nat :=
  (List.range (s.length + 1)).filter fun n => matchGlobs p (s.take n)

/-- The text without a beginning that matches. -/
def trimFront (longest : Bool) (p : List Glob) (s : Str) : Str :=
  let fronts := matchingFronts p s
  match if longest then fronts.getLast? else fronts.head? with
  | some n => s.drop n
  | none => s

/-- The text without an end that matches. -/
def trimBack (longest : Bool) (p : List Glob) (s : Str) : Str :=
  let cuts := (List.range (s.length + 1)).filter fun n => matchGlobs p (s.drop n)
  match if longest then cuts.head? else cuts.getLast? with
  | some n => s.take n
  | none => s

/-- The text with its first match, or all its matches, replaced; the replacement is told the match. -/
def replaceMatches (all : Bool) (p : List Glob) (replacement : Str → Str) : Nat → Str → Str
  | 0, s => s
  | fuel + 1, s =>
    match (matchingFronts p s).getLast?, s with
    | some 0, [] => []
    | some 0, c :: rest => c :: replaceMatches all p replacement fuel rest
    | some n, _ =>
      let done := replacement (s.take n)
      if all then done ++ replaceMatches all p replacement fuel (s.drop n) else done ++ s.drop n
    | none, c :: rest => c :: replaceMatches all p replacement fuel rest
    | none, [] => []

/-- The text with a match replaced: `/` the first one, `a` all, `#` at the front, `%` at the end. -/
def replaceIn (which : Char) (p : List Glob) (replacement : Str → Str) (s : Str) : Str :=
  match which with
  | '#' =>
    match (matchingFronts p s).getLast? with
    | some n => replacement (s.take n) ++ s.drop n
    | none => s
  | '%' =>
    match (List.range (s.length + 1)).find? fun n => matchGlobs p (s.drop n) with
    | some n => s.take n ++ replacement (s.drop n)
    | none => s
  | _ => replaceMatches (which == 'a') p replacement (s.length + 1) s

end FuzzCampaign.Shell
