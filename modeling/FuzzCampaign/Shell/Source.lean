import FuzzCampaign.Number.Decimal
import FuzzCampaign.Shell.Syntax
set_option autoImplicit false

/-! # Reading shell programs: the source

A source is the text that is still to be read, with the number of its line. Lines that were taken out of
it, the texts of here-documents, leave a mark behind so that the lines after them keep their numbers. -/

namespace FuzzCampaign.Shell

/-- Why a program cannot be read. -/
inductive SyntaxFault where
  | unexpected (token : Str)
  | endOfFile
  /-- A quote or a bracket is never closed. -/
  | unclosed (closer : Str)
  /-- A condition between double brackets has no meaning: what is said about it, and the token at which that
  was found out. -/
  | condition (texts : List Str) (token : Str)

/-- A here-document that the end of the text ends. -/
structure UnfinishedHere where
  /-- The line from which it was looked for. -/
  begun : Nat
  /-- The last line. -/
  ended : Nat
  /-- The line that should have ended it. -/
  stop : Str

/-- A fault and its line, after what else was noticed. -/
structure SyntaxError where
  line : Nat
  fault : SyntaxFault
  unfinished : List UnfinishedHere := []

/-- What is said about a fault. -/
def SyntaxFault.messages : SyntaxFault → List Str
  | .unexpected token => ["syntax error near unexpected token `".toList ++ token ++ ['\x27']]
  | .endOfFile => ["syntax error: unexpected end of file".toList]
  | .unclosed closer => ["unexpected EOF while looking for matching `".toList ++ closer ++ ['\x27']]
  | .condition texts token => texts ++ ["syntax error near `".toList ++ token ++ ['\x27']]

/-- Whether the line of a fault is shown. -/
def SyntaxFault.showsLine : SyntaxFault → Bool
  | .unexpected _ | .condition .. => true
  | .endOfFile | .unclosed _ => false

/-- Text that is still to be read. -/
structure Source where
  rest : Str
  line : Nat := 1
  /-- The here-documents without an end so far. -/
  unfinished : List UnfinishedHere := []
deriving Inhabited

/-- Reads something from a source. -/
abbrev Parse (α : Type) : Type := StateT Source (Except SyntaxError) α

/-! ## Characters -/

/-- The mark of lines that were taken out. No byte has its number. -/
def skipMark (lines : Nat) : Char := Char.ofNat (256 + min lines 50000)

/-- How many lines a mark stands for, zero for a byte. -/
def skippedLines (c : Char) : Nat := c.toNat - 256

/-- Characters that separate words. -/
def isBlankChar (c : Char) : Bool := c == ' ' || c == '\t' || 256 ≤ c.toNat

/-- Characters that end a word outside quotes. -/
def isMeta (c : Char) : Bool :=
  isBlankChar c || c == '\n' || c == ';' || c == '&' || c == '|' || c == '<' || c == '>' ||
    c == '(' || c == ')'

/-- A character with which a name may begin. -/
def isNameStart (c : Char) : Bool := c.isAlpha || c == '_'

/-- A character of a name. -/
def isNameChar (c : Char) : Bool := c.isAlphanum || c == '_'

/-- Whether a text is the name of a variable. -/
def isName (s : Str) : Bool :=
  match s with
  | [] => false
  | c :: rest => isNameStart c && rest.all isNameChar

namespace Parse

/-- The fault at a line. -/
def faultAt {α : Type} (line : Nat) (fault : SyntaxFault) : Parse α := fun src =>
  .error { line, fault, unfinished := src.unfinished }

/-- The fault at the current line. -/
def fault {α : Type} (f : SyntaxFault) : Parse α := fun src => faultAt src.line f src

/-- The text that is still to be read. -/
def rest : Parse Str := return (← get).rest

/-- The current line. -/
def line : Parse Nat := return (← get).line

/-- The next character. -/
def peek : Parse (Option Char) := return (← get).rest.head?

/-- Whether a given text follows. -/
def follows (text : String) : Parse Bool := return text.toList.isPrefixOf (← get).rest

/-- The source after some characters. -/
def after : Nat → Source → Source
  | 0, src => src
  | n + 1, src =>
    match src.rest with
    | [] => src
    | c :: rest => after n { src with rest, line := src.line + (if c == '\n' then 1 else skippedLines c) }

/-- Pass over some characters. -/
def drop (n : Nat) : Parse Unit := modify (after n)

/-- Pass over the characters of a class. -/
def dropWhile (p : Char → Bool) : Parse Unit := fun src =>
  .ok ((), after (src.rest.takeWhile p).length src)

/-- The characters of a class at the front. -/
def takeWhile (p : Char → Bool) : Parse Str := fun src =>
  let found := src.rest.takeWhile p
  .ok (found, after found.length src)

/-- Pass over a given text when it follows. -/
def accept (text : String) : Parse Bool := fun src =>
  if text.toList.isPrefixOf src.rest then .ok (true, after text.length src) else .ok (false, src)

/-- What was read between two sources. -/
def between (start finish : Source) : Str :=
  (start.rest.take (start.rest.length - finish.rest.length)).filter fun c => c.toNat < 256

/-- Read something, with the text it was written as. -/
def withRaw {α : Type} (p : Parse α) : Parse (Str × α) := fun src =>
  match p src with
  | .ok (x, after) => .ok ((between src after, x), after)
  | .error e => .error e

/-- Read something that may turn out to be something else. -/
def tryParse {α : Type} (p : Parse α) : Parse (Option α) := fun src =>
  match p src with
  | .ok (x, after) => .ok (some x, after)
  | .error _ => .ok (none, src)

/-- Pass over blanks, joined lines and comments. -/
def blanks : Parse Unit := fun src => .ok ((), go src.rest.length src)
where
  /-- Passes over at most `fuel` blanks. -/
  go : Nat → Source → Source
    | 0, src => src
    | fuel + 1, src =>
      match src.rest with
      | '\\' :: '\n' :: _ => go fuel (after 2 src)
      | '#' :: _ => after (src.rest.takeWhile (· != '\n')).length src
      | c :: _ => if isBlankChar c then go fuel (after 1 src) else src
      | [] => src

/-- Pass over blanks, comments and ends of lines. -/
def blankLines : Parse Unit := fun src => go (src.rest.length + 1) src
where
  /-- Passes over at most `fuel` lines. -/
  go : Nat → Source → Except SyntaxError (Unit × Source)
    | 0, src => .ok ((), src)
    | fuel + 1, src =>
      match blanks src with
      | .error e => .error e
      | .ok ((), src) =>
        match src.rest with
        | '\n' :: _ => go fuel (after 1 src)
        | _ => .ok ((), src)

end Parse

/-! ## Here-documents -/

/-- What was found of a here-document. -/
structure HereLines where
  body : Str := []
  /-- How many lines it takes, with the one that ends it. -/
  count : Nat := 0
  /-- Whether there is a line that ends it. -/
  hasEnd : Bool := false
  /-- What follows it. -/
  rest : Str := []

/-- The lines of a here-document, up to the line that ends it. -/
def hereLines (stop : Str) (stripTabs : Bool) : Nat → HereLines → HereLines
  | 0, found => found
  | fuel + 1, found =>
    match found.rest with
    | [] => found
    | c :: more =>
      if 256 ≤ c.toNat then
        hereLines stop stripTabs fuel { found with count := found.count + skippedLines c, rest := more }
      else
        let written := found.rest.takeWhile (· != '\n')
        let next := found.rest.drop (written.length + 1)
        let text := if stripTabs then written.dropWhile (· == '\t') else written
        if text == stop then { found with count := found.count + 1, hasEnd := true, rest := next }
        else
          hereLines stop stripTabs fuel
            { found with body := found.body ++ text ++ ['\n'], count := found.count + 1, rest := next }

/-- Take the text of a here-document out of the lines after the current one. -/
def takeHereText (stop : Str) (stripTabs : Bool) : Parse Str := fun src =>
  let current := src.rest.takeWhile (· != '\n')
  let following := src.rest.drop (current.length + 1)
  let marks := following.takeWhile fun c => 256 ≤ c.toNat
  let found := hereLines stop stripTabs (following.length + 1) { rest := following }
  let begun := marks.foldl (fun line mark => line + skippedLines mark) src.line
  let unfinished : List UnfinishedHere :=
    if found.hasEnd then [] else [{ begun, ended := src.line + found.count, stop }]
  .ok (found.body, { src with
    rest := current ++ ['\n', skipMark found.count] ++ found.rest
    unfinished := src.unfinished ++ unfinished })

end FuzzCampaign.Shell
