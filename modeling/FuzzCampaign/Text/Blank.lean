set_option autoImplicit false

/-! # Blanks and lines

The characters that count as white space in Unicode, trimming, and the cutting of a text into lines. -/

namespace FuzzCampaign.Text

/-! ## White space -/

/-- The characters with the Unicode property of white space. -/
def isBlank (c : Char) : Bool :=
  let n := c.toNat
  (9 ≤ n && n ≤ 13) || n == 0x20 || n == 0x85 || n == 0xA0 || n == 0x1680 ||
    (0x2000 ≤ n && n ≤ 0x200A) || n == 0x2028 || n == 0x2029 || n == 0x202F || n == 0x205F || n == 0x3000

/-- Nothing but white space. -/
def allBlank (text : String) : Bool := text.toList.all isBlank

/-- Without white space at the front. -/
def trimStart (cs : List Char) : List Char := cs.dropWhile isBlank

/-- Without white space at the end. -/
def trimEnd (cs : List Char) : List Char := (cs.reverse.dropWhile isBlank).reverse

/-- Without white space at either end. -/
def trim (cs : List Char) : List Char := trimEnd (trimStart cs)

/-! ## Lines -/

/-- The pieces of a list between occurrences of `separator`; one more piece than there are separators. -/
def splitAll {α : Type} [BEq α] (separator : α) (items : List α) : List (List α) :=
  go items []
where
  /-- Collects the current piece in reverse. -/
  go : List α → List α → List (List α)
    | [], piece => [piece.reverse]
    | x :: rest, piece => if x == separator then piece.reverse :: go rest [] else go rest (x :: piece)

/-- Without one carriage return at the end. -/
def dropReturn (line : List Char) : List Char :=
  if line.getLast? = some '\r' then line.dropLast else line

/-- Without any carriage return at the end. -/
def dropReturns (line : List Char) : List Char := (line.reverse.dropWhile (· == '\r')).reverse

/-- The lines of a text. A line ends with a line feed, which with a carriage return before it is not
part of the line; what follows the last line feed is a line when it is not empty. -/
def lines (text : String) : List String :=
  let pieces := splitAll '\n' text.toList
  let ended := pieces.dropLast.map dropReturn
  let last := (pieces.getLast?).getD []
  ((if last.isEmpty then ended else ended ++ [last])).map String.ofList

/-- Whether `needle` occurs in `haystack`. -/
def contains (needle : List Char) : List Char → Bool
  | [] => needle.isEmpty
  | haystack@(_ :: rest) => needle.isPrefixOf haystack || contains needle rest

/-- The text after `front`, when the text starts with it. -/
def after? (front : List Char) (text : List Char) : Option (List Char) :=
  if front.isPrefixOf text then some (text.drop front.length) else none

end FuzzCampaign.Text
