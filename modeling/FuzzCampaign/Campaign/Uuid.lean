import FuzzCampaign.Json.Term
import FuzzCampaign.Text.Blank
set_option autoImplicit false

/-! # Universally unique identifiers

Identifiers of 128 bits. They are written as five groups of lower-case hexadecimal digits; they are also
read without hyphens, in braces, and as a resource name. -/

namespace FuzzCampaign

/-- An identifier of 128 bits. -/
structure Uuid where
  bits : BitVec 128
deriving DecidableEq, Repr

namespace Uuid

/-- A digit of base sixteen. -/
def digit (n : Nat) : Char := if n < 10 then Char.ofNat (48 + n) else Char.ofNat (87 + n)

/-- The last `count` hexadecimal digits of a number, the most significant first. -/
def digits : Nat → Nat → List Char
  | 0, _ => []
  | count + 1, n => digits count (n / 16) ++ [digit (n % 16)]

/-- The thirty-two digits without hyphens. -/
def simple (id : Uuid) : List Char := digits 32 id.bits.toNat

/-- The digits in groups of 8, 4, 4, 4 and 12. -/
def hyphenated (id : Uuid) : List Char :=
  let ds := id.simple
  ds.take 8 ++ '-' :: (ds.drop 8).take 4 ++ '-' :: (ds.drop 12).take 4 ++
    '-' :: (ds.drop 16).take 4 ++ '-' :: ds.drop 20

/-- The written form. -/
def toText (id : Uuid) : String := String.ofList id.hyphenated

/-- The identifier with these thirty-two digits. -/
def ofDigits? (ds : List Char) : Option Uuid :=
  if ds.length = 32 then
    (ds.foldl (fun n c => n.bind fun n => (Json.hexValue? c).map (n * 16 + ·)) (some 0)).map
      fun n => ⟨BitVec.ofNat 128 n⟩
  else none

/-- The identifier in groups. -/
def ofHyphenated? (cs : List Char) : Option Uuid :=
  if cs.length = 36 ∧ cs[8]? = some '-' ∧ cs[13]? = some '-' ∧ cs[18]? = some '-' ∧ cs[23]? = some '-' then
    ofDigits? (cs.take 8 ++ (cs.drop 9).take 4 ++ (cs.drop 14).take 4 ++ (cs.drop 19).take 4 ++ cs.drop 24)
  else none

/-- The identifier of a text in any accepted form. -/
def ofText? (text : String) : Option Uuid :=
  let cs := text.toList
  if cs.length = 32 then ofDigits? cs
  else if cs.length = 36 then ofHyphenated? cs
  else if cs.length = 38 ∧ cs.head? = some '\x7b' ∧ cs.getLast? = some '\x7d' then
    ofHyphenated? ((cs.drop 1).take 36)
  else if cs.length = 45 then (Text.after? "urn:uuid:".toList cs).bind ofHyphenated?
  else none

/-- A random identifier: of the random bits, six are replaced by the version and the variant. -/
def ofRandom (random : BitVec 128) : Uuid :=
  ⟨(random &&& ~~~(0xF000C000000000000000#128)) ||| 0x40008000000000000000#128⟩

/-- The version of an identifier. -/
def version (id : Uuid) : Nat := id.bits.toNat / 2 ^ 76 % 16

end Uuid

end FuzzCampaign
