import FuzzCampaign.Error
import FuzzCampaign.Ordered
import FuzzCampaign.Text.Quoted
set_option autoImplicit false

/-! # Names of checks and tags, and the tag filter

A name has 1 to 255 bytes: letters, digits, periods, underscores, colons, slashes, hyphens, and spaces
between them. The tag filter chooses the checks that take part: none that carries an excluded tag and,
when there are included tags, only those that carry one of them. -/

namespace FuzzCampaign

/-! ## Names -/

/-- The longest name, in bytes. -/
def maxNameBytes : Nat := 255

/-- A character that may stand anywhere in a name. -/
def isNameChar (c : Char) : Bool :=
  c.isAlphanum || c == '.' || c == '_' || c == ':' || c == '/' || c == '-'

/-- A character that may stand inside a name. -/
def isInnerNameChar (c : Char) : Bool := isNameChar c || c == ' '

/-- Only characters of names, and no space at either end. -/
def hasNameShape (name : String) : Bool :=
  let cs := name.toList
  cs.all isInnerNameChar && cs.head?.any isNameChar && cs.getLast?.any isNameChar

/-- The beginning of an overlong name. -/
def shortened (name : String) : String := String.ofList (name.toList.take 32 ++ ['…'])

/-- Refuse a name that is not legal; `what` is what it names. -/
def legalName (what name : String) : Except CampaignError Unit :=
  if name.isEmpty then .error (.config (what ++ " name must not be empty"))
  else if maxNameBytes < name.utf8ByteSize then
    .error (.config (what ++ " name is longer than " ++ toString maxNameBytes ++ " bytes: " ++
      Text.quoted (shortened name)))
  else if !hasNameShape name then
    .error (.config (what ++ " name " ++ Text.quoted name ++
      " may only use letters, digits, inner spaces and ._:/-"))
  else .ok ()

/-- Refuse the first name of a list that is not legal. -/
def legalNames (what : String) : List String → Except CampaignError Unit
  | [] => .ok ()
  | name :: rest =>
    match legalName what name with
    | .error e => .error e
    | .ok () => legalNames what rest

/-! ## The filter -/

/-- Which checks take part. -/
structure TagFilter where
  included : StringSet
  excluded : StringSet
deriving DecidableEq, Repr, Inhabited

namespace TagFilter

/-- The filter of two lists of tags; every tag must be legal and none in both lists. -/
def ofLists (included excluded : List String) : Except CampaignError TagFilter :=
  let filter : TagFilter := ⟨.ofList included, .ofList excluded⟩
  match legalNames "tag" (filter.included.toList ++ filter.excluded.toList) with
  | .error e => .error e
  | .ok () =>
    match filter.included.toList.find? filter.excluded.contains with
    | some tag => .error (.config ("tag " ++ Text.quoted tag ++ " is both included and excluded"))
    | none => .ok filter

/-- Whether a check with these tags is left out. -/
def excludes (filter : TagFilter) (tags : StringSet) : Bool :=
  tags.toList.any filter.excluded.contains ||
    (!filter.included.isEmpty && !tags.toList.any filter.included.contains)

/-- The tags of both lists. -/
def allTags (filter : TagFilter) : StringSet := filter.included.union filter.excluded

end TagFilter

end FuzzCampaign
