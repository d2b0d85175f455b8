import FuzzCampaign.Text.Utf8
set_option autoImplicit false

/-! # Shell programs

The syntax of the shell language in which lifecycle scripts are written: words, which are expanded when
they are used, and commands. Commands carry the number of the line on which they begin, because messages
and the variable of line numbers show it; words carry the text they were written as, because the
execution trace shows some words unexpanded. -/

namespace FuzzCampaign.Shell

/-- Text as the shell sees it: bytes, each as the character of its number. -/
abbrev Str : Type := List Char

/-- The bytes of a text. -/
def Str.ofString (s : String) : Str := (Text.encode s).map fun b => Char.ofNat b.toNat

/-- The bytes, as numbers. -/
def Str.bytes (s : Str) : List UInt8 := s.map fun c => UInt8.ofNat c.toNat

/-- What ends one alternative of a `case`. -/
inductive CaseEnd where
  | leave
  | fallThrough
  | testNext
deriving DecidableEq

/-- The kinds of redirections. -/
inductive RedirectKind where
  | input
  | output
  /-- Output even to a file that must not be overwritten. -/
  | clobber
  | append
  | readWrite
  | copyInput
  | copyOutput
  /-- Standard output and standard error together. -/
  | both
  | bothAppend
  | hereText
  | hereString
deriving DecidableEq

mutual

/-- A piece of a word. -/
inductive Part where
  /-- Text outside quotes. -/
  | plain (text : Str)
  /-- Text inside quotes, or behind a backslash. -/
  | quoted (text : Str)
  /-- A parameter. -/
  | param (param : Param) (inQuotes : Bool)
  /-- The output of commands, with the line that counts as that of the command around them. -/
  | output (start : Nat) (body : List Command) (inQuotes : Bool)
  /-- The value of an arithmetic expression. -/
  | arith (expr : List Part) (inQuotes : Bool)
  /-- The elements of an array, in an assignment; their names are the texts they were written as. -/
  | elements (items : List Assign)

/-- A word and the text it was written as. -/
inductive Word where
  | mk (raw : Str) (parts : List Part)

/-- Which element of an array is meant. -/
inductive Subscript where
  /-- There is no subscript. -/
  | absent
  | at (expr : List Part)
  /-- All elements, as words of their own. -/
  | each
  /-- All elements, joined. -/
  | joined

/-- A parameter with what is done to its value. -/
inductive Param where
  | mk (name : String) (subscript : Subscript) (indirect : Bool) (op : ParamOp)

/-- What is done to the value of a parameter. -/
inductive ParamOp where
  | value
  | length
  /-- Another text when the parameter is unset, or set (`+`); with a colon, empty counts as unset. -/
  | fallback (colon : Bool) (kind : Char) (other : List Part)
  /-- Without the shortest or longest beginning or end that matches a pattern. -/
  | trim (atEnd longest : Bool) (pattern : List Part)
  /-- The text from an offset on. -/
  | dropTo (offset : List Part)
  /-- The text of a length from an offset on. -/
  | slice (offset length : List Part)
  /-- With matches of a pattern replaced: `/` the first one, `a` all, `#` at the front, `%` at the end. -/
  | replace (which : Char) (pattern replacement : List Part)
  /-- With another case of letters. -/
  | recase (upper all : Bool) (pattern : List Part)
  | transform (kind : Char)
  /-- The names that begin with the name given, or the subscripts of an array. -/
  | names (joined : Bool)
  /-- Something that is no parameter, as written. -/
  | malformed (raw : Str)

/-- An assignment. -/
inductive Assign where
  | mk (name : String) (subscript : Subscript) (append : Bool) (value : List Part)

/-- A redirection of a descriptor; of the kind's own descriptor when none is given. -/
inductive Redirect where
  | mk (fd : Option Nat) (kind : RedirectKind) (target : Word)

/-- A condition between double brackets. -/
inductive Condition where
  | word (w : Word)
  | unary (op : Str) (w : Word)
  | binary (op : Str) (left right : Word)
  | negation (c : Condition)
  | both (left right : Condition)
  | either (left right : Condition)

/-- One alternative of a `case`. -/
inductive Clause where
  | mk (patterns : List Word) (body : List Command) (ending : CaseEnd)

/-- A command. -/
inductive Command where
  | simple (line : Nat) (assigns : List Assign) (words : List Word) (redirects : List Redirect)
  | pipeline (stages : List Command)
  | negation (command : Command)
  /-- The second command runs when the first succeeds. -/
  | both (first second : Command)
  /-- The second command runs when the first fails. -/
  | either (first second : Command)
  | background (line : Nat) (command : Command)
  | subshell (line : Nat) (body : List Command)
  | group (body : List Command)
  | redirected (line : Nat) (command : Command) (redirects : List Redirect)
  | ifThen (test body otherwise : List Command)
  | forIn (line : Nat) (name : Str) (words : List Word) (body : List Command)
  | forArith (line : Nat) (start test step : List Part) (body : List Command)
  | loop (whileTrue : Bool) (test body : List Command)
  | choose (line : Nat) (word : Word) (clauses : List Clause)
  | define (line : Nat) (name : Str) (body : Command)
  | arith (line : Nat) (expr : List Part)
  | test (line : Nat) (condition : Condition)

end

/-- The text a word was written as. -/
def Word.raw : Word → Str
  | .mk raw _ => raw

/-- The pieces of a word. -/
def Word.parts : Word → List Part
  | .mk _ parts => parts

end FuzzCampaign.Shell
