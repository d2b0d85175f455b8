import FuzzCampaign.Shell.ReadWord
import FuzzCampaign.Text.Blank
set_option autoImplicit false

/-! # Reading shell programs: commands

A program is read line by line, and the commands of one line are run before the next line is read; a
command that goes over several lines counts as one. The readers take as a parameter one that reads
commands up to something that cannot begin one. -/

namespace FuzzCampaign.Shell

open Parse

/-! ## What stands at the front -/

/-- The characters up to one that ends words. -/
def frontWord : Parse Str := return (← rest).takeWhile fun c => !isMeta c

/-- The operators, longest first. -/
def operators : List String :=
  ["<<-", "<<<", "&>>", ";;&", "&&", "||", ";;", ";&", "|&", "<<", ">>", "<&", ">&", "<>", ">|", "&>",
    "&", ";", "|", "<", ">", "(", ")"]

/-- Words that are commands of their own or parts of them where a command begins. -/
def closingWords : List String := ["then", "do", "done", "fi", "elif", "else", "esac", "\x7d"]

section

variable (commands : Parse (List Command))

/-- The fault of what stands at the front. -/
def unexpected {α : Type} : Parse α := do
  let text ← rest
  match text with
  | [] => fault .endOfFile
  | '\n' :: _ => fault (.unexpected "newline".toList)
  | _ =>
    match operators.find? fun op => op.toList.isPrefixOf text with
    | some op => fault (.unexpected op.toList)
    | none => fault (.unexpected (← word commands).raw)

/-- Pass over a word that must follow. -/
def expectWord (w : String) : Parse Unit := do
  if (← frontWord) = w.toList then drop w.length else unexpected commands

/-- Pass over an operator that must follow. -/
def expectOp (op : String) : Parse Unit := do
  if ← accept op then return () else unexpected commands

/-- Commands, at least one. -/
def someCommands : Parse (List Command) := do
  let found ← commands
  if found.isEmpty then unexpected commands else return found

/-- A word that must follow. -/
def someWord : Parse Word := do
  blanks
  match ← peek with
  | none => unexpected commands
  | some c => if isMeta c then unexpected commands else word commands

/-! ## Redirections -/

/-- The kinds of redirections and how they are written, longer ones first. -/
def redirectOps : List (String × RedirectKind) :=
  [("<<<", .hereString), ("<<", .hereText), ("<&", .copyInput), ("<>", .readWrite), ("<", .input),
    (">>", .append), (">&", .copyOutput), (">|", .clobber), (">", .output), ("&>>", .bothAppend),
    ("&>", .both)]

/-- The operator of a redirection with its descriptor, when one follows. -/
def redirectFront : Parse (Option (Option Nat × RedirectKind)) := do
  let text ← rest
  let digits := text.takeWhile Char.isDigit
  let after := text.drop digits.length
  match redirectOps.find? fun (op, _) => op.toList.isPrefixOf after with
  | none => return none
  | some (op, kind) =>
    if digits.isEmpty then drop op.length; return some (none, kind)
    else if kind = .both ∨ kind = .bothAppend then return none
    else
      drop (digits.length + op.length)
      return some (some (Decimal.valueFrom 0 digits), kind)

/-- Text with its quotes removed, as the end of a here-document is written; whether any were there. -/
def unquoted (parts : List Part) : Str × Bool :=
  parts.foldl (fun (text, quoted) part =>
    match part with
    | .plain t => (text ++ t, quoted)
    | .quoted t => (text ++ t, true)
    | _ => (text, quoted)) ([], false)

/-- A redirection after its operator. -/
def redirectTarget (fd : Option Nat) (kind : RedirectKind) : Parse Redirect := do
  if kind = .hereText then
    let stripTabs ← accept "-"
    let stop ← someWord commands
    let (text, quoted) := unquoted stop.parts
    let stopText := if quoted then text else stop.raw
    let line ← line
    let body ← takeHereText stopText stripTabs
    if quoted then return .mk fd kind (.mk stopText [.quoted body])
    else
      match (wordReaders commands maxWordDepth).parts { quoting := .here, stop := fun _ => false }
          { rest := body, line := line + 1 } with
      | .ok (parts, _) => return .mk fd kind (.mk stopText parts)
      | .error e => fun _ => .error e
  else return .mk fd kind (← someWord commands)

/-- Redirections, as many as follow. -/
def redirects : Nat → Parse (List Redirect)
  | 0 => return []
  | fuel + 1 => do
    blanks
    match ← redirectFront with
    | none => return []
    | some (fd, kind) =>
      let first ← redirectTarget commands fd kind
      return first :: (← redirects fuel)

/-- A compound command with the redirections after it. -/
def withRedirects (c : Command) : Parse Command := do
  let line ← line
  let found ← redirects commands ((← rest).length + 1)
  return if found.isEmpty then c else .redirected line c found

/-! ## Assignments -/

/-- What stands before the value of an assignment, when one follows: its name, its subscript, whether it
appends. -/
def assignFront : Parse (Option (String × Subscript × Bool)) := do
  let text ← rest
  match text with
  | c :: _ =>
    if !isNameStart c then return none
    else
      let name := text.takeWhile isNameChar
      match text.drop name.length with
      | '=' :: _ => drop (name.length + 1); return some (String.ofList name, .absent, false)
      | '+' :: '=' :: _ => drop (name.length + 2); return some (String.ofList name, .absent, true)
      | '[' :: _ =>
        tryParse do
          drop name.length
          let index ← subscript (wordReaders commands maxWordDepth)
          if ← accept "=" then return (String.ofList name, index, false)
          else if ← accept "+=" then return (String.ofList name, index, true)
          else fault .endOfFile
      | _ => return none
  | [] => return none

/-- The elements of an array up to the closing parenthesis, each with the text it was written as in place
of a name. -/
def arrayElements : Nat → Parse (List Assign)
  | 0 => unexpected commands
  | fuel + 1 => do
    blankLines
    match ← rest with
    | ')' :: _ => drop 1; return []
    | '[' :: _ =>
      let start ← get
      let keyed ← tryParse do
        let index ← subscript (wordReaders commands maxWordDepth)
        if ← accept "=" then return index else fault .endOfFile
      let value ← word commands
      let raw := String.ofList (between start (← get))
      return .mk raw (keyed.getD .absent) false value.parts :: (← arrayElements fuel)
    | _ =>
      let value ← someWord commands
      return .mk (String.ofList value.raw) .absent false value.parts :: (← arrayElements fuel)

/-- The value of an assignment. -/
def assignValue : Parse (List Part) := do
  let start ← get
  match start.rest with
  | '(' :: _ =>
    drop 1
    match arrayElements commands (start.rest.length + 1) (← get) with
    | .ok (items, after) => set after; return [.elements items]
    | .error e =>
      match e.fault with
      | .endOfFile => faultAt start.line (.unclosed [')'])
      | _ => fun _ => .error e
  | _ => return (← word commands).parts

/-- An assignment, when one follows. -/
def assign : Parse (Option Assign) := do
  match ← assignFront commands with
  | none => return none
  | some (name, index, append) => return some (.mk name index append (← assignValue commands))

/-! ## Simple commands -/

/-- The commands whose arguments may be assignments of arrays. -/
def declaring : List String := ["declare", "typeset", "local", "export", "readonly"]

/-- An argument; after a declaring command it may be the assignment of an array. -/
def argument (isDeclaring : Bool) : Parse Word := do
  if isDeclaring then
    let text ← rest
    let name := text.takeWhile isNameChar
    let isArray := isName name && ("=(".toList.isPrefixOf (text.drop name.length) ||
      "+=(".toList.isPrefixOf (text.drop name.length))
    if isArray then
      let front := name ++ (text.drop name.length).takeWhile (· != '(')
      let (raw, parts) ← withRaw do
        drop front.length
        assignValue commands
      return .mk raw (.plain front :: parts)
    else word commands
  else word commands

/-- The parts of a simple command, with the line on which its second token ends. -/
structure SimpleParts where
  line : Nat
  assigns : List Assign := []
  words : List Word := []
  redirects : List Redirect := []

/-- The parts that were found, of which the next ends on a line. -/
def SimpleParts.endingAt (found : SimpleParts) (line : Nat) : SimpleParts :=
  if found.assigns.length + found.words.length + found.redirects.length < 2 then { found with line } else found

/-- The parts of a simple command, up to what ends it. -/
def simpleParts : Nat → SimpleParts → Parse SimpleParts
  | 0, found => return found
  | fuel + 1, found => do
    blanks
    let line ← line
    match ← redirectFront with
    | some (fd, kind) =>
      let found := found.endingAt line
      let r ← redirectTarget commands fd kind
      simpleParts fuel { found with redirects := found.redirects ++ [r] }
    | none =>
      match ← peek with
      | none => return found.endingAt line
      | some c =>
        if isMeta c then return found.endingAt line
        else
          let assigned ← if found.words.isEmpty then assign commands else pure none
          match assigned with
          | some a =>
            let found := found.endingAt (← Parse.line)
            simpleParts fuel { found with assigns := found.assigns ++ [a] }
          | none =>
            let isDeclaring := match found.words with
              | first :: _ => declaring.any fun d => first.raw == d.toList
              | [] => false
            let w ← argument commands isDeclaring
            let found := found.endingAt (← Parse.line)
            simpleParts fuel { found with words := found.words ++ [w] }

/-- The body of a function: a compound command, given by its reader, with redirections. -/
def functionBody (compound : Parse (Option Command)) : Parse Command := do
  blankLines
  match ← compound with
  | some body => return body
  | none => unexpected commands

/-- A simple command, or the definition of a function. -/
def simple (compound : Parse (Option Command)) : Parse Command := do
  let line ← line
  let found ← simpleParts commands ((← rest).length + 1) { line }
  match found.words, found.assigns, found.redirects, ← peek with
  | [name], [], [], some '(' =>
    drop 1
    blanks
    expectOp commands ")"
    return .define line name.raw (← functionBody commands compound)
  | [], [], [], _ => unexpected commands
  | _, _, _, _ => return .simple found.line found.assigns found.words found.redirects

/-! ## Compound commands -/

/-- The rest of an `if` after its first word. -/
def ifRest : Nat → Parse Command
  | 0 => unexpected commands
  | fuel + 1 => do
    let test ← someCommands commands
    expectWord commands "then"
    let body ← someCommands commands
    let next ← frontWord
    if next = "elif".toList then
      drop 4
      return .ifThen test body [← ifRest fuel]
    else if next = "else".toList then
      drop 4
      let otherwise ← someCommands commands
      expectWord commands "fi"
      return .ifThen test body otherwise
    else
      expectWord commands "fi"
      return .ifThen test body []

/-- The body of a loop between `do` and `done`. -/
def doBody : Parse (List Command) := do
  blankLines
  expectWord commands "do"
  let body ← someCommands commands
  expectWord commands "done"
  return body

/-- Words up to the end of a line or a semicolon. -/
def wordList : Nat → Parse (List Word)
  | 0 => return []
  | fuel + 1 => do
    blanks
    match ← peek with
    | none => return []
    | some c =>
      if isMeta c then return []
      else
        let w ← word commands
        return w :: (← wordList fuel)

/-- The words that stand for the positional parameters. -/
def allParameters : Word :=
  .mk "\"$@\"".toList [.param (.mk "@" .absent false .value) true]

/-- The three expressions of an arithmetic loop, cut at semicolons. -/
def loopExprs (parts : List Part) : List (List Part) :=
  parts.foldr (fun part groups =>
    match part with
    | .quoted text => add (Text.splitAll ';' text) groups
    | part => match groups with
      | g :: rest => (part :: g) :: rest
      | [] => [[part]]) [[]]
where
  /-- Puts pieces of text before the groups; the last piece belongs to the first group. -/
  add : List Str → List (List Part) → List (List Part)
    | [], groups => groups
    | [piece], g :: rest => (.quoted piece :: g) :: rest
    | [piece], [] => [[.quoted piece]]
    | piece :: more, groups => [.quoted piece] :: add more groups

/-- A loop over words or an arithmetic loop, after its first word. -/
def forRest (line : Nat) : Parse Command := do
  blanks
  if ← accept "((" then
    match ← arithText (wordReaders commands maxWordDepth) (← rest).length 0 [] with
    | none => faultAt line (.unclosed [')'])
    | some expr =>
      let exprs := loopExprs expr
      blanks
      let _ ← accept ";"
      blankLines
      let body ← if (← frontWord) = ['\x7b'] then do
          drop 1
          let body ← someCommands commands
          expectWord commands "\x7d"
          pure body
        else doBody commands
      return .forArith line (exprs.getD 0 []) (exprs.getD 1 []) (exprs.getD 2 []) body
  else
    let name ← someWord commands
    blankLines
    let words ← if (← frontWord) = "in".toList then do
        drop 2
        let words ← wordList commands ((← rest).length + 1)
        blanks
        if !(← accept ";") && (← peek) != some '\n' then unexpected commands
        pure words
      else do
        let _ ← accept ";"
        pure [allParameters]
    return .forIn line name.raw words (← doBody commands)

/-- The patterns of one alternative of a `case`, up to the closing parenthesis. -/
def casePatterns : Nat → Parse (List Word)
  | 0 => unexpected commands
  | fuel + 1 => do
    let pattern ← someWord commands
    blanks
    if ← accept "|" then return pattern :: (← casePatterns fuel)
    else
      expectOp commands ")"
      return [pattern]

/-- The alternatives of a `case`. -/
def caseClauses : Nat → Parse (List Clause)
  | 0 => unexpected commands
  | fuel + 1 => do
    blankLines
    if (← frontWord) = "esac".toList then drop 4; return []
    else
      let _ ← accept "("
      blanks
      let patterns ← casePatterns commands ((← rest).length + 1)
      let body ← commands
      blankLines
      if ← accept ";;&" then return .mk patterns body .testNext :: (← caseClauses fuel)
      else if ← accept ";;" then return .mk patterns body .leave :: (← caseClauses fuel)
      else if ← accept ";&" then return .mk patterns body .fallThrough :: (← caseClauses fuel)
      else
        expectWord commands "esac"
        return [.mk patterns body .leave]

/-- A `case` after its first word. -/
def caseRest (line : Nat) : Parse Command := do
  let subject ← someWord commands
  blankLines
  expectWord commands "in"
  return .choose line subject (← caseClauses commands ((← rest).length + 1))

/-! ## Conditions between double brackets -/

/-- The operators of conditions on one word. -/
def unaryTests : List String :=
  ["-a", "-b", "-c", "-d", "-e", "-f", "-g", "-h", "-k", "-n", "-o", "-p", "-r", "-s", "-t", "-u", "-v",
    "-w", "-x", "-z", "-G", "-L", "-N", "-O", "-S", "-R"]

/-- The operators of conditions on two words. -/
def binaryTests : List String :=
  ["=", "==", "!=", "=~", "<", ">", "-eq", "-ne", "-lt", "-le", "-gt", "-ge", "-nt", "-ot", "-ef"]

/-- What stands at the front of a piece of a condition. -/
inductive Ahead where
  | word
  /-- The closing brackets, an operator or the end of a line, by name. -/
  | token (text : Str)
  | nothing

/-- What stands at the front. -/
def ahead : Parse Ahead := do
  blanks
  let text ← rest
  match text with
  | [] => return .nothing
  | '\n' :: _ => return .token "newline".toList
  | _ =>
    match operators.find? fun op => op.toList.isPrefixOf text with
    | some op => return .token op.toList
    | none => return if (← frontWord) = "]]".toList then .token "]]".toList else .word

/-- The fault of what stands at the front of a piece of a condition, said with the token or without one. -/
def conditionFault {α : Type} (withToken : Str → String) (without : String) : Parse α := do
  match ← ahead with
  | .word => fault (.condition [without.toList] (← frontWord))
  | .token t => fault (.condition [(withToken t).toList] t)
  | .nothing => fault .endOfFile

/-- Words of messages around a token. -/
def aroundToken (before after : String) (token : Str) : String :=
  before ++ " \x60" ++ String.ofList token ++ "'" ++ after

/-- A regular expression, in which parentheses and bars belong to the word. -/
def regexWord : Parse Word := do
  let start ← line
  let rec go : Nat → Nat → List Part → Parse (List Part)
    | 0, _, found => return found
    | fuel + 1, depth, found => do
      let stop (c : Char) : Bool :=
        c == '(' || c == ')' || (depth == 0 && (c == '\n' || isBlankChar c || c == '&' || c == ';'))
      let piece ← (wordReaders commands maxWordDepth).parts { stop }
      match ← peek with
      | some '(' => drop 1; go fuel (depth + 1) (found ++ piece ++ [.plain ['(']])
      | some ')' =>
        if depth = 0 then return found ++ piece
        else drop 1; go fuel (depth - 1) (found ++ piece ++ [.plain [')']])
      | none => if depth = 0 then return found ++ piece else faultAt start (.unclosed [')'])
      | _ => return found ++ piece
  let (raw, parts) ← withRaw (go ((← rest).length + 1) 0 [])
  return .mk raw (joinParts parts)

/-- The second word of a condition, after its operator. -/
def secondWord (op : Str) : Parse Word := do
  let isRegex := op == "=~".toList
  match ← ahead with
  | .word => if isRegex then regexWord commands else word commands
  | .token t =>
    if isRegex && t == ['('] then regexWord commands
    else
      conditionFault (aroundToken "unexpected argument" " to conditional binary operator")
        "unexpected argument to conditional binary operator"
  | .nothing => fault .endOfFile

/-- A condition on words. -/
def testWords : Parse Condition := do
  match ← ahead with
  | .nothing => fault .endOfFile
  | .token t =>
    if t == "]]".toList then fault (.condition [] t)
    else conditionFault (aroundToken "unexpected token" " in conditional command") ""
  | .word =>
    let first ← word commands
    if unaryTests.any fun op => first.raw == op.toList then
      match ← ahead with
      | .word => return .unary first.raw (← word commands)
      | _ =>
        conditionFault (aroundToken "unexpected argument" " to conditional unary operator")
          "unexpected argument to conditional unary operator"
    else
      let op ← match ← ahead with
        | .word => frontWord
        | .token t => pure t
        | .nothing => pure []
      if ["]]", "&&", "||", ")"].any fun t => op == t.toList then return .word first
      else if binaryTests.any fun b => op == b.toList then
        drop op.length
        return .binary op first (← secondWord commands op)
      else
        conditionFault (aroundToken "unexpected token" ", conditional binary operator expected")
          "conditional binary operator expected"

/-- The closing parenthesis of a condition that began on a line. -/
def closeCondition (line : Nat) : Parse Unit := do
  let fail (message : String) (token : Str) : Parse Unit :=
    faultAt line (.condition [message.toList] token)
  match ← ahead with
  | .token t => if t == [')'] then drop 1 else fail (aroundToken "unexpected token" ", expected \x60)'" t) t
  | .word => fail "expected \x60)'" (← frontWord)
  | .nothing => fault .endOfFile

/-- A condition; `&&` binds more strongly than `||`. -/
def testOr : Nat → Parse Condition
  | 0 => unexpected commands
  | fuel + 1 => do
    let left ← testAnd fuel
    blankLines
    if ← accept "||" then return .either left (← testOr fuel) else return left
where
  /-- Conditions joined by `&&`. -/
  testAnd : Nat → Parse Condition
    | 0 => unexpected commands
    | fuel + 1 => do
      let left ← testTerm fuel
      blankLines
      if ← accept "&&" then return .both left (← testAnd fuel) else return left
  /-- A condition, a negated one or one between parentheses. What is wrong inside parentheses is missed
  there as well. -/
  testTerm : Nat → Parse Condition
    | 0 => unexpected commands
    | fuel + 1 => do
      blankLines
      let line ← line
      if (← frontWord) = ['!'] then
        drop 1
        return .negation (← testTerm fuel)
      else if ← accept "(" then
        let inner ← fun src =>
          match testOr fuel src with
          | .error e =>
            match e.fault with
            | .condition texts token =>
              .error { e with fault := .condition (texts ++ ["expected \x60)'".toList]) token }
            | _ => .error e
          | ok => ok
        blankLines
        closeCondition line
        return inner
      else testWords commands

/-- A condition between double brackets, after the opening ones. -/
def testRest (line : Nat) : Parse Command := do
  let c ← testOr commands ((← rest).length + 10)
  blankLines
  let fail (message : String) (token : Str) : Parse Command :=
    faultAt line (.condition [message.toList] token)
  match ← ahead with
  | .token t =>
    if t == "]]".toList then
      drop 2
      return .test line c
    else fail (aroundToken "syntax error in conditional expression: unexpected token" "" t) t
  | .word => fail "syntax error in conditional expression" (← frontWord)
  | .nothing => faultAt line (.unclosed "]]".toList)

/-! ## Commands -/

/-- A command between parentheses. -/
def parenthesised (line : Nat) : Parse Command := do
  let start ← get
  let arithmetic ← if ← accept "((" then
      arithText (wordReaders commands maxWordDepth) (← rest).length 0 []
    else pure none
  match arithmetic with
  | some expr => return .arith (← Parse.line) (joinParts expr)
  | none =>
    set start
    let isDouble := "((".toList.isPrefixOf start.rest
    drop 1
    match someCommands commands (← get) with
    | .ok (body, after) =>
      set after
      blankLines
      expectOp commands ")"
      return .subshell line body
    | .error e =>
      match e.fault, isDouble with
      | .endOfFile, true => faultAt line (.unclosed [')'])
      | _, _ => fun _ => .error e

/-- A compound command, when one follows. -/
def compoundFront : Parse (Option Command) := do
  let line ← line
  if (← peek) = some '(' then return some (← parenthesised commands line)
  else
    let front := String.ofList (← frontWord)
    if front = "\x7b" then
      drop 1
      let body ← someCommands commands
      expectWord commands "\x7d"
      return some (.group body)
    else if front = "if" then drop 2; return some (← ifRest commands ((← rest).length + 1))
    else if front = "while" ∨ front = "until" then
      drop 5
      let test ← someCommands commands
      return some (.loop (front = "while") test (← doBody commands))
    else if front = "for" then drop 3; return some (← forRest commands line)
    else if front = "case" then drop 4; return some (← caseRest commands line)
    else if front = "[[" then drop 2; return some (← testRest commands line)
    else return none

/-- A compound command with its redirections, when one follows. -/
def compound : Parse (Option Command) := do
  match ← compoundFront commands with
  | some c => return some (← withRedirects commands c)
  | none => return none

/-- The definition of a function, after the word that begins it. -/
def functionRest (line : Nat) : Parse Command := do
  let name ← someWord commands
  blanks
  if ← accept "(" then
    blanks
    expectOp commands ")"
  return .define line name.raw (← functionBody commands (compound commands))

/-- A command. -/
def command : Parse Command := do
  blanks
  let line ← line
  let front := String.ofList (← frontWord)
  if closingWords.contains front then unexpected commands
  else if front = "function" then drop 8; functionRest commands line
  else
    match ← compound commands with
    | some c => return c
    | none => simple commands (compound commands)

/-- Commands joined by pipes. -/
def stages : Nat → Parse (List Command)
  | 0 => return []
  | fuel + 1 => do
    let first ← command commands
    blanks
    let text ← rest
    if "|&".toList.isPrefixOf text then
      drop 2
      blankLines
      let line ← line
      let joined := Command.redirected line first [.mk (some 2) .copyOutput (.mk ['1'] [.plain ['1']])]
      return joined :: (← stages fuel)
    else if "|".toList.isPrefixOf text && !"||".toList.isPrefixOf text then
      drop 1
      blankLines
      return first :: (← stages fuel)
    else return [first]

/-- A pipeline, possibly negated. -/
def pipeline : Nat → Parse Command
  | 0 => unexpected commands
  | fuel + 1 => do
    blanks
    let front ← frontWord
    if front = ['!'] then
      drop 1
      blanks
      let text ← rest
      if text.isEmpty || text.head? == some '\n' || text.head? == some ';' then
        return .negation (.group [])
      else return .negation (← pipeline fuel)
    else if front = "time".toList then
      drop 4
      pipeline fuel
    else
      match ← stages commands ((← rest).length + 1) with
      | [c] => return c
      | cs => return .pipeline cs

/-- Pipelines joined by `&&` and `||`, after the first of them. -/
def chained : Nat → Command → Parse Command
  | 0, first => return first
  | fuel + 1, first => do
    blanks
    if ← accept "&&" then
      blankLines
      chained fuel (.both first (← pipeline commands ((← rest).length + 1)))
    else if ← accept "||" then
      blankLines
      chained fuel (.either first (← pipeline commands ((← rest).length + 1)))
    else return first

/-- Pipelines joined by `&&` and `||`. -/
def andOr : Parse Command := do
  let first ← pipeline commands ((← rest).length + 1)
  chained commands ((← rest).length + 1) first

/-- Whether nothing at the front can begin a command. -/
def atEnd : Parse Bool := do
  let text ← rest
  let front := String.ofList (← frontWord)
  return text.isEmpty || text.head? == some ')' || text.head? == some '\n' || text.head? == some ';' ||
    closingWords.contains front

/-- What separates two commands, when it follows: whether the first goes to the background. -/
def separator : Parse (Option Bool) := do
  blanks
  let text ← rest
  match text with
  | ';' :: ';' :: _ => return none
  | ';' :: '&' :: _ => return none
  | ';' :: _ => drop 1; return some false
  | '&' :: _ => drop 1; return some true
  | _ => return none

/-- The commands of one line. -/
def lineCommands : Nat → Parse (List Command)
  | 0 => return []
  | fuel + 1 => do
    blanks
    let line ← line
    let first ← andOr commands
    match ← separator with
    | none => return [first]
    | some inBackground =>
      let first := if inBackground then Command.background line first else first
      blanks
      if ← atEnd then return [first] else return first :: (← lineCommands fuel)

/-- The commands of several lines, up to something that cannot begin a command. -/
def severalLines : Nat → Parse (List Command)
  | 0 => return []
  | fuel + 1 => do
    blankLines
    if ← atEnd then return []
    else
      let first ← lineCommands commands ((← rest).length + 1)
      blanks
      if (← peek) = some '\n' then return first ++ (← severalLines fuel) else return first

end

/-- Reads commands that nest at most `depth` deep. -/
def commandsIn : Nat → Parse (List Command)
  | 0 => fault .endOfFile
  | depth + 1 => do severalLines (commandsIn depth) ((← rest).length + 1)

/-- How deep commands nest at most. -/
def maxCommandDepth : Nat := 200

/-- The commands of the next line that has any, and the source after it; none at the end of the text. -/
def nextLine (src : Source) : Except SyntaxError (Option (List Command × Source)) :=
  match blankLines src with
  | .error e => .error e
  | .ok ((), src) =>
    if src.rest.isEmpty then .ok none
    else
      let commands := commandsIn maxCommandDepth
      match lineCommands commands (src.rest.length + 1) src with
      | .error e => .error e
      | .ok (found, src) =>
        match blanks src with
        | .error e => .error e
        | .ok ((), src) =>
          match src.rest with
          | [] => .ok (some (found, src))
          | '\n' :: _ => .ok (some (found, after 1 src))
          | _ =>
            match (unexpected commands : Parse Unit) src with
            | .error e => .error e
            | .ok _ => .ok none

end FuzzCampaign.Shell
