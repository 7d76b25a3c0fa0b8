import WebBaseline.Reading.Reader

/-!
# Tokens of scripts

What separates tokens, names, literals and signs, and the rule by which a line end stands for a
semicolon.
-/

namespace WebBaseline.Script

open Syntax Reading Reader

structure Dialect where
  /-- type annotations -/
  typed : Bool
  /-- elements in angle brackets -/
  tags : Bool
  deriving Repr, DecidableEq

abbrev Part (α : Type) : Type := Reader Dialect α

def isLineEnd (c : Char) : Bool :=
  c == '\n' || c == '\u2028' || c == '\u2029'

def isSpace (c : Char) : Bool :=
  let n := c.toNat
  (9 ≤ n && n ≤ 13) || n == 32 || n == 0xA0 || n == 0x1680 || (0x2000 ≤ n && n ≤ 0x200B) ||
    n == 0x2028 || n == 0x2029 || n == 0x202F || n == 0x205F || n == 0x2060 || n == 0x3000 ||
    n == 0xFEFF

def commentEnd? (s : Source) : Nat → Nat → Option Nat
  | 0, _ => none
  | fuel + 1, i => if s.startsAt i ['*', '/'] then some (i + 2) else commentEnd? s fuel (i + 1)

def comment? (s : Source) (i : Nat) : Option Nat :=
  if s.startsAt i ['/', '*'] then commentEnd? s (s.size - i) (i + 2)
  else if s.startsAt i ['/', '/'] then
    some (s.skipWhile (fun c ↦ !isLineEnd c && c != '\r') i)
  else none

def skipGap (s : Source) : Nat → Nat → Nat
  | 0, i => i
  | fuel + 1, i =>
      let j := s.skipWhile isSpace i
      if s.isAt j '/' then
        match comment? s j with
        | some k => skipGap s fuel k
        | none => j
      else j

def gap (s : Source) (i : Nat) : Nat :=
  skipGap s (s.size - i + 1) i

/-! ### Names -/

def isSign (c : Char) : Bool :=
  ":;`\"'@#.,|^&<=>+-*/\\%?!~()[]\x7b\x7d".toList.contains c

def isNameChar (c : Char) : Bool :=
  32 ≤ c.toNat && !isSpace c && !isSign c

def isHexDigit (c : Char) : Bool :=
  c.isDigit || ('a' ≤ c && c ≤ 'f') || ('A' ≤ c && c ≤ 'F')

def nameEscape? (s : Source) (i : Nat) : Option Nat :=
  if s.startsAt i ['\\', 'u'] then
    if s.isAt (i + 2) '\x7b' then
      let j := s.skipWhile isHexDigit (i + 3)
      if i + 3 < j && s.isAt j '\x7d' then some (j + 1) else none
    else if (List.range 4).all fun k ↦ s.holds (i + 2 + k) isHexDigit then some (i + 6)
    else none
  else none

def nameTail (s : Source) : Nat → Nat → Nat
  | 0, i => i
  | fuel + 1, i =>
      if s.holds i isNameChar then nameTail s fuel (i + 1)
      else
        match nameEscape? s i with
        | some j => nameTail s fuel j
        | none => i

def nameEnd? (s : Source) (i : Nat) : Option Nat :=
  if s.holds i Char.isDigit then none
  else
    let j := nameTail s (s.size - i + 1) i
    if i < j then some j else none

def nameAt (s : Source) (i : Nat) : String :=
  match nameEnd? s i with
  | some j => s.slice i j
  | none => ""

def reserved : List String :=
  ["await", "break", "case", "catch", "class", "const", "continue", "debugger", "default",
   "delete", "do", "else", "extends", "false", "finally", "for", "function", "if", "import", "in",
   "instanceof", "new", "null", "return", "super", "switch", "this", "throw", "true", "try",
   "typeof", "var", "void", "while", "with", "yield"]

/-- The next token if it is a name, with no more said about it. -/
def anyName (kind : String) : Part Node := do
  let src ← source
  let i ← next
  match nameEnd? src i with
  | some j => spanTo kind true i j
  | none => failure

def identifier : Part Node := do
  let src ← source
  let i ← next
  match nameEnd? src i with
  | some j =>
      let text := src.slice i j
      require !(reserved.contains text)
      spanTo (if text = "undefined" then "undefined" else "identifier") true i j
  | none => failure

def peekName : Part String := do
  let src ← source
  let i ← next
  return nameAt src i

def word (text : String) : Part Node := do
  let src ← source
  let i ← next
  match nameEnd? src i with
  | some j =>
      require (j - i == text.length && src.startsAt i text.toList)
      spanTo text false i j
  | none => failure

/-- A word that counts as a node of its own. -/
def namedWord (text : String) : Part Node := do
  let src ← source
  let i ← next
  let _ ← word text
  let j ← position
  return src.node text true i j [] []

def privateName : Part Node := do
  let src ← source
  let i ← next
  require (src.isAt i '#')
  match nameEnd? src (i + 1) with
  | some j => spanTo "private_property_identifier" true i j
  | none => failure

/-! ### Signs -/

/-- Signs of more than one character, longer ones before those they start with. -/
def longSigns : List (List Char) :=
  [">>>=", "...", "===", "!==", "**=", "<<=", ">>=", ">>>", "&&=", "||=", "??=", "=>", "==", "!=",
   "<=", ">=", "&&", "||", "??", "?.", "++", "--", "+=", "-=", "*=", "/=", "%=", "&=", "|=", "^=",
   "<<", ">>", "**"].map String.toList

/-- The sign at a position: the longest one, except that a question mark before a point and a
digit stands alone. -/
def signAt (s : Source) (i : Nat) : String :=
  match s.at? i with
  | none => ""
  | some c =>
      if isSign c then
        match longSigns.find? fun p ↦ s.startsAt i p with
        | some p =>
            if p == ['?', '.'] && s.holds (i + 2) Char.isDigit then "?" else String.ofList p
        | none => String.singleton c
      else ""

def peekSign : Part String := do
  let src ← source
  let i ← next
  return signAt src i

/-- A given sign that is not the start of a longer one. -/
def exactly (text : String) : Part Node := do
  let src ← source
  let i ← next
  require (signAt src i == text)
  spanTo text false i (i + text.length)

/-! ### Literals -/

def isDigitOrBar (c : Char) : Bool := c.isDigit || c == '_'

def exponentEnd (s : Source) (i : Nat) : Nat :=
  if s.holds i fun c ↦ c == 'e' || c == 'E' then
    let j := if s.holds (i + 1) fun c ↦ c == '+' || c == '-' then i + 2 else i + 1
    if s.holds j Char.isDigit then s.skipWhile isDigitOrBar j else i
  else i

def numberEnd? (s : Source) (i : Nat) : Option Nat :=
  let radix (isDigitOf : Char → Bool) : Option Nat :=
    let j := s.skipWhile (fun c ↦ isDigitOf c || c == '_') (i + 2)
    if i + 2 < j then some (if s.isAt j 'n' then j + 1 else j) else none
  if s.isAt i '0' && s.holds (i + 1) (fun c ↦ c == 'x' || c == 'X') then radix isHexDigit
  else if s.isAt i '0' && s.holds (i + 1) (fun c ↦ c == 'o' || c == 'O') then
    radix fun c ↦ '0' ≤ c && c ≤ '7'
  else if s.isAt i '0' && s.holds (i + 1) (fun c ↦ c == 'b' || c == 'B') then
    radix fun c ↦ c == '0' || c == '1'
  else if s.holds i Char.isDigit then
    let j := s.skipWhile isDigitOrBar i
    if s.isAt j 'n' then some (j + 1)
    else if s.isAt j '.' then
      let k := if s.holds (j + 1) Char.isDigit then s.skipWhile isDigitOrBar (j + 1) else j + 1
      some (exponentEnd s k)
    else some (exponentEnd s j)
  else if s.isAt i '.' && s.holds (i + 1) Char.isDigit then
    some (exponentEnd s (s.skipWhile isDigitOrBar (i + 1)))
  else none

/-- A number, which no name follows at once. -/
def number : Part Node := do
  let src ← source
  let i ← next
  match numberEnd? src i with
  | some j =>
      require (nameEnd? src j).isNone
      require !(src.holds j Char.isDigit)
      spanTo "number" true i j
  | none => failure

def textEnd? (s : Source) (quote : Char) : Nat → Nat → Option Nat
  | 0, _ => none
  | fuel + 1, i =>
      match s.at? i with
      | none => none
      | some c =>
          if c = quote then some (i + 1)
          else if c = '\\' then
            if s.startsAt (i + 1) ['\r', '\n'] then textEnd? s quote fuel (i + 3)
            else textEnd? s quote fuel (i + 2)
          else if c = '\n' || c = '\r' then none
          else textEnd? s quote fuel (i + 1)

def quotedText : Part Node := do
  let src ← source
  let i ← next
  let stop := match src.at? i with
    | some '"' => textEnd? src '"' (src.size - i) (i + 1)
    | some '\'' => textEnd? src '\'' (src.size - i) (i + 1)
    | _ => none
  match stop with
  | some j => spanTo "string" true i j
  | none => failure

/-- The end of the pattern of a regular expression; a slash in a class does not end it. -/
def patternEnd? (s : Source) : Nat → Bool → Nat → Option Nat
  | 0, _, _ => none
  | fuel + 1, inClass, i =>
      match s.at? i with
      | none => none
      | some c =>
          if isLineEnd c then none
          else if c = '\\' then
            if s.holds (i + 1) isLineEnd then none else patternEnd? s fuel inClass (i + 2)
          else if c = '/' && !inClass then some i
          else if c = '[' then patternEnd? s fuel true (i + 1)
          else if c = ']' then patternEnd? s fuel false (i + 1)
          else patternEnd? s fuel inClass (i + 1)

def regex : Part Node := do
  let src ← source
  let i ← next
  require (src.isAt i '/')
  match patternEnd? src (src.size - i) false (i + 1) with
  | some j =>
      require (decide (i + 1 < j))
      spanTo "regex" true i (src.skipWhile (fun c ↦ 'a' ≤ c && c ≤ 'z') (j + 1))
  | none => failure

/-- The raw characters of a template up to its end or to something to fill in. -/
def templateEnd? (s : Source) : Nat → Nat → Option Nat
  | 0, _ => none
  | fuel + 1, i =>
      match s.at? i with
      | none => none
      | some c =>
          if c = '\x60' then some i
          else if c = '$' && s.isAt (i + 1) '\x7b' then some i
          else if c = '\\' then templateEnd? s fuel (i + 2)
          else templateEnd? s fuel (i + 1)

def template (kind : String) (filling : Part Node) : Part Node := do
  let src ← source
  let i ← next
  require (src.isAt i '\x60')
  moveTo (i + 1)
  let chunk : Part Unit := do
    let k ← position
    match templateEnd? src (src.size - k + 1) k with
    | some j => moveTo j
    | none => failure
  chunk
  let parts ← many do
    let k ← position
    require (src.startsAt k ['$', '\x7b'])
    moveTo (k + 2)
    let inner ← filling
    symbol "\x7d"
    chunk
    return inner
  let j ← position
  require (src.isAt j '\x60')
  moveTo (j + 1)
  return src.node kind true i (j + 1) [] parts

/-! ### Line ends that stand for semicolons -/

inductive Skipped where
  /-- a slash that opens no comment -/
  | rejected
  /-- a block comment on one line -/
  | sameLine
  | accepted

/-- Skips white space and comments.  Unless everything is to be taken, it stops after a block
comment. -/
def skipComments (s : Source) (all : Bool) : Nat → Nat → Skipped × Nat
  | 0, i => (.accepted, i)
  | fuel + 1, i =>
      let j := s.skipWhile isSpace i
      if s.isAt j '/' then
        match comment? s j with
        | none => (.rejected, j)
        | some k =>
            if s.isAt (j + 1) '*' && !all && !s.isAt k '/' then
              let lines := (s.chars.extract j k).any isLineEnd
              (if lines then .accepted else .sameLine, k)
            else skipComments s all fuel k
      else (.accepted, j)

/-- Whether the token at the start of a line lets the line before it end. -/
def startsAfresh (s : Source) (typed orAllowed : Bool) (i : Nat) : Bool :=
  match s.at? i with
  | none => true
  | some c =>
      if "`,:;*%><=?^|&/".toList.contains c then false
      else if c = '(' || c = '[' then typed && !orAllowed
      else if c = '.' then s.holds (i + 1) Char.isDigit
      else if c = '+' then s.isAt (i + 1) '+'
      else if c = '-' then s.isAt (i + 1) '-'
      else if c = '!' then !s.isAt (i + 1) '='
      else
        let name := nameAt s i
        name != "in" && name != "instanceof"

/-- Whether a statement can end at a position although no semicolon stands there.  `orAllowed`
says that an operator could follow as well. -/
def endsHereFor (s : Source) (typed orAllowed : Bool) : Nat → Nat → Bool
  | 0, _ => false
  | fuel + 1, i =>
      match s.at? i with
      | none => true
      | some c =>
          if c = '/' then
            match skipComments s false (s.size - i + 1) i with
            | (.rejected, _) => false
            | (.sameLine, k) => endsHereFor s typed orAllowed fuel k
            | (.accepted, k) =>
                if !orAllowed && !s.isAt k ',' && !s.isAt k '=' then true
                else s.isAt k '\x7d' || decide (s.size ≤ k)
          else if c = '\x7d' then true
          else if isLineEnd c then
            match skipComments s true (s.size - i + 1) (i + 1) with
            | (.rejected, _) => false
            | (_, k) => startsAfresh s typed orAllowed k
          else if isSpace c then endsHereFor s typed orAllowed fuel (i + 1)
          else false

/-- The same, asked again after each comment that follows. -/
def endsHere (s : Source) (typed orAllowed : Bool) : Nat → Nat → Bool
  | 0, _ => false
  | fuel + 1, i =>
      endsHereFor s typed orAllowed (s.size - i + 1) i ||
        (match comment? s (s.skipWhile isSpace i) with
          | some k => endsHere s typed orAllowed fuel k
          | none => false)

def lineEnds (orAllowed : Bool) : Part Unit := do
  let src ← source
  let d ← dialect
  let i ← position
  require (endsHere src d.typed orAllowed (src.size - i + 1) i)

def semicolon (orAllowed : Bool) : Part Unit :=
  symbol ";" <|> lineEnds orAllowed

def sameLine : Part Unit := do
  let src ← source
  let i ← position
  let j ← next
  require !((src.chars.extract i j).any isLineEnd)

end WebBaseline.Script
