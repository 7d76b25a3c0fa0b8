import WebBaseline.Reading.Reader

/-!
# Values of declarations

Names, numbers, texts, calls and what is built from them.  Where two tokens can start at one place
the longer one is read.
-/

namespace WebBaseline.Css

open Syntax Reading Reader

abbrev Part (α : Type) : Type := Reader Unit α

def isSpace (c : Char) : Bool :=
  c == ' ' || c == '\t' || c == '\n' || c == '\r' || c == '\x0b' || c == '\x0c'

def commentEnd? (s : Source) : Nat → Nat → Option Nat
  | 0, _ => none
  | fuel + 1, i => if s.startsAt i ['*', '/'] then some (i + 2) else commentEnd? s fuel (i + 1)

def comment? (s : Source) (i : Nat) : Option Nat :=
  if s.startsAt i ['/', '*'] then commentEnd? s (s.size - i) (i + 2)
  else if s.startsAt i ['/', '/'] then some (s.skipWhile (fun c ↦ c != '\n') i)
  else none

def skipGap (s : Source) : Nat → Nat → Nat
  | 0, i => i
  | fuel + 1, i =>
      let j := s.skipWhile isSpace i
      match comment? s j with
      | some k => skipGap s fuel k
      | none => j

/-- The start of the next token: white space and comments separate tokens. -/
def gap (s : Source) (i : Nat) : Nat :=
  skipGap s (s.size - i + 1) i

/-! ### Tokens -/

def isLatin (c : Char) : Bool :=
  0xA0 ≤ c.toNat && c.toNat ≤ 0xFF

def isNameStart (c : Char) : Bool :=
  c.isAlpha || c == '_' || isLatin c

def isNameChar (c : Char) : Bool :=
  isNameStart c || c.isDigit || c == '-'

def nameEnd? (s : Source) (i : Nat) : Option Nat :=
  if s.startsAt i ['-', '-'] then some (s.skipWhile isNameChar (i + 2))
  else
    let j := if s.isAt i '-' then i + 1 else i
    if s.holds j isNameStart then some (s.skipWhile isNameChar j) else none

def isDelimiter (c : Char) : Bool :=
  isSpace c || c == ',' || c == ';' || c == '!' || c == '\x7b' || c == '\x7d' ||
    c == '(' || c == ')' || c == '[' || c == ']'

/-- A slash in a word has something after it that neither ends the word nor starts a comment. -/
def isSlashPair (s : Source) (i : Nat) : Bool :=
  s.isAt i '/' && s.holds (i + 1) fun c ↦ c != '*' && !isDelimiter c

/-- The start of the letter that a word needs before anything else. -/
def wordLetter : Source → Nat → Nat → Nat
  | _, 0, i => i
  | s, fuel + 1, i =>
      if s.holds i fun c ↦ c == '-' || c == '_' then wordLetter s fuel (i + 1)
      else if isSlashPair s i then wordLetter s fuel (i + 2)
      else i

def wordTail : Source → Nat → Nat → Nat
  | _, 0, i => i
  | s, fuel + 1, i =>
      if isSlashPair s i then wordTail s fuel (i + 2)
      else if s.holds i fun c ↦ c != '/' && !isDelimiter c then wordTail s fuel (i + 1)
      else i

/-- The end of the word that starts at a position: a letter with dashes, underscores and pairs of
a slash and a character before it, and nothing that ends a word after it. -/
def wordEnd? (s : Source) (i : Nat) : Option Nat :=
  let j := wordLetter s (s.size - i + 1) i
  if s.holds j Char.isAlpha then some (wordTail s (s.size - j + 1) (j + 1)) else none

def digitsEnd (s : Source) (i : Nat) : Nat :=
  s.skipWhile Char.isDigit i

def exponentEnd (s : Source) (i : Nat) : Nat :=
  if s.holds i fun c ↦ c == 'e' || c == 'E' then
    let j := if s.isAt (i + 1) '-' then i + 2 else i + 1
    if s.holds j Char.isDigit then digitsEnd s j else i
  else i

def numberEnd? (s : Source) (i : Nat) : Option (String × Nat) :=
  let first := if s.holds i fun c ↦ c == '+' || c == '-' then i + 1 else i
  let whole := digitsEnd s first
  let point :=
    if s.isAt whole '.' && s.holds (whole + 1) Char.isDigit then digitsEnd s (whole + 1) else whole
  let stop := if first < point then exponentEnd s point else point
  if first < stop then
    let kind := if whole < stop then "float_value" else "integer_value"
    some (kind, s.skipWhile (fun c ↦ c.isAlpha || c == '%') stop)
  else none

def textEnd? (s : Source) (quote : Char) : Nat → Nat → Option Nat
  | 0, _ => none
  | fuel + 1, i =>
      match s.at? i with
      | none => none
      | some c =>
          if c = quote then some (i + 1)
          else if c = '\\' then textEnd? s quote fuel (i + 2)
          else if c = '\n' then none
          else textEnd? s quote fuel (i + 1)

def quotedEnd? (s : Source) (i : Nat) : Option Nat :=
  match s.at? i with
  | some '"' => textEnd? s '"' (s.size - i) (i + 1)
  | some '\'' => textEnd? s '\'' (s.size - i) (i + 1)
  | _ => none

def tokenBy (kind : String) (endOf? : Source → Nat → Option Nat) : Part Node := do
  let src ← source
  let i ← next
  match endOf? src i with
  | some j => spanTo kind true i j
  | none => failure

def name (kind : String) : Part Node := tokenBy kind nameEnd?

def quotedText : Part Node := tokenBy "string_value" quotedEnd?

/-- A word of its own: the longer one of a name and a word with other characters in it. -/
def plain : Part Node :=
  tokenBy "plain_value" fun s i ↦
    match nameEnd? s i, wordEnd? s i with
    | some j, some k => some (max j k)
    | some j, none => some j
    | none, k => k

def number : Part Node := do
  let src ← source
  let i ← next
  match numberEnd? src i with
  | some (kind, j) => spanTo kind true i j
  | none => failure

def isHexDigit (c : Char) : Bool :=
  c.isDigit || ('a' ≤ c && c ≤ 'f') || ('A' ≤ c && c ≤ 'F')

def colour : Part Node :=
  tokenBy "color_value" fun s i ↦
    if s.isAt i '#' then
      let j := min (s.skipWhile isHexDigit (i + 1)) (i + 9)
      if i + 4 ≤ j then some j else none
    else none

def important : Part Node :=
  tokenBy "important" fun s i ↦ if s.startsAt i "!important".toList then some (i + 10) else none

/-! ### Values -/

/-- A name that an opening bracket follows at once, provided that no longer word starts there. -/
def functionName : Part Node := do
  let src ← source
  let i ← next
  match nameEnd? src i with
  | some j =>
      require (src.isAt j '(' && decide ((wordEnd? src i).getD 0 ≤ j))
      spanTo "function_name" true i j
  | none => failure

/-- The arguments of a call: groups of values between commas or semicolons. -/
def arguments (value : Part Node) : Part Node :=
  construct "arguments" do
    symbol "("
    let groups ← separated (many1 value) (symbol "," <|> symbol ";")
    symbol ")"
    return groups.flatten

def call (value : Part Node) : Part Node :=
  construct "call_expression" do
    let function ← functionName
    let given ← arguments value
    return [function, given]

def gridLines (value : Part Node) : Part Node :=
  construct "grid_value" do
    symbol "["
    let values ← separated1 value (symbol ",")
    symbol "]"
    return values

def bracketed (value : Part Node) : Part Node :=
  construct "parenthesized_value" do
    symbol "("
    let inner ← value
    symbol ")"
    return [inner]

def operand (value : Part Node) : Part Node :=
  firstOf [call value, number, plain, colour, quotedText, gridLines value, bracketed value,
    important]

/-- An operator, unless a number or a word starts with it. -/
def operator : Part Node := do
  let src ← source
  let i ← next
  require (src.holds i fun c ↦ c == '+' || c == '-' || c == '*' || c == '/')
  require ((numberEnd? src i).isNone && (nameEnd? src i).isNone && (wordEnd? src i).isNone)
  spanTo (src.slice i (i + 1)) false i (i + 1)

def value : Nat → Part Node
  | 0 => failure
  | depth + 1 => do
      let first ← operand (value depth)
      extend (fun left ↦ do
        let op ← operator
        let right ← operand (value depth)
        joined "binary_expression" left [left, op, right]) first

end WebBaseline.Css
