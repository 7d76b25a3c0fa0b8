import WebBaseline.Text.Utf8
import WebBaseline.Text.Words

/-!
# Literals

The arguments of an action are literals: numbers, texts, a few names, and tuples, sets and
dictionaries of them.  A text is cut into tokens, and an automaton with a stack of open brackets
reads them.  The only thing that is worked out is the sum of a real and an imaginary number.  Square
brackets do not occur, since they end a tag.
-/

namespace WebBaseline.Display.Literal

inductive Number where
  | whole (n : Nat)
  | real
  | imaginary

inductive Value where
  | number (n : Number)
  | signed (n : Number)
  | text (bytes : Bool)
  /-- the name that makes an empty set when it is called -/
  | maker
  /-- any other literal, which may be an element of a set or a key if it can be hashed -/
  | other (hashable : Bool)

inductive Bracket where
  | round
  | curly
  deriving DecidableEq

inductive Token where
  | value (v : Value)
  | sign
  | comma
  | colon
  | opening (b : Bracket)
  | closing (b : Bracket)
  | newline
  /-- white space at the start of a line that holds more than a comment -/
  | indent

/-! ### Numbers -/

def isDigits (isDigit : Char → Bool) : List Char → Bool
  | [] => false
  | [c] => isDigit c
  | c :: '_' :: rest => isDigit c && isDigits isDigit rest
  | c :: rest => isDigit c && isDigits isDigit rest

/-- The digits of a number in a base other than ten.  An underscore may stand before the first. -/
def based? (base : Nat) (cs : List Char) : Option Number :=
  let digits := if cs.head? = some '_' then cs.tail else cs
  if isDigits (fun c ↦ (Text.hexDigit? c).any (· < base)) digits then
    some (.whole (Text.numeral base (digits.filter (· ≠ '_'))))
  else none

/-- The digits of a decimal number, which is zero if it starts with a zero. -/
def decimal? (cs : List Char) : Option Number :=
  let digits := cs.filter (· ≠ '_')
  if isDigits Char.isDigit cs && digits.length ≤ Text.maxDigits &&
      (digits.head? ≠ some '0' || digits.all (· = '0')) then
    some (.whole (Text.numeral 10 digits))
  else none

def isPointed (cs : List Char) : Bool :=
  let front := cs.takeWhile (· ≠ '.')
  let back := (cs.dropWhile (· ≠ '.')).tail
  cs.contains '.' && (!front.isEmpty || !back.isEmpty) &&
    (front.isEmpty || isDigits Char.isDigit front) && (back.isEmpty || isDigits Char.isDigit back)

def isExponentMark (c : Char) : Bool := c = 'e' || c = 'E'

def isSign (c : Char) : Bool := c = '+' || c = '-'

def isReal (cs : List Char) : Bool :=
  let front := cs.takeWhile fun c ↦ !isExponentMark c
  match cs.dropWhile fun c ↦ !isExponentMark c with
  | [] => isPointed front
  | _ :: exponent =>
      (isPointed front || isDigits Char.isDigit front) &&
        isDigits Char.isDigit (if exponent.head?.any isSign then exponent.tail else exponent)

def number? (cs : List Char) : Option Number :=
  match cs with
  | '0' :: 'x' :: digits | '0' :: 'X' :: digits => based? 16 digits
  | '0' :: 'o' :: digits | '0' :: 'O' :: digits => based? 8 digits
  | '0' :: 'b' :: digits | '0' :: 'B' :: digits => based? 2 digits
  | _ =>
      if cs.getLast?.any fun c ↦ c = 'j' || c = 'J' then
        if isReal cs.dropLast || isDigits Char.isDigit cs.dropLast then some .imaginary else none
      else if isReal cs then some .real
      else decimal? cs

/-! ### Texts -/

/-- The number of characters up to the quotes that end a text, these included.  The quotes that were
just read are counted, and the character after a backslash ends nothing. -/
def lengthToEnd? (quote : Char) (quotes seen : Nat) (cs : List Char) : Option Nat :=
  if seen = quotes then some 0
  else
    match cs with
    | [] => none
    | '\\' :: _ :: rest => (lengthToEnd? quote quotes 0 rest).map (· + 2)
    | c :: rest =>
        if c = '\n' && quotes = 1 then none
        else (lengthToEnd? quote quotes (if c = quote then seen + 1 else 0) rest).map (· + 1)

/-- What stands between quotes, the first of which was read, and the number of characters up to the
end of the last. -/
def quoted? (quote : Char) (cs : List Char) : Option (List Char × Nat) :=
  if cs.take 2 = [quote, quote] then
    (lengthToEnd? quote 3 0 (cs.drop 2)).map fun n ↦ ((cs.drop 2).take (n - 3), n + 2)
  else (lengthToEnd? quote 1 0 cs).map fun n ↦ (cs.take (n - 1), n)

def startsWithHex (n : Nat) (cs : List Char) : Bool :=
  (cs.take n).length = n && (cs.take n).all fun c ↦ (Text.hexDigit? c).isSome

/-- The name of a character in curly brackets.  Whether there is a character of that name is not
looked up. -/
def startsWithName (cs : List Char) : Bool :=
  let name := cs.tail.takeWhile (· ≠ '\x7d')
  cs.head? = some '\x7b' && cs.contains '\x7d' && !name.isEmpty &&
    name.all fun c ↦ c.isAlphanum || c = ' ' || c = '-'

def hasGoodEscapes (bytes : Bool) : List Char → Bool
  | [] => true
  | '\\' :: c :: cs =>
      (match c with
        | 'x' => startsWithHex 2 cs
        | 'u' => bytes || startsWithHex 4 cs
        | 'U' => bytes || (startsWithHex 8 cs && Text.numeral 16 (cs.take 8) ≤ 0x10ffff)
        | 'N' => bytes || startsWithName cs
        | _ => true) && hasGoodEscapes bytes cs
  | _ :: cs => hasGoodEscapes bytes cs

/-- A word before quotes: whether the text has no escapes, and whether it is one of bytes. -/
def quoteMarks? (word : List Char) : Option (Bool × Bool) :=
  match String.ofList (word.map Char.toLower) with
  | "" | "u" => some (false, false)
  | "r" => some (true, false)
  | "b" => some (false, true)
  | "br" | "rb" => some (true, true)
  | _ => none

def text? (raw bytes : Bool) (body : List Char) : Option Value :=
  if (!bytes || body.all fun c ↦ c.toNat < 0x80) && (raw || hasGoodEscapes bytes body) then
    some (.text bytes)
  else none

/-! ### Tokens -/

def isInWord (c : Char) : Bool := c.isAlphanum || c = '_' || c = '.'

/-- The word at the start of a text.  The sign of an exponent belongs to a number. -/
def wordAt (cs : List Char) : List Char :=
  let word := cs.takeWhile isInWord
  let rest := cs.dropWhile isInWord
  let hasExponent := word.head?.any (fun c ↦ c.isDigit || c = '.') &&
    !(word.take 2 = ['0', 'x'] || word.take 2 = ['0', 'X']) && word.getLast?.any isExponentMark
  if hasExponent && rest.head?.any isSign then
    word ++ rest.take 1 ++ rest.tail.takeWhile isInWord
  else word

def valueOf? (word : List Char) : Option Value :=
  match String.ofList word with
  | "True" | "False" | "None" | "..." => some (.other true)
  | "set" => some .maker
  | _ => (number? word).map .number

def wordToken? (cs : List Char) : Option (Token × Nat) :=
  let word := wordAt cs
  match cs.drop word.length with
  | [] => (valueOf? word).map fun v ↦ (.value v, word.length)
  | c :: rest =>
      if c = '\'' || c = '"' then do
        let (raw, bytes) ← quoteMarks? word
        let (body, n) ← quoted? c rest
        let v ← text? raw bytes body
        return (.value v, word.length + 1 + n)
      else (valueOf? word).map fun v ↦ (.value v, word.length)

/-- Whether a line starts with white space, continued lines being one. -/
def isIndented : Bool → List Char → Bool
  | _, [] => false
  | blank, c :: rest =>
      if c = ' ' || c = '\t' then isIndented true rest
      else if c = '\x0c' then isIndented false rest
      else
        match c, rest with
        | '\\', '\n' :: rest => isIndented blank rest
        | _, _ => blank && c ≠ '\n' && c ≠ '#'

def indentAt (cs : List Char) : List Token :=
  if isIndented false cs then [.indent] else []

def tokensAt? (cs : List Char) : Option (List Token × Nat) :=
  match cs with
  | [] => none
  | ' ' :: _ | '\t' :: _ | '\x0c' :: _ => some ([], 1)
  | '#' :: rest => some ([], 1 + (rest.takeWhile (· ≠ '\n')).length)
  | '\n' :: rest => some (.newline :: indentAt rest, 1)
  | '\\' :: '\n' :: rest => if rest.isEmpty then none else some ([], 2)
  | '+' :: _ | '-' :: _ => some ([.sign], 1)
  | ',' :: _ => some ([.comma], 1)
  | ':' :: _ => some ([.colon], 1)
  | '(' :: _ => some ([.opening .round], 1)
  | ')' :: _ => some ([.closing .round], 1)
  | '\x7b' :: _ => some ([.opening .curly], 1)
  | '\x7d' :: _ => some ([.closing .curly], 1)
  | _ => (wordToken? cs).map fun (t, n) ↦ ([t], n)

def tokensFrom? (taken : Nat) : List Char → Option (List Token)
  | [] => some []
  | c :: rest =>
      match taken with
      | n + 1 => tokensFrom? n rest
      | 0 =>
          match tokensAt? (c :: rest) with
          | some (found, n) => (tokensFrom? (n - 1) rest).map (found ++ ·)
          | none => none

def tokens? (cs : List Char) : Option (List Token) :=
  (tokensFrom? 0 cs).map (indentAt cs ++ ·)

/-! ### Reading -/

/-- What was read since the last comma, colon or opening bracket. -/
inductive Phase where
  | nothing
  | sign
  | value (v : Value)
  /-- a real number and a sign -/
  | sum

inductive Context where
  | whole
  | round
  | call
  /-- curly brackets before it is known what they hold -/
  | curly
  | elements
  | key
  | entry
  deriving DecidableEq

structure Level where
  context : Context
  /-- whether there is an item that a comma ended -/
  many : Bool := false
  /-- whether those items can be hashed -/
  hashable : Bool := true
  phase : Phase := .nothing

structure State where
  level : Level := { context := .whole }
  outer : List Level := []
  /-- whether the line has ended -/
  ended : Bool := false

def Number.isSummand : Number → Bool
  | .whole n => n + Nat.pow 2 970 < Nat.pow 2 1024
  | .real => true
  | .imaginary => false

def Phase.put (v : Value) : Phase → Option Phase
  | .nothing => some (.value v)
  | .sign =>
      match v with
      | .number n => some (.value (.signed n))
      | _ => none
  | .sum =>
      match v with
      | .number .imaginary => some (.value (.other true))
      | _ => none
  | .value (.text bytes) =>
      match v with
      | .text bytes' => if bytes = bytes' then some (.value v) else none
      | _ => none
  | .value _ => none

def Phase.sign? : Phase → Option Phase
  | .nothing => some .sign
  | .value (.number n) | .value (.signed n) => if n.isSummand then some .sum else none
  | _ => none

/-- Whether the item that was read can be hashed. -/
def Phase.item? : Phase → Option Bool
  | .value .maker => none
  | .value (.other hashable) => some hashable
  | .value _ => some true
  | _ => none

def Level.comma? (l : Level) : Option Level := do
  let hashable ← l.phase.item?
  match l.context with
  | .whole | .round =>
      some { l with many := true, hashable := l.hashable && hashable, phase := .nothing }
  | .curly | .elements => if hashable then some { context := .elements } else none
  | .entry => some { context := .key }
  | .call | .key => none

def Level.colon? (l : Level) : Option Level := do
  let hashable ← l.phase.item?
  match l.context with
  | .curly | .key => if hashable then some { context := .entry } else none
  | _ => none

def Level.close? (b : Bracket) (l : Level) : Option Value :=
  match b, l.context, l.phase with
  | .round, .round, .nothing => some (.other l.hashable)
  | .round, .round, .value v =>
      if l.many then l.phase.item?.map fun hashable ↦ .other (l.hashable && hashable)
      else
        match v with
        | .text _ => some (.other true)
        | _ => some v
  | .round, .call, .nothing => some (.other false)
  | .curly, .curly, .nothing | .curly, .elements, .nothing | .curly, .key, .nothing =>
      some (.other false)
  | .curly, .curly, p | .curly, .elements, p =>
      if p.item? = some true then some (.other false) else none
  | .curly, .entry, p => p.item?.map fun _ ↦ .other false
  | _, _, _ => none

def maxBrackets : Nat := 200

def State.open? (b : Bracket) (s : State) : Option State :=
  if maxBrackets ≤ s.outer.length then none
  else
    match b, s.level.phase with
    | .round, .value .maker =>
        let caller := { s.level with phase := .nothing }
        some { level := { context := .call }, outer := caller :: s.outer }
    | _, .value _ => none
    | .round, _ => some { level := { context := .round }, outer := s.level :: s.outer }
    | .curly, _ => some { level := { context := .curly }, outer := s.level :: s.outer }

def State.close? (b : Bracket) (s : State) : Option State :=
  match s.outer with
  | [] => none
  | l :: outer => do
      let v ← s.level.close? b
      let phase ← l.phase.put v
      return { level := { l with phase }, outer }

/-- What is read outside of brackets ends with its line; in brackets lines mean nothing. -/
def State.step (s : State) (t : Token) : Option State :=
  if s.ended then
    match t with
    | .newline => some s
    | _ => none
  else
    match t with
    | .value v => (s.level.phase.put v).map fun phase ↦ { s with level := { s.level with phase } }
    | .sign => s.level.phase.sign?.map fun phase ↦ { s with level := { s.level with phase } }
    | .comma => s.level.comma?.map fun level ↦ { s with level }
    | .colon => s.level.colon?.map fun level ↦ { s with level }
    | .opening b => s.open? b
    | .closing b => s.close? b
    | .newline =>
        match s.outer, s.level.phase with
        | [], .nothing => some { s with ended := s.level.many }
        | [], _ => some { s with ended := true }
        | _, _ => some s
    | .indent => if s.outer.isEmpty then none else some s

/-- Whether a literal, or literals with commas between them, were read to the end. -/
def State.isComplete (s : State) : Bool :=
  s.outer.isEmpty &&
    match s.level.phase with
    | .nothing => s.level.many
    | p => p.item?.isSome

end Literal

def isLiteral (cs : List Char) : Bool :=
  let cs := Text.unifyNewlines cs
  !cs.contains '\x00' &&
    match (Literal.tokens? cs).bind fun tokens ↦ tokens.foldlM Literal.State.step {} with
    | some s => s.isComplete
    | none => false

end WebBaseline.Display
