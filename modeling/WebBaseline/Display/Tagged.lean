import WebBaseline.Display.Console
import WebBaseline.Display.Emoji
import WebBaseline.Display.Literal
import WebBaseline.Display.Style
import WebBaseline.Text.WordTable

/-!
# Tagged text

A text may hold style tags between square brackets: a tag opens a style, and a tag with a slash
closes it.  Tags are not shown.  A backslash before a tag makes it text, and two of them stand for
one.  A closing tag that has nothing to close is a fault.
-/

namespace WebBaseline.Display

def startsTag (c : Char) : Bool :=
  ('a' ≤ c && c ≤ 'z') || c = '#' || c = '/' || c = '@'

def endsBody (c : Char) : Bool := c = '[' || c = ']'

/-- The body of a tag whose opening bracket was read, and what follows the closing bracket. -/
def tagBody? (cs : List Char) : Option (List Char × List Char) :=
  match cs with
  | [] => none
  | c :: _ =>
      if startsTag c then
        match cs.dropWhile fun c ↦ !endsBody c with
        | ']' :: after => some (cs.takeWhile fun c ↦ !endsBody c, after)
        | _ => none
      else none

theorem tagBody?_length {cs body after : List Char} (h : tagBody? cs = some (body, after)) :
    after.length < cs.length := by
  simp only [tagBody?] at h
  split at h
  · simp at h
  · rename_i c rest
    split at h
    · split at h
      · rename_i tail heq
        simp only [Option.some.injEq, Prod.mk.injEq] at h
        have hl := (List.dropWhile_suffix (fun c ↦ !endsBody c) (l := c :: rest)).length_le
        rw [heq] at hl
        simp only [List.length_cons, h.2] at hl ⊢
        omega
      · simp at h
    · simp at h

inductive Piece where
  | words (cs : List Char)
  | tag (body : List Char)

def backslashes (n : Nat) : List Char := List.replicate n '\\'

def wordsOrNone (cs : List Char) : List Piece :=
  if cs.isEmpty then [] else [.words cs]

/-- The pieces of a text.  The backslashes that stand right before it are counted, and the text
before them that belongs to no piece yet is given in reverse. -/
def piecesAfter (slashes : Nat) (before : List Char) (cs : List Char) : List Piece :=
  match cs with
  | [] => wordsOrNone (before.reverse ++ backslashes slashes)
  | c :: rest =>
      if c = '\\' then piecesAfter (slashes + 1) before rest
      else if c = '[' then
        match _h : tagBody? rest with
        | some (body, after) =>
            wordsOrNone before.reverse ++ wordsOrNone (backslashes (slashes / 2)) ++
              (if slashes % 2 = 1 then Piece.words ('[' :: body ++ [']']) else .tag body) ::
                piecesAfter 0 [] after
        | none => piecesAfter 0 (c :: backslashes slashes ++ before) rest
      else piecesAfter 0 (c :: backslashes slashes ++ before) rest
termination_by cs.length
decreasing_by
  all_goals simp_wf
  have := tagBody?_length (by assumption)
  omega

def pieces (cs : List Char) : List Piece :=
  piecesAfter 0 [] cs

/-- A text in which a backslash before a bracket is dropped. -/
def dropEscapes : List Char → List Char
  | [] => []
  | '\\' :: '[' :: rest => '[' :: dropEscapes rest
  | c :: rest => c :: dropEscapes rest

def shownWords (cs : List Char) : List Char :=
  (withEmoji cs).filter fun c ↦ !isStripped c

/-- A style that is open: its canonical name and what follows the equals sign of its tag. -/
structure OpenTag where
  name : String
  parameters : Option (List Char)

def splitTag (body : List Char) : List Char × Option (List Char) :=
  match body.dropWhile (· ≠ '=') with
  | _ :: parameters => (body.takeWhile (· ≠ '='), some parameters)
  | [] => (body, none)

def closeNamed (name : String) : List OpenTag → Option (OpenTag × List OpenTag)
  | [] => none
  | t :: rest =>
      if t.name = name then some (t, rest)
      else (closeNamed name rest).map fun (found, left) ↦ (found, t :: left)

/-- A closing tag: by name, or without one the style opened last. -/
def closeTag (name : List Char) (opened : List OpenTag) : Option (OpenTag × List OpenTag) :=
  let wanted := Text.trimChars name
  if wanted.isEmpty then
    match opened with
    | t :: rest => some (t, rest)
    | [] => none
  else closeNamed (Style.canonical (String.ofList wanted)) opened

def isHandlerChar (c : Char) : Bool :=
  Text.inRuns Text.wordRuns c.toNat || c = '.'

/-- Whether the parameters of an action can be read: a name, which may be followed by literals in
round brackets, or else literals without a name. -/
def isAction (parameters : List Char) : Bool :=
  let text := Text.trimChars parameters
  let arguments := text.dropWhile isHandlerChar
  if arguments.isEmpty then true
  else if arguments.head? = some '(' && arguments.getLast? = some ')' &&
      !arguments.contains '\n' then
    isLiteral arguments
  else isLiteral text

/-- An action that is closed has to be readable. -/
def closesWell (t : OpenTag) : Bool :=
  match t.name.toList, t.parameters with
  | '@' :: _, some parameters => isAction parameters
  | _, _ => true

def shownFrom (opened : List OpenTag) : List Piece → Except TagFault (List Char)
  | [] => .ok []
  | .words cs :: rest =>
      match shownFrom opened rest with
      | .ok shown => .ok (shownWords (dropEscapes cs) ++ shown)
      | .error e => .error e
  | .tag body :: rest =>
      let (name, parameters) := splitTag body
      match name with
      | '/' :: name =>
          match closeTag name opened with
          | some (t, left) => if closesWell t then shownFrom left rest else .error .nothingToClose
          | none => .error .nothingToClose
      | _ =>
          shownFrom ({ name := Style.canonical (String.ofList name), parameters } :: opened) rest

def shown (s : String) : Except TagFault (List Char) :=
  if s.toList.contains '[' then shownFrom [] (pieces s.toList)
  else .ok (shownWords s.toList)

/-! ### Escaping -/

/-- A text whose tags are made text, the backslashes right before it being counted. -/
def escapedAfter (slashes : Nat) : List Char → List Char
  | [] => backslashes slashes
  | c :: rest =>
      if c = '\\' then escapedAfter (slashes + 1) rest
      else if c = '[' && (tagBody? rest).isSome then
        backslashes (2 * slashes + 1) ++ c :: escapedAfter 0 rest
      else backslashes slashes ++ c :: escapedAfter 0 rest

def endsInBackslash (cs : List Char) : Bool :=
  match cs.reverse with
  | '\\' :: '\\' :: _ => false
  | '\\' :: _ => true
  | _ => false

def escaped (s : String) : String :=
  let cs := escapedAfter 0 s.toList
  String.ofList (if endsInBackslash cs then cs ++ ['\\'] else cs)

end WebBaseline.Display
