import WebBaseline.Markup.Tag

/-!
# Pages

The start tags of a page in their order.  A page is gone through once as if more of it could come;
what could not be decided then is gone through again as the end of the page.
-/

namespace WebBaseline.Markup

open Reading Text

inductive Step where
  /-- go on after some text -/
  | skip (next : Nat)
  /-- a start tag, and the element whose content is plain text up to its end tag -/
  | tag (t : Tag) (raw : Option String) (next : Nat)
  /-- the rest of the page is needed -/
  | wait
  /-- the page cannot be read -/
  | reject

def searchFrom (s : Source) (at? : Nat → Option Nat) : Nat → Nat → Option Nat
  | 0, _ => none
  | fuel + 1, i =>
      match at? i with
      | some j => some j
      | none => searchFrom s at? fuel (i + 1)

def search (s : Source) (at? : Nat → Option Nat) (i : Nat) : Option Nat :=
  searchFrom s at? (s.size + 1 - i) i

def skipOrWait : Option Nat → Step
  | some j => .skip j
  | none => .wait

/-- The end of a comment: two dashes and a bracket, white space between them allowed. -/
def commentClose (s : Source) (i : Nat) : Option Nat :=
  if s.startsAt i ['-', '-'] then
    let j := s.skipWhile isBlank (i + 2)
    if s.isAt j '>' then some (j + 1) else none
  else none

def bracketClose (s : Source) (i : Nat) : Option Nat :=
  if s.isAt i ']' then
    let j := s.skipWhile isBlank (i + 1)
    if s.isAt j '>' then some (j + 1) else none
  else none

def doubleBracketClose (s : Source) (i : Nat) : Option Nat :=
  if s.isAt i ']' then bracketClose s (s.skipWhile isBlank (i + 1)) else none

def upToBracket (s : Source) (i : Nat) : Step :=
  skipOrWait ((findChar s '>' i).map (· + 1))

/-- Sections that two closing brackets end. -/
def plainSections : List String := ["temp", "cdata", "ignore", "include", "rcdata"]

/-- Sections that one closing bracket ends. -/
def choiceSections : List String := ["if", "else", "endif"]

def isSectionChar (c : Char) : Bool :=
  c.isAlphanum || c == '-' || c == '_' || c == '.'

/-- A section in square brackets, which must have a known name. -/
def sectionStep (s : Source) (i : Nat) : Step :=
  let first := i + 3
  if s.size ≤ first then .wait
  else if s.holds first Char.isAlpha then
    let nameEnd := s.skipWhile isSectionChar first
    if s.size ≤ s.skipWhile isBlank nameEnd then .wait
    else
      let name := lower (s.slice first nameEnd)
      if plainSections.contains name then skipOrWait (search s (doubleBracketClose s) first)
      else if choiceSections.contains name then skipOrWait (search s (bracketClose s) first)
      else .reject
  else .reject

def declarationStep (s : Source) (i : Nat) : Step :=
  if s.startsAt i "<!--".toList then skipOrWait (search s (commentClose s) (i + 4))
  else if s.startsAt i "<![".toList then sectionStep s i
  else if lower (s.slice i (i + 9)) = "<!doctype" then upToBracket s (i + 9)
  else upToBracket s (i + 2)

/-- Elements whose content is plain text. -/
def rawElements : List String := ["script", "style"]

def startTagStep (s : Source) (i : Nat) : Step :=
  match startTagEnd? s i with
  | none => .wait
  | some stop =>
      match startTag s i stop with
      | .nothing => .skip stop
      | .tag t selfClosing =>
          .tag t (if !selfClosing && rawElements.contains t.name then some t.name else none) stop

def bracketStep (s : Source) (i : Nat) : Step :=
  if s.holds (i + 1) Char.isAlpha then startTagStep s i
  else if s.holds (i + 1) fun c ↦ c == '/' || c == '?' then upToBracket s (i + 2)
  else if s.isAt (i + 1) '!' then declarationStep s i
  else if i + 1 < s.size then .skip (i + 1)
  else .wait

/-- The end of a reference by number, without the character that must follow it. -/
def numberReference? (s : Source) (i : Nat) : Option Nat :=
  let isHex (c : Char) : Bool := (Text.hexDigit? c).isSome
  let decimal := s.skipWhile Char.isDigit (i + 2)
  if i + 2 < decimal && decimal < s.size && !s.holds decimal isHex then some decimal
  else if s.holds (i + 2) fun c ↦ c == 'x' || c == 'X' then
    let hexadecimal := s.skipWhile isHex (i + 3)
    if i + 3 < hexadecimal && hexadecimal < s.size then some hexadecimal else none
  else none

inductive Reference where
  | goOn (next : Nat)
  /-- stop at a position -/
  | stop (position : Nat)

def isNamePart (c : Char) : Bool :=
  c.isAlphanum || c == '-' || c == '.'

/-- The end of a reference by name: after the longest name that something else than a letter or a
digit follows. -/
def nameReference? (s : Source) (first : Nat) : Nat → Option Nat
  | 0 => none
  | size + 1 =>
      let j := first + size + 1
      if j < s.size && !s.holds j Char.isAlphanum then some j else nameReference? s first size

def afterSemicolon (s : Source) (i : Nat) : Nat :=
  if s.isAt i ';' then i + 1 else i

def ampersand (s : Source) (last : Bool) (i : Nat) : Reference :=
  if s.isAt (i + 1) '#' then
    match numberReference? s i with
    | some j => .goOn (afterSemicolon s j)
    | none => .stop (if (findChar s ';' i).isSome then i + 2 else i)
  else
    let named :=
      if s.holds (i + 1) Char.isAlpha then
        nameReference? s (i + 1) (s.skipWhile isNamePart (i + 1) - (i + 1))
      else none
    match named with
    | some j => .goOn (afterSemicolon s j)
    | none =>
        if s.holds (i + 1) Char.isAlpha then
          .stop (if last && i + 2 = s.size then i + 1 else i)
        else if i + 1 < s.size then .goOn (i + 1)
        else .stop i

def rawEnd? (s : Source) (name : String) (i : Nat) : Option Nat :=
  if s.startsAt i ['<', '/'] then
    let j := s.skipWhile isBlank (i + 2)
    let k := j + name.length
    if lower (s.slice j k) = name then
      let stop := s.skipWhile isBlank k
      if s.isAt stop '>' then some (stop + 1) else none
    else none
  else none

structure Progress where
  position : Nat
  raw : Option String
  tags : List Tag

/-- A pass over a page.  In the last pass nothing can be waited for: what is undecided is plain
text up to the next bracket. -/
def passFor (s : Source) (last : Bool) : Nat → Progress → Option Progress
  | 0, p => some p
  | fuel + 1, p =>
      match p.raw with
      | some name =>
          match search s (rawEnd? s name) p.position with
          | some j => passFor s last fuel { p with position := j, raw := none }
          | none => some p
      | none =>
          let i := s.skipWhile (fun c ↦ c != '<' && c != '&') p.position
          if s.size ≤ i then some { p with position := s.size }
          else if s.isAt i '<' then
            match bracketStep s i with
            | .skip j => passFor s last fuel { p with position := j }
            | .tag t raw j => passFor s last fuel { position := j, raw, tags := t :: p.tags }
            | .reject => none
            | .wait =>
                if !last || s.size ≤ i + 1 then some { p with position := i }
                else
                  let j := match findChar s '>' (i + 1) with
                    | some k => k + 1
                    | none => (findChar s '<' (i + 1)).getD (i + 1)
                  passFor s last fuel { p with position := j }
          else
            match ampersand s last i with
            | .goOn j => passFor s last fuel { p with position := j }
            | .stop j => some { p with position := j }

def pass (s : Source) (last : Bool) (p : Progress) : Option Progress :=
  passFor s last (s.size + 1) p

def tags? (s : Source) : Option (List Tag) :=
  match pass s false { position := 0, raw := none, tags := [] } with
  | none => none
  | some p =>
      match pass s true p with
      | none => none
      | some q => some q.tags.reverse

end WebBaseline.Markup
