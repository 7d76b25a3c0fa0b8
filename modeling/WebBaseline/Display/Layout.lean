import WebBaseline.Display.Console
import WebBaseline.Display.WidthTable
import WebBaseline.Text.Case
import WebBaseline.Text.Words

/-!
# Lines of a given width

Text on a terminal is measured in cells.  Most characters take one; some take two, and some none.
A joiner makes the next character part of the one before it, and the picture selector widens a
narrow character that has a picture.

A text is broken into lines between its words, and a word that is wider than a line is cut up or
left to be cropped.  The lines are then put at the left or in the middle of their width.
-/

namespace WebBaseline.Display

def spaces (n : Nat) : List Char := List.replicate n ' '

/-! ### Measuring -/

def cells (c : Char) : Nat :=
  if Text.inRuns zeroWidthRuns c.toNat then 0
  else if Text.inRuns wideRuns c.toNat then 2
  else 1

def widens : Option Char → Bool
  | some c => Text.inRuns picturedRuns c.toNat
  | none => false

/-- The cells of a text, the last character that took any being known. -/
def widthAfter : Option Char → List Char → Nat
  | _, [] => 0
  | _, ['\u200d'] => 0
  | last, '\u200d' :: _ :: rest => widthAfter last rest
  | last, '\ufe0f' :: rest => (if widens last then 1 else 0) + widthAfter none rest
  | last, c :: rest =>
      if cells c = 0 then widthAfter last rest else cells c + widthAfter (some c) rest

def width (cs : List Char) : Nat :=
  widthAfter none cs

def splitAtAny (ends : Char → Bool) : List Char → List Char → List (List Char)
  | [], current => [current.reverse]
  | c :: rest, current =>
      if ends c then current.reverse :: splitAtAny ends rest [] else
        splitAtAny ends rest (c :: current)

def widest (cs : List Char) : Nat :=
  ((splitAtAny endsLine cs []).map width).foldl max 0

/-! ### Breaking -/

inductive Overflow where
  /-- cut it into lines -/
  | fold
  /-- crop it and put dots at the end -/
  | dots
  deriving DecidableEq

/-- The words of a text, each with the white space that follows it; the first one has the white
space before it too.  Without a word there are none. -/
def wordsWithBlanks (cs : List Char) : List (List Char) :=
  match cs.dropWhile Text.isBlank with
  | [] => []
  | _ :: _ =>
      let lead := cs.takeWhile Text.isBlank
      match go (cs.dropWhile Text.isBlank) with
      | [] => []
      | first :: rest => (lead ++ first) :: rest
where
  /-- Words from the first character of one on. -/
  go : List Char → List (List Char)
    | [] => []
    | c :: rest =>
        match go rest with
        | [] => [[c]]
        | next :: more =>
            match next with
            | [] => [c] :: more
            | d :: _ =>
                if Text.isBlank c && !Text.isBlank d then [c] :: next :: more
                else (c :: next) :: more

def trimEnd (cs : List Char) : List Char :=
  (cs.reverse.dropWhile Text.isBlank).reverse

/-- A word cut into pieces that fit a line, the piece read so far being given in reverse. -/
def chop (available : Nat) : Nat → List Char → List Char → List (List Char)
  | _, current, [] => [current.reverse]
  | used, current, c :: rest =>
      if available < used + cells c then current.reverse :: chop available (cells c) [c] rest
      else chop available (used + cells c) (c :: current) rest

/-- Puts words on lines.  The line being filled is given in reverse together with the cells that
are taken on it; on the first line nothing is started anew while it is empty. -/
def fillLines (available : Nat) (overflow : Overflow) (started : Bool) (used : Nat)
    (line : List Char) : List (List Char) → List (List Char)
  | [] => [line.reverse]
  | word :: rest =>
      let needed := width (trimEnd word)
      if used + needed ≤ available then
        fillLines available overflow true (used + width word) (word.reverse ++ line) rest
      else if needed ≤ available then
        line.reverse :: fillLines available overflow true (width word) word.reverse rest
      else
        let whole := if started then [line.reverse] else []
        match overflow with
        | .dots => whole ++ fillLines available overflow true (width word) word.reverse rest
        | .fold =>
            let parts := chop available 0 [] word
            let last := parts.getLastD []
            whole ++ parts.dropLast ++
              fillLines available overflow true (width last) last.reverse rest

def broken (available : Nat) (overflow : Overflow) (cs : List Char) : List (List Char) :=
  match wordsWithBlanks cs with
  | [] => [cs]
  | words => fillLines available overflow false 0 [] words

/-- Tabs reach to the next multiple of eight cells. -/
def expandTabs (position : Nat) (part : List Char) : List Char → List Char
  | [] => part.reverse
  | c :: rest =>
      if c = '\t' then
        let whole := part.reverse ++ [' ']
        let reached := position + width whole
        let gap := if reached % 8 = 0 then 0 else 8 - reached % 8
        whole ++ spaces gap ++ expandTabs (reached + gap) [] rest
      else expandTabs position (c :: part) rest

/-! ### Placing -/

/-- Drops white space at the end that reaches beyond a number of characters. -/
def dropBeyond (size : Nat) (cs : List Char) : List Char :=
  let blank := (cs.reverse.takeWhile Text.isBlank).length
  cs.take (cs.length - min blank (cs.length - size))

/-- As many characters as fit; half of a wide one becomes a space. -/
def cropped : Nat → List Char → List Char
  | _, [] => []
  | available, c :: rest =>
      if cells c ≤ available then c :: cropped (available - cells c) rest
      else spaces available

def truncated (available : Nat) (overflow : Overflow) (cs : List Char) : List Char :=
  if width cs ≤ available then cs
  else
    match overflow with
    | .dots => cropped (available - 1) cs ++ ['…']
    | .fold => cropped available cs

def padded (available : Nat) (cs : List Char) : List Char :=
  cs ++ spaces (available - width cs)

def placed (available : Nat) (placing : Placing) (overflow : Overflow) (cs : List Char) :
    List Char :=
  let cs := dropBeyond available cs
  match placing with
  | .free => truncated available overflow cs
  | .left => padded available (truncated available overflow cs)
  | .centre =>
      let cs := truncated available overflow (trimEnd cs)
      padded available (spaces ((available - width cs) / 2) ++ cs)

def laidOut (available : Nat) (placing : Placing) (overflow : Overflow) (cs : List Char) :
    List (List Char) :=
  (splitAtAny (· = '\n') cs []).flatMap fun line ↦
    (broken available overflow (expandTabs 0 [] line)).map (placed available placing overflow)

end WebBaseline.Display
