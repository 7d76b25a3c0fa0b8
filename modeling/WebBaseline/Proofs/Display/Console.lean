import Mathlib.Data.List.Forall2
import WebBaseline.Display.Console
import WebBaseline.Text.Words

/-!
# What a console is relied upon for

A console reads tags, escapes and names of emoji, and draws grids with one block of lines for each
row.  The laws are those that consoles are documented to have.  They say nothing about texts in
which several of these things meet.
-/

namespace WebBaseline.Display

/-- No character of a text has a meaning in tags or escapes. -/
def Unmarked (cs : List Char) : Prop := ∀ ch ∈ cs, ch ≠ '[' ∧ ch ≠ '\\'

/-- The body of a tag that opens a style. -/
structure OpensStyle (body : List Char) : Prop where
  start : body.head?.any (fun ch ↦ ('a' ≤ ch && ch ≤ 'z') || ch = '#' || ch = '@') = true
  inside : ∀ ch ∈ body, ch ≠ '[' ∧ ch ≠ ']'

/-- A style written as one word in small letters. -/
def IsStyleWord (style : String) : Prop :=
  style.toList ≠ [] ∧ ∀ ch ∈ style.toList, 'a' ≤ ch ∧ ch ≤ 'z'

/-- A text that stands on one line: nothing ends a line in it and no tab is expanded. -/
def OneLine (cs : List Char) : Prop := ∀ ch ∈ cs, endsLine ch = false ∧ ch ≠ '\t'

/-- The lines of a row, if they show its first cell: behind the edge of the grid and a space, with
spaces up to the width of the column, before another space and the edge of the next cell. -/
def BlockShows (cell : List Char) (block : List (List Char)) : Prop :=
  ∃ edge n line more, block = line :: more ∧
    edge :: ' ' :: (cell ++ List.replicate n ' ') ++ [' ', edge] <+: line

namespace Console

variable (c : Console)

/-- A text that has no name of an emoji between colons and no character that is never shown. -/
structure Clean (cs : List Char) : Prop where
  kept : ∀ ch ∈ cs, isStripped ch = false
  nameless : ∀ before name after, cs = before ++ ':' :: name ++ ':' :: after → ':' ∉ name →
    c.emoji? name = none

/-- A text without anything that a console acts upon. -/
structure Plain (cs : List Char) : Prop extends c.Clean cs where
  unmarked : Unmarked cs

/-- A tagged text and the text that it is written for: unmarked texts and escaped texts in styles
that are closed again, and at the end one more escaped text. -/
inductive Writes : String → List Char → Prop where
  | nothing : Writes "" []
  | unmarked {s m : String} {t : List Char} (h : Unmarked s.toList) (rest : Writes m t) :
      Writes (s ++ m) (s.toList ++ t)
  | styled {style s m : String} {t : List Char} (h : IsStyleWord style) (rest : Writes m t) :
      Writes ("[" ++ style ++ "]" ++ c.escaped s ++ "[/" ++ style ++ "]" ++ m) (s.toList ++ t)
  | escaped (s : String) : Writes (c.escaped s) s.toList

structure Lawful : Prop where
  /-- a text without marks needs no escaping -/
  escaped_of_unmarked : ∀ {s : String}, Unmarked s.toList → c.escaped s = s
  /-- escaped texts close no style, so that styles which are closed where they are opened are closed
  well -/
  shown_of_writes : ∀ {m : String} {t : List Char}, c.Writes m t → ∃ out, c.shown m = .ok out
  /-- escaped texts are shown as they are, their tags included, and so are plain texts -/
  shown_of_clean : ∀ {m : String} {t : List Char}, c.Writes m t → c.Clean t → '\\' ∉ t →
    c.shown m = .ok t
  /-- a tag that opens a style is removed from the text -/
  shown_of_tag : ∀ {before body after : List Char}, c.Plain before → OpensStyle body →
    c.Plain after → c.shown (String.ofList (before ++ '[' :: body ++ ']' :: after)) =
      .ok (before ++ after)
  /-- a tag that closes a style which is not open is a fault, whatever follows it -/
  shown_of_unmatched : ∀ {before body : List Char} (after : List Char), Unmarked before →
    (∀ ch ∈ body, ch ≠ '[' ∧ ch ≠ ']') →
    c.shown (String.ofList (before ++ '[' :: '/' :: body ++ ']' :: after)) =
      .error .nothingToClose
  /-- an emoji stands in the place of its name and the colons -/
  shown_of_emoji : ∀ {before name after points : List Char},
    c.Plain before → ':' ∉ before → c.Plain after → ':' ∉ after →
    Unmarked name → (∀ ch ∈ name, ch ≠ ':' ∧ Text.isBlank ch = false) →
    c.emoji? name = some points →
    c.shown (String.ofList (before ++ ':' :: name ++ ':' :: after)) =
      .ok (before ++ points ++ after)
  /-- a grid that there is room for is drawn row by row, the first cells at the start -/
  drawn_rows : ∀ {g : Grid}, c.Fits g → (g.columns.head?.any fun x ↦ x.placing = .left) = true →
    (∀ row ∈ g.rows, row.length = g.columns.length) →
    ∃ above blocks below, c.drawn g = above ++ blocks.flatten ++ below ∧
      List.Forall₂ (fun row block ↦ block ≠ [] ∧ ∀ cell ∈ row.head?, OneLine cell →
        (∃ ch ∈ cell.getLast?, Text.isBlank ch = false) → BlockShows cell block) g.rows blocks

variable {c}

theorem Lawful.shown_of_plain (hc : c.Lawful) {s : String} (h : c.Plain s.toList) :
    c.shown s = .ok s.toList := by
  have hwrites : c.Writes s s.toList := by
    have hnothing := Writes.unmarked h.unmarked (.nothing (c := c))
    rwa [String.append_empty, List.append_nil] at hnothing
  exact hc.shown_of_clean hwrites h.toClean fun hslash ↦ (h.unmarked _ hslash).2 rfl

end Console

end WebBaseline.Display
