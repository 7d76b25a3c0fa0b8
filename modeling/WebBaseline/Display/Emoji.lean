import WebBaseline.Display.EmojiTable
import WebBaseline.Text.Case
import WebBaseline.Text.Words

/-!
# Emoji by name

A name between two colons, with no white space in it, stands for an emoji.  The name may end in a
wish for the picture or for the plain form.  Names that are not known stay as they are, and so do
their colons.
-/

namespace WebBaseline.Display

/-- A name without the wish at its end, and the selector for it. -/
def emojiWish (name : List Char) : List Char × List Char :=
  let back := name.reverse
  if "ijome-".toList.isPrefixOf back then ((back.drop 6).reverse, ['\ufe0f'])
  else if "txet-".toList.isPrefixOf back then ((back.drop 5).reverse, ['\ufe0e'])
  else (name, [])

def emoji? (name : List Char) : Option (List Char) :=
  let (plain, selector) := emojiWish name
  (emojiPoints.lookup (Text.lower (String.ofList plain))).map fun points ↦
    points.map Char.ofNat ++ selector

def emojiNamed (name : List Char) : List Char :=
  (emoji? name).getD (':' :: name ++ [':'])

/-- The characters up to the next colon, provided that no white space stands before it, and those
after the colon. -/
def untilColon : List Char → Option (List Char × List Char)
  | [] => none
  | c :: rest =>
      if c = ':' then some ([], rest)
      else if Text.isBlank c then none
      else (untilColon rest).map fun (name, after) ↦ (c :: name, after)

theorem untilColon_length {cs name after : List Char} (h : untilColon cs = some (name, after)) :
    after.length < cs.length := by
  induction cs generalizing name after with
  | nil => simp [untilColon] at h
  | cons c rest ih =>
      simp only [untilColon] at h
      split at h
      · simp at h
        simp [← h.2]
      · split at h
        · simp at h
        · obtain ⟨⟨n, a⟩, hn, he⟩ := Option.map_eq_some_iff.mp h
          simp only [Prod.mk.injEq] at he
          have := ih hn
          simp only [List.length_cons, ← he.2]
          omega

def withEmoji (cs : List Char) : List Char :=
  match cs with
  | [] => []
  | c :: rest =>
      if c = ':' then
        match _h : untilColon rest with
        | some (name, after) => emojiNamed name ++ withEmoji after
        | none => c :: withEmoji rest
      else c :: withEmoji rest
termination_by cs.length
decreasing_by
  all_goals simp_wf
  have := untilColon_length (by assumption)
  omega

end WebBaseline.Display
