import WebBaseline.Script.Outline

/-!
# Paths found round by round

The path of an outline is found in a loop.  A round goes from a call to what it calls, or from a
member to its object with the property put down.  The loop ends at an identifier, whose name is put
down as well, or at anything else.  The part that stands last in the path is put down first, so the
parts are turned round in the end.
-/

namespace WebBaseline.Script

/-- How far the loop has come: the outline it stands at, and the parts put down on the way. -/
structure Descent where
  current : Outline
  parts : Array String

namespace Descent

open Outline

/-- One round; it goes on, or it is the last one and leaves the parts. -/
def round : Descent → Descent ⊕ Array String
  | ⟨call callee _ _ _, parts⟩ => .inl ⟨callee, parts⟩
  | ⟨member object property _ _ _, parts⟩ => .inl ⟨object, parts.push property⟩
  | ⟨identifier name _ _ _, parts⟩ => .inr (parts.push name)
  | ⟨other _ _ _ _, parts⟩ => .inr parts

theorem sizeOf_current_lt {d next : Descent} (h : d.round = .inl next) :
    sizeOf next.current < sizeOf d.current := by
  obtain ⟨current, parts⟩ := d
  cases current with
  | call callee children line column =>
      obtain rfl := Sum.inl.inj h
      simp only [call.sizeOf_spec]
      omega
  | member object property children line column =>
      obtain rfl := Sum.inl.inj h
      simp only [member.sizeOf_spec]
      omega
  | identifier name children line column => cases h
  | other kind children line column => cases h

def run (d : Descent) : Array String :=
  match _hround : d.round with
  | .inl next => run next
  | .inr parts => parts
termination_by sizeOf d.current
decreasing_by exact sizeOf_current_lt _hround

end Descent

def Outline.resolve? (n : Outline) : Option String :=
  let parts := Descent.run { current := n, parts := #[] }
  if parts.isEmpty then none else some (".".intercalate parts.toList.reverse)

end WebBaseline.Script
