import WebBaseline.Datum
import WebBaseline.Text.Words

/-!
# Features and their tiers

A tier says how widely a web feature is available.  A level is the most permissive tier that a
scan still reports; whatever lies above it is treated as safe.  A feature is one row of a
compatibility table.
-/

namespace WebBaseline

/-! ### Tiers -/

inductive Tier where
  | limited
  | newly
  | widely
  deriving Repr, DecidableEq, Inhabited

namespace Tier

def rank : Tier → Nat
  | limited => 1
  | newly => 2
  | widely => 3

instance : LE Tier := ⟨fun a b ↦ a.rank ≤ b.rank⟩

instance (a b : Tier) : Decidable (a ≤ b) := inferInstanceAs (Decidable (a.rank ≤ b.rank))

def label : Tier → String
  | limited => "limited"
  | newly => "newly"
  | widely => "widely"

def displayName : Tier → String
  | limited => "Limited Support"
  | newly => "Newly Available"
  | widely => "Widely Available"

def ofLabel? (s : String) : Option Tier :=
  if s = "limited" then some limited
  else if s = "newly" then some newly
  else if s = "widely" then some widely
  else none

/-- The tier a table entry names: nothing and `false` mean limited support, a text is read in any
case and with white space around it. -/
def ofDatum? : Datum → Option Tier
  | .null => some limited
  | .bool false => some limited
  | .text s => ofLabel? (Text.lower (Text.trim s))
  | _ => none

def unknownMessage (value : Datum) : String :=
  "Unknown Baseline tier: " ++ value.quoted

end Tier

/-! ### Levels -/

inductive Level where
  | limited
  | newly
  | widely
  deriving Repr, DecidableEq, Inhabited

namespace Level

def all : List Level := [limited, newly, widely]

def maxReported : Level → Tier
  | limited => .limited
  | newly => .newly
  | widely => .widely

def label (l : Level) : String := l.maxReported.label

/-- The lowest tier that is treated as safe, if any is. -/
def safe? : Level → Option Tier
  | limited => some .newly
  | newly => some .widely
  | widely => none

def reports (l : Level) (t : Tier) : Bool :=
  t ≤ l.maxReported

instance : LE Level := ⟨fun a b ↦ a.maxReported ≤ b.maxReported⟩

instance (a b : Level) : Decidable (a ≤ b) :=
  inferInstanceAs (Decidable (a.maxReported ≤ b.maxReported))

def ofLabel? (s : String) : Option Level :=
  all.find? fun l ↦ l.label = s

/-- The level a setting names, read in any case and with white space around it. -/
def ofDatum? (value : Datum) : Option Level :=
  ofLabel? (Text.lower (Text.trim value.shown))

def unknownMessage (value : Datum) : String :=
  "Unknown baseline level " ++ value.quoted ++ " (expected one of: " ++
    ", ".intercalate (all.map label) ++ ")"

end Level

/-! ### Features -/

/-- A web-platform feature, its tier and the keys under which it is found in sources. -/
structure Feature where
  id : String
  name : String
  description : String
  group : String
  tier : Tier
  keys : List String := []
  lowDate : Option String := none
  highDate : Option String := none
  /-- browser and least version, in table order -/
  support : List (String × String) := []
  spec : Option String := none
  deriving DecidableEq, Inhabited

namespace Feature

def optionalText : Option String → Datum
  | some s => .text s
  | none => .null

def toDatum (f : Feature) : Datum :=
  .record
    [(.text "id", .text f.id),
     (.text "name", .text f.name),
     (.text "description", .text f.description),
     (.text "group", .text f.group),
     (.text "baseline", .text f.tier.label),
     (.text "baseline_low_date", optionalText f.lowDate),
     (.text "baseline_high_date", optionalText f.highDate),
     (.text "support", .record (f.support.map fun e ↦ (.text e.1, .text e.2))),
     (.text "compat_features", .list (f.keys.map .text)),
     (.text "spec", optionalText f.spec)]

end Feature

end WebBaseline
