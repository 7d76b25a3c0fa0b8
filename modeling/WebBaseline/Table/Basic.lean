import WebBaseline.Feature

/-!
# Compatibility tables

A table is a list of features in which no two share an id and no key is written twice.  A key
that the table does not hold is a miss, and a miss reports nothing.

The same table can be put together feature by feature.  One index takes the features under their
ids, the other one under each of their keys, and what is taken already is a fault.  What is asked of
the table is then answered by the two indexes.
-/

namespace WebBaseline

inductive TableError where
  | notRecord
  | featuresNotList
  | entryNotRecord (index : Nat)
  | missingFields (index : Nat) (names : List String)
  | unknownTier (id : String) (value : Datum)
  | keysNotList (id : String)
  | supportNotRecord (id : String)
  | duplicateId (id : String)
  | keyClaimedTwice (key owner claimant : String)

namespace TableError

def message : TableError → String
  | notRecord => "Compatibility table must be a mapping"
  | featuresNotList => "Compatibility table needs a 'features' list"
  | entryNotRecord i => "Feature entry #" ++ toString i ++ " must be a mapping"
  | missingFields i names =>
      "Feature entry #" ++ toString i ++ " is missing required field(s): " ++
        ", ".intercalate names
  | unknownTier id value => "Feature " ++ Text.quoted id ++ ": " ++ Tier.unknownMessage value
  | keysNotList id => "Feature " ++ Text.quoted id ++ ": 'compat_features' must be a list"
  | supportNotRecord id => "Feature " ++ Text.quoted id ++ ": 'support' must be a mapping"
  | duplicateId id => "Duplicate feature id: " ++ id
  | keyClaimedTwice key owner claimant =>
      "Feature key " ++ Text.quoted key ++ " is claimed by both " ++ Text.quoted owner ++
        " and " ++ Text.quoted claimant

end TableError

structure Table where
  version : String
  features : List Feature
  deriving DecidableEq, Inhabited

namespace Table

def owner? (features : List Feature) (key : String) : Option Feature :=
  features.find? fun f ↦ f.keys.contains key

/-- The keys of one feature checked against those that came before: all features already in the
table, and the keys of the same feature read so far. -/
def claimKeys (before : List Feature) (f : Feature) :
    List String → List String → Except TableError Unit
  | _, [] => .ok ()
  | taken, key :: rest =>
      match owner? before key with
      | some g => .error (.keyClaimedTwice key g.id f.id)
      | none =>
          if taken.contains key then .error (.keyClaimedTwice key f.id f.id)
          else claimKeys before f (key :: taken) rest

/-- Adds features one by one, the first fault being reported. -/
def claimAll : List Feature → List Feature → Except TableError Unit
  | _, [] => .ok ()
  | before, f :: rest =>
      if before.any fun g ↦ g.id = f.id then .error (.duplicateId f.id)
      else
        match claimKeys before f [] f.keys with
        | .error e => .error e
        | .ok () => claimAll (before ++ [f]) rest

def ofFeatures (features : List Feature) (version : String) : Except TableError Table :=
  match claimAll [] features with
  | .error e => .error e
  | .ok () => .ok { version, features }

def lookup (t : Table) (key : String) : Option Feature :=
  owner? t.features key

def get? (t : Table) (id : String) : Option Feature :=
  t.features.find? fun f ↦ f.id = id

def contains (t : Table) (key : String) : Bool :=
  (t.lookup key).isSome

def size (t : Table) : Nat :=
  t.features.length

/-- A miss is at or above no tier. -/
def isAtOrAbove (t : Table) (key : String) (tier : Tier) : Bool :=
  match t.lookup key with
  | some f => decide (tier ≤ f.tier)
  | none => false

def byGroup (t : Table) (group : String) : List Feature :=
  let wanted := Text.lower group
  t.features.filter fun f ↦ f.group = wanted

def byTier (t : Table) (tier : Tier) : List Feature :=
  t.features.filter fun f ↦ f.tier = tier

def baseline (t : Table) : List Feature :=
  t.features.filter fun f ↦ decide (Tier.newly ≤ f.tier)

def occursIn (needle : List Char) : List Char → Bool
  | [] => needle.isEmpty
  | c :: rest => needle.isPrefixOf (c :: rest) || occursIn needle rest

def mentions (needle : String) (s : String) : Bool :=
  occursIn needle.toList (Text.lower s).toList

/-- The features whose id, name or description holds a text, in any case. -/
def search (t : Table) (query : String) : List Feature :=
  let needle := Text.lower query
  t.features.filter fun f ↦
    mentions needle f.id || mentions needle f.name || mentions needle f.description

/-- The features left by filters of which each may be missing or empty. -/
def select (t : Table) (group : Option String) (tier : Option Tier) (query : Option String) :
    List Feature :=
  let found := match query with
    | some q => if q.isEmpty then t.features else t.search q
    | none => t.features
  let found := match group with
    | some g => if g.isEmpty then found else found.filter fun f ↦ f.group = g
    | none => found
  match tier with
  | some wanted => found.filter fun f ↦ f.tier = wanted
  | none => found

def describe (t : Table) : String :=
  "CompatDatabase(version=" ++ Text.quoted t.version ++ ", features=" ++ toString t.size ++ ")"

def toDatum (version : String) (features : List Feature) : Datum :=
  .record [(.text "version", .text version), (.text "features", .list (features.map (·.toDatum)))]

/-! ### Indexes -/

/-- Features under their ids and under their keys, in the order in which they were put there. -/
structure Index where
  byId : List (String × Feature) := []
  byKey : List (String × Feature) := []

namespace Index

/-- Puts a feature under some of its keys, one after the other. -/
def addKeys (f : Feature) : List String → Index → Except TableError Index
  | [], x => .ok x
  | key :: rest, x =>
      match x.byKey.lookup key with
      | some owner => .error (.keyClaimedTwice key owner.id f.id)
      | none => addKeys f rest { x with byKey := x.byKey ++ [(key, f)] }

def add (x : Index) (f : Feature) : Except TableError Index :=
  match x.byId.lookup f.id with
  | some _ => .error (.duplicateId f.id)
  | none => addKeys f f.keys { x with byId := x.byId ++ [(f.id, f)] }

def ofFeatures (features : List Feature) : Except TableError Index :=
  features.foldlM add {}

def features (x : Index) : List Feature := x.byId.map Prod.snd

def size (x : Index) : Nat := x.byId.length

def lookup (x : Index) (key : String) : Option Feature := x.byKey.lookup key

def contains (x : Index) (key : String) : Bool := x.byKey.any fun e ↦ e.1 = key

def get? (x : Index) (id : String) : Option Feature := x.byId.lookup id

end Index

end Table

end WebBaseline
