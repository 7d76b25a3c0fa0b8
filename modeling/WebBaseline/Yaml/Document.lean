import WebBaseline.Yaml.Node
import WebBaseline.Yaml.Scalar

/-!
# Documents

The value of a document.  Faults are looked for level by level from the root down, so that of two
faults the one further out counts.
-/

namespace WebBaseline.Yaml

def tagPrefix : String := "tag:yaml.org,2002:"

def tagName? (tag : String) : Option String :=
  if tagPrefix.toList.isPrefixOf tag.toList then
    some (String.ofList (tag.toList.drop tagPrefix.length))
  else none

/-- A tag that says something. -/
def meaningful : Option String → Option String
  | some "!" => none
  | tag => tag

/-- The name of the tag of a scalar, judged by its text where it has none. -/
def scalarTag? (tag : Option String) (text : String) (plain : Bool) : Option String :=
  match meaningful tag with
  | some t => tagName? t
  | none =>
      if plain || tag.isSome then
        some (match kindOf text with
          | .null => "null"
          | .bool => "bool"
          | .int => "int"
          | .float => "float"
          | .timestamp => "timestamp"
          | .merge => "merge"
          | .equals => "value"
          | .text => "str")
      else some "str"

def scalarOf (name text : String) : Except Fault Datum :=
  if name = "null" then .ok .null
  else if name = "bool" then boolOf text
  else if name = "int" then intOf text
  else if name = "float" then floatOf text
  else if name = "timestamp" then timestampOf text
  else if name = "binary" then binaryOf text
  else if name = "str" then .ok (.text text)
  else .error .malformed

def isMerge : Node → Bool
  | .scalar tag text plain => scalarTag? tag text plain == some "merge"
  | _ => false

/-- An equals sign as a key is a text. -/
def keyNode : Node → Node
  | .scalar tag text plain =>
      if scalarTag? tag text plain == some "value" then
        .scalar (some (tagPrefix ++ "str")) text plain
      else .scalar tag text plain
  | n => n

/-! ### Merging -/

/-- The entries of a mapping with those of the mappings it takes in before its own. -/
def flatten : Nat → List (Node × Node) → Except Fault (List (Node × Node))
  | 0, _ => .error .malformed
  | fuel + 1, entries => do
      let taken (n : Node) : Except Fault (List (Node × Node)) :=
        match n with
        | .mapping _ es => flatten fuel es
        | _ => .error .malformed
      let parts ← entries.mapM fun (k, v) ↦
        if isMerge k then
          match v with
          | .sequence _ items => do
              let found ← items.mapM taken
              return (found.reverse.flatten, ([] : List (Node × Node)))
          | _ => do
              let found ← taken v
              return (found, [])
        else return ([], [(keyNode k, v)])
      return (parts.map Prod.fst).flatten ++ (parts.map Prod.snd).flatten

/-! ### Values -/

inductive Shape where
  | list
  | record
  | set
  /-- a list of pairs, from a list of mappings with one entry each -/
  | pairs
  | scalar (name : String)
  deriving DecidableEq

def shapeOf (n : Node) : Except Fault Shape :=
  let named (default : String) (tag : Option String) : Option String :=
    match meaningful tag with
    | some t => tagName? t
    | none => some default
  let name := match n with
    | .scalar tag text plain => scalarTag? tag text plain
    | .sequence tag _ => named "seq" tag
    | .mapping tag _ => named "map" tag
  match name with
  | none => .error .malformed
  | some name =>
      if name = "seq" then .ok .list
      else if name = "map" then .ok .record
      else if name = "set" then .ok .set
      else if name = "omap" || name = "pairs" then .ok .pairs
      else .ok (.scalar name)

/-- The text of a scalar; a mapping stands for its entry under an equals sign. -/
def textOf? : Nat → Node → Option String
  | 0, _ => none
  | fuel + 1, n =>
      match n with
      | .scalar _ text _ => some text
      | .mapping _ entries =>
          (entries.find? fun e ↦ match e.1 with
            | .scalar tag text plain => scalarTag? tag text plain == some "value"
            | _ => false).bind fun e ↦ textOf? fuel e.2
      | .sequence _ _ => none

/-- What can be said of a node before what it holds is looked at. -/
def shallow (fuel : Nat) (n : Node) : Except Fault Datum :=
  match shapeOf n with
  | .error e => .error e
  | .ok (.scalar name) =>
      match textOf? fuel n with
      | some text => scalarOf name text
      | none => .error .malformed
  | .ok .list => .ok (.list [])
  | .ok .record => .ok (.record [])
  | .ok .set => .ok (.set [])
  | .ok .pairs => .ok (.list [])

def isKey : Datum → Bool
  | .list _ => false
  | .record _ => false
  | .set _ => false
  | _ => true

def pairOf : Node → Except Fault (Node × Node)
  | .mapping _ [e] => .ok e
  | _ => .error .malformed

/-- The parts of a collection in the order in which they are looked at: keys and values. -/
def partsOf (fuel : Nat) (n : Node) : Except Fault (List (Option Node × Node)) :=
  match shapeOf n with
  | .error e => .error e
  | .ok (.scalar _) => .ok []
  | .ok .list =>
      match n with
      | .sequence _ items => .ok (items.map fun i ↦ (none, i))
      | _ => .error .malformed
  | .ok .pairs =>
      match n with
      | .sequence _ items => do
          let pairs ← items.mapM pairOf
          return pairs.flatMap fun (k, v) ↦ [(none, k), (none, v)]
      | _ => .error .malformed
  | .ok _ =>
      match n with
      | .mapping _ entries => do
          let entries ← flatten fuel entries
          return entries.map fun (k, v) ↦ (some k, v)
      | _ => .error .malformed

def isCollection (n : Node) : Bool :=
  match shapeOf n with
  | .ok (.scalar _) => false
  | .ok _ => true
  | .error _ => false

def checkParts (fuel : Nat) : List (Option Node × Node) → Except Fault (List Node)
  | [] => .ok []
  | (key, n) :: rest => do
      match key with
      | some k =>
          let d ← shallow fuel k
          if !isKey d then throw .malformed
      | none => pure ()
      let _ ← shallow fuel n
      let more ← checkParts fuel rest
      return if isCollection n then n :: more else more

def checkLevels (fuel : Nat) : Nat → List Node → Except Fault Unit
  | 0, _ => .ok ()
  | levels + 1, nodes => do
      if nodes.isEmpty then return ()
      else
        let next ← nodes.mapM fun n ↦ do
          let parts ← partsOf fuel n
          checkParts fuel parts
        checkLevels fuel levels next.flatten

/-- Whether two keys are the same: a number and a truth value can be. -/
def sameKey : Datum → Datum → Bool
  | .null, .null => true
  | .text a, .text b => a == b
  | .bytes a, .bytes b => a == b
  | .day a, .day b => a == b
  | .moment d t, .moment e u => d == e && t == u
  | .int a, .int b => a == b
  | .int a, .bool b => a == if b then 1 else 0
  | .bool a, .int b => b == if a then 1 else 0
  | .bool a, .bool b => a == b
  | .float a, .float b => a == b
  | .float a, .int b => a == Float.ofInt b
  | .int a, .float b => Float.ofInt a == b
  | .float a, .bool b => a == if b then 1.0 else 0.0
  | .bool a, .float b => b == if a then 1.0 else 0.0
  | _, _ => false

/-- Sets an entry; a key that was there before keeps its place and its form. -/
def put : List (Datum × Datum) → Datum → Datum → List (Datum × Datum)
  | [], k, v => [(k, v)]
  | (k', v') :: rest, k, v => if sameKey k' k then (k', v) :: rest else (k', v') :: put rest k v

/-- The value of a node in which no fault was found. -/
def valueOf : Nat → Node → Datum
  | 0, _ => .null
  | fuel + 1, n =>
      let value := valueOf fuel
      match shapeOf n with
      | .error _ => .null
      | .ok (.scalar name) =>
          match scalarOf name ((textOf? (fuel + 1) n).getD "") with
          | .ok d => d
          | .error _ => .null
      | .ok .list =>
          match n with
          | .sequence _ items => .list (items.map value)
          | _ => .null
      | .ok .pairs =>
          match n with
          | .sequence _ items =>
              .list (items.map fun i ↦ match i with
                | .mapping _ [(k, v)] => .tuple [value k, value v]
                | _ => .null)
          | _ => .null
      | .ok shape =>
          match n with
          | .mapping _ entries =>
              match flatten (fuel + 1) entries with
              | .ok entries =>
                  let found := entries.foldl (fun acc e ↦ put acc (value e.1) (value e.2)) []
                  if shape = .set then .set (found.map Prod.fst) else .record found
              | .error _ => .null
          | _ => .null

def depth : Node → Nat
  | .scalar _ _ _ => 1
  | .sequence _ items => 1 + (items.attach.map fun ⟨i, _⟩ ↦ depth i).foldl max 0
  | .mapping _ entries =>
      1 + (entries.attach.map fun ⟨e, _⟩ ↦ max (depth e.1) (depth e.2)).foldl max 0
termination_by n => sizeOf n
decreasing_by
  · rename_i h
    have := List.sizeOf_lt_of_mem h
    simp only [Node.sequence.sizeOf_spec]
    omega
  · rename_i h
    have h1 := List.sizeOf_lt_of_mem h
    have h2 : sizeOf e = 1 + sizeOf e.1 + sizeOf e.2 := by cases e; rfl
    simp only [Node.mapping.sizeOf_spec]
    omega
  · rename_i h
    have h1 := List.sizeOf_lt_of_mem h
    have h2 : sizeOf e = 1 + sizeOf e.1 + sizeOf e.2 := by cases e; rfl
    simp only [Node.mapping.sizeOf_spec]
    omega

/-- The value of a text: that of its only document, and nothing where there is none.  Values are
finite trees: an alias inside the node that it names, which would make a value hold itself, reads as
null. -/
def read (text : String) : Except Fault Datum :=
  match compose text with
  | .error e => .error e
  | .ok none => .ok .null
  | .ok (some n) =>
      let fuel := depth n + 1
      match shallow fuel n with
      | .error e => .error e
      | .ok _ =>
          match checkLevels fuel fuel (if isCollection n then [n] else []) with
          | .error e => .error e
          | .ok () => .ok (valueOf fuel n)

end WebBaseline.Yaml
