import WebBaseline.Markup.Page
import WebBaseline.Report

/-!
# Uses in a page

Every element is a use of its name, and every attribute a use of the element and the attribute.
-/

namespace WebBaseline.Markup

open Reading

/-- Attributes whose value is a list of words, by the element they stand on. -/
def wordLists : List (String × List String) :=
  [("a", ["rel", "rev"]), ("link", ["rel", "rev"]), ("td", ["headers"]), ("th", ["headers"]),
   ("form", ["accept-charset"]), ("object", ["archive"]), ("area", ["rel"]), ("icon", ["sizes"]),
   ("iframe", ["sandbox"]), ("output", ["for"])]

/-- Attributes whose value is a list of words on every element. -/
def commonWordLists : List String := ["class", "accesskey", "dropzone"]

def isWordList (element name : String) : Bool :=
  commonWordLists.contains name || ((wordLists.lookup element).getD []).contains name

/-- Sets an attribute, keeping its place when it was there before. -/
def putAttribute : List (String × String) → String × String → List (String × String)
  | [], e => [e]
  | (name, value) :: rest, e =>
      if name = e.1 then e :: rest else (name, value) :: putAttribute rest e

/-- The attributes of an element: each once, where it was first written, with its last value. -/
def attributesOf (t : Tag) : List (String × String) :=
  (t.attributes.foldl putAttribute []).map fun e ↦
    if isWordList t.name e.1 then (e.1, Text.collapse e.2) else e

/-- Line and column of every position, from one, columns counting characters. -/
def placesFrom : List Char → Nat → Nat → Array (Nat × Nat) → Array (Nat × Nat)
  | [], line, column, acc => acc.push (line, column)
  | c :: rest, line, column, acc =>
      if c = '\n' then placesFrom rest (line + 1) 1 (acc.push (line, column))
      else placesFrom rest line (column + 1) (acc.push (line, column))

/-- The uses of one element.  Names count in lower case. -/
def usesOf (places : Array (Nat × Nat)) (t : Tag) : List Use :=
  let (line, column) := places.getD t.start (1, 1)
  let element := Text.lower t.name
  { key := element, line, column } ::
    (attributesOf t).map fun e ↦
      let name := Text.lower e.1
      { key := element ++ "." ++ name, line, column, property := some name, value := some e.2 }

def uses? (text : String) : Option (List Use) :=
  let s := Source.ofText text
  match tags? s with
  | none => none
  | some tags =>
      let places := placesFrom text.toList 1 1 #[]
      some (tags.flatMap (usesOf places))

end WebBaseline.Markup
