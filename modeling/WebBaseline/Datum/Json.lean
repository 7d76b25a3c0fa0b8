import WebBaseline.Datum

/-!
# Documents as JSON

A document is written over several lines, two spaces deeper with every level, and in ASCII only:
other characters are written as escapes of their UTF-16 units.
-/

namespace WebBaseline.Datum

def unitEscape (n : Nat) : String := "\\u" ++ Text.hexPadded 4 n

def jsonChar (c : Char) : String :=
  let n := c.toNat
  if c = '"' then "\\\""
  else if c = '\\' then "\\\\"
  else if c = '\n' then "\\n"
  else if c = '\r' then "\\r"
  else if c = '\t' then "\\t"
  else if n = 8 then "\\b"
  else if n = 12 then "\\f"
  else if 32 ≤ n && n < 127 then String.ofList [c]
  else if n < 0x10000 then unitEscape n
  else
    let high := 0xD800 + (n - 0x10000) / 0x400
    let low := 0xDC00 + (n - 0x10000) % 0x400
    unitEscape high ++ unitEscape low

def jsonText (s : String) : String :=
  "\"" ++ String.join (s.toList.map jsonChar) ++ "\""

def jsonIndent (depth : Nat) : String :=
  "\n" ++ String.ofList (List.replicate (2 * depth) ' ')

/-- Items between brackets, each on a line of its own; without items nothing stands between. -/
def jsonBlock (opening closing : String) (depth : Nat) (items : List String) : String :=
  if items.isEmpty then opening ++ closing
  else
    opening ++ jsonIndent (depth + 1) ++ ("," ++ jsonIndent (depth + 1)).intercalate items ++
      jsonIndent depth ++ closing

mutual

def jsonAt (depth : Nat) : Datum → String
  | null => "null"
  | bool b => if b then "true" else "false"
  | int n => toString n
  | float x => Decimal.document.render x
  | list xs => jsonBlock "[" "]" depth (jsonItems (depth + 1) xs)
  | tuple xs => jsonBlock "[" "]" depth (jsonItems (depth + 1) xs)
  | record entries => jsonBlock "\x7b" "\x7d" depth (jsonEntries (depth + 1) entries)
  | v => jsonText v.shown

def jsonItems (depth : Nat) : List Datum → List String
  | [] => []
  | x :: xs => jsonAt depth x :: jsonItems depth xs

def jsonEntries (depth : Nat) : List (Datum × Datum) → List String
  | [] => []
  | (k, v) :: rest => (jsonText k.shown ++ ": " ++ jsonAt depth v) :: jsonEntries depth rest

end

def toJson (d : Datum) : String := jsonAt 0 d

end WebBaseline.Datum
