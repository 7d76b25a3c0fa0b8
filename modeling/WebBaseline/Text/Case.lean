import WebBaseline.Text.CaseTable
import WebBaseline.Text.PrintableTable

/-!
# Lower case and quotes

Lower-casing over all of Unicode.  Every letter is mapped on its own, with two exceptions: the
capital I with a dot becomes two characters, and a capital sigma takes its word-final form when a
cased letter stands before it and none after it.

A text in quotes has everything that could not be read back or seen written as an escape.  Single
quotes are used unless the text holds a single quote and no double quote.
-/

namespace WebBaseline.Text

def inRuns (runs : List (Nat × Nat)) (n : Nat) : Bool :=
  runs.any fun r ↦ r.1 ≤ n && n ≤ r.2

def lowerChar (c : Char) : Char :=
  let n := c.toNat
  if n < 0x80 then c.toLower
  else
    match lowerRuns.find? fun r ↦ r.1 ≤ n && n ≤ r.2.1 && (n - r.1) % r.2.2.1 == 0 with
    | some r => Char.ofNat (r.2.2.2 + (n - r.1))
    | none => c

def isCased (c : Char) : Bool :=
  inRuns casedRuns c.toNat

def isCaseIgnorable (c : Char) : Bool :=
  inRuns caseIgnorableRuns c.toNat

/-- Whether the nearest character that is not passed over has a case. -/
def casedNext (cs : List Char) : Bool :=
  match cs.dropWhile isCaseIgnorable with
  | c :: _ => isCased c
  | [] => false

/-- Lower case of the second list, the first being what stands before it, nearest first. -/
def lowerChars : List Char → List Char → List Char
  | _, [] => []
  | before, c :: rest =>
      if c = 'Σ' then
        (if casedNext before && !casedNext rest then 'ς' else 'σ') :: lowerChars (c :: before) rest
      else if c = 'İ' then
        'i' :: '̇' :: lowerChars (c :: before) rest
      else lowerChar c :: lowerChars (c :: before) rest

def lower (s : String) : String :=
  String.ofList (lowerChars [] s.toList)

/-! ### Quotes -/

def hexPadded (width n : Nat) : String :=
  let digits := Nat.toDigits 16 n
  String.ofList (List.replicate (width - digits.length) '0' ++ digits)

def isPrintable (c : Char) : Bool :=
  !inRuns unprintableRuns c.toNat

/-- The quote that needs the fewest escapes. -/
def quoteFor (s : String) : Char :=
  if s.toList.contains '\'' && !s.toList.contains '"' then '"' else '\''

def escapeChar (quote c : Char) : String :=
  if c = quote || c = '\\' then String.ofList ['\\', c]
  else if c = '\n' then "\\n"
  else if c = '\t' then "\\t"
  else if c = '\r' then "\\r"
  else if isPrintable c then String.ofList [c]
  else
    let n := c.toNat
    if n < 0x100 then "\\x" ++ hexPadded 2 n
    else if n < 0x10000 then "\\u" ++ hexPadded 4 n
    else "\\U" ++ hexPadded 8 n

def quoted (s : String) : String :=
  let quote := quoteFor s
  let body := s.toList.map (escapeChar quote)
  String.ofList [quote] ++ String.join body ++ String.ofList [quote]

end WebBaseline.Text
