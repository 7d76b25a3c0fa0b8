import WebBaseline.Datum
import WebBaseline.Text.Case
import WebBaseline.Yaml.Stream

/-!
# Scalars

What a plain scalar without a tag is, judged by its characters, and the value of a scalar of each
kind.
-/

namespace WebBaseline.Yaml

inductive Kind where
  | null
  | bool
  | int
  | float
  | timestamp
  | merge
  /-- an equals sign alone -/
  | equals
  | text
  deriving Repr, DecidableEq

/-! ### Forms of numbers -/

def unsigned : List Char → List Char
  | '+' :: rest => rest
  | '-' :: rest => rest
  | cs => cs

def isDigitOrBar (c : Char) : Bool := c.isDigit || c == '_'

def isOctalOrBar (c : Char) : Bool := ('0' ≤ c && c ≤ '7') || c == '_'

def isHexOrBar (c : Char) : Bool :=
  c.isDigit || ('a' ≤ c && c ≤ 'f') || ('A' ≤ c && c ≤ 'F') || c == '_'

/-- What is left after groups of a colon and a number below sixty, and whether there was one. -/
def sixties : List Char → Bool → Bool × List Char
  | ':' :: a :: b :: rest, some' =>
      if '0' ≤ a && a ≤ '5' && b.isDigit then sixties rest true
      else if a.isDigit then sixties (b :: rest) true
      else (some', ':' :: a :: b :: rest)
  | [':', a], some' => if a.isDigit then (true, []) else (some', [':', a])
  | cs, some' => (some', cs)

def isInt (cs : List Char) : Bool :=
  match unsigned cs with
  | ['0'] => true
  | '0' :: 'b' :: rest => !rest.isEmpty && rest.all fun c ↦ c == '0' || c == '1' || c == '_'
  | '0' :: 'x' :: rest => !rest.isEmpty && rest.all isHexOrBar
  | '0' :: rest => !rest.isEmpty && rest.all isOctalOrBar
  | c :: rest =>
      c.isDigit &&
        (let (grouped, left) := sixties (rest.dropWhile isDigitOrBar) false
         left.isEmpty && (grouped || rest.all isDigitOrBar))
  | [] => false

def isExponent : List Char → Bool
  | [] => true
  | e :: sign :: digits =>
      (e == 'e' || e == 'E') && (sign == '+' || sign == '-') && !digits.isEmpty &&
        digits.all Char.isDigit
  | _ => false

def isFloat (cs : List Char) : Bool :=
  let body := unsigned cs
  let pointed := match body with
    | c :: rest =>
        c.isDigit && (match rest.dropWhile isDigitOrBar with
          | '.' :: tail => isExponent (tail.dropWhile isDigitOrBar)
          | more =>
              match sixties more false with
              | (true, '.' :: tail) => tail.all isDigitOrBar
              | _ => false)
    | [] => false
  let fraction := match cs with
    | '.' :: c :: rest => c.isDigit && isExponent (rest.dropWhile isDigitOrBar)
    | _ => false
  pointed || fraction || [".inf", ".Inf", ".INF"].contains (String.ofList body) ||
    [".nan", ".NaN", ".NAN"].contains (String.ofList cs)

/-! ### Forms of dates -/

def takeDigits (least most : Nat) (cs : List Char) : Option (List Char × List Char) :=
  let found := (cs.takeWhile Char.isDigit).take most
  if least ≤ found.length then some (found, cs.drop found.length) else none

def takeChar (c : Char) : List Char → Option (List Char)
  | d :: rest => if c = d then some rest else none
  | [] => none

def digitsValue (cs : List Char) : Nat :=
  cs.foldl (fun n c ↦ n * 10 + (c.toNat - 48)) 0

structure WrittenDate where
  year : List Char
  month : List Char
  day : List Char
  deriving Repr

/-- A time of day as it is written; the zone is a sign, hours and minutes. -/
structure WrittenTime where
  hour : List Char
  minute : List Char
  second : List Char
  fraction : List Char
  zone : Option (Char × List Char × List Char)
  deriving Repr

def writtenDate? (cs : List Char) : Option (WrittenDate × List Char) := do
  let (year, cs) ← takeDigits 4 4 cs
  let cs ← takeChar '-' cs
  let (month, cs) ← takeDigits 1 2 cs
  let cs ← takeChar '-' cs
  let (day, cs) ← takeDigits 1 2 cs
  return ({ year, month, day }, cs)

/-- The distance from universal time: a letter, or a sign with hours and minutes. -/
def writtenZone? (cs : List Char) : Option (Option (Char × List Char × List Char)) :=
  match cs with
  | [] => some none
  | _ =>
      match cs.dropWhile fun c ↦ c == ' ' || c == '\t' with
      | ['Z'] => some (some ('Z', [], []))
      | sign :: rest =>
          if sign == '+' || sign == '-' then do
            let (hours, rest) ← takeDigits 1 2 rest
            match rest with
            | [] => return some (sign, hours, [])
            | _ =>
                let rest ← takeChar ':' rest
                let (minutes, rest) ← takeDigits 2 2 rest
                if rest.isEmpty then some (some (sign, hours, minutes)) else none
          else none
      | [] => none

def writtenTime? (cs : List Char) : Option WrittenTime := do
  let cs ← match cs with
    | 'T' :: rest => some rest
    | 't' :: rest => some rest
    | c :: _ =>
        if c == ' ' || c == '\t' then some (cs.dropWhile fun c ↦ c == ' ' || c == '\t') else none
    | [] => none
  let (hour, cs) ← takeDigits 1 2 cs
  let cs ← takeChar ':' cs
  let (minute, cs) ← takeDigits 2 2 cs
  let cs ← takeChar ':' cs
  let (second, cs) ← takeDigits 2 2 cs
  let (fraction, cs) := match cs with
    | '.' :: rest => (rest.takeWhile Char.isDigit, rest.dropWhile Char.isDigit)
    | _ => ([], cs)
  let zone ← writtenZone? cs
  return { hour, minute, second, fraction, zone }

def writtenMoment? (cs : List Char) : Option (WrittenDate × Option WrittenTime) := do
  let (date, rest) ← writtenDate? cs
  if rest.isEmpty then return (date, none)
  else
    let time ← writtenTime? rest
    return (date, some time)

/-- A date without a time has two digits for month and day. -/
def isTimestamp (cs : List Char) : Bool :=
  match writtenMoment? cs with
  | some (_, some _) => true
  | some (date, none) => date.month.length == 2 && date.day.length == 2
  | none => false

/-! ### Kinds -/

def truthWords : List String :=
  ["yes", "Yes", "YES", "no", "No", "NO", "true", "True", "TRUE", "false", "False", "FALSE", "on",
   "On", "ON", "off", "Off", "OFF"]

def nullWords : List String := ["", "~", "null", "Null", "NULL"]

def kindOf (s : String) : Kind :=
  let cs := s.toList
  if truthWords.contains s then .bool
  else if isFloat cs then .float
  else if isInt cs then .int
  else if s = "<<" then .merge
  else if nullWords.contains s then .null
  else if isTimestamp cs then .timestamp
  else if s = "=" then .equals
  else .text

/-! ### Values -/

def digitsIn? (base : Nat) (cs : List Char) : Option Nat :=
  if cs.isEmpty then none
  else
    cs.foldl (fun acc c ↦
      let digit :=
        if c.isDigit then some (c.toNat - 48)
        else if 'a' ≤ c && c ≤ 'z' then some (c.toNat - 87)
        else if 'A' ≤ c && c ≤ 'Z' then some (c.toNat - 55)
        else none
      match acc, digit with
      | some n, some d => if d < base then some (n * base + d) else none
      | _, _ => none) (some 0)

def splitColons : List Char → List Char → List (List Char)
  | [], current => [current.reverse]
  | ':' :: rest, current => current.reverse :: splitColons rest []
  | c :: rest, current => splitColons rest (c :: current)

def naturalOf? (cs : List Char) : Option Nat :=
  match cs with
  | ['0'] => some 0
  | '0' :: 'b' :: rest => digitsIn? 2 rest
  | '0' :: 'x' :: rest => digitsIn? 16 rest
  | '0' :: rest => digitsIn? 8 rest
  | _ =>
      if cs.contains ':' then
        (splitColons cs []).foldl (fun acc part ↦
          match acc, digitsIn? 10 part with
          | some n, some d => some (n * 60 + d)
          | _, _ => none) (some 0)
      else digitsIn? 10 cs

/-- The value of an integer: bars are dropped, a zero in front makes it octal, and colons divide
it by sixties.  There is no limit to its digits. -/
def intOf (s : String) : Except Fault Datum :=
  match s.toList.filter fun c ↦ c != '_' with
  | [] => .error .emptyNumber
  | c :: rest =>
      match naturalOf? (unsigned (c :: rest)) with
      | some n => .ok (.int (if c = '-' then -(n : Int) else n))
      | none => .error .badValue

def decimal? (cs : List Char) : Option Float :=
  let (negative, body) := match cs with
    | '-' :: rest => (true, rest)
    | '+' :: rest => (false, rest)
    | _ => (false, cs)
  let signed (x : Float) : Float := if negative then -x else x
  let name := String.ofList body
  if name = "inf" || name = "infinity" then some (signed (1.0 / 0.0))
  else if name = "nan" then some (0.0 / 0.0)
  else
    let whole := body.takeWhile Char.isDigit
    let rest := body.dropWhile Char.isDigit
    let (fraction, rest) := match rest with
      | '.' :: more => (more.takeWhile Char.isDigit, more.dropWhile Char.isDigit)
      | _ => ([], rest)
    if whole.isEmpty && fraction.isEmpty then none
    else
      let exponent : Option Int := match rest with
        | [] => some 0
        | 'e' :: more =>
            match more with
            | '-' :: digits => (digitsIn? 10 digits).map fun n ↦ -(n : Int)
            | '+' :: digits => (digitsIn? 10 digits).map fun n ↦ (n : Int)
            | digits => (digitsIn? 10 digits).map fun n ↦ (n : Int)
        | _ => none
      exponent.map fun (e : Int) ↦
        let mantissa := digitsValue (whole ++ fraction)
        let power : Int := e - (fraction.length : Int)
        let x :=
          if mantissa = 0 then 0.0
          else if 100000 < power then 1.0 / 0.0
          else if power < -100000 then 0.0
          else Float.ofScientific mantissa (power < 0) power.natAbs
        signed x

/-- Parts between colons, of which each counts sixty times the one after it. -/
def sexagesimal? (parts : List (List Char)) : Option Float :=
  (parts.reverse.foldl (fun acc part ↦
    match acc, decimal? part with
    | some (total, base), some d => some (total + d * base, base * 60.0)
    | _, _ => none) (some (0.0, 1.0))).map Prod.fst

def floatOf (s : String) : Except Fault Datum :=
  match (Text.lower (String.ofList (s.toList.filter fun c ↦ c != '_'))).toList with
  | [] => .error .emptyNumber
  | c :: rest =>
      let body := unsigned (c :: rest)
      let value :=
        if body = ".inf".toList then some (1.0 / 0.0)
        else if body = ".nan".toList then some (0.0 / 0.0)
        else if body.contains ':' then sexagesimal? (splitColons body [])
        else decimal? body
      match value with
      | some x => .ok (.float (if c = '-' then -x else x))
      | none => .error .badValue

def boolOf (s : String) : Except Fault Datum :=
  let word := Text.lower s
  if ["yes", "true", "on"].contains word then .ok (.bool true)
  else if ["no", "false", "off"].contains word then .ok (.bool false)
  else .error .badTruth

/-! ### Dates -/

def isLeap (year : Nat) : Bool :=
  year % 4 == 0 && (year % 100 != 0 || year % 400 == 0)

def daysIn (year month : Nat) : Nat :=
  if month = 2 then if isLeap year then 29 else 28
  else if [4, 6, 9, 11].contains month then 30
  else 31

def dayOf? (d : WrittenDate) : Option Day :=
  let year := digitsValue d.year
  let month := digitsValue d.month
  let day := digitsValue d.day
  if 1 ≤ year && 1 ≤ month && month ≤ 12 && 1 ≤ day && day ≤ daysIn year month then
    some { year, month, day }
  else none

/-- The distance from universal time in seconds, less than a day. -/
def offsetOf? (zone : Option (Char × List Char × List Char)) : Option (Option Int) :=
  match zone with
  | none => some none
  | some (sign, hours, minutes) =>
      let seconds : Int := digitsValue hours * 3600 + digitsValue minutes * 60
      if seconds < 86400 then some (some (if sign = '-' then -seconds else seconds)) else none

def clockOf? (t : WrittenTime) : Option ClockTime :=
  let hour := digitsValue t.hour
  let minute := digitsValue t.minute
  let second := digitsValue t.second
  let digits := t.fraction.take 6
  let microsecond := digitsValue digits * Decimal.tenTo (6 - digits.length)
  match offsetOf? t.zone with
  | some offset =>
      if hour < 24 && minute < 60 && second < 60 then
        some { hour, minute, second, microsecond, offset }
      else none
  | none => none

def timestampOf (s : String) : Except Fault Datum :=
  match writtenMoment? s.toList with
  | none => .error .badDate
  | some (date, none) =>
      match dayOf? date with
      | some d => .ok (.day d)
      | none => .error .badValue
  | some (date, some time) =>
      match clockOf? time, dayOf? date with
      | some t, some d => .ok (.moment d t)
      | _, _ => .error .badValue

/-! ### Bytes -/

def base64Value? (c : Char) : Option Nat :=
  if 'A' ≤ c && c ≤ 'Z' then some (c.toNat - 65)
  else if 'a' ≤ c && c ≤ 'z' then some (c.toNat - 71)
  else if c.isDigit then some (c.toNat + 4)
  else if c = '+' then some 62
  else if c = '/' then some 63
  else none

/-- What was read of the four digits of a group: how many there are, the bits that are in no byte
yet, and how many signs of filling stand behind them. -/
structure Quad where
  size : Nat := 0
  bits : Nat := 0
  filling : Nat := 0

/-- The bytes of groups of four digits.  Characters that are no digits are passed over.  A group of
two or three digits that is filled up ends the text; signs of filling anywhere else say nothing. -/
def base64Bytes : Quad → List Char → Option (List UInt8)
  | group, [] => if group.size = 0 then some [] else none
  | group, c :: rest =>
      if c = '=' then
        if group.size < 2 then base64Bytes group rest
        else if group.size + group.filling = 3 then some []
        else base64Bytes { group with filling := group.filling + 1 } rest
      else
        match base64Value? c with
        | none => base64Bytes group rest
        | some digit =>
            let bits := group.bits * 64 + digit
            match group.size with
            | 0 => base64Bytes { size := 1, bits } rest
            | 1 =>
                (base64Bytes { size := 2, bits := bits % 16 } rest).map fun more ↦
                  (bits / 16).toUInt8 :: more
            | 2 =>
                (base64Bytes { size := 3, bits := bits % 4 } rest).map fun more ↦
                  (bits / 4).toUInt8 :: more
            | _ => (base64Bytes {} rest).map fun more ↦ bits.toUInt8 :: more

def binaryOf (s : String) : Except Fault Datum :=
  if s.toList.any fun c ↦ 128 ≤ c.toNat then .error .malformed
  else
    match base64Bytes {} s.toList with
    | some bytes => .ok (.bytes bytes)
    | none => .error .malformed

end WebBaseline.Yaml
