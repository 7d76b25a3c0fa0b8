import WebBaseline.Decimal.Written
import WebBaseline.Text.Case

/-!
# Documents

The values of a configuration file or a feature table before anything is known about their
shape, the two texts of a value, and the truth of a value where a setting is switched by one.
-/

namespace WebBaseline

/-- A time of day with its distance from universal time in seconds, if one was given. -/
structure ClockTime where
  hour : Nat
  minute : Nat
  second : Nat
  microsecond : Nat
  offset : Option Int
  deriving Repr, BEq, Inhabited

structure Day where
  year : Nat
  month : Nat
  day : Nat
  deriving Repr, BEq, DecidableEq, Inhabited

/-- A value of a document.  Records keep the order in which their keys were first written. -/
inductive Datum where
  | null
  | bool (b : Bool)
  | int (n : Int)
  | float (x : Float)
  | text (s : String)
  | bytes (bs : List UInt8)
  | day (d : Day)
  | moment (d : Day) (t : ClockTime)
  | list (xs : List Datum)
  | tuple (xs : List Datum)
  | set (xs : List Datum)
  | record (entries : List (Datum × Datum))
  deriving Inhabited

namespace Datum

def padded (width n : Nat) : String :=
  Decimal.zeros (width - (toString n).length) ++ toString n

def Day.shown (d : Day) : String :=
  padded 4 d.year ++ "-" ++ padded 2 d.month ++ "-" ++ padded 2 d.day

def offsetShown (seconds : Int) : String :=
  let n := seconds.natAbs
  (if seconds < 0 then "-" else "+") ++ padded 2 (n / 3600) ++ ":" ++ padded 2 (n / 60 % 60) ++
    (if n % 60 = 0 then "" else ":" ++ padded 2 (n % 60))

def ClockTime.shown (t : ClockTime) : String :=
  padded 2 t.hour ++ ":" ++ padded 2 t.minute ++ ":" ++ padded 2 t.second ++
    (if t.microsecond = 0 then "" else "." ++ padded 6 t.microsecond) ++
    (match t.offset with
      | some o => offsetShown o
      | none => "")

def offsetQuoted (seconds : Int) : String :=
  if seconds = 0 then "datetime.timezone.utc"
  else
    let days := Int.fdiv seconds 86400
    let rest := Int.fmod seconds 86400
    let parts := (if days = 0 then [] else ["days=" ++ toString days]) ++
      (if rest = 0 then [] else ["seconds=" ++ toString rest])
    "datetime.timezone(datetime.timedelta(" ++ ", ".intercalate parts ++ "))"

def momentQuoted (d : Day) (t : ClockTime) : String :=
  let tail :=
    if t.microsecond ≠ 0 then [toString t.second, toString t.microsecond]
    else if t.second ≠ 0 then [toString t.second]
    else []
  let zone := match t.offset with
    | some o => ["tzinfo=" ++ offsetQuoted o]
    | none => []
  "datetime.datetime(" ++ ", ".intercalate
    ([toString d.year, toString d.month, toString d.day, toString t.hour, toString t.minute] ++
      tail ++ zone) ++ ")"

def escapeByte (quote : Char) (b : UInt8) : String :=
  let n := b.toNat
  if n = 9 then "\\t"
  else if n = 10 then "\\n"
  else if n = 13 then "\\r"
  else if n = quote.toNat || n = 92 then String.ofList ['\\', Char.ofNat n]
  else if 32 ≤ n && n < 127 then String.ofList [Char.ofNat n]
  else "\\x" ++ Text.hexPadded 2 n

def bytesQuoted (bs : List UInt8) : String :=
  let quote := if bs.contains 39 && !bs.contains 34 then '"' else '\''
  "b" ++ String.ofList [quote] ++ String.join (bs.map (escapeByte quote)) ++ String.ofList [quote]

mutual

/-- A value as it is shown inside another value or a message, with its texts quoted.  An integer is
written out in full, however many digits it has. -/
def quoted : Datum → String
  | null => "None"
  | bool b => if b then "True" else "False"
  | int n => toString n
  | float x => Decimal.document.render x
  | text s => Text.quoted s
  | bytes bs => bytesQuoted bs
  | day d => "datetime.date(" ++ toString d.year ++ ", " ++ toString d.month ++ ", " ++
      toString d.day ++ ")"
  | moment d t => momentQuoted d t
  | list xs => "[" ++ ", ".intercalate (quotedList xs) ++ "]"
  | tuple xs =>
      match quotedList xs with
      | [x] => "(" ++ x ++ ",)"
      | shown => "(" ++ ", ".intercalate shown ++ ")"
  | set xs =>
      match quotedList xs with
      | [] => "set()"
      | shown => "\x7b" ++ ", ".intercalate shown ++ "\x7d"
  | record entries => "\x7b" ++ ", ".intercalate (quotedEntries entries) ++ "\x7d"

def quotedList : List Datum → List String
  | [] => []
  | x :: xs => quoted x :: quotedList xs

def quotedEntries : List (Datum × Datum) → List String
  | [] => []
  | (k, v) :: rest => (quoted k ++ ": " ++ quoted v) :: quotedEntries rest

end

/-- A value as a text of its own: a text is itself, a date has no quotes. -/
def shown : Datum → String
  | text s => s
  | day d => Day.shown d
  | moment d t => Day.shown d ++ " " ++ ClockTime.shown t
  | v => quoted v

/-- The value a switch reads off a document: nothing, no, zero and what is empty are off. -/
def truthy : Datum → Bool
  | null => false
  | bool b => b
  | int n => n != 0
  | float x => !(x == 0.0)
  | text s => !s.isEmpty
  | bytes bs => !bs.isEmpty
  | day _ => true
  | moment _ _ => true
  | list xs => !xs.isEmpty
  | tuple xs => !xs.isEmpty
  | set xs => !xs.isEmpty
  | record entries => !entries.isEmpty

def lookup (entries : List (Datum × Datum)) (key : String) : Option Datum :=
  match entries with
  | [] => none
  | (text k, v) :: rest => if k = key then some v else lookup rest key
  | _ :: rest => lookup rest key

/-- The entry of a record under a text key, nothing being written out as null. -/
def get (entries : List (Datum × Datum)) (key : String) : Datum :=
  (lookup entries key).getD null

end Datum

end WebBaseline
