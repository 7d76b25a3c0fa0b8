/-!
# The shortest decimal of a binary fraction

A finite double is `m * 2 ^ q`.  The reals that round to it form an interval around it, closed
when `m` is even.  The text of the double is the shortest decimal inside this interval, and of
those with equally many digits the one nearest to the double.
-/

namespace WebBaseline.Decimal

def twoTo (n : Nat) : Nat := Nat.pow 2 n

def tenTo (n : Nat) : Nat := Nat.pow 10 n

/-- A finite double, `mantissa * 2 ^ exponent`. -/
structure Binary where
  mantissa : Nat
  exponent : Int

/-- The value of a bit pattern without its sign; `none` for the infinities and not-a-number. -/
def Binary.ofBits? (bits : Nat) : Option Binary :=
  let fraction := bits % twoTo 52
  let biased := bits / twoTo 52 % 2048
  if biased = 2047 then none
  else if biased = 0 then some ⟨fraction, -1074⟩
  else some ⟨fraction + twoTo 52, Int.ofNat biased - 1075⟩

/-- Twice the double and the two ends of its interval, all times four, over a common
denominator that is a power of two. -/
structure Interval where
  low : Nat
  value : Nat
  high : Nat
  /-- the denominator -/
  scale : Nat
  /-- whether the ends belong to it -/
  closed : Bool

def Binary.interval (b : Binary) : Interval :=
  let atPower := b.mantissa = twoTo 52 ∧ b.exponent ≠ -1074
  let up := if 0 ≤ b.exponent then twoTo b.exponent.toNat else 1
  let scale := if 0 ≤ b.exponent then 4 else 4 * twoTo (-b.exponent).toNat
  { low := (4 * b.mantissa - (if atPower then 1 else 2)) * up
    value := 4 * b.mantissa * up
    high := (4 * b.mantissa + 2) * up
    scale := scale
    closed := b.mantissa % 2 = 0 }

/-- `num / den ≤ digits * 10 ^ place`, decided over the naturals. -/
def le (num den digits : Nat) (place : Int) : Bool :=
  if 0 ≤ place then num ≤ digits * tenTo place.toNat * den
  else num * tenTo (-place).toNat ≤ digits * den

def lt (num den digits : Nat) (place : Int) : Bool :=
  if 0 ≤ place then num < digits * tenTo place.toNat * den
  else num * tenTo (-place).toNat < digits * den

def Interval.holds (i : Interval) (digits : Nat) (place : Int) : Bool :=
  if i.closed then
    le i.low i.scale digits place && !lt i.high i.scale digits place
  else
    lt i.low i.scale digits place && !le i.high i.scale digits place

def Interval.floorAt (i : Interval) (place : Int) : Nat :=
  if 0 ≤ place then i.value / (i.scale * tenTo place.toNat)
  else i.value * tenTo (-place).toNat / i.scale

/-- Of two neighbouring multiples of `10 ^ place`, whether the lower one is at least as near. -/
def Interval.lowerNearer (i : Interval) (digits : Nat) (place : Int) : Bool :=
  le (2 * i.value) i.scale (2 * digits + 1) place

/-- The best decimal that is a multiple of `10 ^ place`, if one lies in the interval. -/
def Interval.pick? (i : Interval) (place : Int) : Option Nat :=
  let down := i.floorAt place
  match i.holds down place && down != 0, i.holds (down + 1) place with
  | true, true => some (if i.lowerNearer down place then down else down + 1)
  | true, false => some down
  | false, true => some (down + 1)
  | false, false => none

/-- The coarsest place, from `place` downwards, that has a decimal in the interval. -/
def Interval.search (i : Interval) : Nat → Int → Nat × Int
  | 0, place => (i.floorAt place, place)
  | fuel + 1, place =>
      match i.pick? place with
      | some digits => (digits, place)
      | none => i.search fuel (place - 1)

/-- Digits and place of the shortest decimal of a double other than zero. -/
def Binary.shortest (b : Binary) : Nat × Int :=
  b.interval.search 700 310

def normalize : Nat → Nat → Int → Nat × Int
  | 0, digits, place => (digits, place)
  | fuel + 1, digits, place =>
      if digits % 10 = 0 && digits != 0 then normalize fuel (digits / 10) (place + 1)
      else (digits, place)

end WebBaseline.Decimal
