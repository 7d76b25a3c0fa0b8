import WebBaseline.Decimal.Shortest

/-!
# How a decimal is written

The decisions of one decimal format in one record, and the printer that follows them.
-/

namespace WebBaseline.Decimal

structure Style where
  /-- positional when the point stands right of this many places before the first digit -/
  lowest : Int
  /-- positional when the point stands at most this many places after the first digit -/
  highest : Int
  /-- the least number of exponent digits -/
  exponentDigits : Nat
  infinity : String
  notANumber : String

/-- Documents show a number with all its digits from a ten-thousandth up to sixteen digits before
the point, and a whole number keeps `.0`. -/
def document : Style :=
  { lowest := -4, highest := 16, exponentDigits := 2, infinity := "inf", notANumber := "nan" }

def zeros (n : Nat) : String :=
  String.ofList (List.replicate n '0')

def Style.positional (digits : String) (point : Int) : String :=
  let size : Int := digits.length
  if point ≤ 0 then "0." ++ zeros (-point).toNat ++ digits
  else if size ≤ point then digits ++ zeros (point - size).toNat ++ ".0"
  else
    let cs := digits.toList
    String.ofList (cs.take point.toNat) ++ "." ++ String.ofList (cs.drop point.toNat)

def Style.scientific (style : Style) (digits : String) (point : Int) : String :=
  let head := match digits.toList with
    | [] => "0"
    | [c] => String.ofList [c]
    | c :: rest => String.ofList (c :: '.' :: rest)
  let exponent := point - 1
  let sign := if exponent < 0 then "-" else "+"
  let shown := toString exponent.natAbs
  head ++ "e" ++ sign ++ zeros (style.exponentDigits - shown.length) ++ shown

def Style.magnitude (style : Style) (b : Binary) : String :=
  let (digits, place) := b.shortest
  let (digits, place) := normalize 40 digits place
  let shown := toString digits
  let point := place + shown.length
  if style.lowest < point && point ≤ style.highest then Style.positional shown point
  else style.scientific shown point

def Style.render (style : Style) (x : Float) : String :=
  let bits := x.toBits.toNat
  let negative := bits / twoTo 63 = 1
  match Binary.ofBits? (bits % twoTo 63) with
  | none =>
      if bits % twoTo 52 ≠ 0 then style.notANumber
      else (if negative then "-" else "") ++ style.infinity
  | some b =>
      (if negative then "-" else "") ++
        (if b.mantissa = 0 then "0.0" else style.magnitude b)

end WebBaseline.Decimal
