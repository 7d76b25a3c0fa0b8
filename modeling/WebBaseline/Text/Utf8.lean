/-!
# UTF-8

Two readings of a byte sequence.  The strict one gives no text when a byte is out of place; the
lenient one writes a replacement character for every longest run of bytes that begins a character
and is not continued.
-/

namespace WebBaseline.Text

inductive Utf8Step where
  /-- a character and the number of bytes it takes -/
  | char (c : Char) (size : Nat)
  /-- no character, after so many bytes that could have begun one -/
  | broken (size : Nat)

/-- How many bytes follow a first byte, and the range its second byte lies in. -/
def leadShape (b : UInt8) : Option (Nat × UInt8 × UInt8) :=
  if 0xC2 ≤ b && b ≤ 0xDF then some (1, 0x80, 0xBF)
  else if b == 0xE0 then some (2, 0xA0, 0xBF)
  else if b == 0xED then some (2, 0x80, 0x9F)
  else if 0xE1 ≤ b && b ≤ 0xEF then some (2, 0x80, 0xBF)
  else if b == 0xF0 then some (3, 0x90, 0xBF)
  else if 0xF1 ≤ b && b ≤ 0xF3 then some (3, 0x80, 0xBF)
  else if b == 0xF4 then some (3, 0x80, 0x8F)
  else none

def leadBits (count : Nat) (b : UInt8) : Nat :=
  match count with
  | 1 => b.toNat % 32
  | 2 => b.toNat % 16
  | _ => b.toNat % 8

def decodeStep : List UInt8 → Utf8Step
  | [] => .broken 0
  | b :: rest =>
      if b < 0x80 then .char (Char.ofNat b.toNat) 1
      else
        match leadShape b with
        | none => .broken 1
        | some (count, low, high) =>
            match rest with
            | [] => .broken 1
            | b2 :: rest2 =>
                if !(low ≤ b2 && b2 ≤ high) then .broken 1
                else
                  let more := rest2.take (count - 1)
                  let good := more.takeWhile fun c ↦ 0x80 ≤ c && c ≤ 0xBF
                  if good.length = count - 1 then
                    let value := (b2 :: good).foldl (fun n c ↦ n * 64 + c.toNat % 64)
                      (leadBits count b)
                    .char (Char.ofNat value) (count + 1)
                  else .broken (2 + good.length)

/-- Strict decoding, with the characters read so far in reverse. -/
def decodeFrom : Nat → List UInt8 → List Char → Option (List Char)
  | 0, bytes, acc => if bytes.isEmpty then some acc.reverse else none
  | fuel + 1, bytes, acc =>
      if bytes.isEmpty then some acc.reverse
      else
        match decodeStep bytes with
        | .char c size => decodeFrom fuel (bytes.drop size) (c :: acc)
        | .broken _ => none

def decode? (bytes : List UInt8) : Option String :=
  (decodeFrom bytes.length bytes []).map String.ofList

def decodeLenientFrom : Nat → List UInt8 → List Char → List Char
  | 0, _, acc => acc.reverse
  | fuel + 1, bytes, acc =>
      if bytes.isEmpty then acc.reverse
      else
        match decodeStep bytes with
        | .char c size => decodeLenientFrom fuel (bytes.drop size) (c :: acc)
        | .broken size => decodeLenientFrom fuel (bytes.drop (max size 1)) ('\uFFFD' :: acc)

def decodeLenient (bytes : List UInt8) : String :=
  String.ofList (decodeLenientFrom bytes.length bytes [])

/-- Every line end becomes a line feed: a carriage return with the line feed after it, and a
carriage return alone. -/
def unifyNewlines : List Char → List Char
  | [] => []
  | '\r' :: '\n' :: rest => '\n' :: unifyNewlines rest
  | c :: rest => (if c = '\r' then '\n' else c) :: unifyNewlines rest

end WebBaseline.Text
