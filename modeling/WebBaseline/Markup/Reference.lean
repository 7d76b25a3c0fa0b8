import WebBaseline.Markup.EntityTable
import WebBaseline.Text.Words

/-!
# Character references

An ampersand in the value of an attribute may start the number or the name of a character.  Of a
name that is not known the longest known beginning counts, and what is no reference stays as it is.
-/

namespace WebBaseline.Markup

open Text (hexDigit? numeral)

def entities : List (String × String) :=
  Text.named entityLines

/-- Characters of an older code, from 128 on, that pages write by number. -/
def oldCode : List Nat :=
  [0x20AC, 0x81, 0x201A, 0x192, 0x201E, 0x2026, 0x2020, 0x2021, 0x2C6, 0x2030, 0x160, 0x2039, 0x152,
   0x8D, 0x17D, 0x8F, 0x90, 0x2018, 0x2019, 0x201C, 0x201D, 0x2022, 0x2013, 0x2014, 0x2DC, 0x2122,
   0x161, 0x203A, 0x153, 0x9D, 0x17E, 0x178]

def isForbidden (n : Nat) : Bool :=
  (1 ≤ n && n ≤ 8) || n == 0xB || (0xE ≤ n && n ≤ 0x1F) || (0x7F ≤ n && n ≤ 0x9F) ||
    (0xFDD0 ≤ n && n ≤ 0xFDEF) || n % 0x10000 == 0xFFFE || n % 0x10000 == 0xFFFF

def ofNumber (n : Nat) : List Char :=
  if n = 0 then ['\uFFFD']
  else if n = 13 then ['\r']
  else if 0x80 ≤ n && n ≤ 0x9F then [Char.ofNat (oldCode.getD (n - 0x80) 0)]
  else if (0xD800 ≤ n && n ≤ 0xDFFF) || 0x10FFFF < n then ['\uFFFD']
  else if isForbidden n then []
  else [Char.ofNat n]

/-- The longest beginning of a name, two characters at least, that is known: what it stands for
and what is left. -/
def longestKnown : Nat → List Char → List Char
  | 0, name => '&' :: name
  | size + 1, name =>
      if size + 1 < 2 then '&' :: name
      else
        match entities.lookup (String.ofList (name.take (size + 1))) with
        | some s => s.toList ++ name.drop (size + 1)
        | none => longestKnown size name

def ofName (name : List Char) : List Char :=
  match entities.lookup (String.ofList name) with
  | some s => s.toList
  | none => longestKnown (name.length - 1) name

def takeSemicolon : List Char → List Char × List Char
  | ';' :: rest => ([';'], rest)
  | cs => ([], cs)

def endsName (c : Char) : Bool :=
  c == '\t' || c == '\n' || c == '\x0c' || c == ' ' || c == '<' || c == '&' || c == '#' || c == ';'

def reference? (cs : List Char) : Option (List Char × List Char) :=
  let decimal := match cs with
    | '#' :: rest => rest.takeWhile Char.isDigit
    | _ => []
  let hexadecimal := match cs with
    | '#' :: x :: rest =>
        if x == 'x' || x == 'X' then rest.takeWhile fun c ↦ (hexDigit? c).isSome else []
    | _ => []
  let name := (cs.takeWhile fun c ↦ !endsName c).take 32
  if !decimal.isEmpty then
    some (ofNumber (numeral 10 decimal), (takeSemicolon (cs.drop (decimal.length + 1))).2)
  else if !hexadecimal.isEmpty then
    some (ofNumber (numeral 16 hexadecimal), (takeSemicolon (cs.drop (hexadecimal.length + 2))).2)
  else if !name.isEmpty then
    let (semicolon, rest) := takeSemicolon (cs.drop name.length)
    some (ofName (name ++ semicolon), rest)
  else none

def resolveFor : Nat → List Char → List Char → List Char
  | 0, cs, acc => acc.reverse ++ cs
  | _ + 1, [], acc => acc.reverse
  | fuel + 1, c :: rest, acc =>
      if c = '&' then
        match reference? rest with
        | some (found, after) => resolveFor fuel after (found.reverse ++ acc)
        | none => resolveFor fuel rest (c :: acc)
      else resolveFor fuel rest (c :: acc)

def resolve (s : String) : String :=
  String.ofList (resolveFor s.length s.toList [])

end WebBaseline.Markup
