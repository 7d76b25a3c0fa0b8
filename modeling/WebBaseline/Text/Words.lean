/-!
# Words

White space separates the words of a text.  A word can be an integer, a table of names is written
in words, and of two words it can be told how near they are.
-/

namespace WebBaseline.Text

/-- The Unicode white space together with the four information separators. -/
def isBlank (c : Char) : Bool :=
  let n := c.toNat
  (9 ≤ n && n ≤ 13) || (28 ≤ n && n ≤ 32) || n == 0x85 || n == 0xA0 || n == 0x1680 ||
    (0x2000 ≤ n && n ≤ 0x200A) || n == 0x2028 || n == 0x2029 || n == 0x202F || n == 0x205F ||
    n == 0x3000

def trimChars (cs : List Char) : List Char :=
  ((cs.dropWhile isBlank).reverse.dropWhile isBlank).reverse

def trim (s : String) : String :=
  String.ofList (trimChars s.toList)

def isBlankText (s : String) : Bool :=
  s.toList.all isBlank

/-- The maximal runs of characters that are not white space, in order. -/
def wordsOf : List Char → List Char → List (List Char)
  | [], current => if current.isEmpty then [] else [current.reverse]
  | c :: rest, current =>
      if isBlank c then
        if current.isEmpty then wordsOf rest [] else current.reverse :: wordsOf rest []
      else wordsOf rest (c :: current)

def words (s : String) : List String :=
  (wordsOf s.toList []).map String.ofList

/-- Every run of white space becomes one space, and none is left at the ends. -/
def collapse (s : String) : String :=
  " ".intercalate (words s)

/-!
### Tables of names

A table of names and texts is written as lines of words: a name, then the code points of what it
stands for, joined by plus signs.
-/

def hexDigit? (c : Char) : Option Nat :=
  if c.isDigit then some (c.toNat - 48)
  else if 'a' ≤ c && c ≤ 'f' then some (c.toNat - 87)
  else if 'A' ≤ c && c ≤ 'F' then some (c.toNat - 55)
  else none

def numeral (base : Nat) (cs : List Char) : Nat :=
  cs.foldl (fun n c ↦ n * base + (hexDigit? c).getD 0) 0

def codePoints : List Char → List Char → List Char
  | [], current => [Char.ofNat (numeral 16 current.reverse)]
  | '+' :: rest, current => Char.ofNat (numeral 16 current.reverse) :: codePoints rest []
  | c :: rest, current => codePoints rest (c :: current)

def pairUp : List String → List (String × String)
  | name :: points :: rest => (name, String.ofList (codePoints points.toList [])) :: pairUp rest
  | _ => []

def named (lines : List String) : List (String × String) :=
  pairUp (lines.flatMap words)

/-!
### Integers

An integer is written with the decimal digits of any script.  White space may stand around it, a
sign before it, and single underscores between its digits.
-/

/-- The zeros of all scripts; the nine other digits follow each of them. -/
def zeros : List Nat :=
  [0x30, 0x660, 0x6f0, 0x7c0, 0x966, 0x9e6, 0xa66, 0xae6, 0xb66, 0xbe6, 0xc66, 0xce6, 0xd66, 0xde6,
   0xe50, 0xed0, 0xf20, 0x1040, 0x1090, 0x17e0, 0x1810, 0x1946, 0x19d0, 0x1a80, 0x1a90, 0x1b50,
   0x1bb0, 0x1c40, 0x1c50, 0xa620, 0xa8d0, 0xa900, 0xa9d0, 0xa9f0, 0xaa50, 0xabf0, 0xff10, 0x104a0,
   0x10d30, 0x11066, 0x110f0, 0x11136, 0x111d0, 0x112f0, 0x11450, 0x114d0, 0x11650, 0x116c0,
   0x11730, 0x118e0, 0x11950, 0x11c50, 0x11d50, 0x11da0, 0x16a60, 0x16ac0, 0x16b50, 0x1d7ce,
   0x1d7d8, 0x1d7e2, 0x1d7ec, 0x1d7f6, 0x1e140, 0x1e2f0, 0x1e950, 0x1fbf0]

def digit? (c : Char) : Option Nat :=
  (zeros.find? fun z ↦ z ≤ c.toNat && c.toNat < z + 10).map (c.toNat - ·)

/-- The number that digits write, `wanted` saying that a digit has to come next. -/
def digitsValue? (wanted : Bool) (n : Nat) : List Char → Option Nat
  | [] => if wanted then none else some n
  | c :: rest =>
      match digit? c with
      | some d => digitsValue? false (10 * n + d) rest
      | none => if c = '_' && !wanted then digitsValue? true n rest else none

def maxDigits : Nat := 4300

def natural? (cs : List Char) : Option Nat :=
  if maxDigits < (cs.filter (· ≠ '_')).length then none else digitsValue? true 0 cs

def integer? (s : String) : Option Int :=
  match trimChars s.toList with
  | '+' :: rest => (natural? rest).map Int.ofNat
  | '-' :: rest => (natural? rest).map fun n ↦ -(n : Int)
  | cs => (natural? cs).map Int.ofNat

/-!
### Near words

How alike two words are: twice the number of characters they share over the number of characters
they have.  The characters shared are those of the longest stretch that both have, and those
shared on either side of it.
-/

def commonStart : List Char → List Char → Nat
  | a :: as, b :: bs => if a = b then commonStart as bs + 1 else 0
  | _, _ => 0

/-- Where two words have their longest stretch in common, and its length; of equal stretches the
first one of the first word, and then of the second. -/
def longestStretch (a b : List Char) : Nat × Nat × Nat :=
  (List.range a.length).foldl
    (fun best i ↦ (List.range b.length).foldl
      (fun best j ↦
        let n := commonStart (a.drop i) (b.drop j)
        if best.2.2 < n then (i, j, n) else best)
      best)
    (0, 0, 0)

/-- How many characters two words share.  The depth is bounded by the length of a word. -/
def shared : Nat → List Char → List Char → Nat
  | 0, _, _ => 0
  | depth + 1, a, b =>
      let (i, j, n) := longestStretch a b
      if n = 0 then 0
      else
        shared depth (a.take i) (b.take j) + n + shared depth (a.drop (i + n)) (b.drop (j + n))

structure Candidate where
  name : String
  common : Nat
  total : Nat

/-- Whether a candidate comes before another: the more alike one, or the later name. -/
def Candidate.before (x y : Candidate) : Bool :=
  y.common * x.total < x.common * y.total ||
    (y.common * x.total = x.common * y.total && y.name ≤ x.name)

/-- The three names most like a word, of those that share three fifths with it. -/
def nearest (word : String) (names : List String) : List String :=
  let candidates := names.map fun name ↦
    { name
      common := shared (name.length + 1) name.toList word.toList
      total := name.length + word.length : Candidate }
  ((candidates.filter fun c ↦ 3 * c.total ≤ 10 * c.common).mergeSort Candidate.before).take 3
    |>.map (·.name)

end WebBaseline.Text
