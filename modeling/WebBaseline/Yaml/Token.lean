import WebBaseline.Yaml.Stream
import WebBaseline.Text.Utf8

/-!
# Tokens of YAML documents

A document is cut into tokens from left to right.  Indentation opens and closes blocks.  A key
without a sign of its own is known only by the colon after it, so its place is remembered and the
token for it is put in later.
-/

namespace WebBaseline.Yaml

inductive Directive where
  | version (major : Nat)
  | tag (handle tagPrefix : String)
  | other
  deriving Repr, DecidableEq

inductive Token where
  | directive (d : Directive)
  | documentStart
  | documentEnd
  | blockSequenceStart
  | blockMappingStart
  | blockEnd
  | flowSequenceStart
  | flowSequenceEnd
  | flowMappingStart
  | flowMappingEnd
  | blockEntry
  | flowEntry
  | key
  | value
  | reference (name : String)
  | anchor (name : String)
  | tag (handle : Option String) (suffix : String)
  | scalar (text : String) (plain : Bool)
  | streamEnd
  deriving Repr, DecidableEq

/-! ### Directives, anchors and tags -/

def isWordChar (c : Char) : Bool :=
  c.isAlphanum || c == '-' || c == '_'

def isTagChar (c : Char) : Bool :=
  c.isAlphanum || "-;/?:@&=+$,_.!~*'()[]%".toList.contains c

def hexValue? (c : Char) : Option Nat :=
  if c.isDigit then some (c.toNat - 48)
  else if 'a' ≤ c && c ≤ 'f' then some (c.toNat - 87)
  else if 'A' ≤ c && c ≤ 'F' then some (c.toNat - 55)
  else none

def hexNumber? (cs : List Char) : Option Nat :=
  cs.foldl (fun acc c ↦ match acc, hexValue? c with
    | some n, some d => some (n * 16 + d)
    | _, _ => none) (some 0)

/-- Bytes written by a percent sign and two digits. -/
def escapedBytes (s : Stream) : Nat → Nat → List UInt8 → Option (List UInt8 × Nat)
  | 0, i, acc => some (acc.reverse, i)
  | fuel + 1, i, acc =>
      if s.isAt i '%' then
        match s.slice (i + 1) (i + 3) with
        | [a, b] =>
            match hexNumber? [a, b] with
            | some n => escapedBytes s fuel (i + 3) (n.toUInt8 :: acc)
            | none => none
        | _ => none
      else some (acc.reverse, i)

def tagChars (s : Stream) : Nat → Nat → List Char → Except Fault (List Char × Nat)
  | 0, i, acc => .ok (acc.reverse, i)
  | fuel + 1, i, acc =>
      if s.isAt i '%' then
        match escapedBytes s (s.size - i) i [] with
        | some (bytes, j) =>
            match Text.decode? bytes with
            | some t => tagChars s fuel j (t.toList.reverse ++ acc)
            | none => .error .malformed
        | none => .error .malformed
      else if s.holds i isTagChar then tagChars s fuel (i + 1) ((s.at? i).toList ++ acc)
      else .ok (acc.reverse, i)

def tagUri (s : Stream) (i : Nat) : Except Fault (String × Nat) :=
  match tagChars s (s.size - i + 1) i [] with
  | .error e => .error e
  | .ok ([], _) => .error .malformed
  | .ok (cs, j) => .ok (String.ofList cs, j)

/-- The handle of a tag: an exclamation mark, or a word between two. -/
def tagHandle (s : Stream) (i : Nat) : Except Fault (String × Nat) :=
  if s.isAt i '!' then
    if s.isAt (i + 1) ' ' then .ok ("!", i + 1)
    else
      let j := s.skipWhile isWordChar (i + 1)
      if s.isAt j '!' then .ok (String.ofList (s.slice i (j + 1)), j + 1) else .error .malformed
  else .error .malformed

def restOfLine (s : Stream) (i : Nat) : Except Fault Nat :=
  let j := s.skipComment (s.skipSpaces i)
  match s.lineBreak? j with
  | some (_, k) => .ok k
  | none => if s.size ≤ j then .ok j else .error .malformed

def number? (s : Stream) (i : Nat) : Option (Nat × Nat) :=
  let j := s.skipWhile Char.isDigit i
  if i < j then
    some ((s.slice i j).foldl (fun n c ↦ n * 10 + (c.toNat - 48)) 0, j)
  else none

def versionDirective (s : Stream) (i : Nat) : Except Fault (Directive × Nat) :=
  match number? s (s.skipSpaces i) with
  | none => .error .malformed
  | some (major, j) =>
      if s.isAt j '.' then
        match number? s (j + 1) with
        | some (_, k) => if s.isSpaceAt k then .ok (.version major, k) else .error .malformed
        | none => .error .malformed
      else .error .malformed

def tagDirective (s : Stream) (i : Nat) : Except Fault (Directive × Nat) :=
  match tagHandle s (s.skipSpaces i) with
  | .error e => .error e
  | .ok (handle, j) =>
      if s.isAt j ' ' then
        match tagUri s (s.skipSpaces j) with
        | .error e => .error e
        | .ok (tagPrefix, k) =>
            if s.isSpaceAt k then .ok (.tag handle tagPrefix, k) else .error .malformed
      else .error .malformed

def scanDirective (s : Stream) (i : Nat) : Except Fault (Directive × Nat) :=
  let j := s.skipWhile isWordChar (i + 1)
  let name := String.ofList (s.slice (i + 1) j)
  if name.isEmpty || !s.isSpaceAt j then .error .malformed
  else
    let found :=
      if name = "YAML" then versionDirective s j
      else if name = "TAG" then tagDirective s j
      else .ok (.other, s.skipWhile (fun c ↦ !isBreak c) j)
    match found with
    | .error e => .error e
    | .ok (d, k) => (restOfLine s k).map fun l ↦ (d, l)

def scanName (s : Stream) (i : Nat) : Except Fault (String × Nat) :=
  let j := s.skipWhile isWordChar (i + 1)
  if i + 1 < j && (s.isBlankAt j || s.holds j fun c ↦ "?:,]\x7d%@`".toList.contains c) then
    .ok (String.ofList (s.slice (i + 1) j), j)
  else .error .malformed

/-- Whether an exclamation mark ends the handle of a tag before white space does. -/
def hasHandle (s : Stream) (i : Nat) : Bool :=
  s.isAt (s.skipWhile (fun c ↦ c != '!' && c != ' ' && !isBreak c) i) '!'

def scanTag (s : Stream) (i : Nat) : Except Fault (Token × Nat) :=
  let found : Except Fault (Token × Nat) :=
    if s.isAt (i + 1) '<' then
      match tagUri s (i + 2) with
      | .error e => .error e
      | .ok (suffix, j) =>
          if s.isAt j '>' then .ok (.tag none suffix, j + 1) else .error .malformed
    else if s.isBlankAt (i + 1) then .ok (.tag none "!", i + 1)
    else if hasHandle s (i + 1) then
      match tagHandle s i with
      | .error e => .error e
      | .ok (handle, j) => (tagUri s j).map fun u ↦ (.tag (some handle) u.1, u.2)
    else (tagUri s (i + 1)).map fun u ↦ (.tag (some "!") u.1, u.2)
  match found with
  | .error e => .error e
  | .ok (t, j) => if s.isSpaceAt j then .ok (t, j) else .error .malformed

/-! ### Scalars in blocks -/

inductive Chomping where
  | strip
  | clip
  | keep
  deriving DecidableEq

def chomping? (s : Stream) (i : Nat) : Option Chomping :=
  if s.isAt i '+' then some .keep else if s.isAt i '-' then some .strip else none

/-- The signs after the start of a block: what to do with its end, and its indentation. -/
def blockHeader (s : Stream) (i : Nat) : Except Fault (Chomping × Option Nat × Nat) :=
  let digit (i : Nat) : Option Nat := (s.at? i).bind fun c ↦
    if c.isDigit then some (c.toNat - 48) else none
  let (chomping, indent, j) :=
    match chomping? s i with
    | some c =>
        match digit (i + 1) with
        | some d => (c, some d, i + 2)
        | none => (c, none, i + 1)
    | none =>
        match digit i with
        | some d =>
            match chomping? s (i + 1) with
            | some c => (c, some d, i + 2)
            | none => (.clip, some d, i + 1)
        | none => (.clip, none, i)
  if indent == some 0 || !s.isSpaceAt j then .error .malformed else .ok (chomping, indent, j)

/-- Empty lines before a block whose indentation is not given, and the largest one in them. -/
def blockIndent (s : Stream) : Nat → Nat → Nat → List Char → List Char × Nat × Nat
  | 0, i, most, breaks => (breaks.reverse, most, i)
  | fuel + 1, i, most, breaks =>
      if s.isAt i ' ' then blockIndent s fuel (i + 1) (max most (s.column (i + 1))) breaks
      else
        match s.lineBreak? i with
        | some (c, j) => blockIndent s fuel j most (c :: breaks)
        | none => (breaks.reverse, most, i)

def toIndent (s : Stream) (indent : Nat) : Nat → Nat → Nat
  | 0, i => i
  | fuel + 1, i =>
      if s.column i < indent && s.isAt i ' ' then toIndent s indent fuel (i + 1) else i

def blockBreaks (s : Stream) (indent : Nat) : Nat → Nat → List Char → List Char × Nat
  | 0, i, breaks => (breaks.reverse, i)
  | fuel + 1, i, breaks =>
      let j := toIndent s indent (s.size - i) i
      match s.lineBreak? j with
      | some (c, k) => blockBreaks s indent fuel k (c :: breaks)
      | none => (breaks.reverse, j)

/-- The lines of a block: its characters in reverse, the last line end and the empty lines after
it, and the position where it ends. -/
def blockLines (s : Stream) (folded : Bool) (indent : Nat) :
    Nat → Nat → List Char → List Char → List Char × List Char × List Char × Nat
  | 0, i, breaks, acc => (acc, [], breaks, i)
  | fuel + 1, i, breaks, acc =>
      let acc := breaks.reverse ++ acc
      let indented (k : Nat) : Bool := s.holds k fun c ↦ c == ' ' || c == '\t'
      let j := s.skipWhile (fun c ↦ !isBreak c) i
      let acc' := (s.slice i j).reverse ++ acc
      let (ending, k) := match s.lineBreak? j with
        | some (c, k) => ([c], k)
        | none => ([], j)
      let (more, next) := blockBreaks s indent (s.size - k + 1) k []
      if s.column next = indent && next < s.size then
        let joint :=
          if folded && ending == ['\n'] && !indented i && !indented next then
            if more.isEmpty then [' '] else []
          else ending
        blockLines s folded indent fuel next more (joint ++ acc')
      else (acc', ending, more, next)

def scanBlock (s : Stream) (folded : Bool) (blockColumn : Int) (i : Nat) :
    Except Fault (Token × Nat) :=
  match blockHeader s (i + 1) with
  | .error e => .error e
  | .ok (chomping, given, j) =>
      match restOfLine s j with
      | .error e => .error e
      | .ok k =>
          let least := (max (blockColumn + 1) 1).toNat
          let (indent, breaks, start) := match given with
            | some d =>
                let indent := least + d - 1
                let (breaks, start) := blockBreaks s indent (s.size - k + 1) k []
                (indent, breaks, start)
            | none =>
                let (breaks, most, start) := blockIndent s (s.size - k + 1) k 0 []
                (max least most, breaks, start)
          let (acc, ending, more, stop) :=
            if s.column start = indent && start < s.size then
              blockLines s folded indent (s.size - start + 1) start breaks []
            else ([], [], breaks, start)
          let text := acc.reverse ++
            (if chomping = .strip then [] else ending) ++ (if chomping = .keep then more else [])
          .ok (.scalar (String.ofList text) false, stop)

/-! ### Scalars in quotes -/

def escapes : List (Char × Char) :=
  [('0', '\x00'), ('a', '\x07'), ('b', '\x08'), ('t', '\t'), ('\t', '\t'), ('n', '\n'),
   ('v', '\x0b'), ('f', '\x0c'), ('r', '\r'), ('e', '\x1b'), (' ', ' '), ('"', '"'), ('\\', '\\'),
   ('/', '/'), ('N', '\u0085'), ('_', '\u00a0'), ('L', '\u2028'), ('P', '\u2029')]

def escapeDigits : List (Char × Nat) := [('x', 2), ('u', 4), ('U', 8)]

def quotedBreaks (s : Stream) : Nat → Nat → List Char → Except Fault (List Char × Nat)
  | 0, i, acc => .ok (acc.reverse, i)
  | fuel + 1, i, acc =>
      if s.isSeparator i then .error .malformed
      else
        let j := s.skipWhile (fun c ↦ c == ' ' || c == '\t') i
        match s.lineBreak? j with
        | some (c, k) => quotedBreaks s fuel k (c :: acc)
        | none => .ok (acc.reverse, j)

/-- White space in quotes: kept inside a line, folded at line ends. -/
def quotedSpace (s : Stream) (i : Nat) : Except Fault (List Char × Nat) :=
  let j := s.skipWhile (fun c ↦ c == ' ' || c == '\t') i
  if s.size ≤ j then .error .malformed
  else
    match s.lineBreak? j with
    | some (c, k) =>
        (quotedBreaks s (s.size - k + 1) k []).map fun (breaks, l) ↦
          let first := if c != '\n' then [c] else if breaks.isEmpty then [' '] else []
          (first ++ breaks, l)
    | none => .ok (s.slice i j, j)

/-- The character that a backslash and what follows it write.  The number of a surrogate is that of
no character; the null character stands for it, which is in no name of a file either. -/
def escaped (s : Stream) (i : Nat) : Except Fault (List Char × Nat) :=
  match s.at? i with
  | none => .error .malformed
  | some c =>
      match escapes.lookup c with
      | some d => .ok ([d], i + 1)
      | none =>
          match escapeDigits.lookup c with
          | some count =>
              let digits := s.slice (i + 1) (i + 1 + count)
              match hexNumber? digits with
              | some n =>
                  if digits.length < count then .error .malformed
                  else if 0x7FFFFFFF < n then .error .hugeCharacter
                  else if 0x10FFFF < n then .error .badValue
                  else .ok ([Char.ofNat n], i + 1 + count)
              | none => .error .malformed
          | none =>
              match s.lineBreak? i with
              | some (_, k) => quotedBreaks s (s.size - k + 1) k []
              | none => .error .malformed

/-- The characters of a scalar in quotes, in reverse, from inside it. -/
def quotedChars (s : Stream) (double : Bool) :
    Nat → Nat → List Char → Except Fault (List Char × Nat)
  | 0, _, _ => .error .malformed
  | fuel + 1, i, acc =>
      match s.at? i with
      | none => .error .malformed
      | some c =>
          if c == ' ' || c == '\t' || isBreak c then
            match quotedSpace s i with
            | .error e => .error e
            | .ok (cs, j) => quotedChars s double fuel j (cs.reverse ++ acc)
          else if c == '\'' && !double then
            if s.isAt (i + 1) '\'' then quotedChars s double fuel (i + 2) ('\'' :: acc)
            else .ok (acc, i + 1)
          else if c == '"' && double then .ok (acc, i + 1)
          else if c == '\\' && double then
            match escaped s (i + 1) with
            | .error e => .error e
            | .ok (cs, j) => quotedChars s double fuel j (cs.reverse ++ acc)
          else quotedChars s double fuel (i + 1) (c :: acc)

def scanQuoted (s : Stream) (double : Bool) (i : Nat) : Except Fault (Token × Nat) :=
  (quotedChars s double (s.size - i + 1) (i + 1) []).map fun (acc, j) ↦
    (.scalar (String.ofList acc.reverse) false, j)

/-! ### Plain scalars -/

def isFlowSign (c : Char) : Bool :=
  c == ',' || c == '[' || c == ']' || c == '\x7b' || c == '\x7d'

def endsPlain (s : Stream) (flow : Bool) (i : Nat) : Bool :=
  s.isBlankAt i ||
    (s.isAt i ':' && (s.isBlankAt (i + 1) || (flow && s.holds (i + 1) isFlowSign))) ||
    (flow && s.holds i fun c ↦ isFlowSign c || c == '?')

def plainRun (s : Stream) (flow : Bool) : Nat → Nat → Nat
  | 0, i => i
  | fuel + 1, i => if endsPlain s flow i then i else plainRun s flow fuel (i + 1)

/-- Line ends inside a plain scalar; none where a document ends or starts. -/
def plainBreaks (s : Stream) : Nat → Nat → List Char → Option (List Char) × Nat
  | 0, i, acc => (some acc.reverse, i)
  | fuel + 1, i, acc =>
      if s.isAt i ' ' then plainBreaks s fuel (i + 1) acc
      else
        match s.lineBreak? i with
        | some (c, j) =>
            if s.isSeparator j then (none, j) else plainBreaks s fuel j (c :: acc)
        | none => (some acc.reverse, i)

/-- White space after a part of a plain scalar: what it stands for, the position after it, and
whether a line ended in it. -/
def plainSpace (s : Stream) (i : Nat) : List Char × Nat × Bool :=
  let j := s.skipSpaces i
  match s.lineBreak? j with
  | some (c, k) =>
      if s.isSeparator k then ([], k, true)
      else
        match plainBreaks s (s.size - k + 1) k [] with
        | (none, l) => ([], l, true)
        | (some breaks, l) =>
            let first := if c != '\n' then [c] else if breaks.isEmpty then [' '] else []
            (first ++ breaks, l, true)
  | none => (s.slice i j, j, false)

/-- The characters of a plain scalar in reverse, the position after it, and whether a line ended
after its last part. -/
def plainChars (s : Stream) (flow : Bool) (indent : Int) :
    Nat → Nat → List Char → List Char → Bool → List Char × Nat × Bool
  | 0, i, _, acc, ended => (acc, i, ended)
  | fuel + 1, i, spaces, acc, ended =>
      let j := plainRun s flow (s.size - i + 1) i
      if s.isAt i '#' || j ≤ i then (acc, i, ended)
      else
        let acc := (s.slice i j).reverse ++ spaces.reverse ++ acc
        let (spaces, k, newline) := plainSpace s j
        if spaces.isEmpty || s.isAt k '#' || (!flow && (s.column k : Int) < indent) then
          (acc, k, newline)
        else plainChars s flow indent fuel k spaces acc newline

/-! ### Cutting a stream into tokens -/

structure Candidate where
  /-- number of tokens before it -/
  token : Nat
  /-- a key must stand here, because of the indentation -/
  required : Bool
  position : Nat

structure Scan where
  position : Nat := 0
  tokens : Array Token := #[]
  flow : Nat := 0
  indent : Int := -1
  indents : List Int := []
  /-- whether a key may start at the next token -/
  keyAllowed : Bool := true
  /-- candidates by their level of brackets, innermost first -/
  candidates : List (Nat × Candidate) := []
  finished : Bool := false

namespace Scan

def push (q : Scan) (t : Token) : Scan := { q with tokens := q.tokens.push t }

def unwindFor (column : Int) : Nat → Scan → Scan
  | 0, q => q
  | fuel + 1, q =>
      if column < q.indent then
        unwindFor column fuel
          { q with
            indent := q.indents.headD (-1)
            indents := q.indents.tail
            tokens := q.tokens.push .blockEnd }
      else q

def unwind (q : Scan) (column : Int) : Scan :=
  if 0 < q.flow then q else unwindFor column (q.indents.length + 1) q

/-- Drops the candidates that the scan has left behind; one that was required is a fault. -/
def dropStale (s : Stream) (q : Scan) : Except Fault Scan :=
  let stale (c : Candidate) : Bool :=
    s.line c.position != s.line q.position || 1024 < q.position - c.position
  if q.candidates.any fun e ↦ stale e.2 && e.2.required then .error .malformed
  else .ok { q with candidates := q.candidates.filter fun e ↦ !stale e.2 }

def dropCandidate (q : Scan) : Except Fault Scan :=
  match q.candidates.lookup q.flow with
  | some c =>
      if c.required then .error .malformed
      else .ok { q with candidates := q.candidates.filter fun e ↦ e.1 != q.flow }
  | none => .ok q

def saveCandidate (s : Stream) (q : Scan) : Except Fault Scan :=
  if q.keyAllowed then
    match q.dropCandidate with
    | .error e => .error e
    | .ok q =>
        let required := q.flow == 0 && q.indent == (s.column q.position : Int)
        let c : Candidate := { token := q.tokens.size, required, position := q.position }
        .ok { q with candidates := (q.flow, c) :: q.candidates }
  else .ok q

/-- Opens a block at a column if it is indented more than the one around it. -/
def indentTo (q : Scan) (column : Int) : Option Scan :=
  if q.indent < column then some { q with indents := q.indent :: q.indents, indent := column }
  else none

def emit (q : Scan) (t : Token) (next : Nat) : Scan :=
  { q with position := next, tokens := q.tokens.push t }

def scalarLike (s : Stream) (q : Scan) (found : Except Fault (Token × Nat)) : Except Fault Scan :=
  match q.saveCandidate s with
  | .error e => .error e
  | .ok q =>
      match found with
      | .error e => .error e
      | .ok (t, next) => .ok { q.emit t next with keyAllowed := false }

def boundary (q : Scan) : Except Fault Scan :=
  (q.unwind (-1)).dropCandidate.map fun q ↦ { q with keyAllowed := false }

/-- The start of an entry or a key that has a sign of its own. -/
def signed (s : Stream) (q : Scan) (start sign : Token) (allowed : Bool) : Except Fault Scan :=
  let opened : Except Fault Scan :=
    if 0 < q.flow then .ok q
    else if !q.keyAllowed then .error .malformed
    else
      match q.indentTo (s.column q.position) with
      | some q => .ok (q.push start)
      | none => .ok q
  match opened with
  | .error e => .error e
  | .ok q =>
      match q.dropCandidate with
      | .error e => .error e
      | .ok q => .ok { q.emit sign (q.position + 1) with keyAllowed := allowed }

/-- A colon: it makes a key of the candidate before it, if there is one. -/
def valueSign (s : Stream) (q : Scan) : Except Fault Scan :=
  match q.candidates.lookup q.flow with
  | some c =>
      let q := { q with
        candidates := q.candidates.filter fun e ↦ e.1 != q.flow
        tokens := q.tokens.insertIdxIfInBounds c.token .key
        keyAllowed := false }
      let q :=
        if 0 < q.flow then q
        else
          match q.indentTo (s.column c.position) with
          | some q => { q with tokens := q.tokens.insertIdxIfInBounds c.token .blockMappingStart }
          | none => q
      .ok (q.emit .value (q.position + 1))
  | none => signed s q .blockMappingStart .value (q.flow == 0)

def opening (s : Stream) (q : Scan) (t : Token) : Except Fault Scan :=
  (q.saveCandidate s).map fun q ↦
    { q.emit t (q.position + 1) with flow := q.flow + 1, keyAllowed := true }

def closing (q : Scan) (t : Token) : Except Fault Scan :=
  q.dropCandidate.map fun q ↦
    { q.emit t (q.position + 1) with flow := q.flow - 1, keyAllowed := false }

/-- Skips what separates tokens.  After a line end a key may start, outside of brackets. -/
def toNextFor (s : Stream) : Nat → Scan → Scan
  | 0, q => q
  | fuel + 1, q =>
      let i := s.skipComment (s.skipSpaces q.position)
      match s.lineBreak? i with
      | some (_, j) =>
          toNextFor s fuel { q with position := j, keyAllowed := q.keyAllowed || q.flow == 0 }
      | none => { q with position := i }

def toNext (s : Stream) (q : Scan) : Scan :=
  let start := if q.position = 0 && s.isAt 0 '\uFEFF' then 1 else q.position
  toNextFor s (s.size - start + 1) { q with position := start }

def startsPlain (s : Stream) (flow : Bool) (i : Nat) : Bool :=
  match s.at? i with
  | none => false
  | some c =>
      !(s.isBlankAt i || "-?:,[]\x7b\x7d#&*!|>'\"%@`".toList.contains c) ||
        (!s.isBlankAt (i + 1) && (c == '-' || (!flow && (c == '?' || c == ':'))))

/-- A plain scalar.  If a line ended after it, a key may follow. -/
def plain (s : Stream) (q : Scan) : Except Fault Scan :=
  (q.saveCandidate s).map fun q ↦
    let (acc, next, ended) :=
      plainChars s (0 < q.flow) (q.indent + 1) (s.size - q.position + 1) q.position [] [] false
    { q.emit (.scalar (String.ofList acc.reverse) true) next with keyAllowed := ended }

def step (s : Stream) (q : Scan) : Except Fault Scan :=
  match (q.toNext s).dropStale s with
  | .error e => .error e
  | .ok q =>
      let q := q.unwind (s.column q.position)
      let i := q.position
      let inFlow : Bool := 0 < q.flow
      match s.at? i with
      | none => q.boundary.map fun q ↦ { q.push .streamEnd with finished := true }
      | some c =>
          if c == '%' && s.column i == 0 then
            match q.boundary, scanDirective s i with
            | .ok q, .ok (d, next) => .ok (q.emit (.directive d) next)
            | .error e, _ => .error e
            | _, .error e => .error e
          else if s.column i == 0 && s.isMarker '-' i then
            q.boundary.map fun q ↦ q.emit .documentStart (i + 3)
          else if s.column i == 0 && s.isMarker '.' i then
            q.boundary.map fun q ↦ q.emit .documentEnd (i + 3)
          else if c == '[' then q.opening s .flowSequenceStart
          else if c == '\x7b' then q.opening s .flowMappingStart
          else if c == ']' then q.closing .flowSequenceEnd
          else if c == '\x7d' then q.closing .flowMappingEnd
          else if c == ',' then
            q.dropCandidate.map fun q ↦ { q.emit .flowEntry (i + 1) with keyAllowed := true }
          else if c == '-' && s.isBlankAt (i + 1) then
            q.signed s .blockSequenceStart .blockEntry true
          else if c == '?' && (inFlow || s.isBlankAt (i + 1)) then
            q.signed s .blockMappingStart .key (!inFlow)
          else if c == ':' && (inFlow || s.isBlankAt (i + 1)) then q.valueSign s
          else if c == '*' then
            q.scalarLike s ((scanName s i).map fun (n, j) ↦ (.reference n, j))
          else if c == '&' then
            q.scalarLike s ((scanName s i).map fun (n, j) ↦ (.anchor n, j))
          else if c == '!' then q.scalarLike s (scanTag s i)
          else if (c == '|' || c == '>') && !inFlow then
            match q.dropCandidate, scanBlock s (c == '>') q.indent i with
            | .ok q, .ok (t, next) => .ok { q.emit t next with keyAllowed := true }
            | .error e, _ => .error e
            | _, .error e => .error e
          else if c == '\'' then q.scalarLike s (scanQuoted s false i)
          else if c == '"' then q.scalarLike s (scanQuoted s true i)
          else if startsPlain s inFlow i then q.plain s
          else .error .malformed

def runFor (s : Stream) : Nat → Scan → List Token × Option Fault
  | 0, q => (q.tokens.toList, some .malformed)
  | fuel + 1, q =>
      if q.finished then (q.tokens.toList, none)
      else
        match q.step s with
        | .ok q => runFor s fuel q
        | .error e => (q.tokens.toList, some e)

end Scan

def tokens (text : String) : List Token × Option Fault :=
  let s := Stream.ofText text
  if text.toList.all isPrintable then Scan.runFor s (s.size + 2) {} else ([], some .malformed)

end WebBaseline.Yaml
