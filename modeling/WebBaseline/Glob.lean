import WebBaseline.Datum
import WebBaseline.Text.Words

/-!
# Glob patterns

A pattern is cut from left to right into tokens: two stars and a slash stand for nothing or for
anything that ends in a slash, two stars for anything, one star for anything without a slash, and
every other character for itself.  A pattern matches a whole path.

Matching keeps, for every position of the path, whether the tokens read so far can end there.
-/

namespace WebBaseline.Glob

inductive Token where
  /-- `**/` -/
  | folders
  /-- `**` -/
  | anything
  /-- `*` -/
  | name
  | literal (c : Char)
  deriving Repr, DecidableEq

def tokens : List Char → List Token
  | '*' :: '*' :: '/' :: rest => .folders :: tokens rest
  | '*' :: '*' :: rest => .anything :: tokens rest
  | '*' :: rest => .name :: tokens rest
  | c :: rest => .literal c :: tokens rest
  | [] => []

/-- The ends reachable after a literal: one to the right of a reachable place before it. -/
def stepLiteral (c : Char) : List Char → List Bool → List Bool
  | p :: path, r :: reach => (r && p == c) :: stepLiteral c path reach
  | _, _ => []

/-- The ends reachable by going on from a reachable place over characters that `allow` lets
pass. -/
def stepRun (allow : Char → Bool) : Bool → List Char → List Bool → List Bool
  | before, p :: path, r :: reach =>
      let here := before || r
      here :: stepRun allow (here && allow p) path reach
  | before, [], r :: _ => [before || r]
  | _, _, [] => []

/-- The ends reachable by staying or by going on to just after a slash; `before` says that some
place to the left is reachable, `slash` that a slash was passed last. -/
def stepFolders : Bool → Bool → List Char → List Bool → List Bool
  | before, slash, p :: path, r :: reach =>
      (r || (before && slash)) :: stepFolders (before || r) (p == '/') path reach
  | before, slash, [], r :: _ => [r || (before && slash)]
  | _, _, _, [] => []

/-- One token more: from the places where the tokens so far can end to those where they can end
with it. -/
def step (path : List Char) (reach : List Bool) : Token → List Bool
  | .literal c => false :: stepLiteral c path reach
  | .name => stepRun (fun c ↦ c != '/') false path reach
  | .anything => stepRun (fun _ ↦ true) false path reach
  | .folders => stepFolders false false path reach

/-- Before any token only the start of the path is reachable. -/
def start (path : List Char) : List Bool :=
  true :: path.map fun _ ↦ false

def matchesTokens (ts : List Token) (path : List Char) : Bool :=
  (ts.foldl (step path) (start path)).getLastD false

/-- Whether a pattern that is not blank matches a path. -/
def accepts (pattern path : String) : Bool :=
  matchesTokens (tokens pattern.toList) path.toList

inductive Fault where
  /-- nothing but white space, or no text at all -/
  | blank (pattern : Datum)
  /-- a list or a record where a pattern should stand -/
  | compound
  /-- a pattern without the endings of a text -/
  | notText
  /-- patterns that are no sequence -/
  | notSequence

def blankMessage (pattern : Datum) : String :=
  "Empty glob pattern: " ++ pattern.quoted

/-- Whether a pattern matches a path; a blank pattern is a fault. -/
def isMatch (pattern path : String) : Except Fault Bool :=
  if Text.isBlankText pattern then .error (.blank (.text pattern))
  else .ok (accepts pattern path)

def matchesAny : List String → String → Except Fault Bool
  | [], _ => .ok false
  | pattern :: rest, path =>
      match isMatch pattern path with
      | .error e => .error e
      | .ok true => .ok true
      | .ok false => matchesAny rest path

/-- Patterns that can exclude everything below a directory. -/
def coversFolder (pattern : String) : Bool :=
  pattern = "**" || ['/', '*', '*'].isSuffixOf pattern.toList

def prunes (patterns : List String) (directory : String) : Except Fault Bool :=
  matchesAny (patterns.filter coversFolder) (directory ++ "/")

/-! ### Patterns as they stand in a document -/

def elements? : Datum → Option (List Datum)
  | .text s => some (s.toList.map fun c ↦ .text (String.ofList [c]))
  | .bytes bs => some (bs.map fun b ↦ .int b.toNat)
  | .list xs => some xs
  | .tuple xs => some xs
  | .set xs => some xs
  | .record entries => some (entries.map Prod.fst)
  | _ => none

/-- A pattern of any kind.  What can change, a list, a set or a record, is refused unseen; anything
else that is no text counts as blank, and the fault holds the value that was given. -/
def matchesDatum (pattern : Datum) (path : String) : Except Fault Bool :=
  match pattern with
  | .text s => isMatch s path
  | .list _ => .error .compound
  | .record _ => .error .compound
  | .set _ => .error .compound
  | other => .error (.blank other)

def matchesAnyOf : List Datum → String → Except Fault Bool
  | [], _ => .ok false
  | pattern :: rest, path =>
      match matchesDatum pattern path with
      | .error e => .error e
      | .ok true => .ok true
      | .ok false => matchesAnyOf rest path

def prunesOf : List Datum → String → Except Fault Bool
  | [], _ => .ok false
  | .text s :: rest, directory =>
      if coversFolder s then
        match isMatch s (directory ++ "/") with
        | .error e => .error e
        | .ok true => .ok true
        | .ok false => prunesOf rest directory
      else prunesOf rest directory
  | _ :: _, _ => .error .notText

end WebBaseline.Glob
