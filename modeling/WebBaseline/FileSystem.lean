import WebBaseline.Datum
import WebBaseline.Path
import WebBaseline.Text.Utf8
import WebBaseline.Yaml.Stream

/-!
# File systems

A file system is a tree of files, folders and symbolic links with a working folder.  Absolute paths
and absolute links start at the top, other paths in the working folder.  Links are followed when a
path is looked up, forty of them at most.  Looking at an entry that is there never fails: names of
any length and folders that may not be entered are left out.
-/

namespace WebBaseline

inductive FileTree where
  | file (bytes : List UInt8)
  | folder (entries : List (String × FileTree))
  | link (target : String)
  deriving Inhabited

inductive OsError where
  | missing
  | notFolder
  | isFolder
  | tooManyLinks
  deriving Repr, DecidableEq

namespace OsError

def describe : OsError → String
  | missing => "[Errno 2] No such file or directory"
  | notFolder => "[Errno 20] Not a directory"
  | isFolder => "[Errno 21] Is a directory"
  | tooManyLinks => "[Errno 40] Too many levels of symbolic links"

def message (e : OsError) (path : String) : String :=
  e.describe ++ ": " ++ Text.quoted path

end OsError

namespace FileTree

def find? (name : String) : List (String × FileTree) → Option FileTree
  | [] => none
  | (n, t) :: rest => if n = name then some t else find? name rest

/-- The entry that names lead to.  The list of trees holds the folder one stands in and those above
it, but not the top, above which there is nothing but the top.  A name that says nothing still asks
for a folder, so a link whose target ends in a slash does not lead to a file. -/
def walk (top : FileTree) (links : Nat) (above : List FileTree) (names : List String) :
    Except OsError FileTree :=
  match names with
  | [] => .ok (above.headD top)
  | name :: rest =>
      match above.headD top with
      | .folder entries =>
          if name = "" || name = "." then walk top links above rest
          else if name = ".." then walk top links above.tail rest
          else
            match find? name entries with
            | none => .error .missing
            | some (.link target) =>
                match links with
                | 0 => .error .tooManyLinks
                | left + 1 =>
                    let start := if (Path.ofText target).isAbsolute then [] else above
                    walk top left start (Path.pieces target ++ rest)
            | some t => walk top links (t :: above) rest
      | _ => .error .notFolder
termination_by (links, names.length)

/-- Puts an entry under names, making the folders above it. -/
def insertAt (t : FileTree) : List String → FileTree → FileTree
  | [], entry => entry
  | name :: rest, entry =>
      match t with
      | .folder entries =>
          let below := (find? name entries).getD (.folder [])
          let changed := insertAt below rest entry
          .folder (entries.filter (fun e ↦ e.1 ≠ name) ++ [(name, changed)])
      | _ => .folder [(name, insertAt (.folder []) rest entry)]

def insert (t : FileTree) (path : String) (entry : FileTree) : FileTree :=
  t.insertAt (Path.ofText path).parts entry

end FileTree

structure FileSystem where
  top : FileTree
  /-- the names that lead from the top to the working folder -/
  here : List String := []

namespace FileSystem

variable (files : FileSystem)

def namesOf (p : Path) : List String :=
  if p.isAbsolute then p.parts else files.here ++ p.parts

/-- What a path names, links followed. -/
def stat (p : Path) : Except OsError FileTree :=
  files.top.walk 40 [] (files.namesOf p)

def isFile (p : Path) : Bool :=
  match files.stat p with
  | .ok (.file _) => true
  | _ => false

def isFolder (p : Path) : Bool :=
  match files.stat p with
  | .ok (.folder _) => true
  | _ => false

def readBytes (p : Path) : Except OsError (List UInt8) :=
  match files.stat p with
  | .ok (.file bytes) => .ok bytes
  | .ok _ => .error .isFolder
  | .error e => .error e

end FileSystem

inductive ReadError where
  | os (e : OsError)
  | undecodable
  | nulInPath
  deriving Repr, DecidableEq

/-- The text of a file: UTF-8, every line end written as a line feed. -/
def FileSystem.readText (files : FileSystem) (p : Path) : Except ReadError String :=
  if p.toText.toList.contains '\x00' then .error .nulInPath
  else
    match files.readBytes p with
    | .error e => .error (.os e)
    | .ok bytes =>
        match Text.decode? bytes with
        | some s => .ok (String.ofList (Text.unifyNewlines s.toList))
        | none => .error .undecodable

/-- Files, and how the text of a document is read. -/
structure Store extends FileSystem where
  document : String → Except Yaml.Fault Datum

instance : Coe Store FileSystem := ⟨Store.toFileSystem⟩

end WebBaseline
