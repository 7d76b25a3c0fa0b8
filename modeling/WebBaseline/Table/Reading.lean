import WebBaseline.FileSystem
import WebBaseline.Log
import WebBaseline.Table.Basic

/-!
# Reading tables

A document is read entry by entry, and the first fault ends the reading.  What an entry leaves out
has a default; what is not a text is written out as one.  A file holds one document.
-/

namespace WebBaseline

namespace Table

def requiredFields : List String := ["id", "name", "group"]

/-- Sets a key, keeping its place when it was there before. -/
def putText : List (String × String) → String → String → List (String × String)
  | [], k, v => [(k, v)]
  | (k', v') :: rest, k, v => if k' = k then (k, v) :: rest else (k', v') :: putText rest k v

def supportOf (entries : List (Datum × Datum)) : List (String × String) :=
  entries.foldl (fun acc e ↦ putText acc e.1.shown e.2.shown) []

def optionalOf : Datum → Option String
  | .null => none
  | v => some v.shown

/-- A list of keys, where anything that is off counts as no keys. -/
def keysOf? (v : Datum) : Option (List String) :=
  if v.truthy then
    match v with
    | .list xs => some (xs.map Datum.shown)
    | _ => none
  else some []

def supportOf? (v : Datum) : Option (List (String × String)) :=
  if v.truthy then
    match v with
    | .record entries => some (supportOf entries)
    | _ => none
  else some []

def featureOf (index : Nat) (entry : Datum) : Except TableError Feature :=
  match entry with
  | .record entries =>
      let missing := requiredFields.filter fun name ↦ !(Datum.get entries name).truthy
      if missing.isEmpty then
        let id := (Datum.get entries "id").shown
        let baseline := Datum.get entries "baseline"
        match Tier.ofDatum? baseline with
        | none => .error (.unknownTier id baseline)
        | some tier =>
            match keysOf? (Datum.get entries "compat_features") with
            | none => .error (.keysNotList id)
            | some keys =>
                match supportOf? (Datum.get entries "support") with
                | none => .error (.supportNotRecord id)
                | some support =>
                    .ok
                      { id
                        name := (Datum.get entries "name").shown
                        description := ((Datum.lookup entries "description").getD (.text "")).shown
                        group := Text.lower (Datum.get entries "group").shown
                        tier
                        keys
                        lowDate := optionalOf (Datum.get entries "baseline_low_date")
                        highDate := optionalOf (Datum.get entries "baseline_high_date")
                        support
                        spec := optionalOf (Datum.get entries "spec") }
      else .error (.missingFields index missing)
  | _ => .error (.entryNotRecord index)

def featuresFrom : Nat → List Datum → Except TableError (List Feature)
  | _, [] => .ok []
  | index, entry :: rest =>
      match featureOf index entry with
      | .error e => .error e
      | .ok f =>
          match featuresFrom (index + 1) rest with
          | .error e => .error e
          | .ok fs => .ok (f :: fs)

def ofDatum (document : Datum) : Except TableError Table :=
  match document with
  | .record entries =>
      match Datum.get entries "features" with
      | .list raw =>
          match featuresFrom 0 raw with
          | .error e => .error e
          | .ok features =>
              let version := (Datum.lookup entries "version").getD (.text "unversioned")
              ofFeatures features version.shown
      | _ => .error .featuresNotList
  | _ => .error .notRecord

end Table

/-! ### Tables in files -/

inductive TableFileError where
  | unreadable (path : Path) (cause : OsError)
  | notYaml (path : Path)
  | notTable (cause : TableError)
  | undecodable
  | nulInPath
  | badEntry (fault : Yaml.Fault)

namespace TableFileError

/-- The message for a user; faults that no user is meant to cause have none. -/
def message? : TableFileError → Option String
  | unreadable path cause =>
      some ("Cannot read compatibility table " ++ path.toText ++ ": " ++ cause.message path.toText)
  | notYaml path => some ("Invalid YAML in compatibility table " ++ path.toText)
  | notTable cause => some cause.message
  | undecodable => none
  | nulInPath => none
  | badEntry _ => none

end TableFileError

namespace Table

def loadedNote (path : Path) (table : Table) : LogRecord :=
  { level := .debug
    origin := .table
    message := "Loaded compatibility table " ++ path.toText ++ " (version " ++ table.version ++
      ", " ++ toString table.size ++ " features)" }

def load (files : Store) (path : Path) : Except TableFileError (Table × LogRecord) :=
  match files.readText path with
  | .error (.os e) => .error (.unreadable path e)
  | .error .undecodable => .error .undecodable
  | .error .nulInPath => .error .nulInPath
  | .ok text =>
      match files.document text with
      | .error .malformed => .error (.notYaml path)
      | .error fault => .error (.badEntry fault)
      | .ok document =>
          match ofDatum (if document.truthy then document else .record []) with
          | .ok table => .ok (table, loadedNote path table)
          | .error e => .error (.notTable e)

end Table

end WebBaseline
