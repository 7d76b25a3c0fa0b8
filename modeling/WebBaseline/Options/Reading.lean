import WebBaseline.Log
import WebBaseline.Options.Basic

/-!
# Options from documents and files

A document names settings by other words than the options do.  Words that are not known are noted
and passed over.
-/

namespace WebBaseline.Options

def configKeys : List String :=
  ["include", "exclude", "baseline_level", "workers", "features", "verbose"]

def isConfigKey : Datum → Bool
  | .text s => configKeys.contains s
  | _ => false

def unknownKeys (entries : List (Datum × Datum)) : List String :=
  ((entries.filter fun e ↦ !isConfigKey e.1).map fun e ↦ e.1.shown).mergeSort fun a b ↦ a ≤ b

def unknownNotes (entries : List (Datum × Datum)) : List LogRecord :=
  match unknownKeys entries with
  | [] => []
  | names =>
      [{ level := .warning
         origin := .options
         message := "Ignoring unknown configuration key(s): " ++ ", ".intercalate names }]

def patternList (option : String) (value : Datum) : Except OptionsError Datum :=
  match value with
  | .null => .ok (.list [])
  | .text s => .ok (.list [.text s])
  | .list xs => .ok (.list xs)
  | _ => .error (.patternsNotList option)

def patternSetting (entries : List (Datum × Datum)) (option name : String) :
    Except OptionsError Settings :=
  match Datum.lookup entries option with
  | some value =>
      match patternList option value with
      | .ok patterns => .ok [(name, patterns)]
      | .error e => .error e
  | none => .ok []

def plainSetting (entries : List (Datum × Datum)) (option name : String) : Settings :=
  match Datum.get entries option with
  | .null => []
  | value => [(name, value)]

/-- The other table that a configuration names, found from a folder unless its path is
absolute. -/
def featuresSetting (entries : List (Datum × Datum)) (base : Option Path) : Settings :=
  let value := Datum.get entries "features"
  if value.truthy then
    let path := Path.ofText value.shown
    let found := match base with
      | some b => b.join path
      | none => path
    [("features_path", .text found.toText)]
  else []

def settingsOf (entries : List (Datum × Datum)) (base : Option Path) :
    Except OptionsError Settings := do
  let including ← patternSetting entries "include" "include_patterns"
  let excluding ← patternSetting entries "exclude" "exclude_patterns"
  return including ++ excluding ++ plainSetting entries "baseline_level" "baseline_level" ++
    plainSetting entries "workers" "workers" ++ plainSetting entries "verbose" "verbose" ++
    featuresSetting entries base

def ofDatum (document : Datum) (base : Option Path) :
    Except OptionsError Options × List LogRecord :=
  match document with
  | .record entries =>
      (match settingsOf entries base with
        | .ok settings => ofSettings settings
        | .error e => .error e,
       unknownNotes entries)
  | _ => (.error .notRecord, [])

def load (files : Store) (path : Path) : Except OptionsError Options × List LogRecord :=
  match files.readText path with
  | .error (.os e) => (.error (.unreadable path e), [])
  | .error .undecodable => (.error .undecodable, [])
  | .error .nulInPath => (.error .nulInPath, [])
  | .ok text =>
      match files.document text with
      | .error .malformed => (.error (.notYaml path), [])
      | .error fault => (.error (.badEntry fault), [])
      | .ok document =>
          let note : LogRecord :=
            { level := .debug
              origin := .options
              message := "Loaded configuration from " ++ path.toText }
          let (options, notes) :=
            ofDatum (if document.truthy then document else .record []) (some path.parent)
          (options, note :: notes)

/-- The names that a configuration file can have, the first one found being used. -/
def fileNames : List String :=
  ["baselinelint.yaml", "baselinelint.yml", ".baselinelint.yaml"]

def find (files : FileSystem) (folder : Path) : Option Path :=
  (fileNames.map folder.child).find? fun p ↦ files.isFile p

end WebBaseline.Options
