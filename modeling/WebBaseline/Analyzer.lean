import WebBaseline.Css.Sheet
import WebBaseline.Css.Uses
import WebBaseline.Log
import WebBaseline.Markup.Uses
import WebBaseline.Path
import WebBaseline.Report
import WebBaseline.Script.Statement
import WebBaseline.Script.Uses

/-!
# Analyzers

An analyzer finds the uses in one kind of source and is chosen by the ending of a file name.  A
source that cannot be read is noted and has no issues.
-/

namespace WebBaseline

inductive Detection.Ending where
  | complete
  /-- the source cannot be read, with the reason -/
  | malformed (reason : String)
  /-- the analyzer itself failed -/
  | failed

/-- What an analyzer makes of a source: the uses it came upon, and how it ended. -/
structure Detection where
  uses : List Use := []
  ending : Detection.Ending

structure Analyzer where
  name : String
  /-- endings of file names in lower case, with their dots -/
  extensions : List String
  language : Language
  /-- from the text of a source and the name of its file -/
  detect : String → String → Detection

namespace Analyzer

def css : Analyzer :=
  { name := "CssAnalyzer"
    extensions := [".css"]
    language := .css
    detect := fun content file ↦
      match Css.uses? (Css.read content) with
      | some uses => { uses, ending := .complete }
      | none => { ending := .malformed ("Malformed style sheet: " ++ file) } }

def dialects : List (String × Script.Dialect) :=
  [(".js", .script), (".jsx", .script), (".mjs", .script), (".cjs", .script),
   (".ts", .typeScript), (".tsx", .typeScriptX)]

/-- The dialect of a file; an ending that is not known means a plain script. -/
def dialectOf (file : String) : Script.Dialect :=
  (dialects.lookup (Text.lower (Path.ofText file).suffix)).getD .script

def script : Analyzer :=
  { name := "ScriptAnalyzer"
    extensions := [".js", ".jsx", ".ts", ".tsx"]
    language := .javascript
    detect := fun content file ↦
      match Script.uses (Script.read (dialectOf file) content) with
      | .ok uses => { uses, ending := .complete }
      | .error .malformed => { ending := .malformed ("Malformed script: " ++ file) }
      | .error .danglingField => { ending := .failed } }

def markup : Analyzer :=
  { name := "MarkupAnalyzer"
    extensions := [".html", ".htm"]
    language := .html
    detect := fun content _ ↦
      match Markup.uses? content with
      | some uses => { uses, ending := .complete }
      | none => { ending := .malformed "Markup rejected by html.parser" } }

def all : List Analyzer := [css, script, markup]

/-- Whether the ending of a file name, in any case, belongs to an analyzer. -/
def handles (a : Analyzer) (path : Path) : Bool :=
  a.extensions.contains (Text.lower path.suffix)

def forPath (analyzers : List Analyzer) (path : Path) : Option Analyzer :=
  analyzers.find? fun a ↦ a.handles path

def describe (a : Analyzer) : String :=
  a.name ++ "(extensions=" ++ (Datum.tuple (a.extensions.map .text)).quoted ++ ")"

/-- The issues of a source and the notes about it; nothing if the analyzer failed.  Uses that
were found before a failure are not reported. -/
def analyze (a : Analyzer) (content file : String) (table : Table) (level : Level) :
    Option (List Issue × List LogRecord) :=
  let detection := a.detect content file
  match detection.ending with
  | .complete => some (Report.issues a.language file table level detection.uses, [])
  | .malformed reason =>
      some ([], [{ level := .warning
                   origin := .analysis
                   message := "Skipping unparseable file " ++ file ++ ": " ++ reason }])
  | .failed => none

end Analyzer

end WebBaseline
