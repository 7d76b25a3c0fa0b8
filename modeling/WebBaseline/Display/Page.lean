import WebBaseline.Display.Console
import WebBaseline.Result

/-!
# What a console shows

The issues of a scan and the features of a table as pages of text.  The texts of an issue are cells
with tags, so that a page cannot be shown when one of them has a closing tag that closes nothing;
in the hints below the grid they are escaped.
-/

namespace WebBaseline.Display

def asText (lines : List (List Char)) : String :=
  String.ofList (lines.flatMap fun l ↦ l ++ ['\n'])

/-! ### Issues -/

def issueHeaders : List (String × Placing) :=
  [("Location", .left), ("Severity", .centre), ("Feature", .left), ("Baseline", .centre),
   ("Message", .left)]

def severityName : Severity → String
  | .error => "ERROR"
  | .warning => "WARNING"
  | .info => "INFO"

def issueRow (i : Issue) : List Cell :=
  [.tagged i.location, .plain (severityName i.severity), .tagged i.feature,
   .plain i.tier.displayName, .tagged i.message]

/-- Issues with a suggestion, the first one of each feature. -/
def suggestionIssues : List String → List Issue → List Issue
  | _, [] => []
  | seen, i :: rest =>
      if (Issue.nonempty i.suggestion).isSome && !seen.contains i.featureId then
        i :: suggestionIssues (i.featureId :: seen) rest
      else suggestionIssues seen rest

/-- A suggestion as a tagged text in which the texts of the issue are escaped. -/
def suggestionLine (c : Console) (i : Issue) : String :=
  "  [cyan]" ++ c.escaped i.feature ++ "[/cyan]: " ++ c.escaped (i.suggestion.getD "")

def suggestionLines (c : Console) : List Issue → Except TagFault (List (List Char))
  | [] => .ok []
  | i :: rest => do
      let first ← c.print (suggestionLine c i)
      let more ← suggestionLines c rest
      return first ++ more

def suggestions (c : Console) (issues : List Issue) : Except TagFault (List (List Char)) :=
  match suggestionIssues [] issues with
  | [] => .ok []
  | found => do
      let heading ← c.print "[bold]Suggestions:[/bold]"
      let lines ← suggestionLines c found
      return heading ++ lines

def countPart (style : String) (n : Nat) (name : String) : List String :=
  if 0 < n then ["[" ++ style ++ "]" ++ toString n ++ " " ++ name ++ "[/" ++ style ++ "]"] else []

def summaryLine (r : ScanResult) : String :=
  let s := r.summary
  " | ".intercalate
    (["[bold]" ++ toString r.scanned ++ "[/bold] files scanned"] ++
      countPart "red" s.errors "errors" ++ countPart "yellow" s.warnings "warnings" ++
      countPart "cyan" s.info "info" ++
      [toString s.total ++ " total issues in " ++ toString r.withIssues ++ " file(s)"])

def resultPage (c : Console) (r : ScanResult) : Except TagFault String :=
  if r.issues.isEmpty then do
    let nothing ← c.print "[green]No Baseline compatibility issues found.[/green]"
    let summary ← c.print (summaryLine r)
    return asText (nothing ++ summary)
  else do
    let grid ← c.grid "Baseline Compatibility Issues" issueHeaders (r.issues.map issueRow)
    let hints ← suggestions c r.issues
    let summary ← c.print (summaryLine r)
    return asText (c.drawn grid ++ hints ++ summary)

/-! ### Features -/

def featureHeaders : List (String × Placing) :=
  [("ID", .left), ("Name", .left), ("Group", .left), ("Baseline", .centre), ("Since", .left)]

def since (f : Feature) : String :=
  match Issue.nonempty f.highDate, Issue.nonempty f.lowDate with
  | some d, _ => d
  | none, some d => d
  | none, none => "-"

def featureRow (f : Feature) : List Cell :=
  [.tagged f.id, .tagged f.name, .tagged f.group, .plain f.tier.displayName, .tagged (since f)]

def featurePage (c : Console) (features : List Feature) (title : String) :
    Except TagFault String :=
  if features.isEmpty then do
    let nothing ← c.print "[dim]No matching features.[/dim]"
    return asText nothing
  else do
    let grid ← c.grid title featureHeaders (features.map featureRow)
    let count ← c.print ("[bold]" ++ toString features.length ++ "[/bold] feature(s)")
    return asText (c.drawn grid ++ count)

end WebBaseline.Display
