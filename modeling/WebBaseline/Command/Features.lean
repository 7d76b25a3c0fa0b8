import WebBaseline.Command.Ending
import WebBaseline.Datum.Json
import WebBaseline.Table.Bundled

/-!
# The command that lists features

The features of a table, by group, tier and a text that they mention.
-/

namespace WebBaseline.Command.Features

def usage : Usage :=
  { path := "baselinelint features"
    operands := "[OPTIONS]"
    switches :=
      [{ name := "--group", rule := some (.oneOf ["css", "javascript", "html"]) },
       { name := "--tier", rule := some (.oneOf ["limited", "newly", "widely"]) },
       { name := "--search", rule := some .anything },
       { name := "--format", rule := some (.oneOf ["text", "json"]) },
       { name := "--features", rule := some (.existing false) },
       helpSwitch] }

def tableFor (files : Store) (line : Line) : Except TableFileError Table :=
  match line.value? "--features" with
  | some path => (Table.load files (Path.ofText path)).map Prod.fst
  | none => .ok Table.bundled

def endingOf (console : Display.Console) (table : Table) (line : Line) : Ending :=
  let tier := (line.value? "--tier").bind fun s ↦ Tier.ofDatum? (.text s)
  let features := table.select (line.value? "--group") tier (line.value? "--search")
  if line.value? "--format" = some "json" then
    .finished 0 ((Table.toDatum table.version features).toJson ++ "\n")
  else
    match Display.featurePage console features ("Baseline Features (" ++ table.version ++ ")") with
    | .ok page => .finished 0 page
    | .error fault => .garbled fault

def run (host : Host) (words : List String) : Run :=
  match host.readLine usage words with
  | .error ending => { ending }
  | .ok line =>
      if !line.operands.isEmpty then { ending := .misused usage (.operandsLeft line.operands) }
      else
        match tableFor host.files line with
        | .error e => { ending := .failed (.table e) }
        | .ok table => { ending := endingOf host.console table line }

end WebBaseline.Command.Features
