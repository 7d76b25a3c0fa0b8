import WebBaseline.Command.Features
import WebBaseline.Command.Scan
import WebBaseline.Display.Terminal
import WebBaseline.Yaml.Document

/-!
# The program

The program has two commands, one that scans and one that lists features.
-/

namespace WebBaseline.Command

/-- A host with a terminal and with the readers of the library. -/
def Host.ofFiles (files : FileSystem) (width : Nat) : Host where
  files := { files with document := Yaml.read }
  console := Display.terminal width
  readLine := readChecked files

theorem readLine_ofFiles (files : FileSystem) (width : Nat) (usage : Usage) (words : List String) :
    (Host.ofFiles files width).readLine usage words = readChecked files usage words := by
  simp only [Host.ofFiles]

def version : String := "0.1.0"

def usage : Usage :=
  { path := "baselinelint"
    operands := "[OPTIONS] COMMAND [ARGS]..."
    switches := [{ name := "--version" }, helpSwitch] }

def commandNames : List String := ["scan", "features"]

/-- The ending that the switches before a command lead to, if they lead to one: the one given
first counts. -/
def endingOfSwitches (line : Line) : Option Ending :=
  match line.switches with
  | [] => none
  | (name, _) :: _ =>
      if name = "--version" then some (.finished 0 ("baselinelint, version " ++ version ++ "\n"))
      else some (.finished 0 (usage.help ++ "\nCommands:\n" ++
        String.join (commandNames.map fun c ↦ "  " ++ c ++ "\n")))

/-- A name that is no command.  Where it is written as a switch it is read as one. -/
def unknownCommand (name : String) (words : List String) : Ending :=
  match readWords usage.switches false {} words with
  | .error fault => .misused usage fault
  | .ok line =>
      (endingOfSwitches line).getD
        (.misused usage (.noSuchCommand name (Text.nearest name commandNames)))

def run (host : Host) (words : List String) : Run :=
  match readWords usage.switches false {} words with
  | .error fault => { ending := .misused usage fault }
  | .ok line =>
      match endingOfSwitches line with
      | some ending => { ending }
      | none =>
          match line.operands with
          | [] => { ending := .misused usage .commandMissing }
          | name :: rest =>
              match name with
              | "scan" => Scan.run host rest
              | "features" => Features.run host rest
              | _ => { ending := unknownCommand name line.operands }

end WebBaseline.Command
