import WebBaseline.Command.Line
import WebBaseline.Display.Page
import WebBaseline.Log
import WebBaseline.Scan

/-!
# How a command ends

A command ends with a text and an exit code, or with a fault: the command line was wrong, the
options or the table were, or the page could not be shown.
-/

namespace WebBaseline

/-- The message for a user; faults that no user is meant to cause have none. -/
def Scan.ScanError.message? : Scan.ScanError → Option String
  | .options e => e.message?
  | .table e => e.message?
  | .nulInPath => none

namespace Command

structure Usage where
  /-- the program and the names of its commands -/
  path : String
  /-- what follows them -/
  operands : String
  switches : List Switch

inductive Ending where
  | finished (code : Nat) (output : String)
  | misused (usage : Usage) (fault : LineFault)
  | failed (cause : Scan.ScanError)
  | garbled (fault : Display.TagFault)

namespace Ending

/-- Two for a fault of the user, one for a fault that nobody is told of. -/
def exitCode : Ending → Nat
  | finished code _ => code
  | misused _ _ => 2
  | failed cause => if cause.message?.isSome then 2 else 1
  | garbled _ => 1

def output : Ending → String
  | finished _ text => text
  | _ => ""

def complaint : Ending → String
  | finished _ _ => ""
  | misused usage fault =>
      (if fault.showsUsage then
        "Usage: " ++ usage.path ++ " " ++ usage.operands ++ "\nTry '" ++ usage.path ++
          " --help' for help.\n\n"
      else "") ++ "Error: " ++ fault.message ++ "\n"
  | failed cause =>
      match cause.message? with
      | some message => "Error: " ++ message ++ "\n"
      | none => ""
  | garbled _ => ""

end Ending

/-- What a command finds around it. -/
structure Host where
  files : Store
  console : Display.Console
  /-- how the words of a command are read; words that are not accepted lead to an ending -/
  readLine : Usage → List String → Except Ending Line

structure Run where
  ending : Ending
  notes : List LogRecord := []

def Usage.help (u : Usage) : String :=
  "Usage: " ++ u.path ++ " " ++ u.operands ++ "\n\nOptions:\n" ++
    String.join (u.switches.map fun s ↦
      "  " ++ (match s.letter with
        | some c => String.ofList ['-', c] ++ ", "
        | none => "") ++ s.name ++
      (match s.rule with
        | some (.oneOf words) => " [" ++ "|".intercalate words ++ "]"
        | some .integer => " INTEGER"
        | some (.existing true) => " PATH"
        | some (.existing false) => " FILE"
        | some .anything => " TEXT"
        | none => "") ++ "\n")

def helpSwitch : Switch := { name := "--help" }

/-- The values of switches checked in the order in which the switches were first given; of several
values the last one counts. -/
def checkValues (files : FileSystem) (usage : Usage) (line : Line) : List String → Option Ending
  | [] => none
  | name :: rest =>
      match (usage.switches.find? fun s ↦ s.name = name).bind (·.rule), line.value? name with
      | some rule, some value =>
          match rule.check files value with
          | .ok () => checkValues files usage line rest
          | .error (.reason reason) => some (.misused usage (.badValue name reason))
          | .error .nulInPath => some (.failed (.options .nulInPath))
      | _, _ => checkValues files usage line rest

def readChecked (files : FileSystem) (usage : Usage) (words : List String) : Except Ending Line :=
  match readWords usage.switches true {} words with
  | .error fault => .error (.misused usage fault)
  | .ok line =>
      if line.has "--help" then .error (.finished 0 usage.help)
      else
        match checkValues files usage line (line.switches.map Prod.fst).eraseDups with
        | some ending => .error ending
        | none => .ok line

theorem readChecked_eq_ok {files : FileSystem} {usage : Usage} {words : List String} {line : Line}
    (hwords : readWords usage.switches true {} words = .ok line)
    (hhelp : line.has "--help" = false)
    (hvalues : checkValues files usage line (line.switches.map Prod.fst).eraseDups = none) :
    readChecked files usage words = .ok line := by
  rw [readChecked, hwords]
  simp only [hhelp, hvalues, Bool.false_eq_true, if_false]

end Command

end WebBaseline
