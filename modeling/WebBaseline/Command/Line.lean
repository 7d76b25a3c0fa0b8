import WebBaseline.FileSystem
import WebBaseline.Text.Case
import WebBaseline.Text.Words

/-!
# Command lines

A command has switches and operands.  A switch is written with two dashes, its value after an
equals sign or as the next word; switches of one letter have one dash and may be written together.
Two dashes alone end the switches.
-/

namespace WebBaseline.Command

inductive Rule where
  | anything
  | oneOf (words : List String)
  | integer
  /-- a path that exists, and that may be a folder or not -/
  | existing (folders : Bool)
  deriving DecidableEq

structure Switch where
  name : String
  letter : Option Char := none
  /-- the rule for its value; a switch without one is on or off -/
  rule : Option Rule := none

inductive LineFault where
  | noSuchSwitch (name : String) (near : List String)
  | valueMissing (name : String)
  | valueGiven (name : String)
  | badValue (name reason : String)
  | operandMissing (name : String)
  | operandsLeft (operands : List String)
  | commandMissing
  | noSuchCommand (name : String) (near : List String)
  deriving DecidableEq

namespace LineFault

def hint (near : List String) : String :=
  match (near.mergeSort fun a b ↦ a ≤ b).map Text.quoted with
  | [] => ""
  | [one] => " Did you mean " ++ one ++ "?"
  | several => " (Did you mean one of: " ++ ", ".intercalate several ++ "?)"

def message : LineFault → String
  | noSuchSwitch name near => "No such option " ++ Text.quoted name ++ "." ++ hint near
  | valueMissing name => "Option " ++ Text.quoted name ++ " requires an argument."
  | valueGiven name => "Option " ++ Text.quoted name ++ " does not take a value."
  | badValue name reason => "Invalid value for '" ++ name ++ "': " ++ reason
  | operandMissing name => "Missing argument '" ++ name ++ "'."
  | operandsLeft [one] => "Got unexpected extra argument (" ++ one ++ ")"
  | operandsLeft several =>
      "Got unexpected extra arguments (" ++ " ".intercalate several ++ ")"
  | commandMissing => "Missing command."
  | noSuchCommand name near => "No such command " ++ Text.quoted name ++ "." ++ hint near

def showsUsage : LineFault → Bool
  | valueMissing _ => false
  | valueGiven _ => false
  | _ => true

end LineFault

/-- A command line that was read: the switches in their order, each with its value, and the
operands. -/
structure Line where
  switches : List (String × Option String) := []
  operands : List String := []
  deriving DecidableEq

namespace Line

def has (l : Line) (name : String) : Bool :=
  l.switches.any fun s ↦ s.1 = name

def values (l : Line) (name : String) : List String :=
  l.switches.filterMap fun s ↦ if s.1 = name then s.2 else none

/-- The value of a switch: the last one wins. -/
def value? (l : Line) (name : String) : Option String :=
  (l.values name).getLast?

end Line

inductive Word where
  /-- switches that need no more words -/
  | complete (switches : List (String × Option String))
  /-- a switch whose value is the next word -/
  | awaiting (name : String)

def splitValue (cs : List Char) : List Char × Option (List Char) :=
  match cs.dropWhile (· ≠ '=') with
  | _ :: value => (cs.takeWhile (· ≠ '='), some value)
  | [] => (cs, none)

def readLetters (switches : List Switch) :
    List Char → Except LineFault (List (String × Option String))
  | [] => .ok []
  | c :: rest =>
      match switches.find? fun s ↦ s.letter = some c with
      | none => .error (.noSuchSwitch (String.ofList ['-', c]) [])
      | some s => (readLetters switches rest).map ((s.name, none) :: ·)

def readWord (switches : List Switch) (word : String) : Except LineFault Word :=
  let (before, value) := splitValue word.toList
  let name := String.ofList before
  match switches.find? fun s ↦ s.name = name with
  | some s =>
      match s.rule, value with
      | some _, some v => .ok (.complete [(name, some (String.ofList v))])
      | some _, none => .ok (.awaiting name)
      | none, some _ => .error (.valueGiven name)
      | none, none => .ok (.complete [(name, none)])
  | none =>
      match word.toList with
      | '-' :: '-' :: _ =>
          .error (.noSuchSwitch name (Text.nearest name (switches.map (·.name))))
      | _ => (readLetters switches (word.toList.drop 1)).map .complete

def isSwitchWord (word : String) : Bool :=
  match word.toList with
  | '-' :: _ :: _ => true
  | _ => false

/-- Reads words.  Where `mixed` is false the first operand ends the switches. -/
def readWords (switches : List Switch) (mixed : Bool) (line : Line) :
    List String → Except LineFault Line
  | [] => .ok line
  | word :: rest =>
      if word = "--" then .ok { line with operands := line.operands ++ rest }
      else if isSwitchWord word then
        match readWord switches word with
        | .error e => .error e
        | .ok (.complete found) =>
            readWords switches mixed { line with switches := line.switches ++ found } rest
        | .ok (.awaiting name) =>
            match rest with
            | [] => .error (.valueMissing name)
            | value :: rest =>
                readWords switches mixed
                  { line with switches := line.switches ++ [(name, some value)] } rest
      else if mixed then
        readWords switches mixed { line with operands := line.operands ++ [word] } rest
      else .ok { line with operands := line.operands ++ word :: rest }

/-! ### Values -/

def lastPart (s : String) : List Char :=
  (s.toList.reverse.takeWhile (· ≠ '/')).reverse

/-- What a path that is given as a text names.  A path that ends in a slash or a dot names a
folder. -/
def statText (files : FileSystem) (s : String) : Except ReadError FileTree :=
  if s.toList.contains '\x00' then .error .nulInPath
  else if s.isEmpty then .error (.os .missing)
  else
    match files.stat (Path.ofText s) with
    | .error e => .error (.os e)
    | .ok (.folder entries) => .ok (.folder entries)
    | .ok entry =>
        if lastPart s = [] || lastPart s = ['.'] then .error (.os .notFolder) else .ok entry

inductive ValueFault where
  | reason (text : String)
  | nulInPath

def Rule.check (files : FileSystem) (rule : Rule) (value : String) : Except ValueFault Unit :=
  match rule with
  | anything => .ok ()
  | oneOf words =>
      if words.contains value then .ok ()
      else
        .error (.reason (Text.quoted value ++ " is not one of " ++
          ", ".intercalate (words.map Text.quoted) ++ "."))
  | integer =>
      match Text.integer? value with
      | some _ => .ok ()
      | none => .error (.reason (Text.quoted value ++ " is not a valid integer."))
  | existing folders =>
      let noun := if folders then "Path " else "File "
      match statText files value with
      | .error .nulInPath => .error .nulInPath
      | .error _ => .error (.reason (noun ++ Text.quoted value ++ " does not exist."))
      | .ok (.folder _) =>
          if folders then .ok ()
          else .error (.reason (noun ++ Text.quoted value ++ " is a directory."))
      | .ok _ => .ok ()

end WebBaseline.Command
