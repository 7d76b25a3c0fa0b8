import WebBaseline.Issue
import WebBaseline.Table.Basic

/-!
# From uses to issues

An analyzer finds uses: a key at a place.  A use is reported when the table knows its key and the
level asks for the tier of the feature, and a key is reported once at one place, by its first use.
-/

namespace WebBaseline

/-- A construct in a source and the key it stands for. -/
structure Use where
  key : String
  line : Int
  column : Int
  property : Option String := none
  value : Option String := none
  deriving Repr, DecidableEq, Inhabited

/-- What tells two reported uses apart. -/
def Use.marker (u : Use) : String × Int × Int := (u.key, u.line, u.column)

namespace Report

def reported? (table : Table) (level : Level) (u : Use) : Option Feature :=
  match table.lookup u.key with
  | some f => if level.reports f.tier then some f else none
  | none => none

def issueOf (language : Language) (file : String) (f : Feature) (u : Use) : Issue :=
  Issue.create language f u.key file u.line u.column u.property u.value

/-- The issues of the uses that are left, given the markers that were reported. -/
def issuesFrom (language : Language) (file : String) (table : Table) (level : Level) :
    List (String × Int × Int) → List Use → List Issue
  | _, [] => []
  | seen, u :: rest =>
      match reported? table level u with
      | none => issuesFrom language file table level seen rest
      | some f =>
          if seen.contains u.marker then issuesFrom language file table level seen rest
          else
            issueOf language file f u ::
              issuesFrom language file table level (u.marker :: seen) rest

def issues (language : Language) (file : String) (table : Table) (level : Level)
    (uses : List Use) : List Issue :=
  issuesFrom language file table level [] uses

end Report

end WebBaseline
