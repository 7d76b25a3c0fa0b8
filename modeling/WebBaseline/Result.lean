import WebBaseline.Issue

/-!
# The result of a scan

The issues in the order in which they were found, and how many files were read.  Every count is
derived from these two.
-/

namespace WebBaseline

structure ScanResult where
  issues : List Issue := []
  scanned : Nat := 0
  deriving DecidableEq, Inhabited

structure Summary where
  total : Nat
  errors : Nat
  warnings : Nat
  info : Nat
  limited : Nat
  newly : Nat
  widely : Nat
  deriving Repr, DecidableEq

namespace Summary

def ofIssues (issues : List Issue) : Summary :=
  { total := issues.length
    errors := issues.countP fun i ↦ i.severity = .error
    warnings := issues.countP fun i ↦ i.severity = .warning
    info := issues.countP fun i ↦ i.severity = .info
    limited := issues.countP fun i ↦ i.tier = .limited
    newly := issues.countP fun i ↦ i.tier = .newly
    widely := issues.countP fun i ↦ i.tier = .widely }

def toDatum (s : Summary) : Datum :=
  .record
    [(.text "total", .int s.total),
     (.text "errors", .int s.errors),
     (.text "warnings", .int s.warnings),
     (.text "info", .int s.info),
     (.text "baselineLimited", .int s.limited),
     (.text "baselineNewly", .int s.newly),
     (.text "baselineWidely", .int s.widely)]

end Summary

namespace ScanResult

def summary (r : ScanResult) : Summary := Summary.ofIssues r.issues

def withIssues (r : ScanResult) : Nat := (r.issues.map (·.file)).eraseDups.length

def hasIssues (r : ScanResult) : Bool := !r.issues.isEmpty

/-- The same result with its issues in report order; issues at one place keep their order. -/
def sorted (r : ScanResult) : ScanResult :=
  { r with issues := r.issues.mergeSort Issue.le }

def filter (r : ScanResult) (s : Severity) : List Issue :=
  r.issues.filter fun i ↦ i.severity = s

def toDatum (r : ScanResult) : Datum :=
  .record
    [(.text "issues", .list (r.issues.map (·.toDatum))),
     (.text "summary", r.summary.toDatum),
     (.text "files",
       .record [(.text "scanned", .int r.scanned), (.text "withIssues", .int r.withIssues)])]

end ScanResult

end WebBaseline
