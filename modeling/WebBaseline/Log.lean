/-!
# Log records

What the library notes while it works: how important a note is, which part wrote it, and what it
says.
-/

namespace WebBaseline

inductive LogLevel where
  | debug
  | info
  | warning
  deriving Repr, DecidableEq

namespace LogLevel

def label : LogLevel → String
  | debug => "DEBUG"
  | info => "INFO"
  | warning => "WARNING"

end LogLevel

inductive LogOrigin where
  | analysis
  | options
  | scan
  | table
  deriving Repr, DecidableEq

namespace LogOrigin

def name : LogOrigin → String
  | analysis => "baselinelint.analyzers.base"
  | options => "baselinelint.scanner.options"
  | scan => "baselinelint.scanner.orchestrator"
  | table => "baselinelint.core.compat.database"

end LogOrigin

structure LogRecord where
  level : LogLevel
  origin : LogOrigin
  message : String
  deriving Repr, DecidableEq

/-- The order of records by level, origin and message, each as a text. -/
def LogRecord.le (a b : LogRecord) : Bool :=
  let la := a.level.label
  let lb := b.level.label
  let oa := a.origin.name
  let ob := b.origin.name
  la < lb || (la = lb && (oa < ob || (oa = ob && (a.message < b.message || a.message = b.message))))

end WebBaseline
