import WebBaseline.Feature

/-!
# Issues

An issue is one use of a feature at one place.  Its severity follows from the tier of the feature
and its message from the language, the name of the feature and the tier.
-/

namespace WebBaseline

inductive Language where
  | css
  | javascript
  | html
  deriving Repr, DecidableEq, Inhabited

namespace Language

def label : Language → String
  | css => "css"
  | javascript => "javascript"
  | html => "html"

def displayName : Language → String
  | css => "CSS"
  | javascript => "JavaScript"
  | html => "HTML"

def ofLabel? (s : String) : Option Language :=
  [css, javascript, html].find? fun l ↦ l.label = s

end Language

inductive Severity where
  | error
  | warning
  | info
  deriving Repr, DecidableEq, Inhabited

namespace Severity

def label : Severity → String
  | error => "error"
  | warning => "warning"
  | info => "info"

def ofLabel? (s : String) : Option Severity :=
  [error, warning, info].find? fun x ↦ x.label = s

def style : Severity → String
  | error => "bold red"
  | warning => "yellow"
  | info => "cyan"

end Severity

def Tier.severity : Tier → Severity
  | .limited => .error
  | .newly => .warning
  | .widely => .info

def Tier.style : Tier → String
  | .limited => "bold red"
  | .newly => "yellow"
  | .widely => "green"

structure Issue where
  language : Language
  feature : String
  featureId : String
  key : String
  tier : Tier
  severity : Severity
  message : String
  file : String
  line : Int
  column : Int
  property : Option String := none
  value : Option String := none
  suggestion : Option String := none
  autoFix : Option String := none
  deriving DecidableEq, Inhabited

namespace Issue

def suggestions : List (String × String) :=
  [("word-break-auto-phrase",
    "Use word-break: normal with overflow-wrap: break-word as a fallback."),
   ("subgrid",
    "Repeat the parent's track definition on the child grid for browsers without subgrid."),
   ("container-queries", "Provide media-query based styles before the @container rule."),
   ("has-selector",
    "Guard the rule with @supports selector(:has(*)) or toggle a class from script."),
   ("text-wrap-pretty", "Treat text-wrap: pretty as progressive enhancement only."),
   ("field-sizing", "Size the control with an explicit width or rows as a fallback."),
   ("anchor-positioning",
    "Position the element with a script-based library where anchor positioning is unsupported."),
   ("array-tosorted", "Copy then sort: [...array].sort(compareFn)."),
   ("async-clipboard",
    "Feature-detect navigator.clipboard and fall back to document.execCommand('copy')."),
   ("request-idle-callback", "Fall back to setTimeout when requestIdleCallback is missing."),
   ("web-share", "Feature-detect navigator.share and offer a copy-link fallback."),
   ("file-system-access", "Fall back to <input type=\"file\"> and download links for saving."),
   ("promise-withresolvers",
    "Create the promise manually and capture resolve/reject in the executor."),
   ("popover", "Ship a polyfill or toggle visibility from script where popover is missing."),
   ("fencedframe", "Use a sandboxed <iframe> instead."),
   ("customizable-select", "Keep the native <select> rendering as the fallback."),
   ("iframe-credentialless", "Use the sandbox attribute to restrict the iframe instead.")]

def autoFixes : List (String × String) :=
  [("word-break-auto-phrase", "word-break: normal; overflow-wrap: break-word;"),
   ("array-tosorted", "[...array].sort(compareFn)"),
   ("request-idle-callback", "(window.requestIdleCallback || ((cb) => setTimeout(cb, 1)))"),
   ("fencedframe", "<iframe sandbox=\"allow-scripts\"></iframe>")]

def suggestionFor (id : String) : Option String := suggestions.lookup id

def autoFixFor (id : String) : Option String := autoFixes.lookup id

def messageFor (language : Language) (feature : String) (tier : Tier) : String :=
  feature ++ " (" ++ language.displayName ++ ")" ++
    (match tier with
      | .limited => " is not Baseline. Limited browser support."
      | .newly => " is Baseline Newly available. Use with caution."
      | .widely => " is Baseline Widely available. Safe to use.")

/-- An empty text says as little as none. -/
def nonempty : Option String → Option String
  | some s => if s.isEmpty then none else some s
  | none => none

def create (language : Language) (f : Feature) (key file : String) (line column : Int)
    (property value : Option String) : Issue :=
  { language
    feature := f.name
    featureId := f.id
    key
    tier := f.tier
    severity := f.tier.severity
    message := messageFor language f.name f.tier
    file
    line
    column
    property := nonempty property
    value := nonempty value
    suggestion := suggestionFor f.id
    autoFix := autoFixFor f.id }

def location (i : Issue) : String :=
  i.file ++ ":" ++ toString i.line ++ ":" ++ toString i.column

/-- The order of reports: by file, then line, then column. -/
def le (a b : Issue) : Bool :=
  a.file < b.file ||
    (a.file = b.file &&
      (a.line < b.line || (a.line = b.line && a.column ≤ b.column)))

def toDatum (i : Issue) : Datum :=
  .record
    [(.text "type", .text i.language.label),
     (.text "feature", .text i.feature),
     (.text "featureId", .text i.featureId),
     (.text "key", .text i.key),
     (.text "property", Feature.optionalText i.property),
     (.text "value", Feature.optionalText i.value),
     (.text "baseline", .text i.tier.label),
     (.text "severity", .text i.severity.label),
     (.text "message", .text i.message),
     (.text "suggestion", Feature.optionalText i.suggestion),
     (.text "autoFix", Feature.optionalText i.autoFix),
     (.text "file", .text i.file),
     (.text "line", .int i.line),
     (.text "column", .int i.column)]

end Issue

end WebBaseline
