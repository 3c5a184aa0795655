import ApiDoc.Text.Natural

/-!
# Levels of log messages
-/

namespace ApiDoc

/-- How much is logged; an event has one of the levels other than `off`. -/
inductive LogLevel
  | off
  | error
  | warn
  | info
  | debug
  | trace
deriving DecidableEq, Inhabited

namespace LogLevel

def all : List LogLevel := [off, error, warn, info, debug, trace]

def rank : LogLevel → Nat
  | .off => 0
  | .error => 1
  | .warn => 2
  | .info => 3
  | .debug => 4
  | .trace => 5

def name : LogLevel → String
  | .off => "off"
  | .error => "error"
  | .warn => "warn"
  | .info => "info"
  | .debug => "debug"
  | .trace => "trace"

/-- The level in a log line. -/
def label (l : LogLevel) : String := String.ofList (l.name.toList.map Char.toUpper)

/-- Whether events of a level are logged at another one. -/
def admits (l event : LogLevel) : Bool := event.rank ≤ l.rank

/-- The level a text names, by its number or by its name in letters of any case; the empty name is
that of errors. -/
def parse? (cs : List Char) : Option LogLevel :=
  if cs.isEmpty then some .error
  else
    match Text.natural? cs with
    | some n => all.find? fun l => l.rank == n
    | none => all.find? fun l => l.name.toList == cs.map Char.toLower

end LogLevel

end ApiDoc
