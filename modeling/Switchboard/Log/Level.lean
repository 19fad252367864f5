/-
  Levels of diagnostics, from the gravest to the most detailed, and thresholds on them.
-/
namespace Switchboard.Log

/-- How grave an event is. -/
inductive Level where
  | error
  | warn
  | info
  | debug
  | trace
  deriving DecidableEq

namespace Level

/-- Every level, the gravest first. -/
def all : List Level := [error, warn, info, debug, trace]

/-- The place of a level, the gravest first. -/
def rank : Level → Nat
  | error => 1
  | warn => 2
  | info => 3
  | debug => 4
  | trace => 5

/-- The name of a level. -/
def name : Level → String
  | error => "ERROR"
  | warn => "WARN"
  | info => "INFO"
  | debug => "DEBUG"
  | trace => "TRACE"

/-- The name of a level with only its first letter in upper case. -/
def title : Level → String
  | error => "Error"
  | warn => "Warn"
  | info => "Info"
  | debug => "Debug"
  | trace => "Trace"

/-- The level of a given name. -/
def ofName? (s : String) : Option Level :=
  all.find? (·.name == s)

end Level

/-- The most detailed level that passes, or none at all. -/
inductive Threshold where
  | off
  | upTo (level : Level)
  deriving DecidableEq

namespace Threshold

/-- Whether events of a level pass. -/
def passes : Threshold → Level → Bool
  | off, _ => false
  | upTo most, level => level.rank ≤ most.rank

end Threshold

end Switchboard.Log
