/-
  Lines of diagnostics: the text of an event as it is printed.
-/
import Switchboard.Event
import Switchboard.Log.Filter

namespace Switchboard

/-- The settings of diagnostics. -/
structure Log.Config where
  /-- The level that applies where the filter holds no directive. -/
  level : Log.Level := .warn
  /-- Whether lines name the target of their event. -/
  withTarget : Bool := false
  deriving DecidableEq

namespace Log.Config

/-- The text of the settings. -/
def detail (c : Log.Config) : String :=
  let shown := if c.withTarget then "true" else "false"
  s!"LoggingConfig \x7b level: Level({c.level.title}), with_target: {shown} \x7d"

end Log.Config

namespace Field

/-- A field's value as it is printed: names in quotation marks, all else bare. -/
def text : Field → String
  | name s => quoted s
  | shown s => s
  | flag b => if b then "true" else "false"
  | count n => n.repr

end Field

namespace Event

/-- The line of an event: its level, its target if wanted, its message and its fields. -/
def line (withTarget : Bool) (e : Event) : String :=
  let fields := e.fields.map fun f => s!" {f.1}={f.2.text}"
  e.level.name ++ (if withTarget then s!" {e.target}: " else " ") ++ e.message ++ String.join fields

end Event

/-- The lines of the events that pass a filter. -/
def Log.lines (c : Log.Config) (f : Log.Filter) (events : List Event) : List String :=
  (events.filter f.passes).map (·.line c.withTarget)

end Switchboard
