/-
  Filters: lists of directives.

  A filter is written as directives with commas between them.  Of the directives that apply to an
  event the one that outranks the others decides, and of two equal ones the later.

  * `Filter.parse` reads a filter, skipping what cannot be read with a notice for each;
  * `Filter.passes` decides about an event.
-/
import Switchboard.Event
import Switchboard.Log.Directive

namespace Switchboard.Log

/-- A list of directives. -/
abbrev Filter := List Directive

namespace Filter

/-- Read a filter: the directives that can be read, and a notice for each of the others. -/
def parse (s : String) : Filter × List String :=
  let results := ((pieces ',' s.toList).filter (!·.isEmpty)).map fun p => (p, Directive.parse p)
  (results.filterMap fun r => r.2.toOption,
    results.filterMap fun r => match r.2 with
      | .ok _ => none
      | .error e => some s!"ignoring `{String.ofList r.1}`: {e.message}")

/-- The directive that decides about events of a target with the given fields. -/
def deciding (f : Filter) (target : String) (fields : List String) : Option Directive :=
  (f.filter (·.applies target fields)).foldl (fun best d => match best with
    | none => some d
    | some b => some (if b.outranks d then b else d)) none

/-- Whether an event passes; where no directive applies it does not. -/
def passes (f : Filter) (e : Event) : Bool :=
  match f.deciding e.target ("message" :: e.fields.map (·.1)) with
  | some d => d.threshold.passes e.level
  | none => false

/-- The filter, or everything up to a level if the filter is empty. -/
def orLevel (f : Filter) (level : Level) : Filter :=
  if f.isEmpty then [{ threshold := .upTo level }] else f

end Filter

end Switchboard.Log
