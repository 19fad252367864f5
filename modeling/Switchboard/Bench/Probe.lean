/-
  Probes: instances that count and take notes.
-/
import Switchboard.Bench.Behaviour
import Switchboard.Bench.Catalog
import Switchboard.Greeting
import Switchboard.Session

namespace Switchboard.Bench

/-- The data of a probe: its serial number, a wrapping count, and the texts written to it. -/
structure Probe where
  serial : Nat
  hits : UInt64 := 0
  log : List String := []

namespace Probe

variable {κ : Type}

/-- Add to the count and give it. -/
def add (n : UInt64) : Routine types κ Probe UInt64 :=
  .get fun p => .set { p with hits := p.hits + n } (return p.hits + n)

/-- Take a note. -/
def write (s : String) : Routine types κ Probe (Except StreamError Unit) :=
  .get fun p => .set { p with log := p.log ++ [s] } (return .ok ())

instance : Host κ Probe where
  serial p := p.serial
  add := add
  read := .get fun p => return s!"probe{p.serial}"
  write := write

end Probe

/-- How deeply calls may be nested on the bench.  Forwarded calls that do not come back to where they
    were pass each slot of an instance at most once, and there are fewer slots than that. -/
def depth : Nat := 64

/-- A session of probes with the given serial numbers. -/
def probes {n : Nat} (serials : Vector Nat n) : Session types Key Probe n :=
  .start Key.contract (serials.map fun serial => { serial })

end Switchboard.Bench
