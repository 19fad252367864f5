/-
  A capability set that is changed and asked step by step.
-/
import Switchboard.Capabilities

namespace Switchboard.Bench

/-- What is done with a capability set. -/
inductive FlagStep where
  | insert (c : Capabilities)
  | remove (c : Capabilities)
  | toggle (c : Capabilities)
  | set (c : Capabilities) (present : Bool)
  | intersection (c : Capabilities)
  | complement
  | clear
  | all
  | truncate
  /-- Put the set together from its parts. -/
  | collect
  /-- Become the set of given bits, if all of them have a name. -/
  | fromBits (bits : UInt8)
  /-- Become the capability of a name. -/
  | fromName (name : String)
  | contains (c : Capabilities)
  | intersects (c : Capabilities)
  | equals (c : Capabilities)
  | isEmpty
  | isAll
  | names
  | parts

/-- What a step with a capability set gives. -/
inductive FlagReply where
  | nothing
  | flag (b : Bool)
  | set (c : Capabilities)
  | names (ns : List String)
  | parts (cs : List Capabilities)

/-- One step: the reply, and the set after it. -/
def FlagStep.apply (a : Capabilities) : FlagStep → FlagReply × Capabilities
  | insert c => (.nothing, a.union c)
  | remove c => (.nothing, a.difference c)
  | toggle c => (.nothing, a.symmetricDifference c)
  | set c present => (.nothing, a.set c present)
  | intersection c => (.nothing, a.intersection c)
  | complement => (.nothing, a.complement)
  | clear => (.nothing, .empty)
  | all => (.nothing, .all)
  | truncate => (.nothing, a.truncate)
  | collect => (.nothing, .ofParts a.parts)
  | fromBits bits =>
    match Capabilities.ofBits? bits with
    | some c => (.set c, c)
    | none => (.nothing, a)
  | fromName name =>
    match Capabilities.ofName? name with
    | some c => (.set c, c)
    | none => (.nothing, a)
  | contains c => (.flag (a.contains c), a)
  | intersects c => (.flag (a.intersects c), a)
  | equals c => (.flag (a == c), a)
  | isEmpty => (.flag a.isEmpty, a)
  | isAll => (.flag a.isAll, a)
  | names => (.names a.names, a)
  | parts => (.parts a.parts, a)

/-- A sequence of steps: the reply to each, with the set after it. -/
def FlagStep.run (a : Capabilities) : List FlagStep → List (FlagReply × Capabilities)
  | [] => []
  | st :: rest =>
    let r := st.apply a
    r :: run r.2 rest

end Switchboard.Bench
