/-
  The contracts of the bench.

  Eight contracts are declared operation by operation, the standard ones among them.  Two are made
  by hand: `Manual` lists an operation without signature, and `Shifty` lists a name twice, knows a
  signature for a name that it does not list, and has its signatures changed during a session.

  * `Key.contract` is the contract of a key as a session begins;
  * `Key.generated?` finds a declared operation by its qualified name.
-/
import Switchboard.Bench.Sample
import Switchboard.Standard

namespace Switchboard.Bench

/-- The keys of the bench's contracts. -/
inductive Key where
  | counter
  | tally
  | shape
  | greeter
  | nothing
  | wide
  | standard (s : Standard)
  | manual
  | shifty
  deriving DecidableEq

instance : HasStandard Key := ⟨.standard⟩

namespace Key

/-- Every key. -/
def all : List Key :=
  [counter, tally, shape, greeter, nothing, wide, standard .readable, standard .writable, manual,
    shifty]

/-- The name of a contract. -/
def name : Key → String
  | counter => "Counter"
  | tally => "Tally"
  | shape => "Shape"
  | greeter => "Greeter"
  | nothing => "Nothing"
  | wide => "Wide"
  | standard s => s.name
  | manual => "Manual"
  | shifty => "Shifty"

/-- The key of a given name. -/
def ofName? (s : String) : Option Key :=
  all.find? (·.name == s)

/-- The operations that a contract declares; those made by hand declare none. -/
def declarations : Key → List (Declaration types)
  | counter => [⟨"get", [], .base .uint32⟩, ⟨"add", [.base .uint32], .base .uint32⟩]
  | tally =>
    [⟨"increment", [.base .size], .base .size⟩, ⟨"current", [], .base .size⟩, ⟨"reset", [], .unit⟩]
  | shape => [⟨"area", [], .base .double⟩, ⟨"scale", [.base .double, .base .bool], .unit⟩]
  | greeter => [⟨"greet", [.text], .text⟩]
  | nothing => []
  | wide =>
    [⟨"a", [], .unit⟩, ⟨"b", [.base .uint8], .base .uint8⟩, ⟨"ab", [], .unit⟩,
      ⟨"A", [], .base .bool⟩, ⟨"r#type", [], .base .uint32⟩,
      ⟨"mix", [.base .uint8, .base .uint16, .base .int32, .base .bool], .text⟩,
      ⟨"texts", [.base .texts], .base .optional⟩, ⟨"label", [.base .literal], .base .verdict⟩]
  | standard s => s.declarations
  | manual => []
  | shifty => []

/-- A contract made by hand from a list of names and a list of signatures. -/
def byHand (name : String) (operations : List String)
    (signatures : List (String × Signature types)) : Contract types :=
  ⟨name, operations, fun o => signatures.lookup o⟩

/-- The contract of a key as a session begins. -/
def contract : Key → Contract types
  | manual => byHand "Manual" ["ping", "pong"] [("ping", .of (.tuple []) (.base .bool))]
  | shifty =>
    byHand "Shifty" ["alpha", "beta", "alpha", "", "ünï"]
      [("alpha", .of (.tuple []) (.base .uint32)),
        ("beta", .of (.tuple [.base .uint32]) (.base .uint32)), ("", .of (.tuple []) .text),
        ("ünï", .of (.tuple []) (.base .bool)), ("ghost", .of (.tuple []) (.base .uint32))]
  | k => .ofDeclarations k.name k.declarations

/-- The name of the function of a declared operation, without the mark that lets a reserved word be
    a name. -/
def functionName (k : Key) (d : Declaration types) : String :=
  let plain := match d.name.toList with
    | 'r' :: '#' :: rest => String.ofList rest
    | _ => d.name
  s!"{k.name}::{plain}"

/-- The declared operation of a qualified function name. -/
def generated? (s : String) : Option (Key × Declaration types) :=
  (all.flatMap fun k => k.declarations.map fun d => (k, d)).find? fun f => f.1.functionName f.2 == s

end Key

end Switchboard.Bench
