/-
  Events: what tables, consoles and greetings report while they work.

  Each event has a level, the place it comes from (`Event.target`), a message and a list of
  fields (`Event.fields`).
-/
import Switchboard.Capabilities
import Switchboard.Failure
import Switchboard.Log.Level

namespace Switchboard

/-- The value of a field of an event. -/
inductive Field where
  /-- A name, shown in quotation marks. -/
  | name (s : String)
  /-- The text of a value, shown as it is. -/
  | shown (s : String)
  | flag (b : Bool)
  | count (n : Nat)
  deriving DecidableEq

/-- What happened. -/
inductive Event where
  /-- A binding was accepted; `replaced` tells whether the slot was filled before. -/
  | bound (contract operation : String) (replaced : Bool)
  /-- A call was resolved and its routine is about to run. -/
  | invoking (contract operation : String)
  /-- A call was refused. -/
  | rejected (contract operation : String) (failure : Failure)
  /-- A console wrote a line of that many bytes, the newline included. -/
  | wroteLine (bytes : Nat)
  /-- A console was wired and has these capabilities. -/
  | wired (capabilities : Capabilities)
  /-- A greeting of that many bytes was written. -/
  | greeted (length : Nat)
  /-- The program's greeting failed. -/
  | programFailed (failure : Failure)
  /-- A child process's greeting failed. -/
  | childFailed (failure : Failure)
  deriving DecidableEq

namespace Event

def level : Event → Log.Level
  | bound _ _ _ | rejected _ _ _ | wired _ => .debug
  | invoking _ _ | wroteLine _ => .trace
  | greeted _ => .info
  | programFailed _ => .error
  | childFailed _ => .warn

/-- The place an event comes from. -/
def target : Event → String
  | bound _ _ _ | invoking _ _ | rejected _ _ _ => "captable_core::table"
  | wroteLine _ => "captable_std::console"
  | wired _ | greeted _ => "captable::driver"
  | programFailed _ => "captable"
  | childFailed _ => "captable::child"

def message : Event → String
  | bound _ _ _ => "bound capability"
  | invoking _ _ => "invoking capability"
  | rejected _ _ _ => "invocation rejected"
  | wroteLine _ => "console wrote line"
  | wired _ => "console wired"
  | greeted _ => "driver wrote line"
  | programFailed _ => "driver failed"
  | childFailed _ => "child failed"

/-- The fields of an event in order. -/
def fields : Event → List (String × Field)
  | bound c o replaced => [("contract", .name c), ("operation", .name o), ("replaced", .flag replaced)]
  | invoking c o => [("contract", .name c), ("operation", .name o)]
  | rejected c o e => [("contract", .name c), ("operation", .name o), ("error", .shown e.message)]
  | wroteLine n => [("bytes", .count n)]
  | wired caps => [("capabilities", .shown caps.detail)]
  | greeted n => [("len", .count n)]
  | programFailed e | childFailed e => [("error", .shown e.message)]

end Event

end Switchboard
