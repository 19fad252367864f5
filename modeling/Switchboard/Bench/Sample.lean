/-
  The types of the bench and sample values of them: a value of any type from a text or a number, and
  back to text.

  Bound routines on the bench work at any types.  They make their results from texts and numbers
  (`Ty.ofText`, `Ty.ofNumber`) and show their arguments as text (`Ty.render`).
-/
import Switchboard.Value.Binary64
import Switchboard.Value.Ty

namespace Switchboard

namespace Bench

/-- The types of the bench, apart from tuples, texts and the results of writing. -/
inductive Code where
  | bool
  | uint8
  | uint16
  | uint32
  | uint64
  /-- A size: a machine word of 64 bits. -/
  | size
  | int32
  | int64
  | double
  /-- Text that is fixed in the program. -/
  | literal
  /-- A 32-bit word, or nothing. -/
  | optional
  | bytes
  | texts
  /-- Nothing, or a text that tells what went wrong. -/
  | verdict
  /-- A type with a single value, known by an identity and a name that others may share. -/
  | nominal (identity : Nat) (name : String)
  deriving DecidableEq

namespace Code

/-- The values of a type. -/
@[reducible]
def Val : Code → Type
  | bool => Bool
  | uint8 => UInt8
  | uint16 => UInt16
  | uint32 => UInt32
  | uint64 => UInt64
  | size => UInt64
  | int32 => Int32
  | int64 => Int64
  | double => Binary64
  | literal => String
  | optional => Option UInt32
  | bytes => Bytes
  | texts => List String
  | verdict => Except String Unit
  | nominal _ _ => Unit

/-- The name under which a type is shown. -/
def name : Code → String
  | bool => "bool"
  | uint8 => "u8"
  | uint16 => "u16"
  | uint32 => "u32"
  | uint64 => "u64"
  | size => "usize"
  | int32 => "i32"
  | int64 => "i64"
  | double => "f64"
  | literal => "&str"
  | optional => "core::option::Option<u32>"
  | bytes => "alloc::vec::Vec<u8>"
  | texts => "alloc::vec::Vec<alloc::string::String>"
  | verdict => "core::result::Result<(), alloc::string::String>"
  | nominal _ name => name

/-- A value made from a number, of which words keep the low bits. -/
def ofNumber : (c : Code) → UInt64 → c.Val
  | bool, n => n != 0
  | uint8, n => n.toUInt8
  | uint16, n => n.toUInt16
  | uint32, n => n.toUInt32
  | uint64, n => n
  | size, n => n
  | int32, n => n.toUInt32.toInt32
  | int64, n => n.toInt64
  | double, n => .ofNat n.toNat
  | literal, n => n.toNat.repr
  | optional, n => if n = 0 then none else some n.toUInt32
  | bytes, n => bigEndian n
  | texts, n => [n.toNat.repr]
  | verdict, _ => .ok ()
  | nominal _ _, _ => ()

/-- A value made from a text; numbers are made from its length. -/
def ofText : (c : Code) → String → c.Val
  | bool, s => byteLength s % 2 == 1
  | literal, s => s
  | optional, s => some (byteLength s).toUInt32
  | bytes, s => utf8 s
  | texts, s => [s]
  | verdict, s => .error s
  | double, s => .ofNat (byteLength s)
  | c, s => c.ofNumber (byteLength s).toUInt64

/-- The text of a value. -/
def render : (c : Code) → c.Val → String
  | bool, b => if b then "true" else "false"
  | uint8, n => n.toNat.repr
  | uint16, n => n.toNat.repr
  | uint32, n => n.toNat.repr
  | uint64, n => n.toNat.repr
  | size, n => n.toNat.repr
  | int32, n => toString n.toInt
  | int64, n => toString n.toInt
  | double, x => x.text
  | literal, s => s
  | optional, none => "none"
  | optional, some n => s!"some:{n.toNat}"
  | bytes, b => hex b
  | texts, ss => "[" ++ String.intercalate "," ss ++ "]"
  | verdict, .ok () => "ok"
  | verdict, .error s => s!"err:{s}"
  | nominal _ _, _ => "twin"

/-- The number that a value is, as a 64-bit word; zero if it is none. -/
def number : (c : Code) → c.Val → UInt64
  | uint8, n => n.toUInt64
  | uint16, n => n.toUInt64
  | uint32, n => n.toUInt64
  | uint64, n => n
  | size, n => n
  | int32, n => n.toInt64.toUInt64
  | int64, n => n.toUInt64
  | _, _ => 0

end Code

/-- The types of the bench. -/
abbrev types : Universe where
  Code := Code
  Val := Code.Val
  name := Code.name

end Bench

namespace Ty

open Bench (types)

mutual

/-- A value made from a number; every member of a tuple is made from it. -/
def ofNumber : (t : Ty types) → UInt64 → t.Val
  | tuple ts, n => tupleOfNumber ts n
  | text, n => n.toNat.repr
  | written, _ => .ok ()
  | base c, n => c.ofNumber n

def tupleOfNumber : (ts : List (Ty types)) → UInt64 → Tuple ts
  | [], _ => ()
  | t :: ts, n => (t.ofNumber n, tupleOfNumber ts n)

end

mutual

/-- A value made from a text; every member of a tuple is made from it. -/
def ofText : (t : Ty types) → String → t.Val
  | tuple ts, s => tupleOfText ts s
  | text, s => s
  | written, _ => .ok ()
  | base c, s => c.ofText s

def tupleOfText : (ts : List (Ty types)) → String → Tuple ts
  | [], _ => ()
  | t :: ts, s => (t.ofText s, tupleOfText ts s)

end

mutual

/-- The text of a value: for a tuple those of its members, with commas between them. -/
def render : (t : Ty types) → t.Val → String
  | tuple ts, v => String.intercalate "," (texts ts v)
  | text, s => s
  | written, .ok () => "ok"
  | written, .error e => s!"err:{e.message}"
  | base c, v => c.render v

/-- The texts of the members of a tuple. -/
def texts : (ts : List (Ty types)) → Tuple ts → List String
  | [], _ => []
  | t :: ts, v => t.render v.1 :: texts ts v.2

end

/-- A value made from the result of a write: the result itself where the type has it, else made from
    its text. -/
def ofWritten : (t : Ty types) → Except StreamError Unit → t.Val
  | written, r => r
  | t, r => t.ofText (render written r)

/-- The number that a value is, as a 64-bit word: for a tuple that of its first member, and zero if
    there is none. -/
def number : (t : Ty types) → t.Val → UInt64
  | tuple [], _ => 0
  | tuple (t :: _), v => t.number v.1
  | text, _ => 0
  | written, _ => 0
  | base c, v => c.number v

end Ty

end Switchboard
