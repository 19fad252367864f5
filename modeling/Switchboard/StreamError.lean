/-
  Failures of an output stream.

  A stream fails with an error of some kind.  The error carries a message of its own, or one that is
  fixed in the program, or only its kind, or it comes from the operating system with a code.  All four
  forms have a kind (`StreamError.kind`), a message (`StreamError.message`) and a detailed text
  (`StreamError.detail`).

  Which kinds there are and which errors a system has is left open: a kind is known by its name and
  description, and a system's error by its code, text and kind.  Some of both have a name here.
-/
import Switchboard.Text.Quoted

namespace Switchboard

/-- A kind of stream failure: its name, and the message of an error of which only the kind is
    known. -/
structure ErrorKind where
  name : String
  description : String
  deriving DecidableEq

namespace ErrorKind

def notFound : ErrorKind := ⟨"NotFound", "entity not found"⟩
def permissionDenied : ErrorKind := ⟨"PermissionDenied", "permission denied"⟩
def brokenPipe : ErrorKind := ⟨"BrokenPipe", "broken pipe"⟩
def wouldBlock : ErrorKind := ⟨"WouldBlock", "operation would block"⟩
def invalidInput : ErrorKind := ⟨"InvalidInput", "invalid input parameter"⟩
def timedOut : ErrorKind := ⟨"TimedOut", "timed out"⟩
def writeZero : ErrorKind := ⟨"WriteZero", "write zero"⟩
/-- Writing that was interrupted can be tried again. -/
def interrupted : ErrorKind := ⟨"Interrupted", "operation interrupted"⟩
def unexpectedEof : ErrorKind := ⟨"UnexpectedEof", "unexpected end of file"⟩
def storageFull : ErrorKind := ⟨"StorageFull", "no storage space"⟩
def other : ErrorKind := ⟨"Other", "other error"⟩

/-- The kinds that have a name here. -/
def known : List ErrorKind :=
  [notFound, permissionDenied, brokenPipe, wouldBlock, invalidInput, timedOut, writeZero,
    interrupted, unexpectedEof, storageFull, other]

/-- The kind of a given name. -/
def ofName? (s : String) : Option ErrorKind :=
  known.find? (·.name == s)

end ErrorKind

/-- An error of the operating system: its code, the system's text for it, and its kind. -/
structure SystemError where
  code : Int
  text : String
  kind : ErrorKind
  deriving DecidableEq

namespace SystemError

def noSuchFile : SystemError := ⟨2, "No such file or directory", .notFound⟩
def interruptedCall : SystemError := ⟨4, "Interrupted system call", .interrupted⟩
def tryAgain : SystemError := ⟨11, "Resource temporarily unavailable", .wouldBlock⟩
def accessDenied : SystemError := ⟨13, "Permission denied", .permissionDenied⟩
def invalidArgument : SystemError := ⟨22, "Invalid argument", .invalidInput⟩
def deviceFull : SystemError := ⟨28, "No space left on device", .storageFull⟩
def brokenPipe : SystemError := ⟨32, "Broken pipe", .brokenPipe⟩
def connectionTimedOut : SystemError := ⟨110, "Connection timed out", .timedOut⟩

/-- The system errors that have a name here. -/
def known : List SystemError :=
  [noSuchFile, interruptedCall, tryAgain, accessDenied, invalidArgument, deviceFull, brokenPipe,
    connectionTimedOut]

/-- The system error of a given code. -/
def ofCode? (n : Int) : Option SystemError :=
  known.find? (·.code == n)

end SystemError

/-- A failure of an output stream. -/
inductive StreamError where
  /-- An error with a message of its own. -/
  | custom (kind : ErrorKind) (message : String)
  /-- An error with a message that is fixed in the program. -/
  | fixed (kind : ErrorKind) (message : String)
  /-- An error of which only the kind is known. -/
  | simple (kind : ErrorKind)
  /-- An error of the operating system. -/
  | system (error : SystemError)
  deriving DecidableEq

namespace StreamError

/-- The kind of an error, whatever its form. -/
def kind : StreamError → ErrorKind
  | custom k _ => k
  | fixed k _ => k
  | simple k => k
  | system e => e.kind

/-- The message of an error. -/
def message : StreamError → String
  | custom _ m => m
  | fixed _ m => m
  | simple k => k.description
  | system e => s!"{e.text} (os error {e.code})"

/-- The detailed text of an error, which shows its form. -/
def detail : StreamError → String
  | custom k m => s!"Custom \x7b kind: {k.name}, error: {quoted m} \x7d"
  | fixed k m => s!"Error \x7b kind: {k.name}, message: {quoted m} \x7d"
  | simple k => s!"Kind({k.name})"
  | system e =>
    s!"Os \x7b code: {e.code}, kind: {e.kind.name}, message: {quoted e.text} \x7d"

/-- A writer that takes no byte of a non-empty sequence cannot finish it. -/
def wroteNothing : StreamError :=
  fixed .writeZero "failed to write whole buffer"

/-- The error of a writer whose output was closed. -/
def outputClosed : StreamError :=
  custom .brokenPipe "output closed"

end StreamError

end Switchboard
