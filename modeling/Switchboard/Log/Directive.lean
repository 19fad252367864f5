/-
  Directives: which events are printed, up to which level.

  A directive names a target, or a span of work with a field, or both, and a level:

      level      target      target=level      target[span]=level      target[span{field=value}]=level

  Every part may be left out; without a level, everything down to the most detailed level is meant.
  A directive with a target applies to the events whose target begins with it, and one with a field
  to the events that have a field of that name.  This library opens no spans, so a directive that
  names a span or the value of a field applies to no event (`Directive.selectsEvents`).

  * `Directive.parse` reads a directive or tells why it cannot be read;
  * `Directive.applies` and `Directive.outranks` tell what it covers and which of two decides.
-/
import Switchboard.Log.FieldValue
import Switchboard.Log.Level
import Switchboard.Text.Split

namespace Switchboard.Log

/-! ## Levels -/

/-- The value of a string of decimal digits, of which there is at least one and which a plus sign may
    precede. -/
def decimal? (s : List Char) : Option Nat :=
  let digits := match s with
    | '+' :: rest => rest
    | _ => s
  if digits.isEmpty || digits.any (!·.isDigit) then none
  else some (digits.foldl (fun n c => 10 * n + (c.toNat - '0'.toNat)) 0)

/-- The thresholds in order, each with its name. -/
def thresholds : List (String × Threshold) :=
  [("off", .off), ("error", .upTo .error), ("warn", .upTo .warn), ("info", .upTo .info),
    ("debug", .upTo .debug), ("trace", .upTo .trace)]

/-- A threshold by its number or by its name in any case. -/
def Threshold.parse? (s : List Char) : Option Threshold :=
  match (decimal? s).bind fun n => thresholds[n]? with
  | some t => some t.2
  | none => thresholds.lookup (String.ofList (s.map Char.toLower))

/-! ## Directives -/

/-- A field by its name, and the value that it should have. -/
structure FieldTest where
  name : String
  value : Option String
  deriving DecidableEq

/-- What a directive is about, and the level up to which it lets through. -/
structure Directive where
  target : Option String := none
  span : Option String := none
  field : Option FieldTest := none
  threshold : Threshold := .upTo .trace
  deriving DecidableEq

/-- Why a directive cannot be read. -/
inductive DirectiveError where
  /-- It does not have the form of a directive. -/
  | malformed
  /-- What stands in the place of the level is none. -/
  | badLevel
  /-- The value of a field cannot be used. -/
  | badField (reason : Pattern.Fault)
  deriving DecidableEq

/-- The text of a reason. -/
def DirectiveError.message : DirectiveError → String
  | malformed => "invalid filter directive"
  | badLevel =>
    "error parsing level filter: expected one of \"off\", \"error\", \"warn\", \"info\", " ++
      "\"debug\", \"trace\", or a number 0-5"
  | badField reason => "invalid field filter: " ++ reason.message

/-! ## Reading -/

/-- The characters with which a target or a level may begin. -/
def startsName (c : Char) : Bool :=
  isAlphanumeric c || ['-', ':', '_'].contains c

/-- A field as it is written, with or without a value; what follows a second equals sign is passed
    over. -/
def FieldTest.parse (s : List Char) : Except DirectiveError FieldTest :=
  match pieces '=' s with
  | [] | [[]] => .error .malformed
  | [name] => .ok ⟨String.ofList name, none⟩
  | name :: value :: _ =>
    match checkValue value with
    | .ok () => .ok ⟨String.ofList name, some (String.ofList value)⟩
    | .error reason => .error (.badField reason)

namespace Directive

/-- Finish a directive with a level; an empty one leaves the threshold as it is. -/
def withLevel (d : Directive) (level : List Char) : Except DirectiveError Directive :=
  if level.isEmpty then .ok d
  else match Threshold.parse? level with
    | some threshold => .ok { d with threshold }
    | none => .error .badLevel

/-- What follows the closing bracket at `place`: nothing, or a level. -/
def parseEnd (given : List Char) (d : Directive) (place : Nat) :
    List Char → Except DirectiveError Directive
  | [] => .ok d
  | '=' :: _ => d.withLevel (dropBytes (place + 1) given)
  | _ => .error .malformed

/-- What follows the opening brace before `place`: a field, and the two marks that close it. -/
def parseField (given : List Char) (d : Directive) (place : Nat) (rest : List Char) :
    Except DirectiveError Directive :=
  let field := rest.takeWhile (· ≠ '\x7d')
  let fieldEnd := place + byteCount field
  match rest.drop field.length with
  | [] => .error .malformed
  | _ :: rest =>
    match FieldTest.parse (sliceBytes place fieldEnd given), rest with
    | .error e, _ => .error e
    | .ok test, ']' :: rest => parseEnd given { d with field := some test } (fieldEnd + 2) rest
    | .ok _, _ => .error .malformed

/-- What follows the opening bracket before `place`: the name of a span, a field in braces, or
    both. -/
def parseSpan (given : List Char) (d : Directive) (place : Nat) (rest : List Char) :
    Except DirectiveError Directive :=
  let name := rest.takeWhile fun c => c ≠ ']' ∧ c ≠ '\x7b'
  let nameEnd := place + byteCount name
  let span := String.ofList (sliceBytes place nameEnd given)
  match rest.drop name.length with
  | [] => .error .malformed
  | ']' :: rest => parseEnd given { d with span := some span } (nameEnd + 1) rest
  | _ :: rest =>
    parseField given { d with span := if name.isEmpty then none else some span } (nameEnd + 1) rest

/-- Read a directive.  Blanks around it are passed over in looking for its marks, whose places are
    counted from its first character on; the texts between them are cut at the same places from the
    directive as it was given. -/
def parse (given : List Char) : Except DirectiveError Directive :=
  match trim given with
  | [] => .error .malformed
  | c :: rest =>
    if c = '[' then parseSpan given {} 1 rest
    else if !startsName c then .error .malformed
    else
      let name := (c :: rest).takeWhile fun c => c ≠ '=' ∧ c ≠ '['
      let nameEnd := byteCount name
      let target := some (String.ofList (takeBytes nameEnd given))
      match (c :: rest).drop name.length with
      | [] =>
        match Threshold.parse? given with
        | some threshold => .ok { threshold }
        | none => .ok { target := some (String.ofList given) }
      | '=' :: _ => withLevel { target } (dropBytes (nameEnd + 1) given)
      | _ :: rest => parseSpan given { target } (nameEnd + 1) rest

/-! ## Deciding -/

/-- Whether events can be covered at all: not by the name of a span, nor by the value of a field. -/
def selectsEvents (d : Directive) : Bool :=
  d.span.isNone && d.field.all (·.value.isNone)

/-- Whether a directive applies to an event of a given target with the given fields. -/
def applies (d : Directive) (target : String) (fields : List String) : Bool :=
  d.selectsEvents && d.target.all (·.toList.isPrefixOf target.toList) &&
    d.field.all (fields.contains ·.name)

/-- How much of a target a directive names; one that names nothing comes below all others. -/
def reach (d : Directive) : Nat :=
  match d.target with
  | none => 0
  | some t => byteLength t + 1

/-- The field that a directive names; the empty text, which comes below all names, if it names
    none. -/
def fieldName (d : Directive) : String :=
  match d.field with
  | none => ""
  | some f => f.name

/-- Whether `d` decides rather than `e` where both apply: the longer target does, and for one target
    the later field in alphabetical order. -/
def outranks (d e : Directive) : Bool :=
  e.reach < d.reach || (e.reach == d.reach && decide (e.fieldName < d.fieldName))

end Directive

end Switchboard.Log
