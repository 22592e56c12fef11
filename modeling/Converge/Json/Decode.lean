import Converge.Json.Document
import Converge.NameMap
import Converge.Text.Quoted
import Converge.Timestamp.Text

/-! Taking documents apart. What is wrong with a document is reported in the order of the text: a
value of the wrong kind is reported before its inside is looked at, and a fault in the text where it
is met. -/
namespace Converge.Json

inductive DecodeError where
  | broken (defect : Defect)
  | invalidType (found expected : String)
  | outOfRange (value : Int) (expected : String)
  | invalidLength (length : Nat) (expected : String)
  | missingField (name : String)
  | unknownVariant (name : String) (variants : List String)
  | duplicateField (name : String)
  | invalidTime (fault : Timestamp.Fault)
deriving DecidableEq

namespace DecodeError

def category : DecodeError → String
  | .broken defect => if defect.isEnd then "eof" else "syntax"
  | _ => "data"

def alternatives : List String → String
  | [] => "there are no variants"
  | [one] => s!"expected \x60{one}\x60"
  | [one, two] => s!"expected \x60{one}\x60 or \x60{two}\x60"
  | many => "expected one of " ++ String.intercalate ", " (many.map fun name => s!"\x60{name}\x60")

def message : DecodeError → String
  | .broken defect => defect.message
  | .invalidType found expected => s!"invalid type: {found}, expected {expected}"
  | .outOfRange value expected => s!"invalid value: integer \x60{value}\x60, expected {expected}"
  | .invalidLength length expected => s!"invalid length {length}, expected {expected}"
  | .missingField name => s!"missing field \x60{name}\x60"
  | .unknownVariant name variants => s!"unknown variant \x60{name}\x60, {alternatives variants}"
  | .duplicateField name => s!"duplicate field \x60{name}\x60"
  | .invalidTime fault => fault.message

def message? : DecodeError → Option String
  | .broken _ => none
  | .invalidTime _ => none
  | error => some error.message

end DecodeError

abbrev Decoded (α : Type) := Except DecodeError α

namespace Document

def refuse {α : Type} (expected : String) (document : Document) : Decoded α :=
  let wrong (found : String) : Decoded α := .error (.invalidType found expected)
  match document with
  | .null => wrong "null"
  | .bool value => wrong s!"boolean \x60{value}\x60"
  | .number (.integer value) => wrong s!"integer \x60{value}\x60"
  | .number (.decimal value) => wrong s!"floating point \x60{Number.decimalText value}\x60"
  | .string value => wrong s!"string {Text.quoted value}"
  | .array _ => wrong "sequence"
  | .object _ => wrong "map"
  | .missing defect => .error (.broken defect)
  | .spoilt _ wanted _ => .error (.broken wanted)

/-- Passes over a value that nobody wants. -/
def skip (document : Document) : Decoded Unit :=
  match document.fault? with
  | none => .ok ()
  | some defect => .error (.broken defect)

def asString : Document → Decoded String
  | .string value => .ok value
  | document => document.refuse "a string"

def asBool : Document → Decoded Bool
  | .bool value => .ok value
  | document => document.refuse "a boolean"

def asNat (limit : Nat) (expected : String) : Document → Decoded Nat
  | .number (.integer value) =>
    if 0 ≤ value ∧ value < limit then .ok value.toNat else .error (.outOfRange value expected)
  | document => document.refuse expected

def asTime (document : Document) : Decoded Timestamp :=
  match document with
  | .string text => (Timestamp.read text).mapError .invalidTime
  | _ => document.refuse "an RFC 3339 formatted date and time string"

def asOption {α : Type} (decode : Document → Decoded α) : Document → Decoded (Option α)
  | .null => .ok none
  | .spoilt .null wanted _ => .error (.broken wanted)
  | document => (decode document).map some

end Document

namespace Items

def decodeAll {α : Type} (decode : Document → Decoded α) : Items → Decoded (List α)
  | .closed => .ok []
  | .broken defect => .error (.broken defect)
  | .item value rest => do
    let first ← decode value
    let others ← rest.decodeAll decode
    pure (first :: others)

end Items

namespace Members

def name (key : Document) : Decoded String :=
  match key with
  | .string name => .ok name
  | .spoilt .string wanted _ => .error (.broken wanted)
  | _ => .error (.broken .keyNotString)

def decodeAll {α : Type} (decode : Document → Decoded α) : Members → Decoded (List (String × α))
  | .closed => .ok []
  | .broken defect => .error (.broken defect)
  | .member key value rest => do
    let name ← name key
    let first ← decode value
    let others ← rest.decodeAll decode
    pure ((name, first) :: others)

end Members

namespace Document

def asList {α : Type} (decode : Document → Decoded α) : Document → Decoded (List α)
  | .array items => items.decodeAll decode
  | document => document.refuse "a sequence"

/-- Of two values for one name the later one wins. -/
def asNameMap {α : Type} (decode : Document → Decoded α) : Document → Decoded (NameMap α)
  | .object members => (members.decodeAll decode).map NameMap.ofList
  | document => document.refuse "a map"

def closing : Members → Decoded Unit
  | .closed => .ok ()
  | .broken .endOfObject => .error (.broken .endOfObject)
  | _ => .error (.broken .unclosedName)

def choose {α : Type} (variants : List (String × α)) (name : String) : Decoded α :=
  match variants.lookup name with
  | some value => .ok value
  | none => .error (.unknownVariant name (variants.map Prod.fst))

/-- One of a choice of names, either as a string or as the only member of an object, with null for
its value. -/
def asVariant {α : Type} (variants : List (String × α)) : Document → Decoded α
  | .string name => choose variants name
  | .object (.member key value rest) => do
    let chosen ← choose variants (← Members.name key)
    match value with
      | .null => pure ()
      | value => value.refuse "unit"
    closing rest
    pure chosen
  | .object .closed => .error (.broken .expectedValue)
  | .object (.broken defect) => .error (.broken defect)
  | .missing defect => .error (.broken defect)
  | .spoilt .string wanted _ => .error (.broken wanted)
  | _ => .error (.broken .expectedValue)

end Document

end Converge.Json
