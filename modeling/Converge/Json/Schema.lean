import Converge.Json.Decode
import Converge.Json.Reader

/-! Records in JSON. A schema says once, for reading and for writing, which fields a record has. A
record is written as an object; it is read from an object, in any order and with unknown fields in
between, or from an array of its fields in the order of the schema. -/
namespace Converge.Json

structure Codec (α : Type) where
  read : Document → Decoded α
  write : α → Document

namespace Codec

variable {α : Type}

def string : Codec String := ⟨Document.asString, .string⟩

def bool : Codec Bool := ⟨Document.asBool, .bool⟩

def natural (limit : Nat) (expected : String) : Codec Nat :=
  ⟨Document.asNat limit expected, fun value => Document.integer value⟩

def time : Codec Timestamp := ⟨Document.asTime, fun instant => .string instant.text⟩

def option (codec : Codec α) : Codec (Option α) where
  read := Document.asOption codec.read
  write
    | some value => codec.write value
    | none => .null

def list (codec : Codec α) : Codec (List α) where
  read := Document.asList codec.read
  write values := Document.list (values.map codec.write)

def nameMap (codec : Codec α) : Codec (NameMap α) where
  read := Document.asNameMap codec.read
  write map := Document.record (map.entries.map fun entry => (entry.1, codec.write entry.2))

def variant [DecidableEq α] (variants : List (String × α)) : Codec α where
  read := Document.asVariant variants
  write value := match variants.find? fun entry => entry.2 = value with
    | some entry => .string entry.1
    | none => .null

def via {β : Type} (codec : Codec α) (wrap : α → β) (unwrap : β → α) : Codec β where
  read document := (codec.read document).map wrap
  write value := codec.write (unwrap value)

end Codec

structure Field (σ : Type) where
  name : String
  isRequired : Bool
  /-- An array may end before the field. -/
  isDroppable : Bool
  read : Document → σ → Decoded σ
  /-- Nothing is written for a field that is left out. -/
  write : σ → Option Document

namespace Field

variable {σ α : Type}

def required (name : String) (codec : Codec α) (get : σ → α) (set : α → σ → σ) : Field σ where
  name
  isRequired := true
  isDroppable := false
  read document record := (codec.read document).map fun value => set value record
  write record := some (codec.write (get record))

/-- A list or a map that is empty if the field is missing, and is written in any case. -/
def defaulted (name : String) (codec : Codec α) (get : σ → α) (set : α → σ → σ) : Field σ where
  name
  isRequired := false
  isDroppable := true
  read document record := (codec.read document).map fun value => set value record
  write record := some (codec.write (get record))

/-- An option that is written as null if it is unset. -/
def nullable (name : String) (codec : Codec α) (get : σ → Option α) (set : Option α → σ → σ) :
    Field σ where
  name
  isRequired := false
  isDroppable := false
  read document record := (codec.option.read document).map fun value => set value record
  write record := some (codec.option.write (get record))

/-- An option that is left out if it is unset. -/
def optional (name : String) (codec : Codec α) (get : σ → Option α) (set : Option α → σ → σ) :
    Field σ where
  name
  isRequired := false
  isDroppable := true
  read document record := (codec.option.read document).map fun value => set value record
  write record := (get record).map codec.write

end Field

structure Schema (σ : Type) where
  title : String
  blank : σ
  fields : List (Field σ)

namespace Schema

variable {σ : Type}

def expected (schema : Schema σ) : String := s!"struct {schema.title}"

def expectedFields (schema : Schema σ) : String :=
  let count := schema.fields.length
  let noun := if count = 1 then "element" else "elements"
  s!"struct {schema.title} with {count} {noun}"

/-- Reads the members of an object. A field that comes again is refused before its value is looked
at; what is missing is found at the end. -/
def readMembers (schema : Schema σ) : List String → σ → Members → Decoded σ
  | seen, record, .closed =>
    match schema.fields.find? fun field => field.isRequired && field.name ∉ seen with
    | some field => .error (.missingField field.name)
    | none => .ok record
  | _, _, .broken defect => .error (.broken defect)
  | seen, record, .member key value rest => do
    let name ← Members.name key
    match schema.fields.find? fun field => field.name = name with
    | none =>
      value.skip
      schema.readMembers seen record rest
    | some field =>
      if name ∈ seen then .error (.duplicateField name)
      else
        let record ← field.read value record
        schema.readMembers (name :: seen) record rest

/-- Reads the items of an array, given the fields that are still to come and how many have been
read. Behind the last field only the end of the array is looked for. -/
def readItems (schema : Schema σ) : List (Field σ) → Nat → σ → Items → Decoded σ
  | [], _, record, .closed => .ok record
  | [], _, _, .broken .endOfList => .error (.broken .endOfList)
  | [], _, _, .broken .trailingComma => .error (.broken .trailingComma)
  | [], _, _, _ => .error (.broken .extraItem)
  | field :: fields, count, record, .closed =>
    if field.isDroppable then schema.readItems fields (count + 1) record .closed
    else .error (.invalidLength count schema.expectedFields)
  | field :: fields, count, record, .item value rest => do
    let record ← field.read value record
    schema.readItems fields (count + 1) record rest
  | _ :: _, _, _, .broken defect => .error (.broken defect)

def read (schema : Schema σ) : Document → Decoded σ
  | .object members => schema.readMembers [] schema.blank members
  | .array items => schema.readItems schema.fields 0 schema.blank items
  | document => document.refuse schema.expected

def write (schema : Schema σ) (record : σ) : Document :=
  Document.record <| schema.fields.filterMap fun field =>
    (field.write record).map fun document => (field.name, document)

def codec (schema : Schema σ) : Codec σ := ⟨schema.read, schema.write⟩

end Schema

def Codec.decode {α : Type} (codec : Codec α) (source : Source) : Decoded α := do
  let value ← codec.read source.document
  if source.trailing then .error (.broken .trailingText) else .ok value

end Converge.Json
