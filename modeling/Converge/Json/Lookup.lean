import Converge.Json.Schema

/-! Looking up the values of an object by their names, where they make up no record. A value that is
null counts as missing. -/
namespace Converge.Json.Document

variable {α : Type}

def member? (document : Document) (name : String) : Option Document :=
  match document with
  | .object members => members.toList.lookup name
  | _ => none

def value? (document : Document) (name : String) : Option Document :=
  match document.member? name with
  | some .null => none
  | found => found

def elements : Document → List Document
  | .array items => items.toList
  | _ => []

def elementsAt (document : Document) (name : String) : List Document :=
  (document.value? name).elim [] elements

def field? (document : Document) (codec : Codec α) (name : String) : Decoded (Option α) :=
  (document.value? name).mapM codec.read

def field (document : Document) (codec : Codec α) (name : String) : Decoded α :=
  match document.value? name with
  | some found => codec.read found
  | none => .error (.missingField name)

def fieldOr (document : Document) (codec : Codec α) (name : String) (default : α) : Decoded α :=
  (document.field? codec name).map fun found => found.getD default

def fieldList (document : Document) (codec : Codec α) (name : String) : Decoded (List α) :=
  document.fieldOr codec.list name []

end Converge.Json.Document
