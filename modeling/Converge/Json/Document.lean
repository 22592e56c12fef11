import Converge.Json.Number

/-! JSON documents, sound or broken. A broken document keeps its faults where they are, so whoever
takes it apart in the order of the text meets the first fault first. Some faults only matter to
those who want the value: an unknown field may hold a number out of range, or half of a surrogate
pair. -/
namespace Converge.Json

inductive Defect where
  | endOfValue
  | endOfList
  | endOfObject
  | endOfString
  | expectedValue
  | expectedWord
  | expectedColon
  | expectedItem
  | expectedMember
  | trailingComma
  | trailingText
  | extraItem
  | keyNotString
  /-- Behind a name and its null an object for a name is not closed. -/
  | unclosedName
  /-- How many bytes of the last character have not been read. -/
  | invalidEscape (unread : Nat)
  | unpairedSurrogate
  | missingEscape
  | controlCharacter
  /-- A control character in a string that is skipped. -/
  | skippedControl
  | invalidNumber
  | unfinishedNumber
  | numberOutOfRange
  | exponentOutOfRange
deriving DecidableEq, Inhabited

namespace Defect

def isEnd : Defect → Bool
  | .endOfValue | .endOfList | .endOfObject | .endOfString => true
  | _ => false

def message : Defect → String
  | .endOfValue => "EOF while parsing a value"
  | .endOfList => "EOF while parsing a list"
  | .endOfObject => "EOF while parsing an object"
  | .endOfString => "EOF while parsing a string"
  | .expectedValue => "expected value"
  | .expectedWord => "expected ident"
  | .expectedColon => "expected \x60:\x60"
  | .expectedItem => "expected \x60,\x60 or \x60]\x60"
  | .expectedMember => "expected \x60,\x60 or \x60\x7d\x60"
  | .trailingComma => "trailing comma"
  | .trailingText => "trailing characters"
  | .extraItem => "trailing characters"
  | .keyNotString => "key must be a string"
  | .unclosedName => "expected value"
  | .invalidEscape _ => "invalid escape"
  | .unpairedSurrogate => "lone leading surrogate in hex escape"
  | .missingEscape => "unexpected end of hex escape"
  | .controlCharacter => "control character (\\u0000-\\u001F) found while parsing a string"
  | .skippedControl => "control character (\\u0000-\\u001F) found while parsing a string"
  | .invalidNumber => "invalid number"
  | .unfinishedNumber => "invalid number"
  | .numberOutOfRange => "number out of range"
  | .exponentOutOfRange => "number out of range"

/-- What is said of a broken array that is skipped: it may have a comma before its end, but then a
value is due. -/
def inSkippedArray : Defect → Defect
  | .trailingComma => .expectedValue
  | defect => defect

/-- What is said of a broken object that is skipped: behind a comma a key is due. -/
def inSkippedObject : Defect → Defect
  | .trailingComma => .keyNotString
  | .endOfValue => .endOfObject
  | defect => defect

end Defect

inductive Shape where
  | null
  | string
  | other
deriving DecidableEq, Inhabited

mutual

inductive Document where
  | null
  | bool (value : Bool)
  | number (value : Number)
  | string (value : String)
  | array (items : Items)
  | object (members : Members)
  | missing (defect : Defect)
  /-- A broken value: what those find who want it, and what those find who skip it. -/
  | spoilt (shape : Shape) (wanted : Defect) (skipped : Option Defect)

inductive Items where
  | closed
  | broken (defect : Defect)
  | item (value : Document) (rest : Items)

inductive Members where
  | closed
  | broken (defect : Defect)
  | member (key value : Document) (rest : Members)

end

instance : Inhabited Document := ⟨.null⟩

namespace Items

def ofList : List Document → Items
  | [] => .closed
  | value :: rest => .item value (ofList rest)

def toList : Items → List Document
  | .item value rest => value :: rest.toList
  | _ => []

end Items

namespace Members

def ofList : List (String × Document) → Members
  | [] => .closed
  | (name, value) :: rest => .member (.string name) value (ofList rest)

def toList : Members → List (String × Document)
  | .member (.string name) value rest => (name, value) :: rest.toList
  | .member _ _ rest => rest.toList
  | _ => []

end Members

namespace Document

def list (values : List Document) : Document := .array (Items.ofList values)

def record (members : List (String × Document)) : Document := .object (Members.ofList members)

def integer (value : Int) : Document := .number (.integer value)

end Document

mutual

def Document.fault? : Document → Option Defect
  | .array items => items.fault?
  | .object members => members.fault?
  | .missing defect => some defect
  | .spoilt _ _ skipped => skipped
  | _ => none

def Items.fault? : Items → Option Defect
  | .closed => none
  | .broken defect => some defect.inSkippedArray
  | .item value rest => value.fault? <|> rest.fault?

/-- A member is skipped key first; only a string can be a key. -/
def Members.fault? : Members → Option Defect
  | .closed => none
  | .broken defect => some defect.inSkippedObject
  | .member key value rest =>
    (match key with
      | .string _ => none
      | .spoilt .string _ skipped => skipped
      | _ => some .keyNotString) <|> value.fault? <|> rest.fault?

end

end Converge.Json
