import Converge.Json.Document

/-! Writing JSON text, on one line or with an indentation of two blanks. -/
namespace Converge.Json

namespace Writer

def escaped (c : Char) : List Char :=
  if c = '"' then ['\\', '"']
  else if c = '\\' then ['\\', '\\']
  else if c = '\x08' then ['\\', 'b']
  else if c = '\x0c' then ['\\', 'f']
  else if c = '\n' then ['\\', 'n']
  else if c = '\r' then ['\\', 'r']
  else if c = '\t' then ['\\', 't']
  else if c.toNat < 0x20 then
    ['\\', 'u', '0', '0', Nat.digitChar (c.toNat / 16), Nat.digitChar (c.toNat % 16)]
  else [c]

def string (text : String) : String :=
  "\"" ++ String.ofList (text.toList.flatMap escaped) ++ "\""

end Writer

mutual

def Document.compact : Document → String
  | .null => "null"
  | .bool value => if value then "true" else "false"
  | .number value => value.text
  | .string value => Writer.string value
  | .array items => "[" ++ items.compact true ++ "]"
  | .object members => "\x7b" ++ members.compact true ++ "\x7d"
  | _ => ""

def Items.compact : Bool → Items → String
  | first, .item value rest =>
    (if first then "" else ",") ++ value.compact ++ rest.compact false
  | _, _ => ""

def Members.compact : Bool → Members → String
  | first, .member key value rest =>
    (if first then "" else ",") ++ key.compact ++ ":" ++ value.compact ++ rest.compact false
  | _, _ => ""

end

def newLine (depth : Nat) : String := "\n" ++ String.ofList (List.replicate (2 * depth) ' ')

mutual

def Document.indented (depth : Nat) : Document → String
  | .array .closed => "[]"
  | .array items => "[" ++ items.indented (depth + 1) true ++ newLine depth ++ "]"
  | .object .closed => "\x7b\x7d"
  | .object members => "\x7b" ++ members.indented (depth + 1) true ++ newLine depth ++ "\x7d"
  | document => document.compact

def Items.indented (depth : Nat) : Bool → Items → String
  | first, .item value rest =>
    (if first then "" else ",") ++ newLine depth ++ value.indented depth ++
      rest.indented depth false
  | _, _ => ""

def Members.indented (depth : Nat) : Bool → Members → String
  | first, .member key value rest =>
    (if first then "" else ",") ++ newLine depth ++ key.compact ++ ": " ++ value.indented depth ++
      rest.indented depth false
  | _, _ => ""

end

end Converge.Json
