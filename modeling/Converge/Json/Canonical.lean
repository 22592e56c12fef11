import Converge.Json.Writer
import Converge.NameMap

/-! A text that is the same for documents that differ only in the order of their members or in the
sign of a zero. Of two members of one name the later one counts. -/
namespace Converge.Json

mutual

def Document.canonical : Document → String
  | .array items => "[" ++ String.intercalate "," items.canonical ++ "]"
  | .object members =>
    let entries := (NameMap.ofList members.canonical).entries
    let member (entry : String × String) := Writer.string entry.1 ++ ":" ++ entry.2
    "\x7b" ++ String.intercalate "," (entries.map member) ++ "\x7d"
  | .number (.decimal value) => if value == 0 then "0.0" else Number.decimalText value
  | document => document.compact

def Items.canonical : Items → List String
  | .item value rest => value.canonical :: rest.canonical
  | _ => []

def Members.canonical : Members → List (String × String)
  | .member (.string name) value rest => (name, value.canonical) :: rest.canonical
  | .member _ _ rest => rest.canonical
  | _ => []

end

end Converge.Json
