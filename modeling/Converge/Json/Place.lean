import Converge.Json.Schema

/-! Where a text goes wrong. A fault is met at the end of the shortest start of the text that shows
it: less text has another fault or none, and more text has the same one. -/
namespace Converge.Json

/-- A place in a text: a line, counted from one, and how many bytes of the line are before it. -/
structure Place where
  line : Nat
  column : Nat
deriving DecidableEq, Inhabited

namespace Place

def start : Place := ⟨1, 0⟩

def next (place : Place) (c : Char) : Place :=
  if c = '\n' then ⟨place.line + 1, 0⟩ else ⟨place.line, place.column + c.utf8Size⟩

def after (text : List Char) : Place := text.foldl next start

end Place

/-- The least number between two bounds at which a property holds that goes on to hold from there;
the upper bound if there is none below it. -/
def leastBetween (holds : Nat → Bool) (low high : Nat) : Nat :=
  if low < high then
    let middle := (low + high) / 2
    if holds middle then leastBetween holds low middle else leastBetween holds (middle + 1) high
  else low
termination_by high - low

namespace DecodeError

/-- The rest of a number, given a start of the text that ends in it. -/
def numberRest (shown rest : List Char) : List Char :=
  let begun := shown.reverse.takeWhile fun c => c.isDigit || c ∈ ['.', 'e', 'E', '+', '-']
  let text := (begun.reverse ++ rest).dropWhile fun c => c = '-'
  rest.take (rest.length - (Reader.number false text).2.length)

/-- The text that has been read when a fault is reported, given the shortest start that shows it and
the rest. A text that ends too early is read to its end, and so is a number; an array or an object
of the wrong kind is not entered; behind a name that comes again there may be blanks and the end of
the object, and behind a comma that should not be there blanks and one more character. What stands
in place of the end of an object for a name is not read, nor is a control character in a string that
is skipped. -/
def textRead (error : DecodeError) (shown rest : List Char) : List Char :=
  let last := shown.getLast?.getD ' '
  let beyond := Reader.skipSpace rest
  let blanks := rest.take (rest.length - beyond.length)
  match error with
  | .broken .extraItem => if last = ',' then shown ++ blanks ++ beyond.take 1 else shown
  | .broken .numberOutOfRange => shown ++ numberRest shown rest
  | .broken .unfinishedNumber => shown ++ rest
  | .broken .unclosedName => shown.dropLast
  | .broken .skippedControl => shown.dropLast
  | .broken defect => if defect.isEnd then shown ++ rest else shown
  | .duplicateField _ => shown ++ blanks ++ (beyond.take 1).filter fun c => c = '}'
  | .invalidType _ _ =>
    if last = '[' ∨ last = '{' then shown.dropLast
    else if last.isDigit then shown ++ numberRest shown rest
    else shown
  | .outOfRange _ _ => shown ++ numberRest shown rest
  | _ => shown

/-- How many bytes of the last character read do not count. As a rule its first byte shows the fault;
a text that has come to its end is read in full. -/
def bytesUnread (error : DecodeError) (last : Char) : Nat :=
  match error with
  | .broken (.invalidEscape unread) => unread
  | .broken .unclosedName => 0
  | .broken .skippedControl => 0
  | _ => if error.category = "eof" then 0 else last.utf8Size - 1

def placeIn (error : DecodeError) (shown rest : List Char) : Place :=
  let read := error.textRead shown rest
  let place := Place.after read
  { place with column := place.column - error.bytesUnread (read.getLast?.getD ' ') }

def report (error : DecodeError) (place : Place) : String :=
  s!"{error.message} at line {place.line} column {place.column}"

end DecodeError

namespace Codec

variable {α : Type}

def fault? (codec : Codec α) (text : List Char) : Option DecodeError :=
  match codec.decode (Json.read (String.ofList text)) with
  | .ok _ => none
  | .error error => some error

def place (codec : Codec α) (text : List Char) (error : DecodeError) : Place :=
  let length := leastBetween (fun length => codec.fault? (text.take length) == some error)
    0 text.length
  error.placeIn (text.take length) (text.drop length)

end Codec

end Converge.Json
