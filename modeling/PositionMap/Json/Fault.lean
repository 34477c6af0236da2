import PositionMap.Number.Text
import PositionMap.Text

/-!
# What can be wrong with a document

A `Fault` is a cause at a place of the text that is being read; a `Complaint` is the same for a
reader of the message, with the place as a line and a column. Columns count bytes.
-/

namespace PositionMap.Json

/-- A value that stands where another kind of value is wanted. -/
inductive Found
  | null
  | boolean (value : Bool)
  | integer (value : Int)
  | float (value : Float)
  | text (value : String)
  | list
  | object

namespace Found

def phrase : Found → String
  | null => "null"
  | boolean value => "boolean `" ++ toString value ++ "`"
  | integer value => "integer `" ++ toString value ++ "`"
  | float value => "floating point `" ++ Number.plain .quoted value ++ "`"
  | text value => "string " ++ Text.quoted value
  | list => "sequence"
  | object => "map"

end Found

inductive Cause
  | endInValue
  | endInText
  | endInList
  | endInObject
  | expectedValue
  | expectedWord
  | expectedColon
  | expectedListEnd
  | expectedObjectEnd
  | keyNotText
  | trailingComma
  | trailingCharacters
  | invalidNumber
  | numberOutOfRange
  | invalidEscape
  | loneSurrogate
  | unfinishedSurrogate
  | controlCharacter
  | wrongType (found : Found) (expected : String)
  | wrongValue (found : Found) (expected : String)
  | wrongLength (length : Nat) (expected : String) (wanted : Nat)
  | unknownMember (name : String) (known : List String)
  | repeatedMember (name : String)
  | missingMember (name : String)

namespace Cause

def backticked (name : String) : String :=
  "`" ++ name ++ "`"

def message : Cause → String
  | endInValue => "EOF while parsing a value"
  | endInText => "EOF while parsing a string"
  | endInList => "EOF while parsing a list"
  | endInObject => "EOF while parsing an object"
  | expectedValue => "expected value"
  | expectedWord => "expected ident"
  | expectedColon => "expected `:`"
  | expectedListEnd => "expected `,` or `]`"
  | expectedObjectEnd => "expected `,` or `\x7d`"
  | keyNotText => "key must be a string"
  | trailingComma => "trailing comma"
  | trailingCharacters => "trailing characters"
  | invalidNumber => "invalid number"
  | numberOutOfRange => "number out of range"
  | invalidEscape => "invalid escape"
  | loneSurrogate => "lone leading surrogate in hex escape"
  | unfinishedSurrogate => "unexpected end of hex escape"
  | controlCharacter => "control character (\\u0000-\\u001F) found while parsing a string"
  | wrongType found expected => "invalid type: " ++ found.phrase ++ ", expected " ++ expected
  | wrongValue found expected => "invalid value: " ++ found.phrase ++ ", expected " ++ expected
  | wrongLength length expected wanted =>
    "invalid length " ++ toString length ++ ", expected " ++ expected ++ " with " ++
      toString wanted ++ " elements"
  | unknownMember name known =>
    "unknown field " ++ backticked name ++ ", expected one of " ++
      String.intercalate ", " (known.map backticked)
  | repeatedMember name => "duplicate field " ++ backticked name
  | missingMember name => "missing field " ++ backticked name

end Cause

/-- A cause found in front of `rest`, or `ahead` bytes beyond that place. A fault of a record as a
whole is not `settled` before the end of the record has been looked for. -/
structure Fault where
  cause : Cause
  rest : List Char
  ahead : Nat
  settled : Bool

structure Complaint where
  cause : Cause
  line : Nat
  column : Nat

namespace Complaint

def message (c : Complaint) : String :=
  c.cause.message ++ " at line " ++ toString c.line ++ " column " ++ toString c.column

end Complaint

def byteCount (text : List Char) : Nat :=
  text.foldr (fun c bytes => c.utf8Size + bytes) 0

/-- The line and the column reached after `bytes` bytes of the text, counted on from a given line
and column. -/
def locate (line column : Nat) : Nat → List Char → Nat × Nat
  | _, [] => (line, column)
  | bytes, c :: rest =>
    if bytes < c.utf8Size then (line, column + bytes)
    else if c = '\n' then locate (line + 1) 0 (bytes - c.utf8Size) rest
    else locate line (column + c.utf8Size) (bytes - c.utf8Size) rest

namespace Fault

/-- The fault of a record, settled at the place where the record turned out to end. -/
def settle (fault : Fault) (rest : List Char) : Fault :=
  if fault.settled then fault else ⟨fault.cause, rest, 0, true⟩

def complaint (fault : Fault) (document : List Char) : Complaint :=
  let total := byteCount document
  let bytes := min total (total - byteCount fault.rest + fault.ahead)
  let (line, column) := locate 1 0 bytes document
  ⟨fault.cause, line, column⟩

end Fault

end PositionMap.Json
