import TraceReconciler.Json.Number
import TraceReconciler.Text.Quoted

/-!
# What can be wrong with a JSON text

A **fault** is the first thing that keeps a text from being the value that is wanted, either in its
syntax or in its meaning. Each has one message.

**The message does not say where in the text the fault stands.** A full report goes on with the
place, as in `trailing comma at line 1 column 9`. Messages here, and all messages that are made of
them, end before ` at line`; which fault it is does not depend on the place.
-/

namespace TraceReconciler.Json

/-- What a value is, as far as a message tells. -/
inductive Kind where
  | null
  | boolean (b : Bool)
  | number (n : Number)
  | string (s : String)
  | sequence
  | map
deriving DecidableEq

/-- The first thing wrong with a text. -/
inductive Fault where
  /-- The text ends where a value should begin, or inside a word or a numeral. -/
  | endInValue
  /-- The text ends inside an array. -/
  | endInList
  /-- The text ends inside an object. -/
  | endInObject
  /-- The text ends inside a string. -/
  | endInString
  /-- No value begins with this character. -/
  | noValue
  /-- A letter that is not the next one of `true`, `false` or `null`. -/
  | wrongWord
  /-- No colon after a key. -/
  | noColon
  /-- Neither a comma nor the end after an item of an array. -/
  | noListComma
  /-- Neither a comma nor the end after a member of an object. -/
  | noObjectComma
  /-- A comma before the end. -/
  | trailingComma
  /-- A key that is not a string. -/
  | keyNotString
  /-- A numeral against the rules. -/
  | wrongNumeral
  /-- A numeral beyond the largest floating point number. -/
  | numberTooLarge
  /-- A backslash before something that it does not escape. -/
  | wrongEscape
  /-- The first half of a surrogate pair without an escape after it. -/
  | unpairedEscape
  /-- Half of a surrogate pair where a whole one, or none, should stand. -/
  | loneSurrogate
  /-- A control character inside a string. -/
  | controlCharacter
  /-- Too many brackets are open. -/
  | tooDeep
  /-- Something after the end. -/
  | trailing
  /-- A key that has to be a number and does not start as one. -/
  | keyNotNumber
  /-- Something else than a quote after the number that is a key. -/
  | keyNotClosed
  /-- A value of the wrong kind. -/
  | wrongKind (found : Kind) (expected : String)
  /-- A value of the right kind that is not accepted. -/
  | wrongValue (found : Kind) (expected : String)
  /-- An array with the wrong number of items. -/
  | wrongLength (found : Nat) (expected : String)
  /-- A name that is none of the alternatives. -/
  | unknownName (found : String) (known : List String)
  /-- A second member with the name of a field. -/
  | duplicateField (field : String)
  /-- No member for a field. -/
  | missingField (field : String)
deriving DecidableEq

/-- A kind of value in the words of a message. -/
def Kind.text : Kind → String
  | .null => "null"
  | .boolean true => "boolean `true`"
  | .boolean false => "boolean `false`"
  | .number (.nat n) => "integer `" ++ String.ofList (Text.digits n) ++ "`"
  | .number (.negative n) => "integer `-" ++ String.ofList (Text.digits n) ++ "`"
  | .number n => "floating point `" ++ String.ofList n.text ++ "`"
  | .string s => "string " ++ Text.quoted s
  | .sequence => "sequence"
  | .map => "map"

/-- A name between backquotes. -/
def ticked (name : String) : String := "`" ++ name ++ "`"

/-- The alternatives for a name, in the words of a message. -/
def alternatives : List String → String
  | [] => "there are no variants"
  | [a] => ticked a
  | [a, b] => ticked a ++ " or " ++ ticked b
  | names => "one of " ++ ", ".intercalate (names.map ticked)

/-- **The message of a fault**, without the ` at line L column C` that a full report ends with. -/
def Fault.message : Fault → String
  | .endInValue => "EOF while parsing a value"
  | .endInList => "EOF while parsing a list"
  | .endInObject => "EOF while parsing an object"
  | .endInString => "EOF while parsing a string"
  | .noValue => "expected value"
  | .wrongWord => "expected ident"
  | .noColon => "expected `:`"
  | .noListComma => "expected `,` or `]`"
  | .noObjectComma => "expected `,` or `\x7d`"
  | .trailingComma => "trailing comma"
  | .keyNotString => "key must be a string"
  | .wrongNumeral => "invalid number"
  | .numberTooLarge => "number out of range"
  | .wrongEscape => "invalid escape"
  | .unpairedEscape => "unexpected end of hex escape"
  | .loneSurrogate => "lone leading surrogate in hex escape"
  | .controlCharacter => "control character (\\u0000-\\u001F) found while parsing a string"
  | .tooDeep => "recursion limit exceeded"
  | .trailing => "trailing characters"
  | .keyNotNumber => "invalid value: expected key to be a number in quotes"
  | .keyNotClosed => "expected `\"`"
  | .wrongKind k e => "invalid type: " ++ k.text ++ ", expected " ++ e
  | .wrongValue k e => "invalid value: " ++ k.text ++ ", expected " ++ e
  | .wrongLength n e =>
    "invalid length " ++ String.ofList (Text.digits n) ++ ", expected " ++ e
  | .unknownName x known =>
    "unknown variant " ++ ticked x ++ ", expected " ++ alternatives known
  | .duplicateField f => "duplicate field " ++ ticked f
  | .missingField f => "missing field " ++ ticked f

end TraceReconciler.Json
