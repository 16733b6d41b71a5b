import TraceReconciler.Text.Decimal

/-!
# JSON values and their two texts

The values that this library writes: numbers are natural numbers, and an object is the list of its
members in the order in which they are written.

**Two layouts.** The compact text has no blanks. The pretty text puts each item and each member on a
line of its own, indented by two blanks for each open bracket; an empty array or object stays on its
line. Strings are written alike in both: a quote and a backslash behind a backslash, control
characters by an escape of one letter or by their number, everything else as it is.
-/

namespace TraceReconciler.Json

/-- A value to be written. -/
inductive Value where
  | null
  | boolean (b : Bool)
  | nat (n : Nat)
  | string (s : String)
  | array (items : List Value)
  | object (members : List (String × Value))

/-! ### Strings -/

/-- A hexadecimal digit in lower case. -/
def hexChar (n : Nat) : Char := Nat.digitChar n

/-- What is written for one character of a string. -/
def escapeChar (c : Char) : List Char :=
  if c = '"' then ['\\', '"']
  else if c = '\\' then ['\\', '\\']
  else if c = '\x08' then ['\\', 'b']
  else if c = '\t' then ['\\', 't']
  else if c = '\n' then ['\\', 'n']
  else if c = '\x0c' then ['\\', 'f']
  else if c = '\r' then ['\\', 'r']
  else if c.toNat < 0x20 then
    ['\\', 'u', '0', '0', hexChar (c.toNat / 16), hexChar (c.toNat % 16)]
  else [c]

/-- The characters of a string between its quotes. -/
def escapeChars (cs : List Char) : List Char := cs.flatMap escapeChar

/-- A string with its quotes. -/
def stringText (s : String) : List Char := '"' :: (escapeChars s.toList ++ ['"'])

/-- The text of a truth value. -/
def booleanText : Bool → List Char
  | true => "true".toList
  | false => "false".toList

namespace Value

/-! ### The compact text -/

mutual

/-- The text of a value, without blanks. -/
def compact : Value → List Char
  | .null => "null".toList
  | .boolean b => booleanText b
  | .nat n => Text.digits n
  | .string s => stringText s
  | .array items => '[' :: (compactItems items ++ [']'])
  | .object members => '\x7b' :: (compactMembers members ++ ['\x7d'])

/-- Items with commas between them. -/
def compactItems : List Value → List Char
  | [] => []
  | [x] => compact x
  | x :: y :: l => compact x ++ ',' :: compactItems (y :: l)

/-- Members with commas between them. -/
def compactMembers : List (String × Value) → List Char
  | [] => []
  | [(k, x)] => stringText k ++ ':' :: compact x
  | (k, x) :: m :: l => stringText k ++ ':' :: (compact x ++ ',' :: compactMembers (m :: l))

end

/-! ### The pretty text -/

/-- A new line, indented for `depth` open brackets. -/
def newline (depth : Nat) : List Char := '\n' :: List.replicate (2 * depth) ' '

mutual

/-- The text of a value on lines, inside `depth` open brackets. -/
def prettyAt (depth : Nat) : Value → List Char
  | .null => "null".toList
  | .boolean b => booleanText b
  | .nat n => Text.digits n
  | .string s => stringText s
  | .array [] => "[]".toList
  | .array (x :: l) =>
    '[' :: (prettyItems (depth + 1) (x :: l) ++ newline depth ++ [']'])
  | .object [] => ['\x7b', '\x7d']
  | .object (m :: l) =>
    '\x7b' :: (prettyMembers (depth + 1) (m :: l) ++ newline depth ++ ['\x7d'])

/-- Items, each on a line of its own. -/
def prettyItems (depth : Nat) : List Value → List Char
  | [] => []
  | [x] => newline depth ++ prettyAt depth x
  | x :: y :: l => newline depth ++ prettyAt depth x ++ ',' :: prettyItems depth (y :: l)

/-- Members, each on a line of its own. -/
def prettyMembers (depth : Nat) : List (String × Value) → List Char
  | [] => []
  | [(k, x)] => newline depth ++ stringText k ++ ':' :: ' ' :: prettyAt depth x
  | (k, x) :: m :: l =>
    newline depth ++ stringText k ++ ':' :: ' ' ::
      (prettyAt depth x ++ ',' :: prettyMembers depth (m :: l))

end

/-- **The compact text of a value.** -/
def text (v : Value) : String := String.ofList v.compact

/-- **The pretty text of a value.** -/
def prettyText (v : Value) : String := String.ofList (v.prettyAt 0)

end Value

end TraceReconciler.Json
