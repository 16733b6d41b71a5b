import TraceReconciler.Json.Node

/-!
# Reading a text into a tree

`Node.read` takes one value off a text and says what follows it, or that nothing does because the
text stops being JSON inside the value. `Document.read` reads a whole text: one value, and whether
anything but blanks comes after it.

The recursion is bounded by a number that goes down with every value and with every item or member
of one. Each character is the first of at most one of either, so twice the length of the text is
bound enough, and no caller of `Document.read` sees the bound.
-/

namespace TraceReconciler.Json

/-- The four blanks that may stand between tokens. -/
def isSpace (c : Char) : Bool := c == ' ' || c == '\n' || c == '\t' || c == '\r'

/-- The text from its first character that is no blank. -/
def skipSpace (cs : List Char) : List Char := cs.dropWhile isSpace

/-- A value, and the text after it if the value is whole. -/
abbrev Reading := Node × Option (List Char)

/-- The rest of a word whose first letter has been seen. -/
def readWord (word : Node) : List Char → List Char → Reading
  | [], cs => (word, some cs)
  | _ :: _, [] => (.broken .cutWord, none)
  | w :: ws, c :: cs => if c = w then readWord word ws cs else (.broken .misspelt, none)

/-- A numeral as a value. -/
def readNumeral (cs : List Char) : Reading :=
  let (n, rest) := Numeral.scan cs
  (.number n, if n.flaw.isSome then none else some rest)

/-- A string as a value, after its quote. -/
def readString (cs : List Char) : Reading :=
  let (t, rest) := StringToken.scan cs
  (.string t, if t.ending = .closed then some rest else none)

/-- A value that is neither an array nor an object. -/
def readScalar (cs : List Char) : Reading :=
  match cs with
  | [] => (.broken .absent, none)
  | c :: r =>
    if c = 'n' then readWord .null "ull".toList r
    else if c = 't' then readWord (.boolean true) "rue".toList r
    else if c = 'f' then readWord (.boolean false) "alse".toList r
    else if c = '"' then readString r
    else if c = '-' || Text.isDigit c then readNumeral cs
    else (.broken .stray, none)

mutual

/-- One value. -/
def Node.read : Nat → List Char → Reading
  | 0, _ => (.broken .absent, none)
  | fuel + 1, cs =>
    match skipSpace cs with
    | '[' :: r =>
      match skipSpace r with
      | [] => (.array [] .cut, none)
      | ']' :: r₁ => (.array [] .closed, some r₁)
      | r₁ =>
        let (items, tail, rest) := readItems fuel r₁
        (.array items tail, rest)
    | '\x7b' :: r =>
      match skipSpace r with
      | [] => (.object [] .cut, none)
      | '\x7d' :: r₁ => (.object [] .closed, some r₁)
      | r₁ =>
        let (members, tail, rest) := readMembers fuel r₁
        (.object members tail, rest)
    | r => readScalar r

/-- The items of an array, from one that is there to the end. -/
def readItems : Nat → List Char → List Node × ListTail × Option (List Char)
  | 0, _ => ([], .cut, none)
  | fuel + 1, cs =>
    match Node.read fuel cs with
    | (x, none) => ([x], .cut, none)
    | (x, some r) =>
      match skipSpace r with
      | [] => ([x], .cut, none)
      | ']' :: r₁ => ([x], .closed, some r₁)
      | ',' :: r₁ =>
        match skipSpace r₁ with
        | [] => ([x], .commaCut, none)
        | ']' :: _ => ([x], .comma, none)
        | r₂ =>
          let (xs, tail, rest) := readItems fuel r₂
          (x :: xs, tail, rest)
      | _ => ([x], .noComma, none)

/-- The members of an object, from one that is there to the end. -/
def readMembers :
    Nat → List Char → List (StringToken × Node) × ObjectTail × Option (List Char)
  | 0, _ => ([], .cut, none)
  | fuel + 1, cs =>
    match cs with
    | '"' :: r =>
      let (t, r₁) := StringToken.scan r
      if t.ending = .closed then
        match skipSpace r₁ with
        | [] => ([], .key t true, none)
        | ':' :: r₂ =>
          match Node.read fuel r₂ with
          | (x, none) => ([(t, x)], .cut, none)
          | (x, some r₃) =>
            match skipSpace r₃ with
            | [] => ([(t, x)], .cut, none)
            | '\x7d' :: r₄ => ([(t, x)], .closed, some r₄)
            | ',' :: r₄ =>
              match skipSpace r₄ with
              | [] => ([(t, x)], .commaCut, none)
              | '\x7d' :: _ => ([(t, x)], .comma, none)
              | r₅ =>
                let (ms, tail, rest) := readMembers fuel r₅
                ((t, x) :: ms, tail, rest)
            | _ => ([(t, x)], .noComma, none)
        | _ => ([], .key t false, none)
      else ([], .key t true, none)
    | _ => ([], .notKey, none)

end

/-- A whole text: its value, and whether something comes after it. -/
structure Document where
  root : Node
  /-- Whether something other than blanks follows the value. -/
  trailing : Bool

/-- **The tree of a text.** -/
def Document.read (text : String) : Document :=
  let cs := text.toList
  match Node.read (2 * cs.length + 2) cs with
  | (root, some rest) => ⟨root, !(skipSpace rest).isEmpty⟩
  | (root, none) => ⟨root, false⟩

end TraceReconciler.Json
