import TraceReconciler.Json.Numeral
import TraceReconciler.Json.StringToken

/-!
# The tree of a text

What a JSON text says, as far as it can be read: a tree whose leaves are numerals and strings as
they are written. **A text need not be whole.** Where it stops being JSON the tree stops too, and
the gap that is found there is kept in the tree: as a broken value, or as the tail of an array or
object.

So the syntax of a text is settled before anyone asks what it means, and still the *first* fault can
win, whether in syntax or in meaning: whoever walks the tree from left to right meets a gap exactly
where a single pass over the text would have met it. What a gap is called depends on who meets it,
which is why the tree keeps gaps and no faults.

* `Node.kind` names what a value is, for messages about the wrong kind.
* `Node.skip` walks a value that nobody reads.
* `Node.sound` walks a value that will be read later, as long as it nests no deeper than allowed.
-/

namespace TraceReconciler.Json

/-- What stands where a value should and is none. -/
inductive Gap where
  /-- The end of the text. -/
  | absent
  /-- A character that begins no value. -/
  | stray
  /-- A letter that is not the next one of the word. -/
  | misspelt
  /-- A word that the text ends in. -/
  | cutWord
deriving DecidableEq

/-- What follows the items of an array. -/
inductive ListTail where
  /-- A closing bracket. -/
  | closed
  /-- The end of the text. -/
  | cut
  /-- Neither a comma nor a bracket. -/
  | noComma
  /-- A comma and a closing bracket. -/
  | comma
  /-- A comma and the end of the text. -/
  | commaCut
deriving DecidableEq

/-- What follows the members of an object. -/
inductive ObjectTail where
  /-- A closing bracket. -/
  | closed
  /-- The end of the text. -/
  | cut
  /-- Neither a comma nor a bracket. -/
  | noComma
  /-- A comma and a closing bracket. -/
  | comma
  /-- A comma and the end of the text. -/
  | commaCut
  /-- Something that is no string where a key should stand. -/
  | notKey
  /-- A key with no colon after it; whether the text ends there. -/
  | key (name : StringToken) (ends : Bool)

/-- A value as far as it can be read. -/
inductive Node where
  | null
  | boolean (b : Bool)
  | number (n : Numeral)
  | string (t : StringToken)
  | array (items : List Node) (tail : ListTail)
  | object (members : List (StringToken × Node)) (tail : ObjectTail)
  | broken (gap : Gap)

/-! ### Gaps in the words of the one who meets them -/

/-- The fault of a gap where a value should stand. -/
def Gap.fault : Gap → Fault
  | .absent => .endInValue
  | .stray => .noValue
  | .misspelt => .wrongWord
  | .cutWord => .endInValue

/-- The tail of an array, for a reader that takes items until there are none. -/
def ListTail.finish : ListTail → Except Fault Unit
  | .closed => .ok ()
  | .cut => .error .endInList
  | .noComma => .error .noListComma
  | .comma => .error .trailingComma
  | .commaCut => .error .endInValue

/-- The tail of an array, for one who skips it. -/
def ListTail.skip : ListTail → Except Fault Unit
  | .closed => .ok ()
  | .cut => .error .endInList
  | .noComma => .error .noListComma
  | .comma => .error .noValue
  | .commaCut => .error .endInValue

/-- The tail of an array, for a reader that has all the items it wants. -/
def ListTail.close : ListTail → Except Fault Unit
  | .closed => .ok ()
  | .cut => .error .endInList
  | .noComma => .error .trailing
  | .comma => .error .trailingComma
  | .commaCut => .error .trailing

/-- The fault of a key with no colon after it. -/
def colonFault (ends : Bool) : Fault := if ends then .endInObject else .noColon

/-- The tail of an object, for a reader that takes members until there are none. -/
def ObjectTail.finish : ObjectTail → Except Fault Unit
  | .closed => .ok ()
  | .cut => .error .endInObject
  | .noComma => .error .noObjectComma
  | .comma => .error .trailingComma
  | .commaCut => .error .endInValue
  | .notKey => .error .keyNotString
  | .key t ends => do
    let _ ← t.value
    .error (colonFault ends)

/-- The tail of an object, for one who skips it. -/
def ObjectTail.skip : ObjectTail → Except Fault Unit
  | .closed => .ok ()
  | .cut => .error .endInObject
  | .noComma => .error .noObjectComma
  | .comma => .error .keyNotString
  | .commaCut => .error .endInObject
  | .notKey => .error .keyNotString
  | .key t ends => do
    t.skip
    .error (colonFault ends)

namespace Node

/-- **The kind of a value**, or what is wrong at its very start. -/
def kind : Node → Except Fault Kind
  | .null => .ok .null
  | .boolean b => .ok (.boolean b)
  | .number n => Kind.number <$> n.value
  | .string t => Kind.string <$> t.value
  | .array _ _ => .ok .sequence
  | .object _ _ => .ok .map
  | .broken g => .error g.fault

/-- A value is not what was expected. -/
def mismatch {α : Type} (n : Node) (expected : String) : Except Fault α := do
  let k ← n.kind
  .error (.wrongKind k expected)

/-! ### Skipping -/

mutual

/-- What is wrong with a value that nobody reads. -/
def skip : Node → Except Fault Unit
  | .null => .ok ()
  | .boolean _ => .ok ()
  | .number n => n.skip
  | .string t => t.skip
  | .array items tail => do
    skipItems items
    tail.skip
  | .object members tail => do
    skipMembers members
    tail.skip
  | .broken g => .error g.fault

/-- What is wrong with items that nobody reads. -/
def skipItems : List Node → Except Fault Unit
  | [] => .ok ()
  | x :: xs => do
    skip x
    skipItems xs

/-- What is wrong with members that nobody reads. -/
def skipMembers : List (StringToken × Node) → Except Fault Unit
  | [] => .ok ()
  | (t, x) :: xs => do
    t.skip
    skip x
    skipMembers xs

end

/-! ### Keeping for later -/

mutual

/-- What is wrong with a value kept to be read later, where `room` more brackets may open. -/
def sound (room : Nat) : Node → Except Fault Unit
  | .null => .ok ()
  | .boolean _ => .ok ()
  | .number n => do
    let _ ← n.value
  | .string t => do
    let _ ← t.value
  | .array items tail =>
    match room with
    | 0 => .error .tooDeep
    | room + 1 => do
      soundItems room items
      tail.finish
  | .object members tail =>
    match room with
    | 0 => .error .tooDeep
    | room + 1 => do
      soundMembers room members
      tail.finish
  | .broken g => .error g.fault

/-- What is wrong with items that are kept. -/
def soundItems (room : Nat) : List Node → Except Fault Unit
  | [] => .ok ()
  | x :: xs => do
    sound room x
    soundItems room xs

/-- What is wrong with members that are kept. -/
def soundMembers (room : Nat) : List (StringToken × Node) → Except Fault Unit
  | [] => .ok ()
  | (t, x) :: xs => do
    let _ ← t.value
    sound room x
    soundMembers room xs

end

end Node

end TraceReconciler.Json
