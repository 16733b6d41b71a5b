import TraceReconciler.Json.Reader

/-!
# Decoders

A decoder reads a value of a domain type off a node of the tree. It walks the node from left to
right and stops at the first fault.

**Where the node comes from matters.** A node of the text itself is *live*: brackets may nest only
so deep, a number may be read from a key in quotes, and items past the last field are trailing
characters. A node that has been *kept*, because the value that tells what it means came later in
the text, has been checked already; in it keys are strings and nothing else, a name may also be
given by its position, and surplus items are counted.

The combinators here are the ways in which a text can hold a value: a number, a list, a record (as
an object or as an array of its fields), and the two ways of putting a name before a content, inside
the same object (`tagged`) or beside it (`adjacent`).
-/

namespace TraceReconciler.Json

/-- Where a node comes from. -/
inductive Origin where
  /-- The text, where `room` more brackets may open. -/
  | live (room : Nat)
  /-- A value kept from earlier in the text. -/
  | kept
deriving DecidableEq

/-- Reads a value off a node. -/
abbrev Decoder (α : Type) := Origin → Node → Except Fault α

/-- How many brackets may be open at the same time. -/
def maxDepth : Nat := 127

/-- The origin of what a bracket contains. -/
def Origin.enter : Origin → Except Fault Origin
  | .live 0 => .error .tooDeep
  | .live (room + 1) => .ok (.live room)
  | .kept => .ok .kept

/-- **The value of a whole text.** -/
def decodeText {α : Type} (decode : Decoder α) (text : String) : Except Fault α := do
  let d := Document.read text
  let v ← decode (.live maxDepth) d.root
  if d.trailing then .error .trailing else .ok v

/-! ### Single values -/

/-- A natural number below a bound. -/
def natBelow (bound : Nat) (expected : String) : Decoder Nat := fun _ n ↦
  match n with
  | .number l => do
    match ← l.value with
    | .nat v => if v < bound then .ok v else .error (.wrongValue (.number (.nat v)) expected)
    | .negative v => .error (.wrongValue (.number (.negative v)) expected)
    | v => .error (.wrongKind (.number v) expected)
  | _ => n.mismatch expected

/-- A number of 32 bits. -/
def word32 : Decoder UInt32 := fun o n ↦ UInt32.ofNat <$> natBelow Text.bound32 "u32" o n

/-- A number of 64 bits. -/
def word64 : Decoder UInt64 := fun o n ↦ UInt64.ofNat <$> natBelow Text.bound64 "u64" o n

/-- A truth value. -/
def boolean : Decoder Bool := fun _ n ↦
  match n with
  | .boolean b => .ok b
  | _ => n.mismatch "a boolean"

/-- A text. -/
def string : Decoder String := fun _ n ↦
  match n with
  | .string t => t.value
  | _ => n.mismatch "a string"

/-- A value or `null`. -/
def optional {α : Type} (decode : Decoder α) : Decoder (Option α) := fun o n ↦
  match n with
  | .null => .ok none
  | _ => some <$> decode o n

/-! ### Lists -/

/-- Each item of an array, read in order. -/
def eachItem {α : Type} (decode : Decoder α) (o : Origin) : List Node → Except Fault (List α)
  | [] => .ok []
  | x :: xs => do
    let v ← decode o x
    let vs ← eachItem decode o xs
    .ok (v :: vs)

/-- An array of any length. -/
def list {α : Type} (decode : Decoder α) : Decoder (List α) := fun o n ↦
  match n with
  | .array items tail => do
    let o ← o.enter
    let vs ← eachItem decode o items
    tail.finish
    .ok vs
  | _ => n.mismatch "a sequence"

/-- A number of things in the words of a message. -/
def counted (n : Nat) : String :=
  String.ofList (Text.digits n) ++ (if n = 1 then " element" else " elements")

/-- The end of an array whose fields have all been read. -/
def closeList (o : Origin) (taken : Nat) (items : List Node) (tail : ListTail) :
    Except Fault Unit :=
  match o with
  | .live _ => if items.isEmpty then tail.close else .error .trailing
  | .kept =>
    if items.isEmpty then .ok ()
    else .error (.wrongLength (taken + items.length) (counted taken ++ " in sequence"))

/-- The next item of an array of fields, and the items after it. -/
def takeItem (index : Nat) (expected : String) (items : List Node) (tail : ListTail) :
    Except Fault (Node × List Node) :=
  match items with
  | x :: xs => .ok (x, xs)
  | [] => do
    tail.finish
    .error (.wrongLength index expected)

/-! ### Maps keyed by numbers -/

/-- The fault of a string that goes on after the number that it holds, or the number. -/
def closeKey {α : Type} (v : α) (rest : List Char) (pieces : List Piece) (ending : StringEnd) :
    Except Fault α :=
  if rest.isEmpty && pieces.isEmpty && ending = .closed then .ok v else .error .keyNotClosed

/-- A number written between the quotes of a key. -/
def quotedNat (bound : Nat) (expected : String) (t : StringToken) : Except Fault Nat :=
  let (cs, pieces) := StringToken.plainStart t.pieces
  match cs with
  | [] => .error .keyNotNumber
  | c :: _ =>
    if c = '-' || Text.isDigit c then do
      -- The numeral meets the closing quote, unless the text ends first.
      let ends := pieces.isEmpty && t.ending = .cut
      let (l, rest) := Numeral.scan (if ends then cs else cs ++ ['"'])
      let v ← natBelow bound expected .kept (.number l)
      closeKey v (if ends then rest else rest.dropLast) pieces t.ending
    else .error .keyNotNumber

/-- The number that is the key of a member. -/
def natKey (bound : Nat) (expected : String) (o : Origin) (t : StringToken) : Except Fault Nat :=
  match o with
  | .live _ => quotedNat bound expected t
  | .kept => do
    let s ← t.value
    .error (.wrongKind (.string s) expected)

/-- Each member of a map, read in order. -/
def eachEntry {α : Type} (key : StringToken → Except Fault Nat) (decode : Decoder α) (o : Origin) :
    List (StringToken × Node) → Except Fault (List (Nat × α))
  | [] => .ok []
  | (t, x) :: ms => do
    let k ← key t
    let v ← decode o x
    let es ← eachEntry key decode o ms
    .ok ((k, v) :: es)

/-- An object whose keys are numbers of 32 bits. -/
def wordMap {α : Type} (decode : Decoder α) : Decoder (List (UInt32 × α)) := fun o n ↦
  match n with
  | .object members tail => do
    let o ← o.enter
    let es ← eachEntry (natKey Text.bound32 "u32" o) decode o members
    match tail with
    | .key t ends => do
      let _ ← natKey Text.bound32 "u32" o t
      .error (colonFault ends)
    | _ => tail.finish
    .ok (es.map fun e ↦ (UInt32.ofNat e.1, e.2))
  | _ => n.mismatch "a map"

/-! ### Records -/

/-- The members of an object that are fields of a record, each read by the decoder that `field?`
gives for its name; other members are skipped. No field may come twice. -/
def fields {β : Type} (field? : String → Option (Decoder β)) (o : Origin) (tail : ObjectTail) :
    List String → List (StringToken × Node) → Except Fault (List β)
  | seen, [] =>
    match tail with
    | .key t ends => do
      let name ← t.value
      -- That a field comes again is noticed before its colon is looked for.
      if (field? name).isSome && seen.contains name then .error (.duplicateField name)
      else .error (colonFault ends)
    | _ => do
      tail.finish
      .ok []
  | seen, (t, x) :: ms => do
    let name ← t.value
    match field? name with
    | none => do
      x.skip
      fields field? o tail seen ms
    | some decode =>
      if seen.contains name then .error (.duplicateField name)
      else do
        let v ← decode o x
        let vs ← fields field? o tail (name :: seen) ms
        .ok (v :: vs)

/-- The value of a field, which has to be there. -/
def required {α : Type} (name : String) (v : Option α) : Except Fault α :=
  match v with
  | some v => .ok v
  | none => .error (.missingField name)

/-- **A record**, as an object of its fields or as an array of them in order. -/
structure Record (α : Type) where
  /-- What is expected, in the words of a message. -/
  expected : String
  /-- The record as an object. -/
  ofMembers : Origin → List (StringToken × Node) → ObjectTail → Except Fault α
  /-- The record as an array, and the items that are left. -/
  ofItems : Origin → List Node → ListTail → Except Fault (α × Nat × List Node)

/-- Read a record. -/
def Record.decode {α : Type} (r : Record α) : Decoder α := fun o n ↦
  match n with
  | .array items tail => do
    let o ← o.enter
    let (v, taken, rest) ← r.ofItems o items tail
    closeList o taken rest tail
    .ok v
  | .object members tail => do
    let o ← o.enter
    r.ofMembers o members tail
  | _ => n.mismatch r.expected

/-! ### Names -/

/-- The alternative with a name. -/
def named {α : Type} (alternatives : List (String × α)) (name : String) : Except Fault α :=
  match alternatives.lookup name with
  | some v => .ok v
  | none => .error (.unknownName name (alternatives.map Prod.fst))

/-- A name as a string; a kept name may be given by its position. -/
def name {α : Type} (alternatives : List (String × α)) : Decoder α := fun o n ↦
  match n with
  | .string t => do named alternatives (← t.value)
  | _ =>
    match o with
    | .live _ => n.mismatch "variant identifier"
    | .kept => do
      match ← n.kind with
      | .number (.nat i) =>
        match alternatives[i]? with
        | some a => .ok a.2
        | none =>
          .error (.wrongValue (.number (.nat i))
            ("variant index 0 <= i < " ++ String.ofList (Text.digits alternatives.length)))
      | k => .error (.wrongKind k "variant identifier")

/-- The content of a name that has none. -/
def unit : Decoder Unit := fun o n ↦
  match n, o with
  | .null, _ => .ok ()
  | .object [] .closed, .kept => .ok ()
  | n, _ => n.mismatch "unit"

/-- A name alone, or a name as the only key of an object, before a content that says nothing. -/
def bareName {α : Type} (alternatives : List (String × α)) : Decoder α := fun o n ↦
  match o, n with
  | _, .string t => do named alternatives (← t.value)
  | .live _, .object members tail => do
    let o ← o.enter
    match members with
    | (t, x) :: ms => do
      let v ← named alternatives (← t.value)
      unit o x
      -- The name is the only key: its object has to end here.
      match ms, tail with
      | [], .closed => .ok v
      | [], .cut => .error .endInObject
      | _, _ => .error .noValue
    | [] =>
      match tail with
      | .cut => .error .endInObject
      | .notKey => .error .keyNotString
      | .key t ends => do
        let _ ← named alternatives (← t.value)
        .error (colonFault ends)
      | _ => .error .noValue
  | .live _, .broken .absent => .error .endInValue
  | .live _, _ => .error .noValue
  | .kept, .object [(t, x)] _ => do
    let v ← named alternatives (← t.value)
    unit .kept x
    .ok v
  | .kept, .object _ _ => .error (.wrongValue .map "map with a single key")
  | .kept, n => n.mismatch "string or map"

/-! ### A name inside its content -/

/-- Check a node that is kept for later. -/
def keep (o : Origin) (n : Node) : Except Fault Unit :=
  match o with
  | .live room => n.sound room
  | .kept => .ok ()

/-- The name among the members of an object, and the other members. -/
def splitTag {α : Type} (tag : String) (decode : Decoder α) (o : Origin) (tail : ObjectTail) :
    Option α → List (StringToken × Node) → Except Fault (α × List (StringToken × Node))
  | found, [] =>
    match tail with
    | .key t ends => do
      let key ← t.value
      if key = tag && found.isSome then .error (.duplicateField tag)
      else .error (colonFault ends)
    | _ => do
      tail.finish
      let v ← required tag found
      .ok (v, [])
  | found, (t, x) :: ms => do
    let key ← t.value
    if key = tag then
      if found.isSome then .error (.duplicateField tag)
      else do
        let v ← decode o x
        splitTag tag decode o tail (some v) ms
    else do
      keep o x
      let (v, rest) ← splitTag tag decode o tail found ms
      .ok (v, (t, x) :: rest)

/-- Check all items that are kept for later. -/
def keepAll (o : Origin) : List Node → Except Fault Unit
  | [] => .ok ()
  | x :: xs => do
    keep o x
    keepAll o xs

/-- **A content with its name inside**: an object in which one member is the name, or an array that
begins with it. The content is read once the whole value has been seen, from what was kept of it. -/
def tagged {α : Type} (tag expected : String) (alternatives : List (String × Decoder α)) :
    Decoder α := fun o n ↦
  match n with
  | .array items tail => do
    let o ← o.enter
    match items with
    | [] => do
      tail.finish
      .error (.missingField tag)
    | x :: xs => do
      let content ← name alternatives o x
      -- The whole array is seen before its content is read.
      keepAll o xs
      tail.finish
      content .kept (.array xs .closed)
  | .object members tail => do
    let o ← o.enter
    let (content, rest) ← splitTag tag (name alternatives) o tail none members
    content .kept (.object rest .closed)
  | _ => n.mismatch expected

/-- The content of a name that has none, inside its object or array. -/
def noFields {α : Type} (v : α) : Decoder α := fun o n ↦
  match n with
  | .array items tail => do
    closeList o 0 items tail
    .ok v
  | _ => .ok v

/-! ### A name beside its content -/

/-- **A name and its content as two members of an object**, in either order, or as an array. -/
structure Adjacent (α β : Type) where
  /-- What is expected, in the words of a message. -/
  expected : String
  /-- The member that holds the name. -/
  tag : String
  /-- The member that holds the content. -/
  content : String
  /-- The names. -/
  alternatives : List (String × α)
  /-- The content that belongs to a name. -/
  decode : α → Decoder β
  /-- What a name without a content stands for. -/
  absent : α → Except Fault β

/-- What has been read of a name and its content. -/
inductive Half (α β : Type) where
  | neither
  | tag (a : α)
  | content (n : Node)
  | both (b : β)

namespace Adjacent

variable {α β : Type} (d : Adjacent α β)

/-- A second member of one name. -/
def duplicate? (half : Half α β) (key : String) : Option String :=
  match half with
  | .neither => none
  | .tag _ => if key = d.tag then some key else none
  | .content _ => if key = d.content then some key else none
  | .both _ => if key = d.tag || key = d.content then some key else none

/-- The value, when all members have been read. -/
def finish : Half α β → Except Fault β
  | .neither => .error (.missingField d.tag)
  | .tag a => d.absent a
  | .content _ => .error (.missingField d.tag)
  | .both b => .ok b

/-- Take one member into account. -/
def take (o : Origin) (half : Half α β) (key : String) (x : Node) : Except Fault (Half α β) :=
  if key = d.tag then do
    let a ← bareName d.alternatives o x
    match half with
    | .content c => Half.both <$> d.decode a .kept c
    | _ => .ok (.tag a)
  else
    match half with
    | .tag a => Half.both <$> d.decode a o x
    | _ => do
      keep o x
      .ok (.content x)

/-- The members of an object. -/
def ofMembers (o : Origin) (tail : ObjectTail) :
    Half α β → List (StringToken × Node) → Except Fault β
  | half, [] =>
    match tail with
    | .key t ends => do
      let key ← t.value
      match d.duplicate? half key with
      | some f => .error (.duplicateField f)
      | none => .error (colonFault ends)
    | _ => do
      tail.finish
      d.finish half
  | half, (t, x) :: ms => do
    let key ← t.value
    match d.duplicate? half key with
    | some f => .error (.duplicateField f)
    | none =>
      if key = d.tag || key = d.content then do
        let half ← d.take o half key x
        ofMembers o tail half ms
      else do
        x.skip
        ofMembers o tail half ms

/-- Read a name and its content. -/
def decoder : Decoder β := fun o n ↦
  match n with
  | .array items tail => do
    let o ← o.enter
    let (x, items) ← takeItem 0 d.expected items tail
    let a ← name d.alternatives o x
    let (y, items) ← takeItem 1 d.expected items tail
    let b ← d.decode a o y
    closeList o 2 items tail
    .ok b
  | .object members tail => do
    let o ← o.enter
    d.ofMembers o tail .neither members
  | _ => n.mismatch d.expected

end Adjacent

end TraceReconciler.Json
