import TraceReconciler.Text.Alphanumeric
import TraceReconciler.Text.Blank

/-!
# Environment files

A file of variables with their values, one `NAME=value` to a line, for those variables that are not
set already. Values can be quoted and then go on over several lines, can hold the values of other
variables (`$NAME`, or `${NAME}`), and can have a comment after them.

A file is read in three steps. **Lines** are put together first, since a quotation may hold ends of
lines. A line is then an **assignment** of pieces, each a character or a variable to be looked up
(`Line.ofChars`). The look-ups come last (`EnvironmentFile.load`), in whatever monad variables can
be looked up; they see the assignments before them.

Reading stops at the first line that means nothing; what was assigned before it stays. A value that
no variable can have is another matter: nothing can be done with such a file.
-/

namespace TraceReconciler.EnvironmentFile

open Text

/-! ### Lines -/

/-- What a character in a line stands in. -/
inductive Reading where
  /-- Nothing in particular. -/
  | complete
  /-- Just after a blank; this is where a comment can begin. -/
  | blank
  /-- Just after a backslash. -/
  | escape
  | weakOpen
  | weakEscape
  | strongOpen
  | strongEscape
  | comment
deriving DecidableEq

/-- What comes after a character outside of quotations. -/
def Reading.outside (c : Char) : Reading :=
  if c = '\\' then .escape else if c = '"' then .weakOpen else if c = '\'' then .strongOpen
  else .complete

/-- What comes after a character. -/
def Reading.next (c : Char) : Reading → Reading
  | .blank => if c = '#' then .comment else outside c
  | .escape => .complete
  | .complete => if isBlank c ∧ c ≠ '\n' ∧ c ≠ '\r' then .blank else outside c
  | .weakOpen => if c = '\\' then .weakEscape else if c = '"' then .complete else .weakOpen
  | .weakEscape => .weakOpen
  | .strongOpen => if c = '\\' then .strongEscape else if c = '\'' then .complete else .strongOpen
  | .strongEscape => .strongOpen
  | .comment => .comment

/-- What the end of some characters stands in, and the characters before a comment. -/
def Reading.scan (s : Reading) : List Char → Reading × List Char
  | [] => (s, [])
  | c :: r =>
    if s.next c = .comment then (.comment, [])
    else
      let (t, kept) := scan (s.next c) r
      (t, c :: kept)

/-- The characters up to each end of a line, which is kept. -/
def physicalLines : List Char → List (List Char)
  | [] => []
  | c :: r =>
    if c = '\n' then [c] :: physicalLines r
    else
      match physicalLines r with
      | [] => [[c]]
      | l :: ls => (c :: l) :: ls

/-- The characters before the end of a line. -/
def withoutEnd (cs : List Char) : List Char :=
  match cs.reverse with
  | '\n' :: '\r' :: r => r.reverse
  | '\n' :: r => r.reverse
  | _ => cs

/-- **Lines put together**: as long as the end of a line stands in a quotation, or just after a
backslash or a blank, the next line belongs to it. Nothing stands for a line that never ends. -/
def logicalLines (begun : List Char) (s : Reading) : List (List Char) → List (Option (List Char))
  | [] => if s = .complete then [] else [none]
  | l :: rest =>
    -- A line that begins as a comment does is nothing, however long it is.
    if (trimLeft (begun ++ l)).head? = some '#' then some [] :: logicalLines [] .complete rest
    else
      match s.scan l with
      | (.comment, kept) => some (begun ++ kept) :: logicalLines [] .complete rest
      | (.complete, _) => some (withoutEnd (begun ++ l)) :: logicalLines [] .complete rest
      | (s, _) => logicalLines (begun ++ l) s rest

/-! ### Values -/

/-- A piece of a value. -/
inductive Piece where
  | literal (c : Char)
  /-- The value of another variable. -/
  | value (name : String)
deriving DecidableEq

/-- What a character of a value stands in. Within weak quotations, escapes and other variables are
possible as they are outside. -/
inductive Mode where
  | plain
  | weak
  | strong
  /-- After the value; only a comment can follow. -/
  | over
  | escaped (isWeak : Bool)
  /-- In the name of a variable without braces. -/
  | bare (isWeak : Bool) (name : List Char)
  /-- In the name of a variable in braces. -/
  | braced (isWeak : Bool) (name : List Char)

/-- What an escape or a name of a variable stands in. -/
def Mode.back : Bool → Mode
  | true => .weak
  | false => .plain

/-- The character that an escape means. -/
def escape? (c : Char) : Option Char :=
  if c = 'n' then some '\n'
  else if c = '\\' ∨ c = '\'' ∨ c = '"' ∨ c = '$' ∨ c = ' ' then some c
  else none

/-- **The pieces of a value.** The character that ends a name without braces always stands for
itself, unless it begins another name. -/
def pieces? : Mode → List Char → Option (List Piece)
  | .plain, [] => some []
  | .over, [] => some []
  | .escaped false, [] => some []
  | .bare false name, [] => some [.value (String.ofList name)]
  | _, [] => none
  | .over, c :: r =>
    if c = ' ' ∨ c = '\t' then pieces? .over r else if c = '#' then some [] else none
  | .escaped w, c :: r => do
    let e ← escape? c
    some (.literal e :: (← pieces? (.back w) r))
  | .strong, c :: r =>
    if c = '\'' then pieces? .plain r else (.literal c :: ·) <$> pieces? .strong r
  | .bare w name, c :: r =>
    if isAlphanumeric c then pieces? (.bare w (name ++ [c])) r
    else if c = '{' ∧ name = [] then pieces? (.braced w []) r
    else
      (.value (String.ofList name) :: ·) <$>
        if c = '$' then pieces? (.bare w []) r else (.literal c :: ·) <$> pieces? (.back w) r
  | .braced w name, c :: r =>
    if c = '}' then (.value (String.ofList name) :: ·) <$> pieces? (.back w) r
    else pieces? (.braced w (name ++ [c])) r
  | .weak, c :: r =>
    if c = '$' then pieces? (.bare true []) r
    else if c = '"' then pieces? .plain r
    else if c = '\\' then pieces? (.escaped true) r
    else (.literal c :: ·) <$> pieces? .weak r
  | .plain, c :: r =>
    if c = '$' then pieces? (.bare false []) r
    else if c = '\'' then pieces? .strong r
    else if c = '"' then pieces? .weak r
    else if c = '\\' then pieces? (.escaped false) r
    else if c = ' ' ∨ c = '\t' then pieces? .over r
    else (.literal c :: ·) <$> pieces? .plain r

/-! ### Assignments -/

/-- What a line means. -/
inductive Line where
  | nothing
  | assignment (name : String) (value : List Piece)
  /-- It means nothing that could be done. -/
  | bad

/-- The name at the beginning of some characters, and the characters after it. -/
def name? (cs : List Char) : Option (List Char × List Char) :=
  match cs with
  | [] => none
  | c :: _ =>
    if c.isAlpha || c == '_' then
      some (cs.span fun d ↦ d.isAlphanum || d == '_' || d == '.')
    else none

/-- The characters after an equals sign. -/
def afterEquals? : List Char → Option (List Char)
  | '=' :: r => some r
  | _ => none

/-- The name in front of a value, and the value. The word `export` may stand before the name; it is
a name itself if an equals sign follows. -/
def target? (cs : List Char) : Option (List Char × List Char) := do
  let (name, r) ← name? cs
  match afterEquals? (trimLeft r) with
  | some v => some (name, v)
  | none =>
    if name = "export".toList then
      let (name, r) ← name? (trimLeft r)
      some (name, ← afterEquals? (trimLeft r))
    else none

/-- Whether nothing, or nothing but a comment, is there. -/
def isVoid (cs : List Char) : Bool := cs.isEmpty || cs.head? == some '#'

/-- **What a line means.** -/
def Line.ofChars (cs : List Char) : Line :=
  let cs := trim cs
  if isVoid cs then .nothing
  else
    match target? cs with
    | none => .bad
    | some (name, value) =>
      let value := trimLeft value
      if isVoid value then .assignment (String.ofList name) []
      else
        match pieces? .plain value with
        | some ps => .assignment (String.ofList name) ps
        | none => .bad

/-- The assignments of some lines up to the first that is bad or never ends. -/
def assignments : List (Option (List Char)) → List (String × List Piece)
  | [] => []
  | none :: _ => []
  | some l :: rest =>
    match Line.ofChars l with
    | .nothing => assignments rest
    | .assignment name value => (name, value) :: assignments rest
    | .bad => []

/-- The mark of byte order, which a file may begin with. -/
def byteOrderMark : Char := '\uFEFF'

/-- The assignments of a file. -/
def ofChars (cs : List Char) : List (String × List Piece) :=
  let cs := match cs with
    | [] => []
    | c :: r => if c = byteOrderMark then r else c :: r
  assignments (logicalLines [] .complete (physicalLines cs))

/-! ### Looking up -/

/-- What is left of some characters after others that they begin with. -/
def after? : List Char → List Char → Option (List Char)
  | [], cs => some cs
  | _ :: _, [] => none
  | d :: ds, c :: cs => if c = d then after? ds cs else none

/-- **The value of a variable** among some variables: that of the first whose name and value, with
an equals sign between them, begin with the name asked for and an equals sign. A name with an equals
sign in it can thus be found where a value has one. -/
def valueIn? (known : List (String × String)) (name : String) : Option String :=
  known.findSome? fun v ↦
    String.ofList <$> after? (name.toList ++ ['=']) (v.1.toList ++ '=' :: v.2.toList)

/-- Whether a text holds the character that no variable can hold. -/
def hasNul (text : String) : Bool := text.toList.contains '\x00'

section

variable {m : Type → Type} [Monad m] (lookup : String → m (Option String))

/-- The value of a variable, be it set already or by the file. -/
def find (loaded : List (String × String)) (name : String) : m (Option String) := do
  if name = "" ∨ hasNul name then pure none
  else
    match ← lookup name with
    | some v => pure (some v)
    | none => pure (valueIn? loaded name)

/-- The text of a value. -/
def textOf (loaded : List (String × String)) : List Piece → m (List Char)
  | [] => pure []
  | .literal c :: ps => do pure (c :: (← textOf loaded ps))
  | .value name :: ps => do
    let v ← find lookup loaded name
    let r ← textOf loaded ps
    pure ((v.getD "").toList ++ r)

/-- Some assignments take place, after those that did already. The error is the name of a variable
that was to have a value which no variable can have. -/
def assign (loaded : List (String × String)) :
    List (String × List Piece) → m (Except String (List (String × String)))
  | [] => pure (.ok loaded)
  | (name, ps) :: rest => do
    let text ← String.ofList <$> textOf lookup loaded ps
    match ← find lookup loaded name with
    | some _ => assign loaded rest
    | none =>
      if hasNul text then pure (.error name) else assign (loaded ++ [(name, text)]) rest

/-- **The variables that a file sets**, given those that are set already. -/
def load (text : String) : m (Except String (List (String × String))) :=
  assign lookup [] (ofChars text.toList)

end

example :
    (Id.run (load (fun _ ↦ pure none)
      "A=1 # one\nexport B=\"x ${A}\"\nA=2\nC='$A'\nD=a b\nE=3")).toOption =
      some [("A", "1"), ("B", "x 1"), ("C", "$A")] := by decide +kernel

example : valueIn? [("A", "1"), ("B", "C=2"), ("B", "3")] "B=C" = some "2" := by decide

end TraceReconciler.EnvironmentFile
