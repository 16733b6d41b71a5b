import TraceReconciler.Text.Utf8

/-!
# Paths

A path is a text, and its parts are what stands between the slashes. An empty part says nothing, and
neither does a `.`, except where a relative path begins with it; all other parts are **components**.
The last component is the name of a file unless it is `.` or `..`, and the **parent** is the path up
to the component before it, written as it was written.

A path is never looked up here: what it leads to is a matter of the tree of files.
-/

namespace TraceReconciler.Path

/-- The parts of a path. -/
def parts : List Char → List (List Char)
  | [] => [[]]
  | c :: r =>
    if c = '/' then [] :: parts r
    else
      match parts r with
      | [] => [[c]]
      | p :: ps => (c :: p) :: ps

/-- The path with some parts. -/
def join : List (List Char) → List Char
  | [] => []
  | [p] => p
  | p :: ps => p ++ '/' :: join ps

theorem parts_ne_nil (cs : List Char) : parts cs ≠ [] := by
  cases cs with
  | nil => simp [parts]
  | cons c r =>
    rw [parts]
    split
    · simp
    · split <;> simp

/-- **A path is made of its parts.** -/
theorem join_parts (cs : List Char) : join (parts cs) = cs := by
  induction cs with
  | nil => rfl
  | cons c r ih =>
    rw [parts]
    split
    · next h =>
      subst h
      match hp : parts r with
      | [] => exact absurd hp (parts_ne_nil r)
      | p :: ps => rw [hp] at ih; rw [join, ih, List.nil_append]; simp
    · match hp : parts r with
      | [] => exact absurd hp (parts_ne_nil r)
      | [p] => rw [hp] at ih; simpa [join] using ih
      | p :: q :: ps => rw [hp] at ih; simpa [join] using ih

/-- Whether a part is a component; a `.` is one only where a relative path begins. -/
def isComponent (first : Bool) (p : List Char) : Bool :=
  !p.isEmpty && (first || p != ['.'])

/-- The parts of a path, each with whether it is a component. -/
def marked (first : Bool) : List (List Char) → List (Bool × List Char)
  | [] => []
  | p :: ps => (isComponent first p, p) :: marked false ps

/-- Whether a path begins at the root. -/
def isAbsolute (cs : List Char) : Bool := cs.head? == some '/'

/-- The parts of a path from the last component backwards, without the root. -/
def backwards (cs : List Char) : List (Bool × List Char) :=
  let ps := if isAbsolute cs then marked false (parts cs.tail) else marked true (parts cs)
  ps.reverse.dropWhile fun p ↦ !p.1

/-- The path that ends with the last component of some parts, given from the end backwards. -/
def upTo (absolute : Bool) (r : List (Bool × List Char)) : List Char :=
  let body := join ((r.dropWhile fun p ↦ !p.1).reverse.map Prod.snd)
  if absolute then '/' :: body else body

/-- The path up to the last component but one; none if there is no component. -/
def parentChars? (cs : List Char) : Option (List Char) :=
  match backwards cs with
  | [] => none
  | _ :: r => some (upTo (isAbsolute cs) r)

/-- The last component, if it is a name. -/
def nameChars? (cs : List Char) : Option (List Char) :=
  match backwards cs with
  | [] => none
  | p :: _ => if p.2 = ['.'] ∨ p.2 = ['.', '.'] then none else some p.2

/-- A path with a name after it. -/
def appendChars (base name : List Char) : List Char :=
  if base.isEmpty || base.getLast? == some '/' then base ++ name else base ++ '/' :: name

/-- The path beside a path whose name has something added; without a name, the path within. -/
def besideChars (extension cs : List Char) : List Char :=
  match nameChars? cs with
  | some n => appendChars ((parentChars? cs).getD []) (n ++ extension)
  | none => appendChars cs extension

/-- **The parent of a path.** -/
def parent? (path : String) : Option String := (parentChars? path.toList).map String.ofList

/-- **The name at the end of a path.** -/
def name? (path : String) : Option String := (nameChars? path.toList).map String.ofList

/-- **The path of the file beside a file** whose name has an extension added to it. -/
def beside (extension path : String) : String :=
  String.ofList (besideChars extension.toList path.toList)

/-- What is left of some parts, given from the end backwards, without one component after the
other. -/
def ancestorsOf (absolute : Bool) : List (Bool × List Char) → List String
  | [] => []
  | p :: r =>
    if p.1 then String.ofList (upTo absolute r) :: ancestorsOf absolute r
    else ancestorsOf absolute r

/-- **The parents of a path** from the nearest to the farthest. -/
def ancestors (path : String) : List String :=
  ancestorsOf (isAbsolute path.toList) (backwards path.toList)

/-- The components of a path, without the root. -/
def components (path : String) : List (List Char) :=
  ((backwards path.toList).filter Prod.fst).reverse.map Prod.snd

/-- **Whether two paths are the same**, however many slashes and dots that say nothing they are
written with. -/
def isSame (path path' : String) : Bool :=
  isAbsolute path.toList == isAbsolute path'.toList && components path == components path'

/-- The names and dots that lead along a path. -/
def steps (path : String) : List String :=
  ((parts path.toList).filter fun p ↦ !p.isEmpty).map String.ofList

/-- Whether a path ends with a slash. -/
def endsOpen (path : String) : Bool := path.toList.getLast? == some '/'

/-- Whether a path holds the character that no path may hold. -/
def hasNul (path : String) : Bool := path.toList.contains '\x00'

/-- The octets of the shortest path that is too long. -/
def tooManyOctets : Nat := 4096

/-- Whether a path is longer than a path can be. -/
def isTooLong (path : String) : Bool := tooManyOctets ≤ path.utf8ByteSize

example : (["a//b.json", "./s.json", "x/..", ".", "a/", ""].map (beside ".tmp")) =
    ["a/b.json.tmp", "./s.json.tmp", "x/../.tmp", "./.tmp", "a.tmp", ".tmp"] := by decide

example : (["a//b.json", "./s.json", "x/..", ".", "/x", ""].map parent?) =
    [some "a", some ".", some "x", some "", some "/", none] := by decide

example : (["a//b/./c", "/x/y", "./s", ""].map ancestors) =
    [["a//b", "a", ""], ["/x", "/"], [".", ""], []] := by decide

example : (["a/b/", "a//b", "a/./b/.", "./a/b", "/a/b", "a/../a/b"].map (isSame "a/b")) =
    [true, true, true, false, false, false] := by decide

end TraceReconciler.Path
