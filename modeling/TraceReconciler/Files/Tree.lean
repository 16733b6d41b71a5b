import TraceReconciler.Files.Access
import TraceReconciler.Ordered.Map

/-!
# A tree of files

Directories and files as a value. A **place** is the list of names that lead to an entry from the
root, and one place is that of the **working directory**, where relative paths begin. A path is
followed name by name; each name on the way has to be that of a directory, `.` stays where it is and
`..` goes one up, from the root to the root. Where a path ends is a `Target`: a name in a directory
that is there, or a directory that the path names by dots.

Following a path keeps the directories that it has come through (`Trail`), so that each step looks
at one directory only, and a deep tree costs no more than its depth.

`FileTree.access` makes a tree a way to reach files, with the failures of a real one.
-/

namespace TraceReconciler

/-- What stands at a name. -/
inductive Entry where
  | file (content : ByteArray)
  /-- A directory, with the names in it in order and what stands at each. -/
  | directory (entries : List (String × Entry))

/-- What is in a directory. -/
abbrev Entries : Type := List (String × Entry)

/-- The names that lead to an entry from the root. -/
abbrev Place : Type := List String

namespace Entry

open SortedMap (find? insertInto)

/-- What stands at a place within an entry. -/
def at? : Entry → Place → Option Entry
  | e, [] => some e
  | .file _, _ :: _ => none
  | .directory es, s :: p =>
    match find? s es with
    | none => none
    | some e => at? e p

/-- An entry with another one at a place within it. -/
def put : Entry → Place → Entry → Entry
  | _, [], new => new
  | .file c, _ :: _, _ => .file c
  | .directory es, s :: p, new =>
    .directory (insertInto s (put ((find? s es).getD (.directory [])) p new) es)

/-- An entry without what stands at a place within it. -/
def erase : Entry → Place → Entry
  | e, [] => e
  | .file c, _ :: _ => .file c
  | .directory es, [s] => .directory (es.filter fun e ↦ e.1 ≠ s)
  | .directory es, s :: p =>
    match find? s es with
    | none => .directory es
    | some e => .directory (insertInto s (erase e p) es)

mutual

/-- All that an entry is, under a name: directories have a slash after their names, files a
content. -/
def listing (name : String) : Entry → List (String × Option ByteArray)
  | .file content => [(name, some content)]
  | .directory es => (name ++ "/", none) :: listingAll (name ++ "/") es

/-- All that is in a directory, each name after the name of the directory. -/
def listingAll (directory : String) : List (String × Entry) → List (String × Option ByteArray)
  | [] => []
  | (n, e) :: es => listing (directory ++ n) e ++ listingAll directory es

end

end Entry

/-- The way to a directory from the root, the nearest step first: each name, and what is in the
directory of that name. -/
abbrev Trail : Type := List (String × Entries)

/-- The place of the directory that a trail leads to. -/
def Trail.place (trail : Trail) : Place := (trail.map Prod.fst).reverse

/-- Directories and files. -/
structure FileTree where
  /-- What is in the root. -/
  root : Entries := []
  /-- The place of the working directory. -/
  working : Place := []

/-- Where a path ends. -/
inductive Target where
  /-- At a name in a directory; the path may have a slash after the name. -/
  | entry (p : Place) (endsOpen : Bool)
  /-- At a directory which it does not name. -/
  | directory (p : Place)

namespace FileTree

/-- Directories that are each within the one before, and nothing else. -/
def nested : Place → Entries
  | [] => []
  | s :: p => [(s, .directory (nested p))]

/-- **A tree with nothing in it** but the working directory and those above it. -/
def bare (working : Place) : FileTree := { root := nested working, working }

/-- What stands at a place. -/
def entry? (t : FileTree) (p : Place) : Option Entry := (Entry.directory t.root).at? p

/-- The tree with another root; that is always a directory. -/
def withRoot (t : FileTree) : Entry → FileTree
  | .directory es => { t with root := es }
  | .file _ => t

/-- Puts an entry at a place. -/
def put (t : FileTree) (p : Place) (e : Entry) : FileTree :=
  t.withRoot ((Entry.directory t.root).put p e)

/-- Takes away the entry at a place. -/
def erase (t : FileTree) (p : Place) : FileTree := t.withRoot ((Entry.directory t.root).erase p)

/-- Whether a name is longer than a directory can hold. -/
def isTooLong (name : String) : Bool := 255 < name.utf8ByteSize

/-- What is in the directory that a trail leads to. -/
def within (t : FileTree) : Trail → Entries
  | [] => t.root
  | (_, es) :: _ => es

/-- The directory that some steps lead to. -/
def enter (t : FileTree) : Trail → List String → Except FileError Trail
  | trail, [] => .ok trail
  | trail, s :: rest =>
    if s = "." then enter t trail rest
    else if s = ".." then enter t trail.tail rest
    else if isTooLong s then .error .nameTooLong
    else
      match SortedMap.find? s (t.within trail) with
      | none => .error .missing
      | some (.file _) => .error .notDirectory
      | some (.directory es) => enter t ((s, es) :: trail) rest

/-- The place of the directory that some steps lead to, from the root or, on a relative path, from
the working directory. -/
def reach (t : FileTree) (path : String) (steps : List String) : Except FileError Place :=
  let start := if Path.isAbsolute path.toList then [] else t.working
  Trail.place <$> t.enter [] (start ++ steps)

/-- **Where a path ends.** -/
def target (t : FileTree) (path : String) : Except FileError Target :=
  if Path.hasNul path then .error .unexpectedNul
  else if path = "" then .error .missing
  else if Path.isTooLong path then .error .nameTooLong
  else
    let steps := Path.steps path
    match steps.getLast? with
    | none => .ok (.directory [])
    | some s =>
      if s = "." ∨ s = ".." then Target.directory <$> t.reach path steps
      else do
        let p ← t.reach path steps.dropLast
        if isTooLong s then .error .nameTooLong
        else .ok (.entry (p ++ [s]) (Path.endsOpen path))

/-- Whether a path leads to a directory. -/
def isDirectory (t : FileTree) (path : String) : Bool :=
  match t.target path with
  | .ok (.directory _) => true
  | .ok (.entry p _) =>
    match t.entry? p with
    | some (.directory _) => true
    | _ => false
  | .error _ => false

/-- The content of a file. -/
def read (t : FileTree) (path : String) : Except FileError ByteArray := do
  match ← t.target path with
  | .directory _ => .error .isDirectory
  | .entry p endsOpen =>
    match t.entry? p with
    | none => .error .missing
    | some (.directory _) => .error .isDirectory
    | some (.file content) => if endsOpen then .error .notDirectory else .ok content

/-- The tree with other content in a file. -/
def write (t : FileTree) (path : String) (content : ByteArray) : Except FileError FileTree := do
  match ← t.target path with
  | .directory _ => .error .isDirectory
  | .entry p endsOpen =>
    match t.entry? p with
    | some (.directory _) => .error .isDirectory
    -- A file cannot be made under a name with a slash after it.
    | _ => if endsOpen then .error .isDirectory else .ok (t.put p (.file content))

/-- The tree with one more directory. -/
def makeDirectory (t : FileTree) (path : String) : Except FileError FileTree := do
  match ← t.target path with
  | .directory _ => .error .exists
  | .entry p _ =>
    match t.entry? p with
    | some _ => .error .exists
    | none => .ok (t.put p (.directory []))

/-- The tree with a file at another place, over the file that stood there. -/
def rename (t : FileTree) (source destination : String) : Except FileError FileTree := do
  match ← t.target source, ← t.target destination with
  | .entry p openSource, .entry q openDestination =>
    match t.entry? p with
    | none => .error .missing
    | some (.directory _) => .error .isDirectory
    | some (.file content) =>
      if openSource ∨ openDestination then .error .notDirectory
      else
        match t.entry? q with
        | some (.directory _) => .error .isDirectory
        | _ => .ok ((t.erase p).put q (.file content))
  | _, _ => .error .busy

/-- Makes a directory unless it is there. -/
def ensureDirectory (t : FileTree) (path : String) : Except FileError Unit × FileTree :=
  if path = "" then (.ok (), t)
  else
    match t.makeDirectory path with
    | .ok t => (.ok (), t)
    | .error e => if t.isDirectory path then (.ok (), t) else (.error e, t)

/-- Makes a directory, given the paths above it. What has been made stays if more cannot be made. -/
def createFrom (t : FileTree) (path : String) : List String → Except FileError Unit × FileTree
  | [] => t.ensureDirectory path
  | p :: above =>
    match t.ensureDirectory path with
    -- Something above is not there yet: it is made first.
    | (.error .missing, t) =>
      match t.createFrom p above with
      | (.ok (), t) => t.ensureDirectory path
      | failure => failure
    | made => made

/-- Makes a directory, and those above it, unless it is there. -/
def createDirectories (t : FileTree) (path : String) : Except FileError Unit × FileTree :=
  t.createFrom path (Path.ancestors path)

/-- A change that may be refused, as an action on a tree. -/
def change (f : FileTree → Except FileError FileTree) : StateM FileTree (Except FileError Unit) :=
  fun t ↦
    match f t with
    | .ok t => (.ok (), t)
    | .error e => (.error e, t)

/-- **A tree as a way to reach files.** -/
def access : FileAccess (StateM FileTree) where
  read path := fun t ↦ (t.read path, t)
  createDirectories path := fun t ↦ t.createDirectories path
  write path content := change fun t ↦ t.write path content
  rename source destination := change fun t ↦ t.rename source destination

/-! ### Looking at a tree, and preparing one -/

/-- The tree without what a path leads to and all that is within it, if anything is there. -/
def remove? (t : FileTree) (path : String) : Option FileTree :=
  match t.target path with
  | .ok (.entry p endsOpen) =>
    match t.entry? p with
    | none => none
    | some (.file _) => if endsOpen then none else some (t.erase p)
    | some (.directory _) => some (t.erase p)
  | _ => none

/-- The tree with a file, or a directory if there is no content, and the directories above it. -/
def place (t : FileTree) (path : String) : Option ByteArray → Except FileError Unit × FileTree
  | none => t.createDirectories path
  | some content =>
    match t.createDirectories ((Path.parent? path).getD "") with
    | (.error e, t) => (.error e, t)
    | (.ok (), t) => change (fun t ↦ t.write path content) t

/-- All directories and files within the working directory: the name of each, that of a directory
with a slash after it, and the content of a file. -/
def listing (t : FileTree) : List (String × Option ByteArray) :=
  match t.entry? t.working with
  | some (.directory es) => Entry.listingAll "" es
  | _ => []

end FileTree

end TraceReconciler
