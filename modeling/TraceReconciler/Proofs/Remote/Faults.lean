import Mathlib.Logic.Function.Basic
import TraceReconciler.Proofs.Files.Path
import TraceReconciler.Proofs.Remote.File

/-!
# A store on a disk that may fail

What a store in a file is worth shows when something goes wrong. Here the files of a disk are no
more than contents by path, and each thing that is done on the disk has a **fate**: it is done, or
it is refused, or the process stops in the middle of it or right after it. A file that could not be
written may have any content after that, or none; only a renaming is all or nothing.

**A push takes place when the renaming does.** Whatever else becomes of it, it has written at most
to the file beside the store, which is another file (`Conduct`, `push_conduct`). So the store holds
what the last push that took place has written, and no fetch can tell what happened to the file
beside it (`all_or_nothing`).
-/

namespace TraceReconciler

/-! ### Disks -/

/-- The contents of the files of a disk. Paths that are the same lead to the same file. -/
abbrev Disk : Type := Bool × List (List Char) → Option ByteArray

namespace Disk

variable {d : Disk} {p q : String}

/-- The content of a file, if there is one at the path. -/
def content? (d : Disk) (path : String) : Option ByteArray := d (Path.key path)

/-- The disk with other content at a path, or with nothing there. -/
def set (d : Disk) (path : String) (content : Option ByteArray) : Disk :=
  Function.update d (Path.key path) content

@[simp] theorem content?_set_self (d : Disk) (p : String) (x : Option ByteArray) :
    (d.set p x).content? p = x := Function.update_self _ _ _

theorem content?_set_of_ne (h : Path.key q ≠ Path.key p) (x : Option ByteArray) :
    (d.set p x).content? q = d.content? q := Function.update_of_ne h _ _

@[simp] theorem set_set (d : Disk) (p : String) (x y : Option ByteArray) :
    (d.set p x).set p y = d.set p y := Function.update_idem _ _ _

/-- Two disks hold the same, except perhaps at one path. -/
def SameBut (path : String) (d d' : Disk) : Prop :=
  ∀ q, Path.key q ≠ Path.key path → d.content? q = d'.content? q

/-- The same change at one path leaves no more difference than there was. -/
theorem SameBut.set {d' : Disk} (h : d.SameBut q d') (p : String) (x : Option ByteArray) :
    (d.set p x).SameBut q (d'.set p x) := by
  intro r hr
  by_cases hrp : Path.key r = Path.key p
  · rw [content?, content?, hrp]
    exact (content?_set_self d p x).trans (content?_set_self d' p x).symm
  · rw [content?_set_of_ne hrp, content?_set_of_ne hrp, h r hr]

/-- Changes at the path in question make no difference. -/
theorem SameBut.set_self {d' : Disk} (h : d.SameBut p d') (x y : Option ByteArray) :
    (d.set p x).SameBut p (d'.set p y) := by
  intro r hr
  rw [content?_set_of_ne hr, content?_set_of_ne hr, h r hr]

end Disk

/-! ### Fates -/

/-- What is done on a disk to write a store. -/
inductive Operation where
  | createDirectories
  | write
  | rename
deriving DecidableEq

/-- Where a process stopped: at which operation, and whether that had been done. -/
structure Halt where
  operation : Operation
  isDone : Bool
deriving DecidableEq

/-- What becomes of an operation, and what is left of it if it is not done. -/
inductive Fate (ρ : Type) where
  | done
  | refused (e : FileError) (left : ρ)
  /-- The process stops before the operation is done. -/
  | stopped (left : ρ)
  /-- The process stops once the operation is done. -/
  | doneLast

/-- What becomes of the operations of a push. A file that could not be written may be left as it was
or in any other way. -/
structure Course where
  createDirectories : Fate Unit := .done
  write : Fate (Option ByteArray → Option ByteArray) := .done
  rename : Fate Unit := .done

/-- What can be done on a disk by a process that may stop. The disk outlives the process. -/
abbrev Precarious : Type → Type := ExceptT Halt (StateM Disk)

theorem Precarious.bind_apply {α β : Type} (x : Precarious α) (k : α → Precarious β) (d : Disk) :
    (x >>= k) d = match x d with
      | (.ok a, d') => k a d'
      | (.error h, d') => (.error h, d') := by
  simp only [bind, ExceptT.bind, ExceptT.mk, StateT.bind]
  rcases x d with ⟨_ | _, d'⟩ <;> rfl

namespace Disk

/-- An operation with its fate: what it does, and how it leaves the disk if it is not done. -/
def undergo {ρ : Type} (o : Operation) (fate : Fate ρ) (does : Disk → Disk)
    (leaves : ρ → Disk → Disk) : Precarious (Except FileError Unit) := fun d ↦
  match fate with
  | .done => (.ok (.ok ()), does d)
  | .refused e left => (.ok (.error e), leaves left d)
  | .stopped left => (.error ⟨o, false⟩, leaves left d)
  | .doneLast => (.error ⟨o, true⟩, does d)

/-- **A disk as a way to reach files**, when operations take some course. -/
def access (f : Course) : FileAccess Precarious where
  read path := fun d ↦
    match d.content? path with
    | some content => (.ok (.ok content), d)
    | none => (.ok (.error .missing), d)
  createDirectories _ := undergo .createDirectories f.createDirectories id fun _ ↦ id
  write path content := undergo .write f.write (·.set path (some content))
    fun left d ↦ d.set path (left (d.content? path))
  rename source destination := fun d ↦
    match d.content? source with
    | none => (.ok (.error .missing), d)
    | some content => undergo .rename f.rename
        (fun d ↦ (d.set source none).set destination (some content)) (fun _ ↦ id) d

end Disk

namespace FileStore

/-! ### What a push does -/

/-- Whether a push took place: it says so, or the process stopped once the file was renamed. -/
def tookPlace : Except Halt (Except RemoteError Unit) → Bool
  | .ok (.ok ()) => true
  | .ok (.error _) => false
  | .error h => h = ⟨.rename, true⟩

/-- **What a push can do to a disk.** Its outcome is a matter of its course, not of the disk. -/
inductive Conduct (path : String) (c : Configuration) :
    (Disk → Except Halt (Except RemoteError Unit) × Disk) → Prop
  /-- It does not come to writing. -/
  | untouched {o : Except Halt (Except RemoteError Unit)} (ho : tookPlace o = false) :
      Conduct path c fun d ↦ (o, d)
  /-- It does not come to renaming, and leaves something beside the store. -/
  | unfinished {o : Except Halt (Except RemoteError Unit)} (ho : tookPlace o = false)
      (left : Option ByteArray → Option ByteArray) :
      Conduct path c fun d ↦ (o, d.set (temporary path) (left (d.content? (temporary path))))
  /-- The file that was written takes the place of the store. -/
  | finished {o : Except Halt (Except RemoteError Unit)} (ho : tookPlace o = true) :
      Conduct path c fun d ↦ (o, (d.set (temporary path) none).set path (some (encode c)))

variable {path : String} {c : Configuration}

/-- Making sure of the directory leaves the files alone. -/
theorem prepare_cases (f : Course) (path : String) :
    (∀ d, prepare (Disk.access f) path d = (.ok (.ok ()), d)) ∨
      (∃ e, ∀ d, prepare (Disk.access f) path d = (.ok (.error e), d)) ∨
      ∃ b, ∀ d, prepare (Disk.access f) path d = (.error ⟨.createDirectories, b⟩, d) := by
  cases hdirectory : directory? path with
  | none => exact .inl fun d ↦ by rw [prepare, hdirectory]; rfl
  | some s =>
    have hprepare (d : Disk) : prepare (Disk.access f) path d =
        match f.createDirectories with
        | .done => (.ok (.ok ()), d)
        | .refused e _ =>
          (.ok (.error (.failed ("Failed to create directory " ++ s ++ ": " ++ e.message))), d)
        | .stopped _ => (.error ⟨.createDirectories, false⟩, d)
        | .doneLast => (.error ⟨.createDirectories, true⟩, d) := by
      rw [prepare, hdirectory]
      dsimp only
      rw [Precarious.bind_apply]
      simp only [Disk.access, Disk.undergo]
      cases f.createDirectories <;> rfl
    cases hfate : f.createDirectories with
    | done => exact .inl fun d ↦ by rw [hprepare, hfate]
    | refused e left => exact .inr (.inl ⟨_, fun d ↦ by rw [hprepare, hfate]⟩)
    | stopped left => exact .inr (.inr ⟨false, fun d ↦ by rw [hprepare, hfate]⟩)
    | doneLast => exact .inr (.inr ⟨true, fun d ↦ by rw [hprepare, hfate]⟩)

/-- Once the directory is there, a push goes as the writing and the renaming go. -/
theorem push_of_prepared {f : Course} {path : String} (c : Configuration)
    (h : ∀ d, prepare (Disk.access f) path d = (.ok (.ok ()), d)) (d : Disk) :
    push (Disk.access f) path c d =
      let t := temporary path
      match f.write with
      | .refused e left =>
        (.ok (.error (.failed ("Failed to write " ++ t ++ ": " ++ e.message))),
          d.set t (left (d.content? t)))
      | .stopped left => (.error ⟨.write, false⟩, d.set t (left (d.content? t)))
      | .doneLast => (.error ⟨.write, true⟩, d.set t (some (encode c)))
      | .done =>
        match f.rename with
        | .refused e _ =>
          (.ok (.error (.failed
            ("Failed to rename " ++ t ++ " to " ++ path ++ ": " ++ e.message))),
            d.set t (some (encode c)))
        | .stopped _ => (.error ⟨.rename, false⟩, d.set t (some (encode c)))
        | .doneLast => (.error ⟨.rename, true⟩, (d.set t none).set path (some (encode c)))
        | .done => (.ok (.ok ()), (d.set t none).set path (some (encode c))) := by
  rw [push, Precarious.bind_apply, h]
  dsimp only
  rw [Precarious.bind_apply]
  simp only [Disk.access, Disk.undergo]
  cases f.write with
  | done =>
    dsimp only
    rw [Precarious.bind_apply]
    simp only [Disk.content?_set_self, Disk.set_set]
    cases f.rename <;> rfl
  | _ => rfl

theorem push_conduct (f : Course) (path : String) (c : Configuration) :
    Conduct path c (push (Disk.access f) path c) := by
  rcases prepare_cases f path with h | ⟨e, h⟩ | ⟨b, h⟩
  · have hpush := funext (push_of_prepared c h)
    cases hwrite : f.write with
    | done =>
      cases hrename : f.rename with
      | done | doneLast =>
        simp only [hwrite, hrename] at hpush
        exact hpush ▸ .finished rfl
      | refused _ _ | stopped _ =>
        -- What is left beside the store is then all that was to be written, a case of anything.
        simp only [hwrite, hrename] at hpush
        exact hpush ▸ .unfinished rfl fun _ ↦ some (encode c)
    | refused _ left | stopped left =>
      simp only [hwrite] at hpush
      exact hpush ▸ .unfinished rfl left
    | doneLast =>
      simp only [hwrite] at hpush
      exact hpush ▸ .unfinished rfl fun _ ↦ some (encode c)
  · have hpush : push (Disk.access f) path c = fun d ↦ (.ok (.error e), d) := funext fun d ↦ by
      rw [push, Precarious.bind_apply, h]
      rfl
    exact hpush ▸ .untouched rfl
  · have hpush : push (Disk.access f) path c = fun d ↦ (.error ⟨.createDirectories, b⟩, d) :=
      funext fun d ↦ by
        rw [push, Precarious.bind_apply, h]
    exact hpush ▸ .untouched (by cases b <;> rfl)

/-! ### What a fetch answers -/

/-- What the content of the store means, or that there is none. -/
def reading (path : String) : Option ByteArray → Except RemoteError Configuration
  | none => .error .notFound
  | some content => decode path content

theorem fetch_apply (f : Course) (path : String) (d : Disk) :
    fetch (Disk.access f) path d = (.ok (reading path (d.content? path)), d) := by
  rw [fetch, Precarious.bind_apply]
  simp only [Disk.access]
  cases d.content? path <;> rfl

/-- A fetch from a disk answers something, and leaves the disk as it is. -/
def Answers (path : String) (d : Disk) (a : Except RemoteError Configuration) : Prop :=
  ∀ f, fetch (Disk.access f) path d = (.ok a, d)

theorem answers_iff {path : String} {d : Disk} {a : Except RemoteError Configuration} :
    Answers path d a ↔ reading path (d.content? path) = a := by
  refine ⟨fun h ↦ ?_, fun h f ↦ h ▸ fetch_apply f path d⟩
  have hfetch := (fetch_apply {} path d).symm.trans (h {})
  exact Except.ok.inj (congrArg Prod.fst hfetch)

theorem reading_encode (path : String) (c : Configuration) :
    reading path (some (encode c)) = .ok c := by
  rw [reading, encode, decode_of_ofText (Snapshot.ofText_prettyText c)]
  rfl

/-- A store that has a name is another file than the one beside it. -/
theorem key_temporary_ne {path : String} (h : (Path.name? path).isSome = true) :
    Path.key (temporary path) ≠ Path.key path :=
  Path.key_beside_ne h (by decide) (by decide)

/-! ### Many calls -/

/-- A call on the store, and what came of it. -/
abbrev Exchange : Type := (k : RemoteCall) × Except Halt k.Answer

/-- Calls on the store, one after the other. After a process that stopped, another one goes on. -/
def exchangeAll (path : String) : List (RemoteCall × Course) → Disk → List Exchange × Disk
  | [], d => ([], d)
  | (k, f) :: l, d =>
    let here := remote (Disk.access f) path k d
    let rest := exchangeAll path l here.2
    (⟨k, here.1⟩ :: rest.1, rest.2)

/-- What a fetch answers after an exchange, if it would have answered `a` before. -/
def answerAfter (a : Except RemoteError Configuration) : Exchange → Except RemoteError Configuration
  | ⟨.fetch, _⟩ => a
  | ⟨.push c, o⟩ => if tookPlace o then .ok c else a

/-- **Every fetch answers what the last push that took place has written**; before there was one, it
answers `a`. -/
def Consistent : Except RemoteError Configuration → List Exchange → Prop
  | _, [] => True
  | a, ⟨.fetch, x⟩ :: l => x = .ok a ∧ Consistent a l
  | a, ⟨.push c, o⟩ :: l => Consistent (answerAfter a ⟨.push c, o⟩) l

section

variable {path : String} {d : Disk} (hname : (Path.name? path).isSome = true)

include hname

/-- What a push leaves in the store, by whether it took place. -/
theorem content?_of_push (f : Course) (c : Configuration) (d : Disk) :
    (push (Disk.access f) path c d).2.content? path =
      if tookPlace (push (Disk.access f) path c d).1 then some (encode c) else d.content? path := by
  have hne := (key_temporary_ne hname).symm
  have h := push_conduct f path c
  generalize push (Disk.access f) path c = run at h
  cases h with
  | untouched ho => rw [if_neg (by rw [ho]; exact Bool.false_ne_true)]
  | unfinished ho left =>
    rw [if_neg (by rw [ho]; exact Bool.false_ne_true)]
    exact Disk.content?_set_of_ne hne _
  | finished ho =>
    rw [if_pos ho]
    exact Disk.content?_set_self _ _ _

/-- One exchange, as a fetch sees it. -/
theorem Answers.after {a : Except RemoteError Configuration} (h : Answers path d a)
    (k : RemoteCall) (f : Course) :
    Answers path (remote (Disk.access f) path k d).2
      (answerAfter a ⟨k, (remote (Disk.access f) path k d).1⟩) := by
  cases k with
  | fetch =>
    rw [remote, h f]
    exact h
  | push c =>
    rw [answers_iff, remote, content?_of_push hname, answerAfter]
    split
    · exact reading_encode path c
    · exact answers_iff.1 h

theorem consistent_exchangeAll (l : List (RemoteCall × Course))
    {a : Except RemoteError Configuration} (h : Answers path d a) :
    Consistent a (exchangeAll path l d).1 ∧
      Answers path (exchangeAll path l d).2 ((exchangeAll path l d).1.foldl answerAfter a) := by
  induction l generalizing d a with
  | nil => exact ⟨trivial, h⟩
  | cons e l ih =>
    obtain ⟨k, f⟩ := e
    obtain ⟨hrest, hlast⟩ := ih (h.after hname k f)
    refine ⟨?_, hlast⟩
    cases k with
    | fetch => exact ⟨congrArg Prod.fst (h f), hrest⟩
    | push c => exact hrest

end

/-- **What lies beside the store makes no difference** to any exchange, nor to any other file after
it. -/
theorem exchange_congr {path : String} {d d' : Disk} (h : d.SameBut (temporary path) d')
    (hname : (Path.name? path).isSome = true) (k : RemoteCall) (f : Course) :
    (remote (Disk.access f) path k d').1 = (remote (Disk.access f) path k d).1 ∧
      (remote (Disk.access f) path k d).2.SameBut (temporary path)
        (remote (Disk.access f) path k d').2 := by
  cases k with
  | fetch =>
    rw [remote, fetch_apply, fetch_apply, h path (key_temporary_ne hname).symm]
    exact ⟨rfl, h⟩
  | push c =>
    have hconduct := push_conduct f path c
    rw [remote]
    generalize push (Disk.access f) path c = run at hconduct
    cases hconduct with
    | untouched ho => exact ⟨rfl, h⟩
    | unfinished ho left => exact ⟨rfl, h.set_self _ _⟩
    | finished ho => exact ⟨rfl, (h.set_self _ _).set _ _⟩

theorem exchangeAll_congr {path : String} {d d' : Disk} (h : d.SameBut (temporary path) d')
    (hname : (Path.name? path).isSome = true) (l : List (RemoteCall × Course)) :
    (exchangeAll path l d').1 = (exchangeAll path l d).1 ∧
      (exchangeAll path l d).2.SameBut (temporary path) (exchangeAll path l d').2 := by
  induction l generalizing d d' with
  | nil => exact ⟨rfl, h⟩
  | cons e l ih =>
    obtain ⟨k, f⟩ := e
    obtain ⟨hhere, hnext⟩ := exchange_congr h hname k f
    obtain ⟨hrest, hlast⟩ := ih hnext
    exact ⟨by rw [exchangeAll, exchangeAll, hhere, hrest], hlast⟩

/-! ### All or nothing -/

/-- **What a store on a disk is worth**, whatever its file and the one beside it hold. -/
structure Withstands (path : String) (d : Disk) : Prop where
  /-- A fetch has an answer. -/
  answered : ∃ a, Answers path d a
  /-- A push for which nothing goes wrong succeeds. -/
  undisturbed : ∀ c, (push (Disk.access {}) path c d).1 = .ok (.ok ())
  /-- A push that fails, or stops before the file was renamed, leaves the store as it was: its
  content, and the answer to a fetch. -/
  kept : ∀ c f, tookPlace (push (Disk.access f) path c d).1 = false →
    (push (Disk.access f) path c d).2.content? path = d.content? path ∧
      ∀ a, Answers path d a → Answers path (push (Disk.access f) path c d).2 a
  /-- After a push that succeeds, or stops after that, a fetch brings what was pushed. -/
  written : ∀ c f, tookPlace (push (Disk.access f) path c d).1 = true →
    Answers path (push (Disk.access f) path c d).2 (.ok c)
  /-- So it goes on, over any fetches and pushes and whatever becomes of each. -/
  consistent : ∀ l a, Answers path d a → Consistent a (exchangeAll path l d).1 ∧
    Answers path (exchangeAll path l d).2 ((exchangeAll path l d).1.foldl answerAfter a)
  /-- What lies beside the store makes no difference to what comes of any of them, nor to what the
  store holds in the end. -/
  unaffected : ∀ l d', d.SameBut (temporary path) d' →
    (exchangeAll path l d').1 = (exchangeAll path l d).1 ∧
      (exchangeAll path l d').2.content? path = (exchangeAll path l d).2.content? path

/-- **A push is all or nothing.** The store of any path that ends with a name is as it was or holds
what was pushed, whatever fails and wherever the process stops, and what is left beside it is never
seen. -/
theorem all_or_nothing {path : String} (hname : (Path.name? path).isSome = true) (d : Disk) :
    Withstands path d where
  answered := ⟨_, answers_iff.2 rfl⟩
  undisturbed c := by
    have hprepared (d : Disk) : prepare (Disk.access {}) path d = (.ok (.ok ()), d) := by
      rw [prepare]
      cases directory? path <;> rfl
    rw [push_of_prepared c hprepared]
  kept c f ho := by
    have hcontent := content?_of_push hname f c d
    rw [ho, if_neg Bool.false_ne_true] at hcontent
    refine ⟨hcontent, fun a ha ↦ ?_⟩
    rw [answers_iff, hcontent]
    exact answers_iff.1 ha
  written c f ho := by
    rw [answers_iff, content?_of_push hname, if_pos ho]
    exact reading_encode path c
  consistent l a ha := consistent_exchangeAll hname l ha
  unaffected l d' h := by
    obtain ⟨houtcomes, hdisks⟩ := exchangeAll_congr h hname l
    exact ⟨houtcomes, (hdisks path (key_temporary_ne hname).symm).symm⟩

/-- A store that is not there yet, with something unreadable beside it. A push that stops while it
writes leaves it so; one that succeeds after that is what a fetch brings. -/
theorem all_or_nothing_interrupted :
    let path := "data/s.json"
    let junk : Option ByteArray := some "junk".toUTF8
    let d := Disk.set (fun _ ↦ none) (temporary path) junk
    let stop : Course := { write := .stopped fun _ ↦ junk }
    let c : Configuration := { gc := some (.ofList [7]) }
    (Path.name? path).isSome = true ∧
      tookPlace (push (Disk.access stop) path ∅ d).1 = false ∧
      (push (Disk.access stop) path ∅ d).2.content? path = none ∧
      tookPlace (push (Disk.access {}) path c d).1 = true ∧
      Answers path (push (Disk.access {}) path c d).2 (.ok c) ∧
      Answers path d (.error .notFound) ∧
      Consistent (.error .notFound) (exchangeAll path
        [(.push ∅, stop), (.fetch, {}), (.push c, {}), (.fetch, {})] d).1 := by
  intro path junk d stop c
  have hname : (Path.name? path).isSome = true := by decide
  have hnone : d.content? path = none :=
    Disk.content?_set_of_ne (key_temporary_ne hname).symm junk
  have habsent : Answers path d (.error .notFound) := by
    rw [answers_iff, hnone]
    rfl
  have hstopped : tookPlace (push (Disk.access stop) path ∅ d).1 = false := by decide
  have hdone : tookPlace (push (Disk.access {}) path c d).1 = true := by decide
  have h := all_or_nothing hname d
  exact ⟨hname, hstopped, (h.kept ∅ stop hstopped).1.trans hnone, hdone, h.written c {} hdone,
    habsent, (h.consistent _ _ habsent).1⟩

end FileStore

end TraceReconciler
