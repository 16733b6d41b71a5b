import TraceReconciler.Files.Tree
import TraceReconciler.Proofs.Configuration.RoundTrip
import TraceReconciler.Proofs.Files.Tree
import TraceReconciler.Remote.File

/-!
# A store in a file holds a configuration

What a store in a file holds is said without the store: there is no file, or there is one with a
text that is a snapshot (`FileStore.Holds`). A fetch brings what is held (`fetch_eq`), whatever
layout the text has, and a write that succeeds makes the store hold what was written
(`holds_of_push`): the text of the snapshot is read as that snapshot, and the file into which it was
written is the one that takes the place of the store.
-/

namespace TraceReconciler

namespace FileStore

/-- **What a store in a file holds**: nothing if there is no file, and the configuration of the
snapshot that the text of the file is. -/
def Holds (path : String) (t : FileTree) : Option Configuration → Prop
  | none => t.read path = .error .missing
  | some c => ∃ text s, t.read path = .ok text.toUTF8 ∧ Snapshot.ofText text = .ok s ∧
      s.configuration = c

/-- The answer to a fetch, of a store that holds a configuration or nothing. -/
def reply : Option Configuration → Except RemoteError Configuration
  | none => .error .notFound
  | some c => .ok c

variable {path : String} {t t' : FileTree}

theorem decode_of_ofText {text : String} {s : Snapshot} (h : Snapshot.ofText text = .ok s) :
    decode path text.toUTF8 = .ok s.configuration := by
  rw [decode, Text.ofUtf8?_toUTF8]
  dsimp only
  rw [h]

/-- A fetch reads the file, and leaves it alone. -/
theorem fetch_of_read {content : ByteArray} (h : t.read path = .ok content) :
    fetch FileTree.access path t = (decode path content, t) := by
  simp only [fetch, FileTree.access, bind, StateT.bind, h]
  rfl

theorem fetch_of_missing (h : t.read path = .error .missing) :
    fetch FileTree.access path t = (.error .notFound, t) := by
  simp only [fetch, FileTree.access, bind, StateT.bind, h]
  rfl

/-- What a store holds depends on where its path ends, and not on the path. -/
theorem Holds.of_target_eq {q : String} {held : Option Configuration} (h : Holds path t held)
    (heq : t.target q = t.target path) : Holds q t held := by
  have hread : t.read q = t.read path := by rw [FileTree.read, FileTree.read, heq]
  cases held with
  | none => exact hread.trans h
  | some c =>
    obtain ⟨text, s, hpath, hs, hc⟩ := h
    exact ⟨text, s, hread.trans hpath, hs, hc⟩

/-- **A fetch brings what the store holds.** -/
theorem fetch_eq {held : Option Configuration} (h : Holds path t held) :
    fetch FileTree.access path t = (reply held, t) := by
  cases held with
  | none => exact fetch_of_missing h
  | some c =>
    obtain ⟨text, s, hread, hs, rfl⟩ := h
    rw [fetch_of_read hread, decode_of_ofText hs]
    rfl

/-- A change that is made is one that is not refused. -/
theorem eq_ok_of_change {f : FileTree → Except FileError FileTree}
    (h : FileTree.change f t = (.ok (), t')) : f t = .ok t' := by
  rw [FileTree.change] at h
  split at h
  · next heq => rw [heq, (Prod.mk.inj h).2]
  · cases (Prod.mk.inj h).1

theorem write_eq_ok {p : String} {content : ByteArray}
    (h : FileTree.access.write p content t = (.ok (), t')) : t.write p content = .ok t' :=
  eq_ok_of_change (f := fun t ↦ t.write p content) h

theorem rename_eq_ok {p q : String} (h : FileTree.access.rename p q t = (.ok (), t')) :
    t.rename p q = .ok t' :=
  eq_ok_of_change (f := fun t ↦ t.rename p q) h

/-- What succeeds has done all that it goes on with, if it does not go on after a failure. -/
theorem exists_of_bind {σ ε ε' : Type} {f : StateM σ (Except ε Unit)}
    {k : Except ε Unit → StateM σ (Except ε' Unit)} {x y : σ}
    (hk : ∀ e z, (k (.error e) z).1 ≠ .ok ()) (h : (f >>= k) x = (.ok (), y)) :
    ∃ z, f x = (.ok (), z) ∧ k (.ok ()) z = (.ok (), y) := by
  have hbind : k (f x).1 (f x).2 = (.ok (), y) := h
  rcases hf : f x with ⟨_ | a, z⟩
  · rw [hf] at hbind
    exact absurd (congrArg Prod.fst hbind) (hk _ z)
  · rw [hf] at hbind
    exact ⟨z, rfl, hbind⟩

/-- A write that succeeds has written the file beside the store, and moved it. -/
theorem exists_of_push {c : Configuration} (h : push FileTree.access path c t = (.ok (), t')) :
    ∃ t₁ t₂ : FileTree, t₁.write (temporary path) (encode c) = .ok t₂ ∧
      t₂.rename (temporary path) path = .ok t' := by
  obtain ⟨t₁, -, h⟩ := exists_of_bind (fun _ _ h ↦ by cases h) h
  obtain ⟨t₂, hwrite, h⟩ := exists_of_bind (fun _ _ h ↦ by cases h) h
  obtain ⟨t₃, hrename, h⟩ := exists_of_bind (fun _ _ h ↦ by cases h) h
  obtain rfl : t₃ = t' := (Prod.mk.inj h).2
  exact ⟨t₁, t₂, write_eq_ok hwrite, rename_eq_ok hrename⟩

/-- **A store that was written holds what was written.** -/
theorem holds_of_push {c : Configuration} (h : push FileTree.access path c t = (.ok (), t')) :
    Holds path t' (some c) := by
  obtain ⟨t₁, t₂, hwrite, hrename⟩ := exists_of_push h
  have hread := FileTree.read_of_rename hrename (FileTree.read_of_write hwrite)
  exact ⟨_, _, hread, Snapshot.ofText_prettyText c, rfl⟩

end FileStore

end TraceReconciler
