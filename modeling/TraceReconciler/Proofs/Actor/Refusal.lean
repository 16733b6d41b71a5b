import TraceReconciler.Proofs.Actor.Agreement
import TraceReconciler.Proofs.Actor.Turn
import TraceReconciler.Proofs.Remote.File

/-!
# What cannot be read is never overwritten

A store that answers every fetch with a failure, and never says that it was not written, is not
written by an actor: there is no configuration to be edited or submitted, and only an unwritten
store is seeded. Starting again changes nothing, since the fetch that comes first fails again. The
invariant is `System.Shut`; what a store has to do for it is `Refuses`.

A file whose text is no snapshot in the format in use refuses in this way, with the same failure
whenever it is read.
-/

namespace TraceReconciler

variable {σ : Type}

/-- **A store refuses to be read**: at one value, every fetch fails for a reason of some kind, and
this kind does not include that the store was never written. Nothing else happens to the store. -/
structure Refuses (w : StoreBehaviour σ) (x : σ) (C : RemoteError → Prop) : Prop where
  begins {y : σ} (h : w.Begins .fetch x y) : y = x
  ends {r : RemoteCall.fetch.Answer} {y : σ} (h : w.Ends .fetch x r y) :
    y = x ∧ ∃ e, r = .error e ∧ C e
  not_stirs {y : σ} : ¬ w.Stirs x y
  not_notFound : ¬ C .notFound

namespace System

open Journal

variable {w : StoreBehaviour σ} {x : σ} {C : RemoteError → Prop} {s : System σ}

/-- An actor has met nothing but failures: it is about to fetch, or it has failed to. -/
def Failing (C : RemoteError → Prop) (a : Actor) : Prop :=
  match a.phase with
  | .waiting => True
  | .calling t => t = .opening
  | .idle => ∃ e, C e ∧ a.state = .error e
  | .stopped => ∃ e, C e ∧ a.state = .error e
  | .killed => False

theorem Failing.of_calling {a : Actor} (h : Failing C a) {t : Stage} (hp : a.phase = .calling t) :
    t = .opening := by
  rw [Failing, hp] at h
  exact h

theorem Failing.of_resting {a : Actor} (h : Failing C a)
    (hp : a.phase = .idle ∨ a.phase = .stopped) : ∃ e, C e ∧ a.state = .error e := by
  rcases hp with hp | hp
  · rw [Failing, hp] at h
    exact h
  · rw [Failing, hp] at h
    exact h

/-- **A command changes nothing about it**: edits, submissions and resets are ignored after a
failure, and who starts again fetches. -/
theorem Failing.moves {a a' : Actor} {es : List Event} (hm : a.Moves es a') (hp : a.phase = .idle)
    (h : Failing C a) : Failing C a' ∧ pushes es = [] := by
  obtain ⟨e, he, hstate⟩ := h.of_resting (.inl hp)
  cases hm with
  | opened hp' => simp [hp] at hp'
  | passed hp' hr => simp [hp] at hp'
  | settled hp' hr => simp [hp] at hp'
  | ignored _ hq hx => exact ⟨⟨e, he, hstate⟩, rfl⟩
  | edited _ hq hl hb =>
    rw [hstate] at hb
    cases hb
  | submitted _ hq hs =>
    rw [hstate] at hs
    cases hs
  | cleared _ hq hb =>
    rw [hstate] at hb
    cases hb
  | restarted _ hq hs => exact ⟨rfl, rfl⟩
  | closed _ hq => exact ⟨⟨e, he, hstate⟩, rfl⟩
  | ended _ hq hh => exact ⟨⟨e, he, hstate⟩, rfl⟩

/-- A fetch that fails, but not for want of a configuration, is the end of the errand. -/
theorem answer_opening {a : Actor} {e : RemoteError} (h : e ≠ .notFound) :
    a.answer .opening (.error e) =
      (({ a with state := .error e, version := a.version + 1 } : Actor).rest,
        [.answered .fetch (.error e), .published a.state (.error e)]) := by
  cases e with
  | notFound => exact absurd rfl h
  | failed m => rfl

/-- The store is as it was, nothing has been written, and the actor has met nothing but
failures. -/
structure Shut (x : σ) (C : RemoteError → Prop) (s : System σ) : Prop where
  store_eq : s.store = x
  pushes_eq : pushes s.journal = []
  failing : Failing C s.actor

/-- **A store that refuses to be read stays shut**, whatever is sent and whenever. -/
theorem shut (hw : Refuses w x C) (h : Reachable w x s) : Shut x C s := by
  induction h with
  | refl => exact ⟨rfl, rfl, trivial⟩
  | @tail s s' _ hstep ih =>
    obtain ⟨hstore, hpushes, hfailing⟩ := ih
    cases hstep with
    | send c hg hh => exact ⟨hstore, hpushes, hfailing⟩
    | release hh => exact ⟨hstore, hpushes, hfailing⟩
    | stir hy =>
      rw [hstore] at hy
      exact absurd hy hw.not_stirs
    | start hp =>
      refine ⟨hstore, ?_, rfl⟩
      rw [adopt, pushes_append, hpushes]
      rfl
    | call hp hb hy =>
      obtain rfl := hfailing.of_calling hp
      rw [hstore] at hy
      exact ⟨hw.begins hy, hpushes, hfailing⟩
    | @answer t r y hp hb hy =>
      obtain rfl := hfailing.of_calling hp
      rw [hstore] at hy
      obtain ⟨rfl, e, rfl, he⟩ := hw.ends hy
      have hne : e ≠ .notFound := fun heq ↦ hw.not_notFound (heq ▸ he)
      rw [answer_opening hne]
      refine ⟨rfl, ?_, e, he, rfl⟩
      rw [adopt, pushes_append, hpushes]
      rfl
    | @take r hr =>
      obtain ⟨a', es⟩ := r
      obtain ⟨hfailing', hes⟩ := hfailing.moves (Actor.moves_of_take? hr) (phase_of_take? hr)
      refine ⟨hstore, ?_, hfailing'⟩
      rw [adopt, pushes_append, hpushes, hes]
      rfl

end System

/-! ### A file that is no snapshot -/

namespace FileStore

variable {path text : String} {t : FileTree} {e : EngineError}

/-- The failure of every fetch from a file whose text is refused. -/
def refusal (path : String) (e : EngineError) : RemoteError := .failed (path ++ ": " ++ e.message)

theorem decode_of_refused (h : Snapshot.ofText text = .error e) :
    decode path text.toUTF8 = .error (refusal path e) := by
  rw [decode, Text.ofUtf8?_toUTF8]
  dsimp only
  rw [h]
  rfl

theorem fetch_of_refused (hread : t.read path = .ok text.toUTF8)
    (h : Snapshot.ofText text = .error e) :
    (FileTree.timed path).finish .fetch t = (.error (refusal path e), t) := by
  have hfetch := fetch_of_read hread
  rw [decode_of_refused h] at hfetch
  exact hfetch

theorem refuses (hread : t.read path = .ok text.toUTF8) (h : Snapshot.ofText text = .error e) :
    Refuses (FileTree.timed path).behaviour t (· = refusal path e) where
  begins hy := hy
  ends hy := by
    obtain ⟨rfl, rfl⟩ := Prod.mk.inj ((fetch_of_refused hread h).symm.trans hy)
    exact ⟨rfl, _, rfl, rfl⟩
  not_stirs := id
  not_notFound := nofun

/-- A fetch that is given up has failed as well. -/
theorem refuses_limited (hread : t.read path = .ok text.toUTF8)
    (h : Snapshot.ofText text = .error e) :
    Refuses (FileTree.timed path).limited t (· ≠ .notFound) where
  begins hy := hy
  ends hy := by
    rcases hy with hy | ⟨⟨limit, rfl⟩, rfl⟩
    · obtain ⟨rfl, rfl⟩ := Prod.mk.inj ((fetch_of_refused hread h).symm.trans hy)
      exact ⟨rfl, _, rfl, nofun⟩
    · exact ⟨rfl, _, rfl, nofun⟩
  not_stirs := id
  not_notFound h := h rfl

end FileStore

namespace System

open Journal

variable {path text : String} {t : FileTree} {e : EngineError}

/-- **A file that cannot be read is never overwritten.** Let the text of a file be refused, for
whatever reason. Whichever commands are sent to an actor on this file, and whenever, nothing is ever
written and the files are as they were, even if calls are given up. If none is, the actor reports
the same failure, after the first fetch and after every action. The message of a fault in the text
stops before ` at line L column C` (`Json.Fault.message`); that place, too, is the same whenever the
same text is read. -/
theorem refused_never_written (hread : t.read path = .ok text.toUTF8)
    (hrefused : Snapshot.ofText text = .error e) :
    (∀ {s : System FileTree}, Reachable (FileTree.timed path).limited t s →
      pushes s.journal = [] ∧ s.store = t) ∧
    ∀ {s : System FileTree}, Reachable (FileTree.timed path).behaviour t s →
      pushes s.journal = [] ∧ s.store = t ∧
        (s.actor.phase = .idle ∨ s.actor.phase = .stopped →
          s.actor.state = .error (.failed (path ++ ": " ++ e.message))) := by
  refine ⟨fun h ↦ ?_, fun h ↦ ?_⟩
  · have hshut := shut (FileStore.refuses_limited hread hrefused) h
    exact ⟨hshut.pushes_eq, hshut.store_eq⟩
  · have hshut := shut (FileStore.refuses hread hrefused) h
    refine ⟨hshut.pushes_eq, hshut.store_eq, fun hp ↦ ?_⟩
    obtain ⟨_, rfl, hstate⟩ := hshut.failing.of_resting hp
    exact hstate

/-- A snapshot in a format to come is neither taken for an empty store nor written over by a
reset, and who tries again is told the same. -/
theorem refused_never_written_version :
    ∃ (t : FileTree) (s : System FileTree),
      t.read "store.json" = .ok (Snapshot.text ⟨2, ∅⟩).toUTF8 ∧
      Snapshot.ofText (Snapshot.text ⟨2, ∅⟩) = .error (.versionMismatch 1 2) ∧
      Reachable (FileTree.timed "store.json").behaviour t s ∧
      handled s.journal = [.reset, .retry] ∧ pushes s.journal = [] ∧ s.store = t ∧
      s.actor.state = .error (.failed
        ("store.json: " ++ (EngineError.versionMismatch 1 2).message)) := by
  let text : String := Snapshot.text ⟨2, ∅⟩
  let t : FileTree := { root := [("store.json", .file text.toUTF8)] }
  have hread : t.read "store.json" = .ok text.toUTF8 := rfl
  have hrefused : Snapshot.ofText text = .error (.versionMismatch 1 2) :=
    Snapshot.ofText_text_of_ne (s := ⟨2, ∅⟩) (by decide)
  have hfetch := FileStore.fetch_of_refused hread hrefused
  have h₀ : Reachable (FileTree.timed "store.json").behaviour t (initial t) := .refl
  have h₁ := ((h₀.tail (.start rfl)).tail (.call rfl rfl rfl)).tail (.answer rfl rfl hfetch)
  have h₂ := (h₁.tail (.send (.handle .reset) rfl rfl)).tail (.send (.handle .retry) rfl rfl)
  have h₃ := ((h₂.tail (.take rfl)).tail (.take rfl)).tail (.call rfl rfl rfl)
  have h₄ := h₃.tail (.answer rfl rfl hfetch)
  obtain ⟨hpushes, hstore, hstate⟩ := (refused_never_written hread hrefused).2 h₄
  exact ⟨t, _, hread, hrefused, h₄, rfl, hpushes, hstore, hstate (.inl rfl)⟩

end System

end TraceReconciler
