import TraceReconciler.Files.Tree
import TraceReconciler.Proofs.Outcome

/-!
# Laws of a tree of files

Files are written over and moved, and what was a directory stays one. So a path that led somewhere
leads to the same place after that, and what was written is what is read (`read_of_write`), also
after the file was moved over another one (`read_of_rename`).

The laws begin with the entries of one tree. Putting a file at a place, or taking one away, leaves
every directory that does not stand at this place or beneath it
(`Entry.IsDirectory.put`, `Entry.IsDirectory.erase`), and beneath a file there is nothing. Where a
path leads is a matter of the directories on its way alone, so it leads there in every tree that
keeps them (`FileTree.Keeps.target`).
-/

namespace TraceReconciler

open SortedMap (find? insertInto find?_insertInto)

namespace Entry

/-- What stands at a place is a directory. -/
def IsDirectory (e : Entry) (p : Place) : Prop := ∃ es, e.at? p = some (.directory es)

theorem isDirectory_nil (es : Entries) : IsDirectory (.directory es) [] := ⟨es, rfl⟩

theorem at?_cons {es : Entries} {s : String} {e : Entry} (h : find? s es = some e) (p : Place) :
    (directory es).at? (s :: p) = e.at? p := by
  rw [at?, h]

theorem at?_cons_of_none {es : Entries} {s : String} (h : find? s es = none) (p : Place) :
    (directory es).at? (s :: p) = none := by
  rw [at?, h]

/-- What stands beneath a name stands within what the name is that of. -/
theorem exists_of_at?_cons {e₀ e : Entry} {s : String} {p : Place} (h : e₀.at? (s :: p) = some e) :
    ∃ es e₁, e₀ = .directory es ∧ find? s es = some e₁ ∧ e₁.at? p = some e := by
  cases e₀ with
  | file c => cases h
  | directory es =>
    cases hs : find? s es with
    | none =>
      rw [at?_cons_of_none hs] at h
      cases h
    | some e₁ =>
      rw [at?_cons hs] at h
      exact ⟨es, e₁, rfl, hs, h⟩

/-- **A place is followed in two steps.** -/
theorem at?_append (e : Entry) (p q : Place) :
    e.at? (p ++ q) = (e.at? p).bind fun e' ↦ e'.at? q := by
  induction p generalizing e with
  | nil => rfl
  | cons s p ih =>
    cases e with
    | file c => rfl
    | directory es =>
      cases hs : find? s es with
      | none => rw [List.cons_append, at?_cons_of_none hs, at?_cons_of_none hs, Option.bind_none]
      | some e => rw [List.cons_append, at?_cons hs, at?_cons hs, ih]

/-- **Nothing stands beneath what is no directory.** -/
theorem IsDirectory.not_prefix {e : Entry} {p r : Place} (hr : e.IsDirectory r)
    (hp : ¬ e.IsDirectory p) : ¬ p <+: r := by
  rintro ⟨q, rfl⟩
  obtain ⟨es, h⟩ := hr
  rw [at?_append] at h
  cases he : e.at? p with
  | none =>
    rw [he] at h
    cases h
  | some e' =>
    rw [he, Option.bind_some] at h
    cases e' with
    | directory es' => exact hp ⟨es', he⟩
    | file c =>
      cases q with
      | nil => cases h
      | cons s q => cases h

/-! ### Putting -/

theorem put_directory (es : Entries) (s : String) (p : Place) (new : Entry) :
    (directory es).put (s :: p) new =
      .directory (insertInto s (put ((find? s es).getD (.directory [])) p new) es) := rfl

/-- **What is put somewhere leaves the directories elsewhere.** -/
theorem IsDirectory.put {e : Entry} {r : Place} (hr : e.IsDirectory r) {p : Place}
    (hp : ¬ p <+: r) (new : Entry) : (e.put p new).IsDirectory r := by
  induction p generalizing e r with
  | nil => exact absurd r.nil_prefix hp
  | cons s p ih =>
    cases e with
    | file c => exact hr
    | directory es =>
      rw [put_directory]
      cases r with
      | nil => exact isDirectory_nil _
      | cons s' r =>
        obtain ⟨ds, hds⟩ := hr
        obtain ⟨_, e', heq, hs', he'⟩ := exists_of_at?_cons hds
        obtain rfl := Entry.directory.inj heq
        by_cases hss : s = s'
        · subst hss
          obtain ⟨ds', hds'⟩ := ih ⟨ds, he'⟩ fun h ↦ hp (List.cons_prefix_cons.2 ⟨rfl, h⟩)
          refine ⟨ds', ?_⟩
          rw [hs', Option.getD_some, at?_cons (by rw [find?_insertInto, if_pos rfl]), hds']
        · refine ⟨ds, ?_⟩
          rw [at?_cons (by rw [find?_insertInto, if_neg hss, hs']), he']

/-- **What is put at a name in a directory stands there.** -/
theorem at?_put {e : Entry} {p : Place} (hp : e.IsDirectory p) (s : String) (new : Entry) :
    (e.put (p ++ [s]) new).at? (p ++ [s]) = some new := by
  induction p generalizing e with
  | nil =>
    obtain ⟨es, hes⟩ := hp
    obtain rfl := Option.some.inj hes
    rw [List.nil_append, put_directory, at?_cons (by rw [find?_insertInto, if_pos rfl])]
    rfl
  | cons s' p ih =>
    obtain ⟨ds, hds⟩ := hp
    obtain ⟨es, e', rfl, hs', he'⟩ := exists_of_at?_cons hds
    rw [List.cons_append, put_directory, hs', Option.getD_some,
      at?_cons (by rw [find?_insertInto, if_pos rfl])]
    exact ih ⟨ds, he'⟩

/-! ### Erasing -/

theorem find?_filter_ne {s s' : String} (h : s ≠ s') (es : Entries) :
    find? s' (es.filter fun e ↦ e.1 ≠ s) = find? s' es := by
  induction es with
  | nil => rfl
  | cons e es ih =>
    obtain ⟨k, e⟩ := e
    rw [List.filter_cons]
    by_cases hk : k = s
    · subst hk
      simp only [ne_eq, not_true_eq_false, decide_false, Bool.false_eq_true, if_false, find?,
        if_neg h]
      exact ih
    · simp only [ne_eq, hk, not_false_eq_true, decide_true, if_true, find?]
      split
      · rfl
      · exact ih

/-- Taking something away beneath a name leaves the other names of the directory, and the name too
if something on the way to it is left. -/
theorem exists_erase_cons (es : Entries) (s : String) (p : Place) :
    ∃ es', (directory es).erase (s :: p) = .directory es' ∧
      (∀ s', s ≠ s' → find? s' es' = find? s' es) ∧
      (p ≠ [] → ∀ e, find? s es = some e → find? s es' = some (e.erase p)) := by
  cases p with
  | nil =>
    exact ⟨es.filter fun e ↦ e.1 ≠ s, rfl, fun s' h ↦ find?_filter_ne h es, fun h ↦ absurd rfl h⟩
  | cons s₁ p =>
    cases hs : find? s es with
    | none =>
      refine ⟨es, ?_, fun _ _ ↦ rfl, fun _ e he ↦ nomatch he⟩
      rw [Entry.erase, hs]
      exact nofun
    | some e =>
      refine ⟨insertInto s (e.erase (s₁ :: p)) es, ?_, fun s' h ↦ ?_, fun _ e' he' ↦ ?_⟩
      · rw [Entry.erase, hs]
        exact nofun
      · rw [find?_insertInto, if_neg h]
      · obtain rfl := Option.some.inj he'
        rw [find?_insertInto, if_pos rfl]

/-- **What is taken away somewhere leaves the directories elsewhere.** -/
theorem IsDirectory.erase {e : Entry} {r : Place} (hr : e.IsDirectory r) {p : Place}
    (hp : ¬ p <+: r) : (e.erase p).IsDirectory r := by
  induction p generalizing e r with
  | nil => exact hr
  | cons s p ih =>
    cases e with
    | file c => exact hr
    | directory es =>
      obtain ⟨es', heq, hother, hsame⟩ := exists_erase_cons es s p
      rw [heq]
      cases r with
      | nil => exact isDirectory_nil es'
      | cons s' r =>
        obtain ⟨ds, hds⟩ := hr
        obtain ⟨_, e', hes, hs', he'⟩ := exists_of_at?_cons hds
        obtain rfl := Entry.directory.inj hes
        by_cases hss : s = s'
        · subst hss
          have hnil : p ≠ [] := by
            rintro rfl
            exact hp (List.cons_prefix_cons.2 ⟨rfl, r.nil_prefix⟩)
          obtain ⟨ds', hds'⟩ := ih ⟨ds, he'⟩ fun h ↦ hp (List.cons_prefix_cons.2 ⟨rfl, h⟩)
          exact ⟨ds', (at?_cons (hsame hnil e' hs') r).trans hds'⟩
        · exact ⟨ds, (at?_cons ((hother s' hss).trans hs') r).trans he'⟩

end Entry

namespace FileTree

variable {t t' : FileTree} {path : String}

/-! ### Directories of a tree -/

/-- There is a directory at a place. -/
def HasDirectory (t : FileTree) (p : Place) : Prop := (Entry.directory t.root).IsDirectory p

theorem entry?_put (t : FileTree) {p : Place} (hp : p ≠ []) (e : Entry) (q : Place) :
    FileTree.entry? (t.put p e) q = ((Entry.directory t.root).put p e).at? q := by
  cases p with
  | nil => exact absurd rfl hp
  | cons s p => rfl

theorem exists_erase (es : Entries) (p : Place) :
    ∃ es', (Entry.directory es).erase p = .directory es' := by
  cases p with
  | nil => exact ⟨es, rfl⟩
  | cons s p =>
    obtain ⟨es', heq, -⟩ := Entry.exists_erase_cons es s p
    exact ⟨es', heq⟩

theorem working_put (t : FileTree) (p : Place) (e : Entry) : (t.put p e).working = t.working := by
  rw [FileTree.put, withRoot.eq_def]
  split <;> rfl

theorem working_erase (t : FileTree) (p : Place) : (t.erase p).working = t.working := by
  rw [FileTree.erase, withRoot.eq_def]
  split <;> rfl

theorem HasDirectory.put {r : Place} (hr : t.HasDirectory r) {p : Place} (hnil : p ≠ [])
    (hp : ¬ p <+: r) (e : Entry) : (t.put p e).HasDirectory r := by
  obtain ⟨es, hes⟩ := Entry.IsDirectory.put hr hp e
  exact ⟨es, (entry?_put t hnil e r).trans hes⟩

theorem HasDirectory.erase {r : Place} (hr : t.HasDirectory r) {p : Place} (hp : ¬ p <+: r) :
    (t.erase p).HasDirectory r := by
  obtain ⟨es, hes⟩ := exists_erase t.root p
  have hdirectory := Entry.IsDirectory.erase hr hp
  rw [FileTree.erase, hes]
  rw [hes] at hdirectory
  exact hdirectory

/-- What is put at a name in a directory stands there. -/
theorem entry?_put_self {p : Place} (hp : t.HasDirectory p) (s : String) (e : Entry) :
    FileTree.entry? (t.put (p ++ [s]) e) (p ++ [s]) = some e := by
  rw [entry?_put t (by simp) e]
  exact Entry.at?_put hp s e

/-- **A tree keeps the directories of another one**, and where paths begin. -/
structure Keeps (t t' : FileTree) : Prop where
  working_eq : t'.working = t.working
  directory {p : Place} (hp : t.HasDirectory p) : t'.HasDirectory p

theorem Keeps.refl (t : FileTree) : t.Keeps t := ⟨rfl, fun hp ↦ hp⟩

/-- **A file is put over a file, or where nothing is.** -/
theorem keeps_put {p : Place} (hnil : p ≠ []) (hp : ¬ t.HasDirectory p) (e : Entry) :
    t.Keeps (t.put p e) where
  working_eq := working_put t p e
  directory hr := hr.put hnil (hr.not_prefix hp) e

/-- **A file is moved over a file, or where nothing is.** -/
theorem keeps_erase_put {p q : Place} (hnil : q ≠ []) (hp : ¬ t.HasDirectory p)
    (hq : ¬ t.HasDirectory q) (e : Entry) : t.Keeps ((t.erase p).put q e) where
  working_eq := (working_put _ q e).trans (working_erase t p)
  directory hr := (hr.erase (hr.not_prefix hp)).put hnil (hr.not_prefix hq) e

/-! ### Where a path leads -/

/-- **A trail leads along directories of the tree.** -/
def Leads (t : FileTree) : Trail → Prop
  | [] => True
  | (s, es) :: trail => find? s (t.within trail) = some (.directory es) ∧ t.Leads trail

theorem Leads.tail {trail : Trail} (h : t.Leads trail) : t.Leads trail.tail := by
  cases trail with
  | nil => exact h
  | cons e trail => exact h.2

/-- A trail leads to the directory that it has come to. -/
theorem Leads.entry?_place {trail : Trail} (h : t.Leads trail) :
    t.entry? trail.place = some (.directory (t.within trail)) := by
  induction trail with
  | nil => rfl
  | cons e trail ih =>
    obtain ⟨s, es⟩ := e
    have hplace : Trail.place ((s, es) :: trail) = Trail.place trail ++ [s] := by simp [Trail.place]
    have hat : (Entry.directory t.root).at? (Trail.place trail) =
        some (.directory (t.within trail)) := ih h.2
    rw [hplace]
    show (Entry.directory t.root).at? (Trail.place trail ++ [s]) = some (.directory es)
    rw [Entry.at?_append, hat, Option.bind_some, Entry.at?_cons h.1]
    rfl

/-- One more step along a directory that is kept. -/
theorem Keeps.exists_find? (hk : t.Keeps t') {trail trail' : Trail} (h : t.Leads trail)
    (h' : t'.Leads trail') (hplace : trail'.map Prod.fst = trail.map Prod.fst) {s : String}
    {es : Entries} (hs : find? s (t.within trail) = some (.directory es)) :
    ∃ es', find? s (t'.within trail') = some (.directory es') := by
  have hnext : t.Leads ((s, es) :: trail) := ⟨hs, h⟩
  obtain ⟨es', hes'⟩ := hk.directory ⟨es, hnext.entry?_place⟩
  have heq : Trail.place ((s, es) :: trail) = trail'.place ++ [s] := by
    simp [Trail.place, hplace]
  have hat : (Entry.directory t'.root).at? trail'.place = some (.directory (t'.within trail')) :=
    h'.entry?_place
  rw [heq, Entry.at?_append, hat, Option.bind_some] at hes'
  obtain ⟨_, e, hdir, hfind, he⟩ := Entry.exists_of_at?_cons hes'
  obtain rfl := Entry.directory.inj hdir
  obtain rfl := Option.some.inj he
  exact ⟨es', hfind⟩

/-- **Steps lead to the same directory in every tree that keeps the directories.** -/
theorem Keeps.enter (hk : t.Keeps t') (steps : List String) {trail trail' r : Trail}
    (h : t.Leads trail) (h' : t'.Leads trail') (hplace : trail'.map Prod.fst = trail.map Prod.fst)
    (hr : t.enter trail steps = .ok r) :
    t.Leads r ∧ ∃ r', t'.enter trail' steps = .ok r' ∧ r'.map Prod.fst = r.map Prod.fst := by
  induction steps generalizing trail trail' with
  | nil =>
    obtain rfl := Except.ok.inj hr
    exact ⟨h, trail', rfl, hplace⟩
  | cons s rest ih =>
    rw [FileTree.enter] at hr ⊢
    by_cases hdot : s = "."
    · rw [if_pos hdot] at hr ⊢
      exact ih h h' hplace hr
    rw [if_neg hdot] at hr ⊢
    by_cases hup : s = ".."
    · rw [if_pos hup] at hr ⊢
      exact ih h.tail h'.tail (by rw [List.map_tail, List.map_tail, hplace]) hr
    rw [if_neg hup] at hr ⊢
    by_cases hlong : isTooLong s = true
    · rw [if_pos hlong] at hr
      cases hr
    rw [if_neg hlong] at hr ⊢
    split at hr
    · cases hr
    · cases hr
    · next es hs =>
      obtain ⟨es', hs'⟩ := hk.exists_find? h h' hplace hs
      have hnext : t.Leads ((s, es) :: trail) := ⟨hs, h⟩
      have hnext' : t'.Leads ((s, es') :: trail') := ⟨hs', h'⟩
      rw [hs']
      exact ih hnext hnext' (by rw [List.map_cons, List.map_cons, hplace]) hr

theorem Keeps.reach (hk : t.Keeps t') {steps : List String} {p : Place}
    (h : t.reach path steps = .ok p) : t.HasDirectory p ∧ t'.reach path steps = .ok p := by
  rw [FileTree.reach] at h ⊢
  rw [hk.working_eq]
  generalize (if Path.isAbsolute path.toList then [] else t.working) ++ steps = along at h ⊢
  obtain ⟨r, hr, rfl⟩ := exists_of_map_eq_ok h
  obtain ⟨hleads, r', hr', hplace⟩ := hk.enter along (show t.Leads [] from trivial)
    (show t'.Leads [] from trivial) rfl hr
  refine ⟨⟨_, hleads.entry?_place⟩, ?_⟩
  rw [hr']
  exact congrArg (fun ns : List String ↦ Except.ok ns.reverse) hplace

/-- Where the last step of a path leads. -/
def last (t : FileTree) (path s : String) : Except FileError Target :=
  if s = "." ∨ s = ".." then Target.directory <$> t.reach path (Path.steps path)
  else do
    let d ← t.reach path (Path.steps path).dropLast
    if isTooLong s then .error .nameTooLong else .ok (.entry (d ++ [s]) (Path.endsOpen path))

/-- A path leads nowhere because of its text, or to the root, or where its last step leads. -/
theorem target_cases (path : String) :
    (∃ e, ∀ t : FileTree, t.target path = .error e) ∨
      (∀ t : FileTree, t.target path = .ok (.directory [])) ∨
      ∃ s, ∀ t : FileTree, t.target path = t.last path s := by
  by_cases hnul : Path.hasNul path = true
  · exact .inl ⟨.unexpectedNul, fun t ↦ by simp [target, hnul]⟩
  by_cases hempty : path = ""
  · subst hempty
    exact .inl ⟨.missing, fun t ↦ rfl⟩
  by_cases hlong : Path.isTooLong path = true
  · exact .inl ⟨.nameTooLong, fun t ↦ by simp [target, hnul, hempty, hlong]⟩
  cases hlast : (Path.steps path).getLast? with
  | none => exact .inr (.inl fun t ↦ by simp [target, hnul, hempty, hlong, hlast])
  | some s => exact .inr (.inr ⟨s, fun t ↦ by simp [target, last, hnul, hempty, hlong, hlast]⟩)

/-- A place at a name is that of a name in a directory of the tree. -/
def Target.IsWithin (t : FileTree) : Target → Prop
  | .entry p _ => ∃ d s, p = d ++ [s] ∧ t.HasDirectory d
  | .directory _ => True

theorem Keeps.last (hk : t.Keeps t') {s : String} {x : Target} (h : t.last path s = .ok x) :
    Target.IsWithin t x ∧ t'.last path s = .ok x := by
  rw [FileTree.last] at h ⊢
  by_cases hdots : s = "." ∨ s = ".."
  · rw [if_pos hdots] at h ⊢
    obtain ⟨p, hr, rfl⟩ := exists_of_map_eq_ok h
    rw [(hk.reach hr).2]
    exact ⟨trivial, rfl⟩
  · rw [if_neg hdots] at h ⊢
    obtain ⟨d, hr, h⟩ := exists_of_bind_eq_ok h
    obtain ⟨hd, hr'⟩ := hk.reach hr
    rw [hr']
    by_cases hname : isTooLong s = true
    · rw [if_pos hname] at h
      cases h
    · rw [if_neg hname] at h
      obtain rfl := Except.ok.inj h
      exact ⟨⟨d, s, rfl, hd⟩, if_neg hname⟩

/-- **A path leads to the same place in every tree that keeps the directories.** -/
theorem Keeps.target (hk : t.Keeps t') {x : Target} (h : t.target path = .ok x) :
    Target.IsWithin t x ∧ t'.target path = .ok x := by
  rcases target_cases path with ⟨e, heq⟩ | heq | ⟨s, heq⟩
  · rw [heq] at h
    cases h
  · rw [heq] at h ⊢
    obtain rfl := Except.ok.inj h
    exact ⟨trivial, rfl⟩
  · rw [heq] at h ⊢
    exact hk.last h

/-! ### Files -/

/-- A name in a directory of the tree, to which a path leads. -/
theorem exists_of_target_eq_entry {p : Place} {endsOpen : Bool}
    (h : t.target path = .ok (.entry p endsOpen)) : ∃ d s, p = d ++ [s] ∧ t.HasDirectory d :=
  ((Keeps.refl t).target h).1

theorem ne_nil_of_target {p : Place} {endsOpen : Bool}
    (h : t.target path = .ok (.entry p endsOpen)) : p ≠ [] := by
  obtain ⟨d, s, rfl, -⟩ := exists_of_target_eq_entry h
  simp

theorem not_hasDirectory_of_file {p : Place} {c : ByteArray} (h : t.entry? p = some (.file c)) :
    ¬ t.HasDirectory p := by
  rintro ⟨es, hes⟩
  cases h.symm.trans hes

theorem read_eq_ok {p : Place} {c : ByteArray} (hp : t.target path = .ok (.entry p false))
    (hc : t.entry? p = some (.file c)) : t.read path = .ok c := by
  simp only [read, hp, hc, bind, Except.bind]
  rfl

/-- **A file that is written is put where its path leads**, over a file or where nothing is. -/
theorem exists_of_write {c : ByteArray} (h : t.write path c = .ok t') :
    ∃ p, t.target path = .ok (.entry p false) ∧ ¬ t.HasDirectory p ∧ t' = t.put p (.file c) := by
  obtain ⟨x, hp, h⟩ := exists_of_bind_eq_ok h
  cases x with
  | directory p => cases h
  | entry p endsOpen =>
    dsimp only at h
    split at h
    · cases h
    · next hne =>
      split at h
      · cases h
      · next hopen =>
        obtain rfl := Except.ok.inj h
        obtain rfl : endsOpen = false := by simpa using hopen
        exact ⟨p, hp, fun ⟨es, hes⟩ ↦ hne es hes, rfl⟩

/-- **A file that is renamed goes from where the one path leads to where the other one does**, over
a file or where nothing is. -/
theorem exists_of_rename {source destination : String}
    (h : t.rename source destination = .ok t') :
    ∃ p q c, t.target source = .ok (.entry p false) ∧ t.target destination = .ok (.entry q false) ∧
      t.entry? p = some (.file c) ∧ ¬ t.HasDirectory q ∧ t' = (t.erase p).put q (.file c) := by
  obtain ⟨x, hp, h⟩ := exists_of_bind_eq_ok h
  obtain ⟨y, hq, h⟩ := exists_of_bind_eq_ok h
  rcases x with ⟨p, openSource⟩ | p
  · rcases y with ⟨q, openDestination⟩ | q
    · dsimp only at h
      split at h
      · cases h
      · cases h
      · next c hc =>
        split at h
        · cases h
        · next hopen =>
          split at h
          · cases h
          · next hne =>
            obtain rfl := Except.ok.inj h
            obtain ⟨rfl, rfl⟩ : openSource = false ∧ openDestination = false := by
              simpa using hopen
            exact ⟨p, q, c, hp, hq, hc, fun ⟨es, hes⟩ ↦ hne es hes, rfl⟩
    · cases h
  · cases h

/-- **Writing a file keeps the directories.** -/
theorem keeps_of_write {c : ByteArray} (h : t.write path c = .ok t') : t.Keeps t' := by
  obtain ⟨p, hp, hfile, rfl⟩ := exists_of_write h
  exact keeps_put (ne_nil_of_target hp) hfile _

/-- **What is written is what is read.** -/
theorem read_of_write {c : ByteArray} (h : t.write path c = .ok t') : t'.read path = .ok c := by
  have hkeeps := keeps_of_write h
  obtain ⟨p, hp, -, rfl⟩ := exists_of_write h
  obtain ⟨d, s, rfl, hd⟩ := exists_of_target_eq_entry hp
  exact read_eq_ok (hkeeps.target hp).2 (entry?_put_self hd s _)

/-- What is read is what stands where the path leads. -/
theorem entry?_of_read {p : Place} {c : ByteArray} (hp : t.target path = .ok (.entry p false))
    (h : t.read path = .ok c) : t.entry? p = some (.file c) := by
  rw [read, hp] at h
  dsimp only [bind, Except.bind] at h
  split at h
  · cases h
  · cases h
  · next hc =>
    obtain rfl := Except.ok.inj h
    exact hc

/-- **A file that is renamed is read under its new name.** -/
theorem read_of_rename {source destination : String} {c : ByteArray}
    (h : t.rename source destination = .ok t') (hc : t.read source = .ok c) :
    t'.read destination = .ok c := by
  obtain ⟨p, q, c', hp, hq, hfile, hfree, rfl⟩ := exists_of_rename h
  have hkeeps : t.Keeps ((t.erase p).put q (.file c')) :=
    keeps_erase_put (ne_nil_of_target hq) (not_hasDirectory_of_file hfile) hfree _
  obtain ⟨d, s, rfl, hd⟩ := exists_of_target_eq_entry hq
  obtain rfl : c = c' := by
    have heq := (entry?_of_read hp hc).symm.trans hfile
    exact Entry.file.inj (Option.some.inj heq)
  have hd' : (t.erase p).HasDirectory d :=
    hd.erase (hd.not_prefix (not_hasDirectory_of_file hfile))
  exact read_eq_ok (hkeeps.target hq).2 (entry?_put_self hd' s _)

end FileTree

end TraceReconciler
