import TraceReconciler.CommandLine.Run

/-!
# Understanding an invocation

An invocation is understood first, and then its plan is carried out (`run_eq_understand`). Whatever
is looked at to understand it, environment files, variables and arguments, is only read
(`leavesAlone_understand`), so the plan starts from the files that the invocation has found; and the
plan is about the request that the arguments make (`understand_eq_ok`).
-/

namespace TraceReconciler.CommandLine

section

variable {m : Type → Type} [Monad m] (platform : Platform m)

/-- The plan of an invocation, with the variables that are looked up for it. -/
def planWith (loaded : List (String × String)) (invocation : Invocation) :
    m (Except Refusal Plan) := do
  let find := EnvironmentFile.find platform.lookup loaded
  let storePath ← find Settings.storePathVariable
  let delay ← find Settings.initialDelayVariable
  let limit ← find Settings.remoteTimeoutVariable
  let lookup := fun key ↦
    if key = Settings.storePathVariable then storePath
    else if key = Settings.initialDelayVariable then delay
    else if key = Settings.remoteTimeoutVariable then limit
    else none
  pure ((plan invocation lookup).mapError .program)

/-- **What an invocation comes to before anything is done**: a plan, or why there is none. -/
def understand (environmentFiles arguments : List String) : m (Except Refusal Plan) := do
  match ← loadVariables platform environmentFiles, Invocation.ofArguments arguments with
  | .error name, _ => pure (.error (.unsettable name))
  | .ok _, .error e => pure (.error (.usage e))
  | .ok loaded, .ok invocation => planWith platform loaded invocation

/-- **An invocation is understood first**, and then what was planned is done. -/
theorem run_eq_understand [LawfulMonad m] (environmentFiles arguments : List String) :
    run platform environmentFiles arguments = (do
      match ← understand platform environmentFiles arguments with
      | .error e => pure e.report
      | .ok p => p.perform platform) := by
  rw [run, understand]
  simp only [bind_assoc]
  congr 1
  funext loaded
  cases loaded with
  | error name => simp
  | ok loaded =>
    cases Invocation.ofArguments arguments with
    | error e => simp
    | ok invocation =>
      simp only [planWith, bind_assoc, pure_bind]
      congr 1
      funext storePath
      congr 1
      funext delay
      congr 1
      funext limit
      generalize plan invocation _ = planned
      cases planned <;> rfl

end

/-- The plan of an invocation is about its request. -/
theorem plan_eq_ok {invocation : Invocation} {lookup : String → Option String} {p : Plan}
    (h : plan invocation lookup = .ok p) :
    p.request = invocation.request ∧ invocation.request.actions = .ok p.actions := by
  cases hsettings : Settings.ofLookup lookup with
  | error e => simp [plan, hsettings] at h
  | ok settings =>
    cases hactions : invocation.request.actions with
    | error e => simp [plan, hsettings, hactions] at h
    | ok actions =>
      simp only [plan, hsettings, hactions, Except.ok.injEq] at h
      obtain rfl := h
      exact ⟨rfl, rfl⟩

/-! ### Nothing is touched before -/

/-- A computation that leaves the tree as it is. -/
def LeavesAlone {α : Type} (f : StateM FileTree α) : Prop := ∀ t, (f t).2 = t

namespace LeavesAlone

variable {α β : Type}

theorem pure (a : α) : LeavesAlone (Pure.pure a) := fun _ ↦ rfl

theorem bind {f : StateM FileTree α} {k : α → StateM FileTree β} (h : LeavesAlone f)
    (hk : ∀ a, LeavesAlone (k a)) : LeavesAlone (f >>= k) :=
  fun t ↦ (hk _ _).trans (h t)

theorem map {f : StateM FileTree α} (h : LeavesAlone f) (g : α → β) : LeavesAlone (g <$> f) := h

end LeavesAlone

section

variable (known : List (String × String))

theorem leavesAlone_find (loaded : List (String × String)) (name : String) :
    LeavesAlone (EnvironmentFile.find (treePlatform known).lookup loaded name) := by
  rw [EnvironmentFile.find]
  split
  · exact .pure none
  · refine .bind (.pure _) fun v ↦ ?_
    cases v <;> exact .pure _

theorem leavesAlone_textOf (loaded : List (String × String)) (ps : List EnvironmentFile.Piece) :
    LeavesAlone (EnvironmentFile.textOf (treePlatform known).lookup loaded ps) := by
  induction ps with
  | nil => exact .pure _
  | cons p ps ih =>
    cases p with
    | literal c => exact .bind ih fun _ ↦ .pure _
    | value name =>
      exact .bind (leavesAlone_find known loaded name) fun _ ↦ .bind ih fun _ ↦ .pure _

theorem leavesAlone_assign (loaded : List (String × String))
    (l : List (String × List EnvironmentFile.Piece)) :
    LeavesAlone (EnvironmentFile.assign (treePlatform known).lookup loaded l) := by
  induction l generalizing loaded with
  | nil => exact .pure _
  | cons a l ih =>
    refine .bind (.map (leavesAlone_textOf known loaded a.2) _) fun text ↦ ?_
    refine .bind (leavesAlone_find known loaded a.1) fun v ↦ ?_
    cases v with
    | some v => exact ih loaded
    | none =>
      dsimp only
      split
      · exact .pure _
      · exact ih _

theorem leavesAlone_loadVariables (paths : List String) :
    LeavesAlone (loadVariables (treePlatform known) paths) := by
  induction paths with
  | nil => exact .pure _
  | cons path paths ih =>
    refine .bind (fun _ ↦ rfl) fun content ↦ ?_
    rcases content with e | content
    · cases e with
      | missing => exact ih
      | isDirectory => exact ih
      | _ => exact .pure _
    · exact leavesAlone_assign known [] _

theorem leavesAlone_planWith (loaded : List (String × String)) (invocation : Invocation) :
    LeavesAlone (planWith (treePlatform known) loaded invocation) :=
  .bind (leavesAlone_find known loaded _) fun _ ↦ .bind (leavesAlone_find known loaded _) fun _ ↦
    .bind (leavesAlone_find known loaded _) fun _ ↦ .pure _

/-- **To understand an invocation is to read only.** -/
theorem leavesAlone_understand (environmentFiles arguments : List String) :
    LeavesAlone (understand (treePlatform known) environmentFiles arguments) := by
  refine .bind (leavesAlone_loadVariables known environmentFiles) fun loaded ↦ ?_
  cases loaded with
  | error name => exact .pure _
  | ok loaded =>
    cases Invocation.ofArguments arguments with
    | error e => exact .pure _
    | ok invocation => exact leavesAlone_planWith known loaded invocation

variable {known} {t : FileTree} {p : Plan}

theorem planWith_eq_ok {loaded : List (String × String)} {invocation : Invocation}
    (h : (planWith (treePlatform known) loaded invocation t).1 = .ok p) :
    p.request = invocation.request ∧ invocation.request.actions = .ok p.actions := by
  obtain ⟨lookup, hlookup⟩ :
      ∃ lookup, (plan invocation lookup).mapError Refusal.program = .ok p := ⟨_, h⟩
  cases hplan : plan invocation lookup with
  | error e =>
    rw [hplan] at hlookup
    cases hlookup
  | ok q =>
    rw [hplan] at hlookup
    obtain rfl := Except.ok.inj hlookup
    exact plan_eq_ok hplan

/-- **An invocation that is understood does what was planned.** -/
theorem run_apply {environmentFiles arguments : List String} {t' : FileTree}
    (h : understand (treePlatform known) environmentFiles arguments t = (.ok p, t')) :
    run (treePlatform known) environmentFiles arguments t = p.perform (treePlatform known) t' := by
  rw [run_eq_understand]
  simp only [bind, StateT.bind, h]

theorem loadVariables_of_missing {path : String} (h : t.read path = .error .missing) :
    loadVariables (treePlatform known) [path] t = (.ok [], t) := by
  simp only [loadVariables, treePlatform, FileTree.access, bind, StateT.bind, h]
  rfl

theorem understand_apply {environmentFiles arguments : List String} {invocation : Invocation}
    {t' : FileTree} {loaded : List (String × String)}
    (hload : loadVariables (treePlatform known) environmentFiles t = (.ok loaded, t'))
    (hinvocation : Invocation.ofArguments arguments = .ok invocation) :
    understand (treePlatform known) environmentFiles arguments t =
      planWith (treePlatform known) loaded invocation t' := by
  simp only [understand, bind, StateT.bind, hload, hinvocation]

/-- An invocation that is understood is about the request that its arguments make. -/
theorem understand_eq_ok {environmentFiles arguments : List String}
    (h : (understand (treePlatform known) environmentFiles arguments t).1 = .ok p) :
    ∃ invocation, Invocation.ofArguments arguments = .ok invocation ∧
      p.request = invocation.request ∧ invocation.request.actions = .ok p.actions := by
  rcases hload : loadVariables (treePlatform known) environmentFiles t with ⟨name | loaded, t'⟩
  · simp only [understand, bind, StateT.bind, hload] at h
    cases h
  · cases hinvocation : Invocation.ofArguments arguments with
    | error e =>
      simp only [understand, bind, StateT.bind, hload, hinvocation] at h
      cases h
    | ok invocation =>
      rw [understand_apply hload hinvocation] at h
      exact ⟨invocation, rfl, planWith_eq_ok h⟩

end

end TraceReconciler.CommandLine
