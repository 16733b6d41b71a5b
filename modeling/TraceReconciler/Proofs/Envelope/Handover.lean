import TraceReconciler.Proofs.Envelope

/-!
# Answers are handed over whole

Octets that a zero ends cannot carry a text with a NUL in it, and for such a text another one would
be handed over in its place (`nulFallback`). Control characters do come in: by the names of probes,
by the keys of objects, and by messages that quote the text they are about.

**None of them gets out as itself.** Whatever the arguments are, the answer is the envelope of a
result, with every control character in it written as an escape (`Intact`). So there is no zero
before the end, the replacement is never handed over, and a reader of the answer finds the result or
the message as it was, control characters included (`answers_intact`).
-/

namespace TraceReconciler

open Json

namespace EngineError

/-- How messages begin. -/
def openings : List String :=
  ["invalid snapshot: ", "snapshot format version mismatch: expected ", "unknown feature: ",
    "invalid action: "]

theorem exists_message_eq (e : EngineError) : ∃ p ∈ openings, ∃ r, e.message = p ++ r := by
  cases e with
  | invalidSnapshot r => exact ⟨_, by simp [openings], r, rfl⟩
  | versionMismatch expected actual =>
    exact ⟨"snapshot format version mismatch: expected ", by simp [openings], _,
      (String.append_assoc ..).trans (String.append_assoc ..)⟩
  | unknownFeature n => exact ⟨_, by simp [openings], n, rfl⟩
  | invalidAction r => exact ⟨_, by simp [openings], r, rfl⟩

/-- **No error has the message of the replacement**, which none of them even begins like. -/
theorem message_ne (e : EngineError) : e.message ≠ "string contained null bytes" := by
  have hopenings : ∀ p ∈ openings, ¬ p.toList <+: "string contained null bytes".toList := by
    decide
  obtain ⟨p, hp, r, hmessage⟩ := e.exists_message_eq
  intro h
  exact hopenings p hp ⟨r.toList, by rw [← String.toList_append, ← hmessage, h]⟩

end EngineError

namespace Envelope

/-! ### What the functions have as their result -/

/-- What comes of a change. -/
def changed (configuration change : Option String) : Except EngineError Value := do
  let c ← configurationArgument configuration
  let x ← argument Change.decode "change" .invalidAction change
  .ok (c.apply x).toJson

/-- What comes of a comparison. -/
def compared (a b : Option String) : Except EngineError Value := do
  let a ← configurationArgument a
  let b ← configurationArgument b
  .ok (.boolean (decide (a = b)))

/-- What comes of listing options. -/
def listed (configuration pids : Option String) : Except EngineError Value := do
  let c ← configurationArgument configuration
  let ps ← argument (list word32) "pids" .invalidAction pids
  .ok (.array ((c.options ps).map FeatureOption.toJson))

/-! ### Whole answers -/

theorem nulFallback_eq :
    nulFallback = (Value.object [("error", .string "string contained null bytes")]).text := by
  decide

/-- **No envelope is the replacement.** The two are read as different trees. -/
theorem wrap_text_ne_nulFallback (r : Except EngineError Value) :
    (wrap r).text ≠ nulFallback := by
  intro h
  have hread := congrArg Document.read (h.trans nulFallback_eq)
  rw [(Value.spelledIn_text _).document_read, (Value.spelledIn_text _).document_read] at hread
  have hnode := congrArg Document.root hread
  cases r with
  | ok v =>
    have hkey : StringToken.ofString "ok" ≠ .ofString "error" := by decide
    simp [wrap, Value.node, Value.memberNodes, hkey] at hnode
  | error e =>
    have htoken : StringToken.ofString e.message = .ofString "string contained null bytes" := by
      simpa [wrap, Value.node, Value.memberNodes] using hnode
    have hvalue := congrArg StringToken.value htoken
    rw [StringToken.value_ofString, StringToken.value_ofString] at hvalue
    exact e.message_ne (Except.ok.inj hvalue)

/-- **An answer is the envelope of a result, and nothing of it is lost.** -/
structure Intact (answer : String) (result : Except EngineError Value) : Prop where
  /-- It is the text of the envelope, -/
  envelope : answer = (wrap result).text
  /-- with no control character in it, -/
  controlFree : Value.ControlFree answer.toList
  /-- so that no octet is a zero that would end it early -/
  noZero : ∀ b ∈ answer.toUTF8.data.toList, b ≠ 0
  /-- and another text would have to be handed over in its place, -/
  notFallback : answer ≠ nulFallback
  /-- and whoever reads it finds what was put into the envelope. -/
  read : Document.read answer = ⟨(wrap result).node, false⟩

/-- **Every envelope is handed over whole.** -/
theorem intact_handOver (r : Except EngineError Value) : Intact (handOver (wrap r).text) r := by
  have hfree : Value.ControlFree (wrap r).text.toList := by
    rw [Value.text, String.toList_ofList]
    exact (wrap r).controlFree_compact
  have hnul : '\x00' ∉ (wrap r).text.toList := fun h ↦ absurd (hfree _ h) (by decide)
  rw [handOver_text]
  exact ⟨rfl, hfree, fun _ ↦ Text.ne_zero_of_mem_toUTF8 hnul, wrap_text_ne_nulFallback r,
    (Value.spelledIn_text _).document_read⟩

/-- **Every answer is handed over whole**, whatever the arguments are: there or not, of a text with
a meaning or with none, and with any characters behind the escapes in it. -/
theorem answers_intact (a b : Option String) :
    Intact (applyChange a b) (changed a b) ∧ Intact (configurationsEqual a b) (compared a b) ∧
      Intact (featureOptions a b) (listed a b) :=
  ⟨intact_handOver (changed a b), intact_handOver (compared a b), intact_handOver (listed a b)⟩

end Envelope

end TraceReconciler
