import Mathlib.Data.List.TakeWhile
import TraceReconciler.Envelope
import TraceReconciler.Proofs.Configuration.Tagged

/-!
# The interface of texts agrees with the library

Whoever only exchanges texts with the library gets the results that the library has for the values:
changes that are sent one after another, each with the result of the one before, add up to the
changes made at once, two configurations are told apart as they differ, and options are listed as
they are (`Envelope.agrees_with_library`). An argument that is not there or cannot be read is
blamed, the first one before the second one.

What the functions of the interface have in common is said once. A **parameter** is how its argument
is decoded and what a bad argument is called; a function of two parameters **answers** for a
function of values (`Envelope.Answers`) if it has the result in its envelope when both arguments
mean something, and otherwise a message about the first one that means nothing. That nothing is lost
on the way is due to the two ends: an argument without NUL is found as it was handed over
(`Argument.received_eq`), and an envelope has no control character (`handOver_text`).
-/

namespace TraceReconciler

open Json

/-! ### Octets that a zero ends -/

namespace Text

/-- **Only the character NUL has a zero among its octets.** -/
theorem ne_zero_of_mem_utf8EncodeChar {c : Char} (h : c ≠ '\x00') {b : UInt8}
    (hb : b ∈ String.utf8EncodeChar c) : b ≠ 0 := by
  have hpos : c.val.toNat ≠ 0 := fun hzero ↦ h (Char.ext (UInt32.toNat_inj.1 hzero))
  have hne {n : Nat} (hn : n % 256 ≠ 0) : UInt8.ofNat n ≠ 0 := fun hzero ↦
    hn (by simpa using congrArg UInt8.toNat hzero)
  rw [String.utf8EncodeChar] at hb
  split at hb
  · obtain rfl := List.mem_singleton.1 hb
    exact hne (by omega)
  · -- Every octet of a longer character has its highest bit set.
    have hhigh {n : Nat} (hn : 128 ≤ n ∧ n < 256) : UInt8.ofNat n ≠ 0 := hne (by omega)
    split at hb
    · simp only [List.mem_cons, List.not_mem_nil, or_false] at hb
      rcases hb with rfl | rfl <;> exact hhigh (by omega)
    · split at hb
      · simp only [List.mem_cons, List.not_mem_nil, or_false] at hb
        rcases hb with rfl | rfl | rfl <;> exact hhigh (by omega)
      · simp only [List.mem_cons, List.not_mem_nil, or_false] at hb
        rcases hb with rfl | rfl | rfl | rfl <;> exact hhigh (by omega)

theorem ne_zero_of_mem_toUTF8 {s : String} (h : '\x00' ∉ s.toList) {b : UInt8}
    (hb : b ∈ s.toUTF8.data.toList) : b ≠ 0 := by
  rw [toList_toUTF8] at hb
  obtain ⟨c, hc, hb⟩ := List.mem_flatMap.1 hb
  exact ne_zero_of_mem_utf8EncodeChar (fun hnul ↦ h (hnul ▸ hc)) hb

end Text

namespace Envelope

/-- **Octets are read back as the text that they are of**, if there is no NUL in it. -/
theorem argumentText_toUTF8 {s : String} (h : '\x00' ∉ s.toList) :
    argumentText s.toUTF8 = some s := by
  have hall : s.toUTF8.data.toList.takeWhile (· != 0) = s.toUTF8.data.toList := by
    rw [List.takeWhile_eq_self_iff]
    intro b hb
    simpa using Text.ne_zero_of_mem_toUTF8 h hb
  rw [argumentText, hall]
  exact Text.ofUtf8?_toUTF8 s

/-- A text that can be an argument: it has no NUL, which would be taken for its end. -/
structure Argument where
  text : String
  noNul : '\x00' ∉ text.toList

namespace Argument

/-- A value as an argument. -/
def ofValue (v : Value) : Argument where
  text := v.text
  noNul hnul := by
    rw [Value.text, String.toList_ofList] at hnul
    exact absurd (Value.controlFree_compact v _ hnul) (by decide)

/-- What the library finds in place of an argument that is handed over, or of none. -/
def received (a : Option Argument) : Option String := a.bind fun x ↦ argumentText x.text.toUTF8

/-- **Every argument is found as it was handed over.** -/
theorem received_eq (a : Option Argument) : received a = a.map Argument.text := by
  cases a with
  | none => rfl
  | some x => exact argumentText_toUTF8 x.noNul

end Argument

open Argument (received received_eq)

/-! ### Answers -/

/-- The answer that is a result. -/
def okText (v : Value) : String := "\x7b\"ok\":" ++ v.text ++ "\x7d"

/-- The answer that is a message. -/
def errorText (message : String) : String :=
  "\x7b\"error\":" ++ (Value.string message).text ++ "\x7d"

/-- **Every text of a value can be handed over.** -/
theorem handOver_text (v : Value) : handOver v.text = v.text := by
  have hnul : '\x00' ∉ v.text.toList := (Argument.ofValue v).noNul
  rw [handOver, if_neg (by simpa using hnul)]

theorem handOver_wrap_ok (v : Value) : handOver (wrap (.ok v)).text = okText v := by
  rw [handOver_text]
  exact String.toList_inj.1 (by simp [wrap, okText, Value.text, Value.compact,
    Value.compactMembers, stringText, escapeChars, escapeChar])

theorem handOver_wrap_error (e : EngineError) :
    handOver (wrap (.error e)).text = errorText e.message := by
  rw [handOver_text]
  exact String.toList_inj.1 (by simp [wrap, errorText, Value.text, Value.compact,
    Value.compactMembers, stringText, escapeChars, escapeChar])

/-- An answer is not both. -/
theorem okText_ne_errorText (v : Value) (m : String) : okText v ≠ errorText m := by
  intro h
  have hlists := congrArg String.toList h
  simp [okText, errorText] at hlists

/-! ### Parameters -/

/-- **A parameter**: how its argument is decoded, what it is called, and as what a bad argument is
reported. -/
structure Parameter (α : Type) where
  decode : Decoder α
  name : String
  report : String

namespace Parameter

variable {α : Type} (p : Parameter α)

/-- An argument means a value if its text decodes to it. -/
def Means (a : Option Argument) (v : α) : Prop :=
  ∃ x, a = some x ∧ decodeText p.decode x.text = .ok v

/-- **What an argument that means nothing is blamed for**: that it is not there, or the fault of its
text. As everywhere, the message of a fault stops before ` at line L column C`
(`Json.Fault.message`): which error it is, of which argument and for which fault, is told exactly,
and where in the text it was noticed is not. -/
inductive Blames : Option Argument → String → Prop
  | missing : Blames none (p.report ++ ": " ++ ("missing " ++ p.name))
  | unread (x : Argument) (f : Fault) (h : decodeText p.decode x.text = .error f) :
      Blames (some x) (p.report ++ ": " ++ (p.name ++ ": " ++ f.message))

/-- **An argument means something or is blamed.** -/
theorem means_or_blames (a : Option Argument) : (∃ v, p.Means a v) ∨ ∃ m, p.Blames a m := by
  cases a with
  | none => exact .inr ⟨_, .missing⟩
  | some x =>
    cases h : decodeText p.decode x.text with
    | ok v => exact .inl ⟨v, x, rfl, h⟩
    | error f => exact .inr ⟨_, .unread x f h⟩

variable {p} {a : Option Argument} {v : α} {m : String} {invalid : String → EngineError}

theorem Means.argument_eq (h : p.Means a v) :
    argument p.decode p.name invalid (received a) = .ok v := by
  obtain ⟨x, rfl, hx⟩ := h
  rw [received_eq, Option.map_some, argument, hx]

/-- The error of an argument that is blamed has the message that blames it. -/
theorem Blames.exists_argument_eq (hreport : ∀ r, (invalid r).message = p.report ++ ": " ++ r)
    (h : p.Blames a m) :
    ∃ e, argument p.decode p.name invalid (received a) = .error e ∧ e.message = m := by
  rw [received_eq]
  cases h with
  | missing => exact ⟨_, rfl, hreport _⟩
  | unread x f hx =>
    refine ⟨invalid (p.name ++ ": " ++ f.message), ?_, hreport _⟩
    rw [Option.map_some, argument, hx]

end Parameter

/-- The parameter for a configuration. -/
def configurationParameter : Parameter Configuration where
  decode := Configuration.decode
  name := "configuration"
  report := "invalid snapshot"

/-- The parameter for a change. -/
def changeParameter : Parameter Change where
  decode := Change.decode
  name := "change"
  report := "invalid action"

/-- The parameter for processes. -/
def pidsParameter : Parameter (List Pid) where
  decode := list word32
  name := "pids"
  report := "invalid action"

/-! ### Functions of two parameters -/

variable {α β : Type}

/-- **A function of two arguments answers for a function of values.** It has the result if both
arguments mean something, and only then an answer that is a result; otherwise it blames the first
argument that means nothing. -/
structure Answers (call : Option String → Option String → String) (first : Parameter α)
    (second : Parameter β) (result : α → β → Value) : Prop where
  ok_iff (a b : Option Argument) : (∃ r, call (received a) (received b) = okText r) ↔
    (∃ x, first.Means a x) ∧ ∃ y, second.Means b y
  value (a b : Option Argument) (x : α) (y : β) (hx : first.Means a x) (hy : second.Means b y) :
    call (received a) (received b) = okText (result x y)
  blamesFirst (a b : Option Argument) (hx : ∀ x, ¬ first.Means a x) :
    ∃ m, first.Blames a m ∧ call (received a) (received b) = errorText m
  blamesSecond (a b : Option Argument) (x : α) (hx : first.Means a x)
    (hy : ∀ y, ¬ second.Means b y) :
    ∃ m, second.Blames b m ∧ call (received a) (received b) = errorText m

/-- A function that takes its arguments one by one and puts what comes of it into an envelope. -/
theorem Answers.of_eq {call : Option String → Option String → String} {first : Parameter α}
    {second : Parameter β} {result : α → β → Value} {invalid invalid' : String → EngineError}
    (hfirst : ∀ r, (invalid r).message = first.report ++ ": " ++ r)
    (hsecond : ∀ r, (invalid' r).message = second.report ++ ": " ++ r)
    (hcall : ∀ s t, call s t = handOver (wrap do
      let x ← argument first.decode first.name invalid s
      let y ← argument second.decode second.name invalid' t
      .ok (result x y)).text) : Answers call first second result := by
  have hvalue (a b : Option Argument) (x : α) (y : β) (hx : first.Means a x)
      (hy : second.Means b y) : call (received a) (received b) = okText (result x y) := by
    rw [hcall, hx.argument_eq, ← handOver_wrap_ok]
    simp only [hy.argument_eq, bind, Except.bind]
  have hblamed (a b : Option Argument) {m : String} (h : first.Blames a m) :
      call (received a) (received b) = errorText m := by
    obtain ⟨e, he, rfl⟩ := h.exists_argument_eq hfirst
    rw [hcall, he, ← handOver_wrap_error]
    rfl
  have hblamed' (a b : Option Argument) {x : α} {m : String} (hx : first.Means a x)
      (h : second.Blames b m) : call (received a) (received b) = errorText m := by
    obtain ⟨e, he, rfl⟩ := h.exists_argument_eq hsecond
    rw [hcall, hx.argument_eq, ← handOver_wrap_error]
    simp only [he, bind, Except.bind]
  refine ⟨fun a b ↦ ⟨?_, ?_⟩, hvalue, fun a b hx ↦ ?_, fun a b x hx hy ↦ ?_⟩
  · rintro ⟨r, hr⟩
    rcases first.means_or_blames a with ⟨x, hx⟩ | ⟨m, hm⟩
    · rcases second.means_or_blames b with hy | ⟨m, hm⟩
      · exact ⟨⟨x, hx⟩, hy⟩
      · exact absurd (hr.symm.trans (hblamed' a b hx hm)) (okText_ne_errorText r m)
    · exact absurd (hr.symm.trans (hblamed a b hm)) (okText_ne_errorText r m)
  · rintro ⟨⟨x, hx⟩, y, hy⟩
    exact ⟨_, hvalue a b x y hx hy⟩
  · obtain ⟨m, hm⟩ := (first.means_or_blames a).resolve_left fun ⟨x, h⟩ ↦ hx x h
    exact ⟨m, hm, hblamed a b hm⟩
  · obtain ⟨m, hm⟩ := (second.means_or_blames b).resolve_left fun ⟨y, h⟩ ↦ hy y h
    exact ⟨m, hm, hblamed' a b hx hm⟩

theorem answers_applyChange :
    Answers applyChange configurationParameter changeParameter fun c e ↦ (c.apply e).toJson :=
  .of_eq (fun _ ↦ rfl) (fun _ ↦ rfl) fun _ _ ↦ rfl

theorem answers_configurationsEqual :
    Answers configurationsEqual configurationParameter configurationParameter
      fun a b ↦ .boolean (decide (a = b)) :=
  .of_eq (fun _ ↦ rfl) (fun _ ↦ rfl) fun _ _ ↦ rfl

theorem answers_featureOptions :
    Answers featureOptions configurationParameter pidsParameter
      fun c ps ↦ .array ((c.options ps).map FeatureOption.toJson) :=
  .of_eq (fun _ ↦ rfl) (fun _ ↦ rfl) fun _ _ ↦ rfl

/-! ### Changes sent one after another -/

/-- The result in an answer, as the next argument: what stands between the name and the brace at
the end. -/
def result? (answer : String) : Option Argument :=
  match answer.toList.dropPrefix? "\x7b\"ok\":".toList with
  | none => none
  | some rest =>
    if h : '\x00' ∈ rest.dropLast then none
    else some ⟨String.ofList rest.dropLast, by rwa [String.toList_ofList]⟩

theorem result?_okText (v : Value) : result? (okText v) = some (.ofValue v) := by
  have htext : (okText v).toList = "\x7b\"ok\":".toList ++ (v.compact ++ ['\x7d']) := by
    simp [okText, Value.text]
  have hdrop : (okText v).toList.dropPrefix? "\x7b\"ok\":".toList = some (v.compact ++ ['\x7d']) :=
    (congrArg (List.dropPrefix? · _) htext).trans
      (List.dropPrefix?_append_of_beq _ (beq_self_eq_true _))
  have hnul : '\x00' ∉ v.compact := by
    simpa [Argument.ofValue, Value.text] using (Argument.ofValue v).noNul
  rw [result?, hdrop]
  simp [hnul, Argument.ofValue, Value.text]

/-- The answer to a change that is sent with the text of a configuration. -/
def send (a : Argument) (e : Change) : String :=
  applyChange (received (some a)) (received (some (.ofValue e.toJson)))

/-- The answers to changes that are sent one after another, each with the result of the one
before. -/
def replies : Argument → List Change → List String
  | _, [] => []
  | a, e :: es => send a e :: ((result? (send a e)).map (replies · es)).getD []

theorem means_ofValue {p : Parameter α} {write : α → Value}
    (h : Restores p.decode (.live maxDepth) write) (v : α) :
    p.Means (some (.ofValue (write v))) v :=
  ⟨_, rfl, decodeText_text h v⟩

theorem send_ofValue (c : Configuration) (e : Change) :
    send (.ofValue c.toJson) e = okText (c.apply e).toJson :=
  answers_applyChange.value _ _ c e (means_ofValue (restores_configuration 124) c)
    (means_ofValue (restores_change 125) e)

theorem replies_cons (c : Configuration) (e : Change) (es : List Change) :
    replies (.ofValue c.toJson) (e :: es) =
      okText (c.apply e).toJson :: replies (.ofValue (c.apply e).toJson) es := by
  rw [replies, send_ofValue, result?_okText]
  rfl

/-- **What comes back in the end has all changes.** -/
theorem getLast?_replies (c : Configuration) (es : List Change) (e : Change) :
    (replies (.ofValue c.toJson) (es ++ [e])).getLast? =
      some (okText (c.applyAll (es ++ [e])).toJson) := by
  induction es generalizing c with
  | nil => exact congrArg List.getLast? (replies_cons c e [])
  | cons x es ih =>
    rw [List.cons_append, replies_cons, List.getLast?_cons, ih]
    rfl

/-- **The interface of texts agrees with the library.** Changes sent one after another to the text
of a configuration bring back, in the end, a text of the configuration with all changes made. Of two
texts of configurations it is said that they are equal if the configurations are. The options are
those of the configuration. And each of these functions has a result if and only if both of its
arguments mean something, and blames the first one that does not. -/
theorem agrees_with_library :
    (∀ c es e, ∃ text, (replies (.ofValue (Configuration.toJson c)) (es ++ [e])).getLast? =
        some ("\x7b\"ok\":" ++ text ++ "\x7d") ∧
      Configuration.ofText text = .ok (c.applyAll (es ++ [e]))) ∧
    (∀ a b x y, configurationParameter.Means a x → configurationParameter.Means b y →
      (configurationsEqual (received a) (received b) = "\x7b\"ok\":true\x7d" ↔ x = y)) ∧
    Answers applyChange configurationParameter changeParameter (fun c e ↦ (c.apply e).toJson) ∧
    Answers configurationsEqual configurationParameter configurationParameter
      (fun a b ↦ .boolean (decide (a = b))) ∧
    Answers featureOptions configurationParameter pidsParameter
      (fun c ps ↦ .array ((c.options ps).map FeatureOption.toJson)) := by
  refine ⟨fun c es e ↦ ⟨_, getLast?_replies c es e, (c.applyAll (es ++ [e])).ofText_text⟩,
    fun a b x y hx hy ↦ ?_, answers_applyChange, answers_configurationsEqual,
    answers_featureOptions⟩
  rw [answers_configurationsEqual.value a b x y hx hy]
  by_cases h : x = y
  · simp only [h, decide_true, iff_true]
    rfl
  · simp only [h, decide_false, iff_false]
    decide

/-- Two texts of the empty configuration, in one of which a slot is said to be absent, are equal;
and where a change should come with one of them and does not, the change is blamed. -/
theorem agrees_with_library_absent :
    let a : Option Argument := some ⟨"\x7b\x7d", by decide⟩
    let b : Option Argument := some ⟨"\x7b\"gc\":null\x7d", by decide⟩
    configurationParameter.Means a ∅ ∧ configurationParameter.Means b ∅ ∧
      configurationsEqual (received a) (received b) = "\x7b\"ok\":true\x7d" ∧
      (∀ e, ¬ changeParameter.Means none e) ∧
      applyChange (received a) (received none) = errorText "invalid action: missing change" := by
  intro a b
  have ha : configurationParameter.Means a ∅ := ⟨_, rfl, by decide +kernel⟩
  have hb : configurationParameter.Means b ∅ := ⟨_, rfl, by decide +kernel⟩
  have hnone (e : Change) : ¬ changeParameter.Means none e := nofun
  obtain ⟨-, hequal, happly, -, -⟩ := agrees_with_library
  refine ⟨ha, hb, (hequal a b ∅ ∅ ha hb).2 rfl, hnone, ?_⟩
  obtain ⟨m, hm, hanswer⟩ := happly.blamesSecond a none ∅ ha hnone
  cases hm
  exact hanswer

end Envelope

end TraceReconciler
