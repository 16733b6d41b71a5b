import Mathlib.Data.List.Induction
import Mathlib.Data.Nat.Digits.Defs
import TraceReconciler.Proofs.Json.Token
import TraceReconciler.Proofs.Outcome
import TraceReconciler.Settings

/-!
# Which variables give settings

Two of the three variables hold durations, and a duration is a number in decimal notation: between
the blanks around it stand at most one plus and then digits, at least one, for a number that a word
of 64 bits can hold (`Settings.MeansMillis`). How many zeros come first does not matter.

**Variables give settings exactly if each duration that is set is one** (`Settings.ofLookup_exact`).
The settings are then determined by them, and otherwise the error names the first duration that is
none, the delay before the limit, with its text as it was found.

Reading a numeral is described apart from the reader: what digits stand for is `Nat.ofDigits`, and
the writing of a number is `Text.digits`, which knows no leading zeros.
-/

namespace TraceReconciler

open Json (IsDigits)

/-! ### Numerals -/

namespace Text

/-- The number that digits stand for, the last one counting ones. -/
def decimalValue (ds : List Char) : Nat :=
  Nat.ofDigits 10 (ds.reverse.map fun c ↦ c.toNat - '0'.toNat)

/-- **A numeral of a number below a bound**: digits, with a plus before them or without. -/
inductive NumeralBelow (bound : Nat) : List Char → Nat → Prop
  | bare {ds : List Char} (h : IsDigits ds) (hlt : decimalValue ds < bound) :
    NumeralBelow bound ds (decimalValue ds)
  | plus {ds : List Char} (h : IsDigits ds) (hlt : decimalValue ds < bound) :
    NumeralBelow bound ('+' :: ds) (decimalValue ds)

theorem digitsValue_eq (ds : List Char) : digitsValue ds = decimalValue ds := by
  induction ds using List.reverseRecOn with
  | nil => rfl
  | append_singleton ds c ih =>
    have hlast : digitsValue (ds ++ [c]) = 10 * digitsValue ds + (c.toNat - '0'.toNat) :=
      Nat.ofDigitChars_append 0
    rw [hlast, ih, decimalValue, decimalValue, List.reverse_concat, List.map_cons,
      Nat.ofDigits_cons, Nat.add_comm]

theorem readDigits?_eq_some_iff {ds : List Char} {n : Nat} :
    readDigits? ds = some n ↔ IsDigits ds ∧ decimalValue ds = n := by
  have htest : (ds.isEmpty || !ds.all isDigit) = true ↔ ¬ IsDigits ds := by
    rw [IsDigits, not_and_or]
    simp
  rw [readDigits?, digitsValue_eq]
  by_cases h : IsDigits ds
  · rw [if_neg fun hempty ↦ htest.1 hempty h, Option.some.injEq, and_iff_right h]
  · rw [if_pos (htest.2 h)]
    exact iff_of_false nofun fun hds ↦ h hds.1

/-- **The reader takes exactly the numerals below its bound.** -/
theorem readBelow?_eq_some_iff {bound n : Nat} {cs : List Char} :
    readBelow? bound cs = some n ↔ NumeralBelow bound cs n := by
  have hread {ds : List Char} : (readDigits? ds).filter (· < bound) = some n ↔
      (IsDigits ds ∧ decimalValue ds = n) ∧ n < bound := by
    rw [Option.filter_eq_some_iff, readDigits?_eq_some_iff, decide_eq_true_iff]
  constructor
  · intro h
    unfold readBelow? at h
    split at h
    · obtain ⟨⟨hds, rfl⟩, hlt⟩ := hread.1 h
      exact .plus hds hlt
    · obtain ⟨⟨hds, rfl⟩, hlt⟩ := hread.1 h
      exact .bare hds hlt
  · rintro (⟨hds, hlt⟩ | ⟨hds, hlt⟩)
    · unfold readBelow?
      split
      · -- A plus is no digit.
        exact absurd (hds.2 '+' List.mem_cons_self) (by decide)
      · exact hread.2 ⟨⟨hds, rfl⟩, hlt⟩
    · exact hread.2 ⟨⟨hds, rfl⟩, hlt⟩

/-! ### Zeros that come first -/

theorem decimalValue_zeros (k : Nat) (ds : List Char) :
    decimalValue (List.replicate k '0' ++ ds) = decimalValue ds := by
  rw [← digitsValue_eq, ← digitsValue_eq, digitsValue, Nat.ofDigitChars_append,
    Nat.ofDigitChars_replicate_zero, Nat.mul_zero]
  rfl

/-- **Digits are those of the number that they stand for**, with zeros before them. -/
theorem exists_zeros_of_isDigits {ds : List Char} (h : IsDigits ds) :
    ∃ k, ds = List.replicate k '0' ++ digits (decimalValue ds) := by
  induction ds with
  | nil => exact absurd rfl h.1
  | cons c r ih =>
    by_cases hzero : c = '0' ∧ r ≠ []
    · obtain ⟨rfl, hr⟩ := hzero
      obtain ⟨k, hk⟩ := ih ⟨hr, fun c hc ↦ h.2 c (List.mem_cons_of_mem _ hc)⟩
      have hvalue : decimalValue ('0' :: r) = decimalValue r := decimalValue_zeros 1 r
      refine ⟨k + 1, ?_⟩
      rw [hvalue, List.replicate_succ, List.cons_append, ← hk]
    · -- Without a zero that something follows, the digits are as they are written.
      have hwhole : Json.SpellsWhole (c :: r) := by
        by_cases hr : r = [] ∧ c = '0'
        · obtain ⟨rfl, rfl⟩ := hr
          exact .zero
        · refine .positive h fun hhead ↦ ?_
          have hc : c = '0' := Option.some.inj hhead
          exact hzero ⟨hc, fun hnil ↦ hr ⟨hnil, hc⟩⟩
      refine ⟨0, ?_⟩
      rw [← digitsValue_eq, hwhole.digits_eq]
      rfl

theorem isDigits_zeros (k n : Nat) : IsDigits (List.replicate k '0' ++ digits n) := by
  refine ⟨List.append_ne_nil_of_right_ne_nil _ (digits_ne_nil n), fun c hc ↦ ?_⟩
  rcases List.mem_append.1 hc with hc | hc
  · rw [List.eq_of_mem_replicate hc]
    rfl
  · exact isDigit_of_mem_digits hc

/-- **The numerals of a number** are its digits behind any number of zeros, and with a plus before
these or without. -/
theorem numeralBelow_iff {bound n : Nat} {cs : List Char} :
    NumeralBelow bound cs n ↔ n < bound ∧ ∃ sign k, (sign = [] ∨ sign = ['+']) ∧
      cs = sign ++ (List.replicate k '0' ++ digits n) := by
  constructor
  · rintro (⟨hds, hlt⟩ | ⟨hds, hlt⟩)
    · obtain ⟨k, hk⟩ := exists_zeros_of_isDigits hds
      exact ⟨hlt, [], k, .inl rfl, hk⟩
    · obtain ⟨k, hk⟩ := exists_zeros_of_isDigits hds
      exact ⟨hlt, ['+'], k, .inr rfl, congrArg ('+' :: ·) hk⟩
  · rintro ⟨hlt, sign, k, hsign, rfl⟩
    have hds := isDigits_zeros k n
    have hvalue : decimalValue (List.replicate k '0' ++ digits n) = n := by
      rw [decimalValue_zeros, ← digitsValue_eq, digitsValue_digits]
    generalize List.replicate k '0' ++ digits n = ds at hds hvalue
    subst hvalue
    rcases hsign with rfl | rfl
    · exact .bare hds hlt
    · exact .plus hds hlt

end Text

namespace Settings

/-! ### Durations -/

/-- **A text means a number of milliseconds**: between the blanks around it stands a numeral of a
number that a word of 64 bits can hold. -/
def MeansMillis (text : String) (n : Nat) : Prop :=
  ∃ core, Text.HasCore text.toList core ∧ Text.NumeralBelow (2 ^ 64) core n

/-- A variable that is set to a duration, or is not set at all. -/
def Acceptable (value : Option String) : Prop := ∀ text ∈ value, ∃ n, MeansMillis text n

theorem millis?_eq_some_iff {text : String} {n : Nat} :
    millis? text = some n ↔ MeansMillis text n := by
  have hbound : Text.bound64 = 2 ^ 64 := by decide
  rw [millis?, Text.readBelow?_eq_some_iff, hbound]
  constructor
  · intro h
    exact ⟨_, Text.hasCore_trim _, h⟩
  · rintro ⟨core, hcore, h⟩
    rwa [hcore.trim_eq]

theorem millis?_eq_none_iff {text : String} :
    millis? text = none ↔ ∀ n, ¬ MeansMillis text n := by
  rw [Option.eq_none_iff_forall_ne_some]
  exact forall_congr' fun n ↦ not_congr millis?_eq_some_iff

theorem acceptable_iff {value : Option String} :
    Acceptable value ↔ ∃ ms, Option.Rel MeansMillis value ms := by
  rcases value with - | text
  · exact iff_of_true nofun ⟨none, .none⟩
  · constructor
    · intro h
      obtain ⟨n, hn⟩ := h text rfl
      exact ⟨some n, .some hn⟩
    · rintro ⟨-, ⟨hn⟩⟩ text' htext
      exact ⟨_, Option.some.inj htext ▸ hn⟩

/-- What a variable holds is what its text means. -/
theorem readMillis_eq_ok_iff {key : String} {value : Option String} {ms : Option Nat} :
    readMillis key value = .ok ms ↔ Option.Rel MeansMillis value ms := by
  rcases value with - | text
  · rcases ms with - | n
    · exact iff_of_true rfl .none
    · exact iff_of_false nofun nofun
  · rw [readMillis]
    rcases hread : millis? text with - | m
    · refine iff_of_false nofun ?_
      rintro ⟨hn⟩
      exact millis?_eq_none_iff.1 hread _ hn
    · constructor
      · intro h
        obtain rfl := Except.ok.inj h
        exact .some (millis?_eq_some_iff.1 hread)
      · rintro ⟨hn⟩
        rw [millis?_eq_some_iff.2 hn] at hread
        rw [Option.some.inj hread]

theorem readMillis_eq_error_iff {key : String} {value : Option String} {e : SettingsError} :
    readMillis key value = .error e ↔
      ∃ text, value = some text ∧ (∀ n, ¬ MeansMillis text n) ∧ e = .invalidDuration key text := by
  rcases value with - | text
  · exact iff_of_false nofun nofun
  · rw [readMillis]
    rcases hread : millis? text with - | m
    · constructor
      · intro h
        exact ⟨text, rfl, millis?_eq_none_iff.1 hread, (Except.error.inj h).symm⟩
      · rintro ⟨text', htext, -, rfl⟩
        rw [Option.some.inj htext]
    · refine iff_of_false nofun ?_
      rintro ⟨text', htext, hn, -⟩
      rw [← Option.some.inj htext] at hn
      exact hn m (millis?_eq_some_iff.1 hread)

/-! ### The three variables -/

/-- The variables that hold durations, in the order in which they are read. -/
def durationVariables : List String := [initialDelayVariable, remoteTimeoutVariable]

/-- **The first duration that is none**: those before it are acceptable. -/
structure FirstInvalid (lookup : String → Option String) (key text : String) : Prop where
  /-- The variable is set, -/
  found : lookup key = some text
  /-- to a text that means no duration, -/
  meaningless : ∀ n, ¬ MeansMillis text n
  /-- and none of the variables before it is. -/
  first : ∃ before after, durationVariables = before ++ key :: after ∧
    ∀ k ∈ before, Acceptable (lookup k)

variable {lookup : String → Option String}

theorem ofLookup_eq_ok_iff {s : Settings} :
    ofLookup lookup = .ok s ↔
      s.storePath = (lookup storePathVariable).getD "tracesync.json" ∧
      (∃ delay, Option.Rel MeansMillis (lookup initialDelayVariable) delay ∧
        s.initialDelay = delay.getD 0) ∧
      Option.Rel MeansMillis (lookup remoteTimeoutVariable) s.remoteTimeout := by
  constructor
  · intro h
    obtain ⟨delay, hdelay, h⟩ := exists_of_bind_eq_ok h
    obtain ⟨limit, hlimit, h⟩ := exists_of_bind_eq_ok h
    obtain rfl := Except.ok.inj h
    exact ⟨rfl, ⟨delay, readMillis_eq_ok_iff.1 hdelay, rfl⟩, readMillis_eq_ok_iff.1 hlimit⟩
  · obtain ⟨storePath, initialDelay, remoteTimeout⟩ := s
    rintro ⟨rfl, ⟨delay, hdelay, rfl⟩, hlimit⟩
    rw [ofLookup, readMillis_eq_ok_iff.2 hdelay, readMillis_eq_ok_iff.2 hlimit]
    rfl

/-- Either variable can be the first, the second one only if the first one is acceptable. -/
theorem firstInvalid_iff {key text : String} :
    FirstInvalid lookup key text ↔ lookup key = some text ∧ (∀ n, ¬ MeansMillis text n) ∧
      (key = initialDelayVariable ∨
        key = remoteTimeoutVariable ∧ Acceptable (lookup initialDelayVariable)) := by
  constructor
  · rintro ⟨hfound, hnone, before, after, hsplit, hbefore⟩
    refine ⟨hfound, hnone, ?_⟩
    rcases before with - | ⟨k, before⟩
    · exact .inl (List.cons.inj hsplit).1.symm
    · obtain ⟨rfl, hrest⟩ := List.cons.inj hsplit
      have hdelay := hbefore initialDelayVariable List.mem_cons_self
      rcases before with - | ⟨k, before⟩
      · exact .inr ⟨(List.cons.inj hrest).1.symm, hdelay⟩
      · exact absurd (List.cons.inj hrest).2.symm (by simp)
  · rintro ⟨hfound, hnone, rfl | ⟨rfl, hdelay⟩⟩
    · exact ⟨hfound, hnone, [], [remoteTimeoutVariable], rfl, nofun⟩
    · exact ⟨hfound, hnone, [initialDelayVariable], [], rfl, List.forall_mem_singleton.2 hdelay⟩

/-- What goes wrong does so in one of the two durations. -/
theorem ofLookup_eq_error_iff_readMillis {e : SettingsError} :
    ofLookup lookup = .error e ↔
      readMillis initialDelayVariable (lookup initialDelayVariable) = .error e ∨
        Acceptable (lookup initialDelayVariable) ∧
          readMillis remoteTimeoutVariable (lookup remoteTimeoutVariable) = .error e := by
  rw [ofLookup, bind_eq_error_iff, acceptable_iff]
  refine or_congr_right ⟨?_, ?_⟩
  · rintro ⟨delay, hdelay, h⟩
    have hlimit := (bind_eq_error_iff.1 h).resolve_right nofun
    exact ⟨⟨delay, readMillis_eq_ok_iff.1 hdelay⟩, hlimit⟩
  · rintro ⟨⟨delay, hdelay⟩, hlimit⟩
    exact ⟨delay, readMillis_eq_ok_iff.2 hdelay, bind_eq_error_iff.2 (.inl hlimit)⟩

theorem ofLookup_eq_error_iff {e : SettingsError} :
    ofLookup lookup = .error e ↔
      ∃ key text, FirstInvalid lookup key text ∧ e = .invalidDuration key text := by
  simp only [ofLookup_eq_error_iff_readMillis, readMillis_eq_error_iff, firstInvalid_iff]
  constructor
  · rintro (⟨text, hfound, hnone, rfl⟩ | ⟨hdelay, text, hfound, hnone, rfl⟩)
    · exact ⟨_, text, ⟨hfound, hnone, .inl rfl⟩, rfl⟩
    · exact ⟨_, text, ⟨hfound, hnone, .inr ⟨rfl, hdelay⟩⟩, rfl⟩
  · rintro ⟨key, text, ⟨hfound, hnone, rfl | ⟨rfl, hdelay⟩⟩, rfl⟩
    · exact .inl ⟨text, hfound, hnone, rfl⟩
    · exact .inr ⟨hdelay, text, hfound, hnone, rfl⟩

/-- **The variables that give settings, and the settings that they give.** There are settings if and
only if each duration that is set is a numeral below 2⁶⁴ between blanks; they are the durations that
the numerals stand for and the path as it was found, or what goes without saying; and otherwise the
error names the first duration that is none, with its text as it was found. -/
theorem ofLookup_exact (lookup : String → Option String) :
    ((∃ s, ofLookup lookup = .ok s) ↔ ∀ key ∈ durationVariables, Acceptable (lookup key)) ∧
    (∀ s, ofLookup lookup = .ok s ↔
      s.storePath = (lookup storePathVariable).getD "tracesync.json" ∧
      (∃ delay, Option.Rel MeansMillis (lookup initialDelayVariable) delay ∧
        s.initialDelay = delay.getD 0) ∧
      Option.Rel MeansMillis (lookup remoteTimeoutVariable) s.remoteTimeout) ∧
    (∀ e, ofLookup lookup = .error e ↔
      ∃ key text, FirstInvalid lookup key text ∧ e = .invalidDuration key text) ∧
    ∀ text n, MeansMillis text n ↔ n < 2 ^ 64 ∧ ∃ sign k, (sign = [] ∨ sign = ['+']) ∧
      Text.HasCore text.toList (sign ++ (List.replicate k '0' ++ Text.digits n)) := by
  refine ⟨?_, fun s ↦ ofLookup_eq_ok_iff, fun e ↦ ofLookup_eq_error_iff, fun text n ↦ ?_⟩
  · rw [durationVariables, List.forall_mem_cons, List.forall_mem_singleton]
    constructor
    · rintro ⟨s, hs⟩
      obtain ⟨-, ⟨delay, hdelay, -⟩, hlimit⟩ := ofLookup_eq_ok_iff.1 hs
      exact ⟨acceptable_iff.2 ⟨delay, hdelay⟩, acceptable_iff.2 ⟨_, hlimit⟩⟩
    · rintro ⟨hdelay, hlimit⟩
      obtain ⟨delay, hdelay⟩ := acceptable_iff.1 hdelay
      obtain ⟨limit, hlimit⟩ := acceptable_iff.1 hlimit
      exact ⟨⟨_, delay.getD 0, limit⟩, ofLookup_eq_ok_iff.2 ⟨rfl, ⟨delay, hdelay, rfl⟩, hlimit⟩⟩
  · constructor
    · rintro ⟨core, hcore, hnumeral⟩
      obtain ⟨hlt, sign, k, hsign, rfl⟩ := Text.numeralBelow_iff.1 hnumeral
      exact ⟨hlt, sign, k, hsign, hcore⟩
    · rintro ⟨hlt, sign, k, hsign, hcore⟩
      exact ⟨_, hcore, Text.numeralBelow_iff.2 ⟨hlt, sign, k, hsign, rfl⟩⟩

/-- A plus and zeros before the greatest duration, between wide blanks; the next number, a plus on
its own and blanks on their own are none. -/
example :
    millis? "\u3000+00018446744073709551615\n" = some 18446744073709551615 ∧
      ["18446744073709551616", "+", " ", "++1", "-0", "1_000"].map millis? =
        List.replicate 6 none := by
  decide

end Settings

end TraceReconciler
