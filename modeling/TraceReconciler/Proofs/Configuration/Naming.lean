import Mathlib.Data.List.Forall2
import TraceReconciler.Configuration.Snapshot

/-!
# The names that are understood

A slot has one name, and it is understood in many spellings: with blanks around it, in capitals or
in small letters, and with dashes for some of the underscores or for all of them. Nothing else is
understood. Only ASCII letters have a case here, so a letter that looks like one of them, or whose
small form is one, does not stand for it, and neither does a blank inside a name.

The spellings of a name are said as a grammar (`Slot.NamedBy`) that does not mention how a name is
brought into its plain form. **Reading a name takes exactly these spellings**, no text is a spelling
of two names, and any other text is refused just as it was given (`Slot.ofName_grammar`).
-/

namespace TraceReconciler

/-! ### Spellings -/

/-- **A character stands for one of a name**: it is the same letter in some case, or a dash in place
of an underscore. -/
def StandsFor (c a : Char) : Prop := c.toLower = a.toLower ∨ a = '_' ∧ c = '-'

/-- **A text is a spelling of a name**: between the blanks around it stands one character for each
of the name. -/
def Slot.NamedBy (s : Slot) (text : String) : Prop :=
  ∃ core, Text.HasCore text.toList core ∧ List.Forall₂ StandsFor core s.name.toList

/-! ### The plain form -/

theorem plainLetter_eq (c : Char) : plainLetter c = if c = '-' then '_' else c.toLower := by
  by_cases hcapital : 'A' ≤ c ∧ c ≤ 'Z'
  · have hdash : c ≠ '-' := by
      rintro rfl
      exact absurd hcapital (by decide)
    have hval : 'A'.val ≤ c.val ∧ c.val ≤ 'Z'.val := hcapital
    have hlower : c.toLower.toNat = c.toNat + 32 := by
      have hle : c.val.toNat ≤ 'Z'.val.toNat := hval.2
      have hshift : c.toLower.val = c.val + 32 := congrArg Char.val (dif_pos hval)
      show c.toLower.val.toNat = c.val.toNat + 32
      rw [hshift, UInt32.toNat_add, Nat.mod_eq_of_lt]
      · rfl
      · exact Nat.lt_of_le_of_lt (Nat.add_le_add_right hle _) (by decide)
    rw [plainLetter, if_pos hcapital, if_neg hdash, ← hlower, Char.ofNat_toNat]
  · have hval : ¬ ('A'.val ≤ c.val ∧ c.val ≤ 'Z'.val) := hcapital
    have hlower : c.toLower = c := dif_neg hval
    rw [plainLetter, if_neg hcapital, hlower]

/-- The plain form of a character is one of a name if the character stands for it. -/
theorem plainLetter_eq_iff {c a : Char} (hlower : a.toLower = a) (hdash : a ≠ '-') :
    plainLetter c = a ↔ StandsFor c a := by
  rw [plainLetter_eq, StandsFor, hlower]
  by_cases hc : c = '-'
  · have hno : Char.toLower '-' ≠ a := fun h ↦ hdash h.symm
    rw [hc, if_pos rfl, or_iff_right hno, and_iff_left rfl, eq_comm]
  · simp [hc]

theorem map_plainLetter_eq_iff {cs name : List Char}
    (hname : ∀ a ∈ name, a.toLower = a ∧ a ≠ '-') :
    cs.map plainLetter = name ↔ List.Forall₂ StandsFor cs name := by
  induction name generalizing cs with
  | nil => simp
  | cons a name ih =>
    rw [List.forall_mem_cons] at hname
    cases cs with
    | nil => simp
    | cons c cs =>
      rw [List.map_cons, List.cons_eq_cons, List.forall₂_cons, ih hname.2,
        plainLetter_eq_iff hname.1.1 hname.1.2]

namespace Slot

/-- Names are in their plain form. -/
theorem name_plain (s : Slot) : ∀ a ∈ s.name.toList, a.toLower = a ∧ a ≠ '-' := by
  have hall : (s.name.toList.all fun a ↦ a.toLower == a && a != '-') = true := by
    cases s <;> rfl
  simpa using hall

/-- No two slots share a name. -/
theorem find?_name (s : Slot) : (all.find? fun t ↦ t.name.toList == s.name.toList) = some s := by
  cases s <;> decide

theorem ofName?_eq_some_iff {text : String} {s : Slot} :
    ofName? text = some s ↔ (Text.trim text.toList).map plainLetter = s.name.toList := by
  constructor
  · intro h
    have hname := List.find?_some h
    exact (eq_of_beq hname).symm
  · intro h
    rw [ofName?, h, find?_name]

/-- **The names that are understood are the spellings of names.** -/
theorem ofName?_eq_some_iff_namedBy {text : String} {s : Slot} :
    ofName? text = some s ↔ s.NamedBy text := by
  rw [ofName?_eq_some_iff, map_plainLetter_eq_iff s.name_plain]
  constructor
  · intro h
    exact ⟨_, Text.hasCore_trim _, h⟩
  · rintro ⟨core, hcore, h⟩
    rwa [hcore.trim_eq]

theorem ofName_eq_ok_iff {text : String} {s : Slot} :
    ofName text = .ok s ↔ ofName? text = some s := by
  rw [ofName]
  cases ofName? text <;> simp

theorem ofName_eq_error_iff {text : String} {e : EngineError} :
    ofName text = .error e ↔ ofName? text = none ∧ e = .unknownFeature text := by
  rw [ofName]
  cases ofName? text <;> simp [eq_comm]

/-- **Reading a name.** A text means a slot if and only if it is a spelling of its name; no text is
a spelling of two names; and a text that is none is refused, and it is named in the error as it was
given, with its blanks and its capitals. -/
theorem ofName_grammar (text : String) :
    (∀ s, ofName text = .ok s ↔ s.NamedBy text) ∧
      (∀ s t : Slot, s.NamedBy text ∧ t.NamedBy text → s = t) ∧
      (ofName text = .error (.unknownFeature text) ↔ ∀ s, ¬ NamedBy s text) := by
  refine ⟨fun s ↦ ofName_eq_ok_iff.trans ofName?_eq_some_iff_namedBy, ?_, ?_⟩
  · rintro s t ⟨hs, ht⟩
    rw [← ofName?_eq_some_iff_namedBy] at hs ht
    exact Option.some.inj (hs.symm.trans ht)
  · rw [ofName_eq_error_iff, and_iff_left rfl, Option.eq_none_iff_forall_ne_some]
    exact forall_congr' fun s ↦ not_congr ofName?_eq_some_iff_namedBy

/-- A wide blank, capitals and a dash are understood; a long s is not the letter s. -/
example : ofName "\u3000Open-FILE_descriptors\n" = .ok .openFiles ∧
    ofName " \u017figquit" = .error (.unknownFeature " \u017figquit") :=
  ⟨rfl, rfl⟩

end Slot

end TraceReconciler
