/-!
# Blanks

White space in the sense of the Unicode property, and the text that remains when it is taken off
both ends. The table is short and closed: 25 code points, six of them ASCII.

Trimming takes every text to its one core, which has blanks around it and none at its ends
(`trim_eq_iff`).
-/

namespace TraceReconciler.Text

/-- White space: the characters that carry the Unicode property of that name. -/
def isBlank (c : Char) : Bool :=
  let n := c.toNat
  (9 ≤ n && n ≤ 13) || n == 0x20 || n == 0x85 || n == 0xA0 || n == 0x1680
    || (0x2000 ≤ n && n ≤ 0x200A) || n == 0x2028 || n == 0x2029 || n == 0x202F || n == 0x205F
    || n == 0x3000

/-- The characters after the leading blanks. -/
def trimLeft (cs : List Char) : List Char := cs.dropWhile isBlank

/-- The characters before the trailing blanks. -/
def trimRight (cs : List Char) : List Char := (cs.reverse.dropWhile isBlank).reverse

/-- The characters between the leading and the trailing blanks. -/
def trim (cs : List Char) : List Char := trimRight (trimLeft cs)

example : trim "\u2003 a b\u3000\n".toList = ['a', ' ', 'b'] := by decide

/-! ### What is left between the blanks -/

/-- A text that neither begins nor ends with a blank. -/
def Trimmed (cs : List Char) : Prop :=
  (∀ c ∈ cs.head?, isBlank c = false) ∧ ∀ c ∈ cs.getLast?, isBlank c = false

/-- **A text is its core with blanks on both sides.** -/
def HasCore (cs core : List Char) : Prop :=
  ∃ before after, cs = before ++ (core ++ after) ∧ (∀ c ∈ before, isBlank c = true) ∧
    (∀ c ∈ after, isBlank c = true) ∧ Trimmed core

theorem isBlank_of_mem_takeWhile {cs : List Char} {c : Char} (h : c ∈ cs.takeWhile isBlank) :
    isBlank c = true :=
  List.all_eq_true.1 List.all_takeWhile c h

theorem isBlank_of_mem_head?_dropWhile {cs : List Char} {c : Char}
    (h : c ∈ (cs.dropWhile isBlank).head?) : isBlank c = false := by
  have hhead := List.head?_dropWhile_not isBlank cs
  rwa [h] at hhead

/-- What does not begin with a blank stays when blanks are dropped. -/
theorem dropWhile_isBlank_of_head? {cs : List Char} (h : ∀ c ∈ cs.head?, isBlank c = false) :
    cs.dropWhile isBlank = cs := by
  cases cs with
  | nil => rfl
  | cons c r => rw [List.dropWhile_cons, h c rfl, if_neg Bool.false_ne_true]

theorem hasCore_trim (cs : List Char) : HasCore cs (trim cs) := by
  have hleft : cs.takeWhile isBlank ++ trimLeft cs = cs := List.takeWhile_append_dropWhile
  have hright : trim cs ++ ((trimLeft cs).reverse.takeWhile isBlank).reverse = trimLeft cs := by
    rw [trim, trimRight, ← List.reverse_append, List.takeWhile_append_dropWhile,
      List.reverse_reverse]
  refine ⟨cs.takeWhile isBlank, ((trimLeft cs).reverse.takeWhile isBlank).reverse, ?_,
    fun c ↦ isBlank_of_mem_takeWhile, fun c hc ↦ ?_, fun c hc ↦ ?_, fun c hc ↦ ?_⟩
  · rw [hright, hleft]
  · exact isBlank_of_mem_takeWhile (List.mem_reverse.1 hc)
  · -- The first character of what is left is the first one after the leading blanks.
    have hhead : c ∈ (trimLeft cs).head? := by
      rw [← hright, List.head?_append, hc]
      rfl
    exact isBlank_of_mem_head?_dropWhile hhead
  · rw [trim, trimRight, List.getLast?_reverse] at hc
    exact isBlank_of_mem_head?_dropWhile hc

/-- **A text has one core**, which is what trimming leaves of it. -/
theorem HasCore.trim_eq {cs core : List Char} (h : HasCore cs core) : trim cs = core := by
  obtain ⟨before, after, rfl, hbefore, hafter, hhead, hlast⟩ := h
  have hleft : trimLeft (before ++ (core ++ after)) = (core ++ after).dropWhile isBlank :=
    List.dropWhile_append_of_pos hbefore
  cases core with
  | nil =>
    have hnil : (after ++ []).dropWhile isBlank = [] := List.dropWhile_append_of_pos hafter
    rw [List.append_nil] at hnil
    rw [trim, hleft, List.nil_append, hnil]
    rfl
  | cons c r =>
    have hstays : (c :: r ++ after).dropWhile isBlank = c :: r ++ after :=
      dropWhile_isBlank_of_head? fun d hd ↦ hhead d hd
    have hends : ((c :: r).reverse).dropWhile isBlank = (c :: r).reverse :=
      dropWhile_isBlank_of_head? fun d hd ↦ hlast d (by rwa [List.head?_reverse] at hd)
    rw [trim, hleft, hstays, trimRight, List.reverse_append,
      List.dropWhile_append_of_pos fun d hd ↦ hafter d (List.mem_reverse.1 hd), hends,
      List.reverse_reverse]

theorem trim_eq_iff {cs core : List Char} : trim cs = core ↔ HasCore cs core :=
  ⟨fun h ↦ h ▸ hasCore_trim cs, HasCore.trim_eq⟩

end TraceReconciler.Text
