import TraceReconciler.Proofs.Json.Spelling

/-!
# The two layouts of a value

A value is written compactly or on indented lines. Both texts spell the same tree (`Value.node`):
`spelledIn_text`, `spelledIn_prettyText`. So both are read as this tree, and whoever decodes it
cannot tell which layout it came from.

Each layout is followed along the value, its items and its members. A pretty array ends its last
item with the line of its closing bracket, so the statements about pretty items and members leave
open which blanks come after them.

The compact text has no control character in it (`controlFree_compact`): it stays on one line and
can be handed on as octets that a zero ends.
-/

namespace TraceReconciler.Json

namespace Value

mutual

/-- The tree that a text of a value is read as. -/
def node : Value → Node
  | .null => .null
  | .boolean b => .boolean b
  | .nat n => .number (.ofNat n)
  | .string s => .string (.ofString s)
  | .array items => .array (nodes items) .closed
  | .object members => .object (memberNodes members) .closed

/-- The trees of items. -/
def nodes : List Value → List Node
  | [] => []
  | x :: l => node x :: nodes l

/-- The trees of members, with their keys. -/
def memberNodes : List (String × Value) → List (StringToken × Node)
  | [] => []
  | (k, x) :: l => (.ofString k, node x) :: memberNodes l

end

theorem memberNodes_append (l m : List (String × Value)) :
    memberNodes (l ++ m) = memberNodes l ++ memberNodes m := by
  induction l with
  | nil => rfl
  | cons x l ih => rw [List.cons_append, memberNodes, ih, memberNodes, List.cons_append]

mutual

/-- **The compact text of a value spells its tree.** -/
theorem spells_compact : ∀ v : Value, Spells v.compact v.node
  | .null => .null
  | .boolean b => .boolean b
  | .nat n => .number (Numeral.spellsNumeral_digits n)
  | .string s => .string (spellsString_stringText s)
  | .array [] => .emptyArray isBlank_nil
  | .array (x :: l) => .array (spells_compactItems (x :: l) (List.cons_ne_nil x l))
  | .object [] => .emptyObject isBlank_nil
  | .object (m :: l) => .object (spells_compactMembers (m :: l) (List.cons_ne_nil m l))

theorem spells_compactItems : ∀ l : List Value, l ≠ [] → SpellsItems (compactItems l) (nodes l)
  | [], h => absurd rfl h
  | [x], _ => by
    have h := SpellsItems.last isBlank_nil (spells_compact x) isBlank_nil
    rwa [List.append_nil] at h
  | x :: y :: l, _ =>
    .more isBlank_nil (spells_compact x) isBlank_nil
      (spells_compactItems (y :: l) (List.cons_ne_nil y l))

theorem spells_compactMembers :
    ∀ l : List (String × Value), l ≠ [] → SpellsMembers (compactMembers l) (memberNodes l)
  | [], h => absurd rfl h
  | [(k, x)], _ => by
    have h := SpellsMembers.last isBlank_nil (spellsString_stringText k) isBlank_nil isBlank_nil
      (spells_compact x) isBlank_nil
    rwa [List.append_nil] at h
  | (k, x) :: m :: l, _ =>
    .more isBlank_nil (spellsString_stringText k) isBlank_nil isBlank_nil (spells_compact x)
      isBlank_nil (spells_compactMembers (m :: l) (List.cons_ne_nil m l))

end

/-! ### Control characters -/

/-- There is no control character among some characters. -/
def ControlFree (cs : List Char) : Prop := ∀ c ∈ cs, 0x20 ≤ c.toNat

instance (cs : List Char) : Decidable (ControlFree cs) :=
  decidable_of_iff (cs.all fun c ↦ decide (0x20 ≤ c.toNat)) (by simp [ControlFree])

@[simp] theorem controlFree_nil : ControlFree [] := fun _ hc ↦ absurd hc List.not_mem_nil

@[simp] theorem controlFree_cons {c : Char} {cs : List Char} :
    ControlFree (c :: cs) ↔ 0x20 ≤ c.toNat ∧ ControlFree cs := List.forall_mem_cons

@[simp] theorem controlFree_append {cs ds : List Char} :
    ControlFree (cs ++ ds) ↔ ControlFree cs ∧ ControlFree ds := List.forall_mem_append

theorem controlFree_digits (n : Nat) : ControlFree (Text.digits n) := by
  intro c hc
  have hdigit := Text.isDigit_of_mem_digits hc
  simp only [Text.isDigit, Bool.and_eq_true, decide_eq_true_eq] at hdigit
  exact Nat.le_trans (by decide) (show '0'.toNat ≤ c.toNat from hdigit.1)

theorem controlFree_unit :
    ∀ n < 0x20, ControlFree ['\\', 'u', '0', '0', hexChar (n / 16), hexChar (n % 16)] := by
  decide

theorem controlFree_escapeChar (c : Char) : ControlFree (escapeChar c) := by
  rcases escapeChar_cases c with ⟨e, hc, -, hletter⟩ | ⟨-, hcontrol, hc⟩ | ⟨-, hcontrol, hc⟩
  · rcases hletter with rfl | rfl | rfl | rfl | rfl | rfl | rfl <;> decide
  · rw [hc]
    exact controlFree_unit c.toNat hcontrol
  · rw [hc]
    simpa using hcontrol

theorem controlFree_stringText (s : String) : ControlFree (stringText s) := by
  have hchars : ControlFree (escapeChars s.toList) := by
    intro c hc
    obtain ⟨d, -, hd⟩ := List.mem_flatMap.1 hc
    exact controlFree_escapeChar d c hd
  simp [stringText, hchars]

mutual

/-- **The compact text of a value has no control character**, whatever the value holds. -/
theorem controlFree_compact : ∀ v : Value, ControlFree v.compact
  | .null => by decide
  | .boolean b => by cases b <;> decide
  | .nat n => controlFree_digits n
  | .string s => controlFree_stringText s
  | .array l => by simpa [compact] using controlFree_compactItems l
  | .object l => by simpa [compact] using controlFree_compactMembers l

theorem controlFree_compactItems : ∀ l : List Value, ControlFree (compactItems l)
  | [] => controlFree_nil
  | [x] => controlFree_compact x
  | x :: y :: l => by
    simpa [compactItems] using ⟨controlFree_compact x, controlFree_compactItems (y :: l)⟩

theorem controlFree_compactMembers :
    ∀ l : List (String × Value), ControlFree (compactMembers l)
  | [] => controlFree_nil
  | [(k, x)] => by
    simpa [compactMembers] using ⟨controlFree_stringText k, controlFree_compact x⟩
  | (k, x) :: m :: l => by
    simpa [compactMembers] using
      ⟨controlFree_stringText k, controlFree_compact x, controlFree_compactMembers (m :: l)⟩

end

theorem isBlank_newline (depth : Nat) : IsBlank (newline depth) := by
  intro c hc
  rcases List.mem_cons.1 hc with rfl | hc
  · rfl
  · obtain rfl := List.eq_of_mem_replicate hc
    rfl

theorem isBlank_space : IsBlank [' '] := by
  intro c hc
  obtain rfl := List.mem_singleton.1 hc
  rfl

mutual

/-- **The pretty text of a value spells its tree**, inside any number of brackets. -/
theorem spells_prettyAt (depth : Nat) : ∀ v : Value, Spells (v.prettyAt depth) v.node
  | .null => .null
  | .boolean b => .boolean b
  | .nat n => .number (Numeral.spellsNumeral_digits n)
  | .string s => .string (spellsString_stringText s)
  | .array [] => .emptyArray isBlank_nil
  | .array (x :: l) =>
    .array (spells_prettyItems (depth + 1) (isBlank_newline depth) (x :: l)
      (List.cons_ne_nil x l))
  | .object [] => .emptyObject isBlank_nil
  | .object (m :: l) =>
    .object (spells_prettyMembers (depth + 1) (isBlank_newline depth) (m :: l)
      (List.cons_ne_nil m l))

theorem spells_prettyItems (depth : Nat) {b : List Char} (hb : IsBlank b) :
    ∀ l : List Value, l ≠ [] → SpellsItems (prettyItems depth l ++ b) (nodes l)
  | [], h => absurd rfl h
  | [x], _ => by
    rw [prettyItems, List.append_assoc]
    exact .last (isBlank_newline depth) (spells_prettyAt depth x) hb
  | x :: y :: l, _ => by
    have hrest := spells_prettyItems depth hb (y :: l) (List.cons_ne_nil y l)
    rw [prettyItems, List.append_assoc, List.append_assoc, List.cons_append]
    exact .more (isBlank_newline depth) (spells_prettyAt depth x) isBlank_nil hrest

theorem spells_prettyMembers (depth : Nat) {b : List Char} (hb : IsBlank b) :
    ∀ l : List (String × Value), l ≠ [] → SpellsMembers (prettyMembers depth l ++ b) (memberNodes l)
  | [], h => absurd rfl h
  | [(k, x)], _ => by
    rw [prettyMembers, List.append_assoc, List.append_assoc]
    exact .last (isBlank_newline depth) (spellsString_stringText k) isBlank_nil isBlank_space
      (spells_prettyAt depth x) hb
  | (k, x) :: m :: l, _ => by
    have hrest := spells_prettyMembers depth hb (m :: l) (List.cons_ne_nil m l)
    have hmember := SpellsMembers.more (isBlank_newline depth) (spellsString_stringText k)
      isBlank_nil isBlank_space (spells_prettyAt depth x) isBlank_nil hrest
    simp only [prettyMembers, List.append_assoc, List.cons_append] at hmember ⊢
    exact hmember

end

/-- **Both texts of a value spell its tree.** -/
theorem spelledIn_text (v : Value) : SpelledIn v.text v.node := by
  refine ⟨[], v.compact, [], ?_, isBlank_nil, spells_compact v, isBlank_nil⟩
  rw [text, String.toList_ofList, List.nil_append, List.append_nil]

theorem spelledIn_prettyText (v : Value) : SpelledIn v.prettyText v.node := by
  refine ⟨[], v.prettyAt 0, [], ?_, isBlank_nil, spells_prettyAt 0 v, isBlank_nil⟩
  rw [prettyText, String.toList_ofList, List.nil_append, List.append_nil]

end Value

end TraceReconciler.Json
