import TraceReconciler.Files.Path

/-!
# Laws of the name of a path

Two paths are the same if both are absolute or both relative and they have the same components
(`Path.key`). The name of a path is the last of these components, so paths that are the same have
the same name (`nameChars?_eq`), however differently they are written.

The path beside a path has the name that it was given, at whatever kind of path: a bare name, a name
in the root, or one with slashes and dots after it (`name_besideChars`). So **the file beside a file
is another file**, since its name is longer (`key_beside_ne`).
-/

namespace TraceReconciler.Path

/-- What tells paths apart. -/
def key (path : String) : Bool × List (List Char) := (isAbsolute path.toList, components path)

theorem isSame_iff {p q : String} : isSame p q = true ↔ key p = key q := by
  simp [isSame, key]

/-! ### Parts -/

theorem parts_append_slash (a b : List Char) : parts (a ++ '/' :: b) = parts a ++ parts b := by
  induction a with
  | nil => rfl
  | cons c a ih =>
    rw [List.cons_append, parts, parts, ih]
    split
    · rfl
    · cases hp : parts a with
      | nil => exact absurd hp (parts_ne_nil a)
      | cons p ps => rfl

theorem parts_of_not_mem {n : List Char} (h : '/' ∉ n) : parts n = [n] := by
  induction n with
  | nil => rfl
  | cons c n ih =>
    rw [List.mem_cons, not_or] at h
    rw [parts, if_neg fun hc ↦ h.1 hc.symm, ih h.2]

theorem not_mem_of_mem_parts {cs p : List Char} (h : p ∈ parts cs) : '/' ∉ p := by
  induction cs generalizing p with
  | nil => simp_all [parts]
  | cons c r ih =>
    rw [parts] at h
    split at h
    · rcases List.mem_cons.1 h with rfl | h
      · exact List.not_mem_nil
      · exact ih h
    · next hc =>
      cases hp : parts r with
      | nil => exact absurd hp (parts_ne_nil r)
      | cons q qs =>
        rw [hp] at h ih
        rcases List.mem_cons.1 h with rfl | h
        · rw [List.mem_cons, not_or]
          exact ⟨fun heq ↦ hc heq.symm, ih List.mem_cons_self⟩
        · exact ih (List.mem_cons_of_mem q h)

/-- A path with a name after it ends with this part. -/
theorem exists_parts_appendChars (base : List Char) {n : List Char} (h : '/' ∉ n) :
    ∃ ps, parts (appendChars base n) = ps ++ [n] := by
  rw [appendChars]
  split
  · next hbase =>
    rcases Bool.or_eq_true _ _ ▸ hbase with hempty | hslash
    · exact ⟨[], by rw [List.isEmpty_iff.1 hempty, List.nil_append, parts_of_not_mem h]; rfl⟩
    · obtain ⟨b, rfl⟩ := List.getLast?_eq_some_iff.1 (beq_iff_eq.1 hslash)
      exact ⟨parts b, by rw [List.append_assoc, List.singleton_append, parts_append_slash,
        parts_of_not_mem h]⟩
  · exact ⟨parts base, by rw [parts_append_slash, parts_of_not_mem h]⟩

/-! ### The last component -/

theorem marked_append (first : Bool) (ps : List (List Char)) (n : List Char) :
    ∃ ms first', marked first (ps ++ [n]) = ms ++ [(isComponent first' n, n)] := by
  induction ps generalizing first with
  | nil => exact ⟨[], first, rfl⟩
  | cons p ps ih =>
    obtain ⟨ms, first', h⟩ := ih false
    exact ⟨(isComponent first p, p) :: ms, first', by rw [List.cons_append, marked, h]; rfl⟩

/-- Where the last part is a component, the way back begins with it. -/
theorem exists_backwards_eq {cs n : List Char} (hlast : ∃ ps, parts cs = ps ++ [n]) (hne : n ≠ [])
    (hdot : n ≠ ['.']) : ∃ r, backwards cs = (true, n) :: r := by
  have hcomponent (first : Bool) : isComponent first n = true := by
    simp [isComponent, hne, hdot]
  have hreverse (first : Bool) {ps : List (List Char)} :
      ∃ r, (marked first (ps ++ [n])).reverse.dropWhile (fun p ↦ !p.1) = (true, n) :: r := by
    obtain ⟨ms, first', h⟩ := marked_append first ps n
    exact ⟨ms.reverse, by rw [h, hcomponent, List.reverse_concat]; rfl⟩
  obtain ⟨ps, hps⟩ := hlast
  rw [backwards]
  by_cases habsolute : isAbsolute cs = true
  · obtain ⟨t, rfl⟩ : ∃ t, cs = '/' :: t := by
      cases cs with
      | nil => cases habsolute
      | cons c t => exact ⟨t, by simpa [isAbsolute] using habsolute⟩
    have hparts : [] :: parts t = ps ++ [n] := hps
    rw [if_pos habsolute, List.tail_cons]
    cases ps with
    | nil => exact absurd (List.cons.inj hparts).2 (parts_ne_nil t)
    | cons p ps =>
      rw [(List.cons.inj hparts).2]
      exact hreverse false
  · rw [if_neg habsolute, hps]
    exact hreverse true

/-- What comes first on the way back is a component. -/
theorem fst_of_backwards {cs : List Char} {m : Bool × List Char} {r : List (Bool × List Char)}
    (h : backwards cs = m :: r) : m.1 = true := by
  have hhead := List.head?_dropWhile_not (fun p : Bool × List Char ↦ !p.1)
    (if isAbsolute cs then marked false (parts cs.tail) else marked true (parts cs)).reverse
  rw [backwards] at h
  rw [h] at hhead
  simpa using hhead

/-- **The name of a path is its last component**, unless that is made of dots. -/
theorem nameChars?_eq (path : String) : nameChars? path.toList =
    (components path).getLast?.filter fun n ↦ !decide (n = ['.'] ∨ n = ['.', '.']) := by
  rw [nameChars?, components]
  match h : backwards path.toList with
  | [] => rfl
  | (m, n) :: r =>
    obtain rfl : m = true := fst_of_backwards h
    rw [List.filter_cons_of_pos rfl, List.reverse_cons, List.map_append, List.map_cons,
      List.map_nil, List.getLast?_concat, Option.filter_some]
    by_cases hdots : n = ['.'] ∨ n = ['.', '.'] <;> simp [hdots]

theorem nameChars?_of_key_eq {p q : String} (h : key p = key q) :
    nameChars? p.toList = nameChars? q.toList := by
  have hcomponents : components p = components q := (Prod.mk.inj h).2
  rw [nameChars?_eq, nameChars?_eq, hcomponents]

/-! ### The file beside a file -/

theorem snd_mem_of_mem_marked {first : Bool} {ps : List (List Char)} {m : Bool × List Char}
    (h : m ∈ marked first ps) : m.2 ∈ ps := by
  induction ps generalizing first with
  | nil => cases h
  | cons p ps ih =>
    rcases List.mem_cons.1 h with rfl | h
    · exact List.mem_cons_self
    · exact List.mem_cons_of_mem p (ih h)

/-- There is no slash in what is on the way back. -/
theorem not_mem_of_mem_backwards {cs : List Char} {m : Bool × List Char}
    (h : m ∈ backwards cs) : '/' ∉ m.2 := by
  have hmarked := List.mem_reverse.1 ((List.dropWhile_sublist _).subset h)
  split at hmarked
  · exact not_mem_of_mem_parts (snd_mem_of_mem_marked hmarked)
  · exact not_mem_of_mem_parts (snd_mem_of_mem_marked hmarked)

/-- A name has no slash in it. -/
theorem not_mem_of_nameChars? {cs n : List Char} (h : nameChars? cs = some n) : '/' ∉ n := by
  rw [nameChars?] at h
  split at h
  · cases h
  · next m r hbackwards =>
    split at h
    · cases h
    · obtain rfl := Option.some.inj h
      exact not_mem_of_mem_backwards (hbackwards ▸ List.mem_cons_self)

/-- **The path beside a path has the name with the extension.** -/
theorem name_besideChars {cs n extension : List Char} (hname : nameChars? cs = some n)
    (hextension : '/' ∉ extension) (hlong : 2 < extension.length) :
    nameChars? (besideChars extension cs) = some (n ++ extension) := by
  have hlength : 2 < (n ++ extension).length := by
    rw [List.length_append]
    omega
  have hslash : '/' ∉ n ++ extension := by
    rw [List.mem_append, not_or]
    exact ⟨not_mem_of_nameChars? hname, hextension⟩
  have hne (m : List Char) (hm : m.length ≤ 2) : n ++ extension ≠ m := by
    rintro rfl
    omega
  rw [besideChars, hname]
  obtain ⟨r, hr⟩ := exists_backwards_eq
    (exists_parts_appendChars ((parentChars? cs).getD []) hslash)
    (hne [] (by simp)) (hne ['.'] (by simp))
  rw [nameChars?, hr]
  exact if_neg fun h ↦ h.elim (hne ['.'] (by simp)) (hne ['.', '.'] (by simp))

/-- **The file beside a file is another file.** -/
theorem key_beside_ne {path extension : String} (hname : (name? path).isSome = true)
    (hextension : '/' ∉ extension.toList) (hlong : 2 < extension.length) :
    key (beside extension path) ≠ key path := by
  obtain ⟨n, hn⟩ : ∃ n, nameChars? path.toList = some n := by
    rwa [name?, Option.isSome_map, Option.isSome_iff_exists] at hname
  intro h
  have hnames := nameChars?_of_key_eq h
  rw [beside, String.toList_ofList, name_besideChars hn hextension hlong, hn] at hnames
  have hlength := congrArg List.length (Option.some.inj hnames)
  rw [List.length_append, String.length_toList] at hlength
  omega

end TraceReconciler.Path
