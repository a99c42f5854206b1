import FacetSearch.Text.Blank
import FacetSearch.Text.Split

/-!
# Trimmed texts and their parts

A trimmed text neither begins nor ends with a blank. Parts that do not hold the separator can be
joined by it and are found again when the text is split.
-/

namespace FacetSearch.Text

/-! ### Blanks at the ends -/

/-- Neither the first nor the last character is blank. -/
def Bare (cs : List Char) : Prop :=
  (∀ c ∈ cs.head?, isBlank c = false) ∧ ∀ c ∈ cs.getLast?, isBlank c = false

def Trimmed (s : String) : Prop := trim s = s

instance (s : String) : Decidable (Trimmed s) := inferInstanceAs (Decidable (trim s = s))

theorem head?_dropWhile {p : Char → Bool} {cs : List Char} :
    ∀ c ∈ (cs.dropWhile p).head?, p c = false := by
  intro c hc
  have first := List.head?_dropWhile_not p cs
  rw [Option.mem_def.mp hc] at first
  exact first

theorem dropWhile_eq_self {p : Char → Bool} {cs : List Char} (h : ∀ c ∈ cs.head?, p c = false) :
    cs.dropWhile p = cs := by
  cases cs with
  | nil => rfl
  | cons c rest =>
    have kept := h c rfl
    rw [List.dropWhile_cons_of_neg (by rw [kept]; exact Bool.false_ne_true)]

theorem bare_stripWhere (cs : List Char) : Bare (stripWhere isBlank cs) := by
  have ends : ∀ c ∈ ((cs.dropWhile isBlank).reverse.dropWhile isBlank).head?, isBlank c = false :=
    head?_dropWhile
  refine ⟨?_, ?_⟩
  · intro c hc
    have whole := List.takeWhile_append_dropWhile (p := isBlank) (l := (cs.dropWhile isBlank).reverse)
    have start : (stripWhere isBlank cs).head? = (cs.dropWhile isBlank).head? := by
      rw [← List.reverse_reverse (cs.dropWhile isBlank), ← whole, List.reverse_append, stripWhere]
      cases left : (List.dropWhile isBlank (cs.dropWhile isBlank).reverse).reverse with
      | nil => simp [stripWhere, left] at hc
      | cons d rest => simp
    rw [start] at hc
    exact head?_dropWhile c hc
  · intro c hc
    rw [stripWhere, List.getLast?_reverse] at hc
    exact ends c hc

theorem stripWhere_eq_self {cs : List Char} (bare : Bare cs) : stripWhere isBlank cs = cs := by
  obtain ⟨first, last⟩ := bare
  have reversed : ∀ c ∈ cs.reverse.head?, isBlank c = false := by
    rw [List.head?_reverse]
    exact last
  rw [stripWhere, dropWhile_eq_self first, dropWhile_eq_self reversed, List.reverse_reverse]

theorem trimmed_iff {s : String} : Trimmed s ↔ Bare s.toList := by
  constructor
  · intro trimmed
    have bare := bare_stripWhere s.toList
    have same : s.toList = stripWhere isBlank s.toList := by
      conv => lhs; rw [← show trim s = s from trimmed, trim, String.toList_ofList]
    rwa [same]
  · intro bare
    rw [Trimmed, trim, stripWhere_eq_self bare, String.ofList_toList]

theorem trimmed_trim (s : String) : Trimmed (trim s) := by
  rw [trimmed_iff, trim, String.toList_ofList]
  exact bare_stripWhere s.toList

theorem mem_trim {c : Char} {s : String} (h : c ∈ (trim s).toList) : c ∈ s.toList := by
  rw [trim, String.toList_ofList, stripWhere, List.mem_reverse] at h
  have inner := (List.dropWhile_suffix isBlank).subset h
  exact (List.dropWhile_suffix isBlank).subset (List.mem_reverse.mp inner)

theorem trimmed_of_forall {s : String} (h : ∀ c ∈ s.toList, isBlank c = false) : Trimmed s := by
  rw [trimmed_iff]
  exact ⟨fun c hc => h c (List.mem_of_mem_head? hc), fun c hc => h c (List.mem_of_getLast? hc)⟩

theorem toList_ne_nil {s : String} (h : s ≠ "") : s.toList ≠ [] := by
  simpa [String.toList_eq_nil_iff] using h

theorem bare_append {a b : List Char} (first : ∀ c ∈ a.head?, isBlank c = false)
    (last : ∀ c ∈ b.getLast?, isBlank c = false) (begun : a ≠ []) (ended : b ≠ []) :
    Bare (a ++ b) := by
  refine ⟨?_, ?_⟩
  · cases a with
    | nil => exact absurd rfl begun
    | cons c rest => exact first
  · cases final : b.getLast? with
    | none => exact absurd (List.getLast?_eq_none_iff.mp final) ended
    | some c =>
      rw [List.getLast?_append, final]
      exact fun d hd => last d (final ▸ hd)

theorem Trimmed.append {a b : String} (ha : Trimmed a) (hb : Trimmed b) (begun : a ≠ "")
    (ended : b ≠ "") : Trimmed (a ++ b) := by
  rw [trimmed_iff, String.toList_append]
  exact bare_append (trimmed_iff.mp ha).1 (trimmed_iff.mp hb).2 (toList_ne_nil begun)
    (toList_ne_nil ended)

theorem not_isBlank {c : Char} (low : 0x20 < c.toNat) (high : c.toNat < 0x80) :
    isBlank c = false := by
  rw [isBlank, Bool.eq_false_iff, Ne, CharSet.contains_iff]
  rintro ⟨range, member, above, below⟩
  simp only [blanks, List.mem_cons, List.not_mem_nil, or_false] at member
  rcases member with rfl | rfl | rfl | rfl | rfl | rfl | rfl | rfl | rfl | rfl <;>
    simp only at above below <;> omega

theorem not_isBlank_of_isDigit {c : Char} (h : c.isDigit = true) : isBlank c = false := by
  simp only [Char.isDigit, Bool.and_eq_true, decide_eq_true_eq] at h
  have low : 0x30 ≤ c.toNat := UInt32.le_iff_toNat_le.mp h.1
  have high : c.toNat ≤ 0x39 := UInt32.le_iff_toNat_le.mp h.2
  exact not_isBlank (by omega) (by omega)

/-! ### Beginnings and ends -/

theorem startsWith_iff {beginning s : String} :
    startsWith beginning s = true ↔ ∃ rest, s = beginning ++ rest := by
  rw [startsWith, List.isPrefixOf_iff_prefix]
  constructor
  · rintro ⟨rest, whole⟩
    exact ⟨String.ofList rest, by rw [← String.toList_inj, String.toList_append, String.toList_ofList, whole]⟩
  · rintro ⟨rest, rfl⟩
    exact ⟨rest.toList, String.toList_append.symm⟩

theorem endsWith_iff {ending s : String} :
    endsWith ending s = true ↔ ∃ front, s = front ++ ending := by
  rw [endsWith, List.isSuffixOf_iff_suffix]
  constructor
  · rintro ⟨front, whole⟩
    exact ⟨String.ofList front, by rw [← String.toList_inj, String.toList_append, String.toList_ofList, whole]⟩
  · rintro ⟨front, rfl⟩
    exact ⟨front.toList, String.toList_append.symm⟩

/-! ### Splitting -/

/-- The parts are those that core's `List.splitOnP` finds. -/
theorem splitWhere_eq_splitOnP (p : Char → Bool) (cs : List Char) :
    splitWhere p cs = cs.splitOnP p := by
  induction cs with
  | nil => rfl
  | cons c rest ih =>
    obtain ⟨part, parts, found⟩ := List.exists_cons_of_ne_nil (List.splitOnP_ne_nil p rest)
    rw [splitWhere, List.splitOnP_cons_eq_if_modifyHead, ih, found]
    rfl

theorem splitWhere_of_not {p : Char → Bool} {cs : List Char} (h : ∀ c ∈ cs, p c = false) :
    splitWhere p cs = [cs] := by
  rw [splitWhere_eq_splitOnP, List.splitOnP_eq_singleton h]

theorem splitWhere_append_cons {p : Char → Bool} {before rest : List Char} {d : Char}
    (hd : p d = true) :
    splitWhere p (before ++ d :: rest) = splitWhere p before ++ splitWhere p rest := by
  simp only [splitWhere_eq_splitOnP, List.splitOnP_append_cons before rest hd]

theorem splitWhere_append {p : Char → Bool} {part rest : List Char} {d : Char}
    (h : ∀ c ∈ part, p c = false) (hd : p d = true) :
    splitWhere p (part ++ d :: rest) = part :: splitWhere p rest := by
  rw [splitWhere_append_cons hd, splitWhere_of_not h, List.singleton_append]

theorem splitWhere_intercalate {d : Char} {parts : List (List Char)} (some : parts ≠ [])
    (h : ∀ part ∈ parts, d ∉ part) : splitWhere (· == d) ([d].intercalate parts) = parts := by
  rw [splitWhere_eq_splitOnP, ← List.splitOn_eq_splitOnP, List.splitOn_intercalate d h some]

theorem split_join {d : Char} {parts : List String} (some : parts ≠ [])
    (h : ∀ part ∈ parts, d ∉ part.toList) : split d (join d.toString parts) = parts := by
  have free : ∀ cs ∈ parts.map String.toList, d ∉ cs := by
    intro cs hcs
    obtain ⟨part, hp, rfl⟩ := List.mem_map.mp hcs
    exact h part hp
  have single : d.toString.toList = [d] := by simp [Char.toString]
  rw [split, join, String.toList_ofList, single, splitWhere_intercalate (by simpa using some) free,
    List.map_map]
  simp

theorem split_delimited (d : Char) (a b : String) :
    split d (a ++ d.toString ++ b) = split d a ++ split d b := by
  have apart : (a ++ d.toString ++ b).toList = a.toList ++ d :: b.toList := by
    simp [Char.toString]
  rw [split, split, split, apart, splitWhere_append_cons (p := (· == d)) (beq_self_eq_true d),
    List.map_append]

theorem join_concat {separator part : String} {parts : List String} (some : parts ≠ []) :
    join separator (parts ++ [part]) = join separator parts ++ separator ++ part := by
  induction parts with
  | nil => exact absurd rfl some
  | cons first rest ih =>
    cases rest with
    | nil => simp [join, List.intercalate, String.append_assoc]
    | cons next others =>
      have tail := congrArg String.toList (ih (List.cons_ne_nil next others))
      rw [← String.toList_inj]
      simp only [join, List.cons_append, List.map_cons, String.toList_ofList, String.toList_append,
        List.intercalate_cons_cons, List.append_assoc] at tail ⊢
      rw [tail]

theorem join_singleton (separator part : String) : join separator [part] = part := by
  rw [join, List.map_singleton, List.intercalate_singleton, String.ofList_toList]

theorem join_split (d : Char) (s : String) : join d.toString (split d s) = s := by
  have single : d.toString.toList = [d] := by simp [Char.toString]
  have parts : (split d s).map String.toList = s.toList.splitOn d := by
    rw [split, List.map_map, splitWhere_eq_splitOnP, List.splitOn_eq_splitOnP]
    simp
  rw [join, single, parts, List.intercalate_splitOn, String.ofList_toList]

theorem mem_intercalate {c : Char} {separator : List Char} {parts : List (List Char)}
    (h : c ∈ separator.intercalate parts) : c ∈ separator ∨ ∃ part ∈ parts, c ∈ part := by
  induction parts with
  | nil => cases h
  | cons part rest ih =>
    cases rest with
    | nil =>
      rw [List.intercalate_singleton] at h
      exact Or.inr ⟨part, List.mem_cons_self, h⟩
    | cons next others =>
      rw [List.intercalate_cons_cons, List.mem_append, List.mem_append] at h
      rcases h with (h | h) | h
      · exact Or.inr ⟨part, List.mem_cons_self, h⟩
      · exact Or.inl h
      · rcases ih h with h | ⟨q, hq, h⟩
        · exact Or.inl h
        · exact Or.inr ⟨q, List.mem_cons_of_mem part hq, h⟩

theorem mem_intercalate_of_mem {c : Char} {separator part : List Char} {parts : List (List Char)}
    (hp : part ∈ parts) (hc : c ∈ part) : c ∈ separator.intercalate parts := by
  induction parts with
  | nil => cases hp
  | cons first rest ih =>
    cases rest with
    | nil =>
      rw [List.intercalate_singleton]
      exact List.mem_singleton.mp hp ▸ hc
    | cons next others =>
      rw [List.intercalate_cons_cons, List.mem_append, List.mem_append]
      rcases List.mem_cons.mp hp with rfl | hp
      · exact Or.inl (Or.inl hc)
      · exact Or.inr (ih hp)

theorem mem_join_of_mem {c : Char} {separator part : String} {parts : List String}
    (hp : part ∈ parts) (hc : c ∈ part.toList) : c ∈ (join separator parts).toList := by
  rw [join, String.toList_ofList]
  exact mem_intercalate_of_mem (List.mem_map_of_mem hp) hc

theorem mem_join {c : Char} {separator : String} {parts : List String}
    (h : c ∈ (join separator parts).toList) :
    c ∈ separator.toList ∨ ∃ part ∈ parts, c ∈ part.toList := by
  rw [join, String.toList_ofList] at h
  rcases mem_intercalate h with h | ⟨cs, hcs, h⟩
  · exact Or.inl h
  · obtain ⟨part, hp, rfl⟩ := List.mem_map.mp hcs
    exact Or.inr ⟨part, hp, h⟩

theorem split_ne_nil (d : Char) (s : String) : split d s ≠ [] := by
  simpa [split] using splitWhere_ne_nil (· == d) s.toList

theorem not_mem_of_mem_split {d : Char} {s part : String} (h : part ∈ split d s) :
    d ∉ part.toList := by
  obtain ⟨cs, hcs, rfl⟩ := List.mem_map.mp h
  intro hd
  rw [String.toList_ofList] at hd
  simpa using not_of_mem_splitWhere hcs hd

theorem split_of_not_mem {d : Char} {s : String} (h : d ∉ s.toList) : split d s = [s] := by
  have free : ∀ c ∈ s.toList, (c == d) = false := by
    intro c hc
    exact beq_eq_false_iff_ne.mpr fun same => h (same ▸ hc)
  rw [split, splitWhere_of_not free, List.map_singleton, String.ofList_toList]

theorem split_eq_singleton_iff {d : Char} {s part : String} :
    split d s = [part] ↔ d ∉ s.toList ∧ part = s := by
  constructor
  · intro parts
    have whole := join_split d s
    rw [parts, join_singleton] at whole
    rw [← whole]
    exact ⟨not_mem_of_mem_split (parts ▸ List.mem_singleton_self part), rfl⟩
  · rintro ⟨free, rfl⟩
    exact split_of_not_mem free

theorem split_eq_pair_iff {d : Char} {s a b : String} :
    split d s = [a, b] ↔ d ∉ a.toList ∧ d ∉ b.toList ∧ s = a ++ d.toString ++ b := by
  constructor
  · intro parts
    have free : ∀ part ∈ [a, b], d ∉ part.toList :=
      fun part member => not_mem_of_mem_split (parts ▸ member)
    have whole := join_split d s
    rw [parts, ← List.singleton_append, join_concat (List.cons_ne_nil a []), join_singleton] at whole
    exact ⟨free a List.mem_cons_self, free b (List.mem_cons_of_mem a List.mem_cons_self), whole.symm⟩
  · rintro ⟨front, back, rfl⟩
    rw [split_delimited, split_of_not_mem front, split_of_not_mem back, List.singleton_append]

theorem splitWhere_eq_of_cutAt {d : Char} {cs before rest : List Char}
    (h : cutAt d cs = some (before, rest)) :
    splitWhere (· == d) cs = before :: splitWhere (· == d) rest := by
  induction cs generalizing before with
  | nil => cases h
  | cons c cs ih =>
    unfold cutAt at h
    split at h
    · rename_i found
      obtain ⟨rfl, rfl⟩ := Prod.mk.inj (Option.some.inj h)
      simp [splitWhere, found]
    · rename_i passed
      obtain ⟨⟨before', rest'⟩, cut, same⟩ := Option.map_eq_some_iff.mp h
      obtain ⟨rfl, rfl⟩ := Prod.mk.inj same
      simp [splitWhere, passed, ih cut]

theorem cutAt_append {d : Char} {before rest : List Char} (h : d ∉ before) :
    cutAt d (before ++ d :: rest) = some (before, rest) := by
  induction before with
  | nil => simp [cutAt]
  | cons c before ih =>
    have other : (c == d) = false :=
      beq_eq_false_iff_ne.mpr fun same => h (same ▸ List.mem_cons_self)
    simp [cutAt, other, ih fun hd => h (List.mem_cons_of_mem c hd)]

theorem cutAt_eq_none_iff {d : Char} {cs : List Char} : cutAt d cs = none ↔ d ∉ cs := by
  induction cs with
  | nil => simp [cutAt]
  | cons c cs ih =>
    by_cases same : c = d
    · simp [cutAt, same]
    · have other : (c == d) = false := beq_eq_false_iff_ne.mpr same
      simp [cutAt, other, ih, Ne.symm same]

end FacetSearch.Text
