import Mathlib.Data.List.TakeWhile
import FacetSearch.Proofs.Text.Parts

/-!
# Trimming before splitting

Blanks at the ends of a text are of no account where its parts are trimmed: the parts of the trimmed
text, trimmed, are those of the text itself.
-/

namespace FacetSearch.Text

variable {cs before after : List Char} {s : String} {d : Char}

/-! ### Blanks at the ends -/

theorem stripWhere_append_left (blank : ∀ c ∈ before, isBlank c = true) :
    stripWhere isBlank (before ++ cs) = stripWhere isBlank cs := by
  rw [stripWhere, List.dropWhile_append_of_pos blank, stripWhere]

theorem stripWhere_append_right (blank : ∀ c ∈ after, isBlank c = true) :
    stripWhere isBlank (cs ++ after) = stripWhere isBlank cs := by
  have reversed : ∀ c ∈ after.reverse, isBlank c = true :=
    fun c hc => blank c (List.mem_reverse.mp hc)
  rw [stripWhere, List.dropWhile_append]
  split
  · rename_i none_
    have nothing : after.dropWhile isBlank = [] := List.dropWhile_eq_nil_iff.mpr blank
    rw [nothing, stripWhere, List.isEmpty_iff.mp none_]
  · rw [List.reverse_append, List.dropWhile_append_of_pos reversed, stripWhere]

theorem exists_blanks (cs : List Char) : ∃ before after, cs = before ++ stripWhere isBlank cs ++ after ∧
    (∀ c ∈ before, isBlank c = true) ∧ ∀ c ∈ after, isBlank c = true := by
  have front := List.takeWhile_append_dropWhile (p := isBlank) (l := cs)
  have back := List.takeWhile_append_dropWhile (p := isBlank) (l := (cs.dropWhile isBlank).reverse)
  refine ⟨cs.takeWhile isBlank, ((cs.dropWhile isBlank).reverse.takeWhile isBlank).reverse, ?_,
    fun c hc => List.mem_takeWhile_imp hc, fun c hc => List.mem_takeWhile_imp (List.mem_reverse.mp hc)⟩
  rw [List.append_assoc, stripWhere, ← List.reverse_append, back, List.reverse_reverse, front]

theorem trim_eq_empty_iff : trim s = "" ↔ ∀ c ∈ s.toList, isBlank c = true := by
  rw [trim, String.ofList_eq_empty_iff]
  obtain ⟨before, after, parts, front, back⟩ := exists_blanks s.toList
  constructor
  · intro nothing c hc
    rw [parts, nothing, List.append_nil] at hc
    rcases List.mem_append.mp hc with hc | hc
    · exact front c hc
    · exact back c hc
  · intro blank
    have nothing : stripWhere isBlank (s.toList ++ []) = stripWhere isBlank [] :=
      stripWhere_append_left blank
    rwa [List.append_nil] at nothing

/-! ### Parts -/

/-- What is put behind a text without separators belongs to its last part. -/
theorem splitWhere_append_right {p : Char → Bool} (free : ∀ c ∈ after, p c = false)
    (cs : List Char) : ∃ parts last, splitWhere p cs = parts ++ [last] ∧
      splitWhere p (cs ++ after) = parts ++ [last ++ after] := by
  induction cs with
  | nil => exact ⟨[], [], rfl, splitWhere_of_not free⟩
  | cons c rest ih =>
    obtain ⟨parts, last, alone, extended⟩ := ih
    rw [List.cons_append, splitWhere, splitWhere, alone, extended]
    cases separator : p c with
    | true => exact ⟨[] :: parts, last, rfl, rfl⟩
    | false =>
      cases parts with
      | nil => exact ⟨[], c :: last, rfl, rfl⟩
      | cons part parts => exact ⟨(c :: part) :: parts, last, rfl, rfl⟩

theorem splitWhere_append_left {p : Char → Bool} (free : ∀ c ∈ before, p c = false)
    (cs : List Char) : ∃ first parts, splitWhere p cs = first :: parts ∧
      splitWhere p (before ++ cs) = (before ++ first) :: parts := by
  obtain ⟨first, parts, alone⟩ := List.exists_cons_of_ne_nil (splitWhere_ne_nil p cs)
  refine ⟨first, parts, alone, ?_⟩
  induction before with
  | nil => exact alone
  | cons c before ih =>
    have rest := ih fun e he => free e (List.mem_cons_of_mem c he)
    rw [List.cons_append, splitWhere, rest, free c List.mem_cons_self]
    rfl

theorem map_stripWhere_splitWhere {p : Char → Bool} (visible : ∀ c, p c = true → isBlank c = false)
    (cs : List Char) : (splitWhere p (stripWhere isBlank cs)).map (stripWhere isBlank) =
      (splitWhere p cs).map (stripWhere isBlank) := by
  have free : ∀ c, isBlank c = true → p c = false := by
    intro c blank
    cases separator : p c with
    | false => rfl
    | true =>
      rw [visible c separator] at blank
      cases blank
  obtain ⟨before, after, whole, front, back⟩ := exists_blanks cs
  generalize stripWhere isBlank cs = inner at whole
  obtain ⟨parts, last, ends, extended⟩ := splitWhere_append_right (fun c hc => free c (back c hc)) inner
  obtain ⟨first, rest, starts, longer⟩ :=
    splitWhere_append_left (fun c hc => free c (front c hc)) (inner ++ after)
  rw [whole, List.append_assoc, longer, List.map_cons, stripWhere_append_left front,
    ← List.map_cons, ← starts, extended, ends, List.map_append, List.map_append]
  simp only [List.map_cons, List.map_nil, stripWhere_append_right back]

theorem map_trim_split_trim (visible : isBlank d = false) (s : String) :
    (split d (trim s)).map trim = (split d s).map trim := by
  have stripped : ∀ parts : List (List Char), (parts.map String.ofList).map trim =
      (parts.map (stripWhere isBlank)).map String.ofList := by
    intro parts
    rw [List.map_map, List.map_map]
    apply List.map_congr_left
    intro part _
    rw [Function.comp_apply, trim, String.toList_ofList, Function.comp_apply]
  have separator : ∀ c, (c == d) = true → isBlank c = false := by
    intro c same
    rwa [beq_iff_eq.mp same]
  rw [split, split, stripped, stripped, trim, String.toList_ofList,
    map_stripWhere_splitWhere separator]

/-! ### Characters that are not blank -/

theorem mem_trim_of_not_isBlank {c : Char} (hc : c ∈ s.toList) (visible : isBlank c = false) :
    c ∈ (trim s).toList := by
  obtain ⟨before, after, parts, front, back⟩ := exists_blanks s.toList
  rw [trim, String.toList_ofList]
  rw [parts] at hc
  rcases List.mem_append.mp hc with hc | hc
  · rcases List.mem_append.mp hc with hc | hc
    · rw [front c hc] at visible
      cases visible
    · exact hc
  · rw [back c hc] at visible
    cases visible

theorem flatten_splitWhere (p : Char → Bool) (cs : List Char) :
    (splitWhere p cs).flatten = cs.filter fun c => !p c := by
  induction cs with
  | nil => rfl
  | cons d rest ih =>
    obtain ⟨first, others, found⟩ := List.exists_cons_of_ne_nil (splitWhere_ne_nil p rest)
    rw [splitWhere, found]
    rw [found] at ih
    split
    · rename_i separator
      rw [List.filter_cons_of_neg (by simp [separator]), List.flatten_cons, List.nil_append, ih]
    · rename_i kept
      rw [List.filter_cons_of_pos (by simpa using kept), List.flatten_cons, List.cons_append, ← ih]
      rfl

theorem exists_mem_splitWhere_iff {p : Char → Bool} {cs : List Char} {c : Char} :
    (∃ part ∈ splitWhere p cs, c ∈ part) ↔ c ∈ cs ∧ p c = false := by
  rw [← List.mem_flatten, flatten_splitWhere, List.mem_filter, Bool.not_eq_true']

/-- Some part is not blank exactly if some character is neither blank nor a separator. -/
theorem exists_trim_split_iff : (∃ part ∈ split d s, trim part ≠ "") ↔
    ∃ c ∈ s.toList, isBlank c = false ∧ c ≠ d := by
  have visible : ∀ part : String, trim part ≠ "" ↔ ∃ c ∈ part.toList, isBlank c = false := by
    intro part
    rw [ne_eq, trim_eq_empty_iff]
    simp only [Classical.not_forall, Bool.not_eq_true, exists_prop]
  constructor
  · rintro ⟨part, hp, filled⟩
    obtain ⟨c, hc, seen⟩ := (visible part).mp filled
    obtain ⟨cs, hcs, rfl⟩ := List.mem_map.mp hp
    rw [String.toList_ofList] at hc
    obtain ⟨member, kept⟩ := exists_mem_splitWhere_iff.mp ⟨cs, hcs, hc⟩
    exact ⟨c, member, seen, beq_eq_false_iff_ne.mp kept⟩
  · rintro ⟨c, hc, seen, other⟩
    obtain ⟨cs, hcs, hc⟩ := (exists_mem_splitWhere_iff (p := (· == d))).mpr
      ⟨hc, beq_eq_false_iff_ne.mpr other⟩
    refine ⟨String.ofList cs, List.mem_map_of_mem hcs, (visible _).mpr ⟨c, ?_, seen⟩⟩
    rwa [String.toList_ofList]

theorem words_ne_nil_iff {p : Char → Bool} : words p s ≠ [] ↔ ∃ c ∈ s.toList, p c = false := by
  rw [words, ne_eq, List.map_eq_nil_iff, List.filter_eq_nil_iff]
  simp only [Classical.not_forall, Bool.not_eq_true', exists_prop]
  constructor
  · rintro ⟨part, hp, filled⟩
    obtain ⟨c, rest, rfl⟩ := List.exists_cons_of_ne_nil (by simpa using filled)
    exact ⟨c, exists_mem_splitWhere_iff.mp ⟨_, hp, List.mem_cons_self⟩⟩
  · rintro ⟨c, hc, kept⟩
    obtain ⟨part, hp, hc⟩ := exists_mem_splitWhere_iff.mpr ⟨hc, kept⟩
    exact ⟨part, hp, by simpa using List.ne_nil_of_mem hc⟩

/-! ### Words -/

theorem filter_splitWhere_append_left {p : Char → Bool} (separates : ∀ c ∈ before, p c = true) :
    (splitWhere p (before ++ cs)).filter (!·.isEmpty) = (splitWhere p cs).filter (!·.isEmpty) := by
  induction before with
  | nil => rfl
  | cons c before ih =>
    rw [List.cons_append, splitWhere, if_pos (separates c List.mem_cons_self),
      List.filter_cons_of_neg (by simp), ih fun d hd => separates d (List.mem_cons_of_mem c hd)]

theorem filter_splitWhere_append_right {p : Char → Bool} (separates : ∀ c ∈ after, p c = true) :
    (splitWhere p (cs ++ after)).filter (!·.isEmpty) = (splitWhere p cs).filter (!·.isEmpty) := by
  cases after with
  | nil => rw [List.append_nil]
  | cons c after =>
    obtain ⟨first, others⟩ := List.forall_mem_cons.mp separates
    have nothing : (splitWhere p (after ++ [])).filter (!·.isEmpty) = [] :=
      filter_splitWhere_append_left others
    rw [splitWhere_append_cons first, List.filter_append, ← List.append_nil after, nothing, List.append_nil]

/-- Trimming changes no words where blanks stand between words. -/
theorem words_trim {p : Char → Bool} (separates : ∀ c, isBlank c = true → p c = true) (s : String) :
    words p (trim s) = words p s := by
  obtain ⟨before, after, whole, front, back⟩ := exists_blanks s.toList
  have inner : (splitWhere p s.toList).filter (!·.isEmpty) =
      (splitWhere p (stripWhere isBlank s.toList)).filter (!·.isEmpty) := by
    conv => lhs; rw [whole]
    rw [filter_splitWhere_append_right fun c hc => separates c (back c hc),
      filter_splitWhere_append_left fun c hc => separates c (front c hc)]
  rw [words, words, inner, trim, String.toList_ofList]

/-! ### Copies of a character at the end -/

theorem trimEnd_eq_self (ended : ∀ c ∈ s.toList.getLast?, c ≠ d) : trimEnd d s = s := by
  have kept : ∀ c ∈ s.toList.reverse.head?, (c == d) = false := by
    rw [List.head?_reverse]
    exact fun c hc => beq_eq_false_iff_ne.mpr (ended c hc)
  rw [trimEnd, dropWhile_eq_self kept, List.reverse_reverse, String.ofList_toList]

theorem exists_trimEnd (d : Char) (s : String) : ∃ copies, (∀ c ∈ copies, c = d) ∧
    s.toList = (trimEnd d s).toList ++ copies := by
  refine ⟨(s.toList.reverse.takeWhile (· == d)).reverse, fun c hc => ?_, ?_⟩
  · have member := List.mem_takeWhile_imp (p := (· == d)) (List.mem_reverse.mp hc)
    exact beq_iff_eq.mp member
  · rw [trimEnd, String.toList_ofList, ← List.reverse_append, List.takeWhile_append_dropWhile,
      List.reverse_reverse]

end FacetSearch.Text
