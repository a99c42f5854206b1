import FacetSearch.Proofs.Acceptance.Entries
import FacetSearch.Proofs.Sort.Expression

/-!
# Settled entries of paging and order

An offset in digits, a written order and an encoded cursor are settled: a request that holds one of
them gets it as it is.
-/

namespace FacetSearch.Acceptance

open Control (offsetParameter sizeParameter pageParameter sortParameter cursorParameter)
open Number.Decimal (render)
open Text (Trimmed)

variable {dt : DocumentType} {apiHost : String} {c : Catalogue} {p : Parameter} {value : String}

theorem isSettled_control (h : c.IsFor dt apiHost) (listed : p ∈ dt.definition.allParameters)
    (control : p.scope = .control) (operator : p.operator = .silent) (plain : p.decoded = false)
    (trimmed : Trimmed value) (filled : value ≠ "")
    (few : Control.isList p.name = false → (p.elements value).length ≤ 1)
    (form : ∀ x ∈ p.elements value, c.acceptsValue p x = true)
    (cursor : p.name = Control.searchAfter → (Cursor.decode? value).isSome = true) :
    IsSettled c ⟨p, value⟩ := by
  have other : p.operator ≠ .between := by
    rw [operator]
    decide
  have notDate : p.kind ≠ .date := by
    intro date
    have regular := (DocumentType.isRegular_of_mem listed).date date
    simp only [Parameter.isRegularDate, control, bne_self_eq_false, Bool.and_false] at regular
    cases regular
  refine ⟨h.definition ▸ listed, trimmed, filled, ?_, ?_, settleEntry_of_control listed control⟩
  · simp only [decoded, plain, Bool.false_eq_true, if_false]
  · rw [issue?_eq_none_iff, countFault?_eq_none_iff other, formFault?_eq_none_iff,
      meaningFault?_eq_none_iff]
    refine ⟨fun single => few ?_, fun x hx => Or.inr (form x hx), fun date => absurd date notDate,
      cursor⟩
    simp only [takesOneValue, Bool.and_eq_true, Bool.not_eq_true'] at single
    exact single.2

/-! ### Numbers -/

theorem digits_of_render (n : Nat) :
    String.ofList (render n) ≠ "" ∧ ∀ c ∈ (String.ofList (render n)).toList, c.isDigit = true := by
  rw [String.toList_ofList]
  refine ⟨?_, fun c hc => Number.Decimal.isDigit_of_mem_render hc⟩
  intro empty
  have none_ := congrArg String.toList empty
  rw [String.toList_ofList] at none_
  exact Number.Decimal.renderOnto_ne_nil n [] none_

theorem trimmed_render (n : Nat) : Trimmed (String.ofList (render n)) :=
  Text.trimmed_of_forall fun c hc => Text.not_isBlank_of_isDigit ((digits_of_render n).2 c hc)

theorem elements_of_plain (operator : p.operator = .silent) (trimmed : Trimmed value)
    (free : ',' ∉ value.toList) : p.elements value = [value] := by
  rw [Parameter.elements, operator]
  simp only [Operator.delimiter, Text.split_of_not_mem free, List.map_cons, List.map_nil,
    show Text.trim value = value from trimmed]

theorem isSettled_number (h : c.IsFor dt apiHost) (hp : p ∈ [offsetParameter, sizeParameter, pageParameter])
    (n : Nat) : IsSettled c ⟨p, String.ofList (render n)⟩ := by
  have number : ∀ p ∈ [offsetParameter, sizeParameter, pageParameter],
      p ∈ Control.parameters ∧ p.scope = .control ∧ p.operator = .silent ∧ p.decoded = false ∧
        p.elementPattern = "^\\d+$" ∧ p.name ≠ Control.searchAfter := by
    decide
  obtain ⟨shared, control, operator, plain, pattern, other⟩ := number p hp
  have listed := dt.mem_of_control shared
  obtain ⟨filled, digits⟩ := digits_of_render n
  have free : ',' ∉ (String.ofList (render n)).toList := by
    intro hc
    exact absurd (digits ',' hc) (by decide)
  have elements := elements_of_plain operator (trimmed_render n) free
  refine isSettled_control h listed control operator plain (trimmed_render n) filled ?_ ?_ ?_
  · intro _
    rw [elements]
    exact Nat.le_refl 1
  · intro x hx
    rw [elements] at hx
    obtain rfl := List.mem_singleton.mp hx
    rw [h.acceptsValue_eq listed (pattern ▸ Pattern.parse?_digits), Pattern.occursIn_digits]
    exact ⟨filled, fun d hd => Text.isDigit_of_ascii (digits d hd)⟩
  · intro same
    exact absurd same other

theorem isSettled_offset (h : c.IsFor dt apiHost) (n : Nat) :
    IsSettled c ⟨offsetParameter, String.ofList (render n)⟩ := isSettled_number h (by decide) n

/-! ### Orders -/

theorem isSettled_order (h : c.IsFor dt apiHost) {ds : List Directive} (some_ : ds ≠ [])
    (known : ∀ d ∈ ds, d.key ∈ dt.definition.sortKeys) :
    IsSettled c ⟨sortParameter, Directive.expression ds⟩ := by
  have elements : sortParameter.elements (Directive.expression ds) = ds.map Directive.text :=
    Directive.elements_expression some_ known
  refine isSettled_control h dt.sort_mem rfl rfl rfl (Directive.trimmed_expression known) ?_ ?_ ?_ ?_
  · intro empty
    have tokens := Directive.tokens_expression some_ known
    rw [empty] at tokens
    exact some_ (List.map_eq_nil_iff.mp tokens.symm)
  · intro single
    cases single
  · intro x hx
    rw [elements] at hx
    obtain ⟨d, hd, rfl⟩ := List.mem_map.mp hx
    rw [h.acceptsValue_eq dt.sort_mem Pattern.parse?_anyText, Pattern.occursIn_anyText]
    exact (Directive.text_of_known (known d hd)).1
  · intro same
    exact absurd same (by decide)

/-! ### Cursors -/

theorem cursorLetter_letter {n : Nat} (h : n < 64) :
    Pattern.cursorLetter.has (Text.Base64.letter Text.Base64.urlSafe n) = true := by
  have all : ∀ m < 64,
      Pattern.cursorLetter.has (Text.Base64.letter Text.Base64.urlSafe m) = true := by
    decide
  exact all n h

theorem not_isBlank_of_cursorLetter {n : Nat} (h : n < 64) :
    Text.isBlank (Text.Base64.letter Text.Base64.urlSafe n) = false ∧
      Text.Base64.letter Text.Base64.urlSafe n ≠ ',' := by
  have all : ∀ m < 64, Text.isBlank (Text.Base64.letter Text.Base64.urlSafe m) = false ∧
      Text.Base64.letter Text.Base64.urlSafe m ≠ ',' := by
    decide
  exact all n h

theorem exists_letter_of_mem_encode (cursor : Cursor) : ∀ d ∈ cursor.encode.toList,
    ∃ n < 64, d = Text.Base64.letter Text.Base64.urlSafe n := by
  intro d hd
  rw [Cursor.encode, Text.Base64.encode, String.toList_ofList] at hd
  obtain ⟨n, hn, rfl⟩ := List.mem_map.mp hd
  exact ⟨n, Text.Base64.sextets_lt _ n hn, rfl⟩

theorem ne_empty_of_decode? {s : String} (readable : (Cursor.decode? s).isSome = true) : s ≠ "" := by
  rintro rfl
  exact absurd readable (by decide)

theorem isSettled_cursor (h : c.IsFor dt apiHost) {cursor : Cursor}
    (readable : (Cursor.decode? cursor.encode).isSome = true) :
    IsSettled c ⟨cursorParameter, cursor.encode⟩ := by
  have letters := exists_letter_of_mem_encode cursor
  have filled := ne_empty_of_decode? readable
  have trimmed : Trimmed cursor.encode := by
    apply Text.trimmed_of_forall
    intro d hd
    obtain ⟨n, hn, rfl⟩ := letters d hd
    exact (not_isBlank_of_cursorLetter hn).1
  have free : ',' ∉ cursor.encode.toList := by
    intro hd
    obtain ⟨n, hn, same⟩ := letters ',' hd
    exact (not_isBlank_of_cursorLetter hn).2 same.symm
  have elements := elements_of_plain (p := cursorParameter) rfl trimmed free
  refine isSettled_control h dt.cursor_mem rfl rfl rfl trimmed filled ?_ ?_ fun _ => readable
  · intro _
    rw [elements]
    exact Nat.le_refl 1
  · intro x hx
    rw [elements] at hx
    obtain rfl := List.mem_singleton.mp hx
    rw [h.acceptsValue_eq dt.cursor_mem Pattern.parse?_cursor, Pattern.occursIn_cursor]
    refine ⟨filled, fun d hd => ?_⟩
    obtain ⟨n, hn, rfl⟩ := letters d hd
    exact cursorLetter_letter hn

end FacetSearch.Acceptance
