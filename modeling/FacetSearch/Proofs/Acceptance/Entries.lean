import FacetSearch.Acceptance
import FacetSearch.Proofs.Calendar.Period
import FacetSearch.Proofs.Catalogue.Addresses
import FacetSearch.Proofs.Catalogue.Shipped
import FacetSearch.Proofs.Text.Form

/-!
# Settled entries

An entry is settled when a request that holds its value gets the same entry: the value is trimmed,
decoding leaves it as it is, nothing is wrong with it, and it has its final form. The final form of
every accepted entry is settled.
-/

namespace FacetSearch.Acceptance

open Calendar (IsDate IsFullDay firstDay lastDay)
open Text (Trimmed)

variable {dt : DocumentType} {apiHost : String} {c : Catalogue} {e : Entry} {p : Parameter}

structure IsSettled (c : Catalogue) (e : Entry) : Prop where
  listed : e.parameter ∈ c.definition.allParameters
  trimmed : Trimmed e.value
  filled : e.value ≠ ""
  plain : decoded e.parameter e.value = e.value
  sound : issue? c e = none
  settled : settleEntry c.rules e = e

/-! ### What nothing is wrong with -/

theorem decoded_eq_self {value : String} (h : '%' ∉ value.toList) : decoded p value = value := by
  unfold decoded
  split
  · have unescaped : (0x25 : UInt8) ∉ Text.Utf8.bytes value := by
      intro hb
      obtain ⟨d, hd, same⟩ := Text.Utf8.mem_of_mem_bytes hb (by decide)
      have percent : d = '%' := by
        rw [← Char.ofNat_toNat d, same]
        rfl
      exact h (percent ▸ hd)
    rw [Text.Percent.decode_eq_self unescaped, Text.Utf8.text?_bytes, Option.getD_some]
  · rfl

theorem issue?_eq_none_iff : issue? c e = none ↔ countFault? e.parameter e.elements = none ∧
    formFault? c e.parameter e.elements = none ∧ meaningFault? e = none := by
  rw [issue?, Option.map_eq_none_iff, Option.or_eq_none_iff, Option.or_eq_none_iff]

theorem countFault?_between {elements : List String} (between : p.operator = .between) :
    countFault? p elements = none ↔ elements.length ≤ 2 ∧ ∃ x ∈ elements, x ≠ "" := by
  rw [countFault?, if_pos between]
  by_cases many : 2 < elements.length
  · rw [if_pos many]
    simp only [reduceCtorEq, false_iff, not_and]
    intro few
    omega
  · rw [if_neg many]
    have few := Nat.not_lt.mp many
    by_cases blank : elements.all (· == "") = true
    · rw [if_pos blank]
      simp only [List.all_eq_true, beq_iff_eq] at blank
      simp only [reduceCtorEq, false_iff, not_and, not_exists]
      exact fun _ x hx some => some (blank x hx)
    · rw [if_neg blank]
      simp only [List.all_eq_true, beq_iff_eq, Classical.not_forall] at blank
      obtain ⟨x, hx, some⟩ := blank
      exact ⟨fun _ => ⟨few, x, hx, some⟩, fun _ => rfl⟩

theorem countFault?_eq_none_iff {elements : List String} (other : p.operator ≠ .between) :
    countFault? p elements = none ↔ (takesOneValue p = true → elements.length ≤ 1) := by
  rw [countFault?, if_neg other]
  by_cases single : takesOneValue p = true
  · by_cases many : 1 < elements.length
    · simp [single, many]
    · simp [single, many, Nat.not_lt.mp many]
  · simp [single]

theorem formFault?_eq_none_iff {elements : List String} : formFault? c p elements = none ↔
    ∀ x ∈ elements, p.operator = .between ∧ x = "" ∨ c.acceptsValue p x = true := by
  unfold formFault?
  split
  · rename_i all
    simpa [List.all_eq_true] using all
  · rename_i all
    simpa [List.all_eq_true] using all

theorem meaningFault?_eq_none_iff : meaningFault? e = none ↔
    (e.parameter.kind = .date → ∀ x ∈ e.elements, x ≠ "" → Calendar.isPeriod x = true) ∧
      (e.name = Control.searchAfter → (Cursor.decode? e.value).isSome = true) := by
  have dates : (e.elements.filter (· != "")).all Calendar.isPeriod = true ↔
      ∀ x ∈ e.elements, x ≠ "" → Calendar.isPeriod x = true := by
    simp only [List.all_eq_true, List.mem_filter, bne_iff_ne, and_imp]
  unfold meaningFault?
  split
  · rename_i fault
    simp only [Bool.and_eq_true, beq_iff_eq, Bool.not_eq_true'] at fault
    simp only [reduceCtorEq, false_iff, not_and]
    intro real
    rw [dates.mpr (real fault.1)] at fault
    cases fault.2
  · rename_i fine
    have real : e.parameter.kind = .date → ∀ x ∈ e.elements, x ≠ "" → Calendar.isPeriod x = true := by
      intro date
      simpa [date] using fine
    split
    · rename_i fault
      simp only [Bool.and_eq_true, beq_iff_eq] at fault
      simp only [reduceCtorEq, false_iff, not_and]
      intro _ cursor
      have := cursor fault.1
      rw [Option.isNone_iff_eq_none.mp fault.2] at this
      cases this
    · rename_i whole
      refine ⟨fun _ => ⟨real, fun cursor => ?_⟩, fun _ => rfl⟩
      simpa [cursor, Option.isSome_iff_ne_none] using whole

/-! ### Dates -/

theorem settleAddresses_of_none {rules : Rules} (h : e.parameter.uriPrefix = none) :
    settleAddresses rules e = e := by
  unfold settleAddresses
  rw [h]

theorem settleDates_of_ne (h : e.parameter.kind ≠ .date) : settleDates e = e := if_neg h

theorem settleEntry_of_address {rules : Rules} {path : String} (other : e.parameter.kind ≠ .date)
    (address : e.parameter.uriPrefix = some path) : settleEntry rules e =
      ⟨e.parameter, Text.join e.parameter.operator.delimiter.toString
        (e.elements.map (rules.expandUri path))⟩ := by
  rw [settleEntry, settleDates_of_ne other, settleAddresses, address]

theorem settleEntry_of_date {rules : Rules} (date : e.parameter.kind = .date)
    (plain : e.parameter.uriPrefix = none) : settleEntry rules e =
      { e with value := expandDates e.parameter.operator e.value } := by
  rw [settleEntry, settleDates, if_pos date]
  exact settleAddresses_of_none plain

section

variable (h : c.IsFor dt apiHost) (hp : p ∈ dt.definition.allParameters)
include h hp

theorem acceptsValue_date (date : p.kind = .date) (value : String) :
    c.acceptsValue p value = Pattern.date.occursIn value := by
  have regular := (DocumentType.isRegular_of_mem hp).date date
  simp only [Parameter.isRegularDate, Bool.and_eq_true, beq_iff_eq] at regular
  have own : p.valuePattern = none := regular.1.1.1.1.1.2
  refine h.acceptsValue_eq hp ?_ value
  rw [Parameter.elementPattern, own, date]
  exact Pattern.parse?_date

theorem acceptsValue_decoded (isDecoded : p.decoded = true) (value : String) :
    c.acceptsValue p value = true ↔ value ≠ "" := by
  have form := ((DocumentType.isRegular_of_mem hp).decoded isDecoded).1
  rw [h.acceptsValue_eq hp (form ▸ Pattern.parse?_anyText) value, Pattern.occursIn_anyText]

theorem isDate_of_accepted (date : p.kind = .date) {elements : List String}
    (form : ∀ x ∈ elements, p.operator = .between ∧ x = "" ∨ c.acceptsValue p x = true)
    (real : ∀ x ∈ elements, x ≠ "" → Calendar.isPeriod x = true) :
    ∀ x ∈ elements, x ≠ "" → IsDate x := by
  intro x hx some
  refine ⟨?_, real x hx some⟩
  rcases form x hx with open_ | accepted
  · exact absurd open_.2 some
  · rwa [acceptsValue_date h hp date] at accepted

end

/-- A bound of a pair of dates: left open, or a day. -/
def IsBound (s : String) : Prop := s = "" ∨ IsFullDay s

theorem not_mem_of_isDate {s : String} (h : IsDate s) : ':' ∉ s.toList ∧ ',' ∉ s.toList := by
  have mark : ∀ d : Char, d.isDigit = false → d ≠ '-' → d ∉ s.toList := by
    intro d digit dash hd
    rcases Calendar.mem_of_isDate h d hd with isDigit | same
    · rw [digit] at isDigit
      cases isDigit
    · exact dash same
  exact ⟨mark ':' rfl (by decide), mark ',' rfl (by decide)⟩

theorem not_mem_of_isBound {s : String} (h : IsBound s) : ':' ∉ s.toList := by
  rcases h with rfl | full
  · exact List.not_mem_nil
  · exact (not_mem_of_isDate full.1).1

theorem trimmed_of_isBound {s : String} (h : IsBound s) : Trimmed s := by
  rcases h with rfl | full
  · rfl
  · exact Calendar.trimmed_of_isDate full.1

theorem splitOnce_pair {a b : String} (ha : ':' ∉ a.toList) :
    Text.splitOnce ':' (a ++ ":" ++ b) = some (a, b) := by
  have same : (a ++ ":" ++ b).toList = a.toList ++ ':' :: b.toList := by
    rw [String.toList_append, String.toList_append, List.append_assoc]
    rfl
  rw [Text.splitOnce, same, Text.cutAt_append ha, Option.map_some]
  simp only [String.ofList_toList]

theorem split_pair {a b : String} (ha : ':' ∉ a.toList) (hb : ':' ∉ b.toList) :
    Text.split ':' (a ++ ":" ++ b) = [a, b] := by
  have joined : a ++ ":" ++ b = Text.join (':').toString [a, b] := by
    rw [← String.toList_inj, Text.join, String.toList_ofList]
    simp [List.intercalate]
  rw [joined]
  apply Text.split_join (List.cons_ne_nil _ _)
  intro part member
  rcases List.mem_cons.mp member with rfl | member
  · exact ha
  · obtain rfl := List.mem_singleton.mp member
    exact hb

theorem trimmed_pair {a b : String} (ha : IsBound a) (hb : IsBound b) : Trimmed (a ++ ":" ++ b) := by
  have colon : Trimmed ":" := by decide
  have front : Trimmed (a ++ ":") := by
    by_cases none : a = ""
    · rw [none, String.empty_append]
      exact colon
    · exact (trimmed_of_isBound ha).append colon none (by decide)
  by_cases none : b = ""
  · rw [none, String.append_empty]
    exact front
  · refine front.append (trimmed_of_isBound hb) ?_ none
    intro empty
    have := congrArg String.toList empty
    simp at this

theorem shift_of_isBound {day : String → String} {s : String} (h : IsBound s)
    (fixed : IsFullDay s → day s = s) : (if Text.trim s = "" then "" else day (Text.trim s)) = s := by
  rw [show Text.trim s = s from trimmed_of_isBound h]
  rcases h with rfl | full
  · rfl
  · rw [if_neg (Calendar.ne_empty_of_isDate full.1), fixed full]

theorem expandDates_pair {a b : String} (ha : IsBound a) (hb : IsBound b) :
    expandDates .between (a ++ ":" ++ b) = a ++ ":" ++ b := by
  rw [expandDates, splitOnce_pair (not_mem_of_isBound ha)]
  simp only
  rw [shift_of_isBound ha fun full => full.2.1, shift_of_isBound hb fun full => full.2.2]

theorem split_of_length_le {d : Char} {value : String} (few : (Text.split d value).length ≤ 2) :
    d ∉ value.toList ∧ Text.splitOnce d value = none ∧ Text.split d value = [value] ∨
      ∃ a b, Text.splitOnce d value = some (a, b) ∧ Text.split d value = [a, b] := by
  cases cut : Text.cutAt d value.toList with
  | none =>
    have absent := Text.cutAt_eq_none_iff.mp cut
    refine Or.inl ⟨absent, ?_, Text.split_of_not_mem absent⟩
    rw [Text.splitOnce, cut]
    rfl
  | some found =>
    obtain ⟨before, rest⟩ := found
    refine Or.inr ⟨String.ofList before, String.ofList rest, ?_, ?_⟩
    · rw [Text.splitOnce, cut]
      rfl
    · have front := Text.splitWhere_eq_of_cutAt cut
      rw [Text.split, front] at few ⊢
      cases again : Text.cutAt d rest with
      | none =>
        have absent := Text.cutAt_eq_none_iff.mp again
        have whole : Text.splitWhere (· == d) rest = [rest] :=
          Text.splitWhere_of_not fun c hc =>
            beq_eq_false_iff_ne.mpr fun same => absent (same ▸ hc)
        rw [whole]
        rfl
      | some found' =>
        obtain ⟨between, last⟩ := found'
        rw [Text.splitWhere_eq_of_cutAt again] at few
        have : Text.splitWhere (· == d) last ≠ [] := Text.splitWhere_ne_nil _ last
        have := List.length_pos_iff.mpr this
        simp only [List.map_cons, List.length_cons, List.length_map] at few
        omega

theorem isBound_shift {day : String → String} {s : String} (date : s ≠ "" → IsDate s)
    (full : IsDate s → IsFullDay (day s)) : IsBound (if s = "" then "" else day s) := by
  by_cases none : s = ""
  · rw [if_pos none]
    exact Or.inl rfl
  · rw [if_neg none]
    exact Or.inr (full (date none))

theorem shift_ne_empty {day : String → String} {s : String} (some : s ≠ "") (date : IsDate s)
    (full : IsDate s → IsFullDay (day s)) : (if s = "" then "" else day s) ≠ "" := by
  rw [if_neg some]
  exact Calendar.ne_empty_of_isDate (full date).1

/-- A lone value covers the whole of its period, and of two each bounds its own side. -/
theorem expandDates_cases {value : String} (few : ((Text.split ':' value).map Text.trim).length ≤ 2) :
    (∃ v, (Text.split ':' value).map Text.trim = [v] ∧
      expandDates .between value = firstDay v ++ ":" ++ lastDay v) ∨
    ∃ a b, (Text.split ':' value).map Text.trim = [a, b] ∧ expandDates .between value =
      (if a = "" then "" else firstDay a) ++ ":" ++ (if b = "" then "" else lastDay b) := by
  rw [List.length_map] at few
  rcases split_of_length_le few with ⟨-, once, whole⟩ | ⟨a, b, once, parts⟩
  · refine Or.inl ⟨Text.trim value, by rw [whole]; rfl, ?_⟩
    rw [expandDates, once]
  · refine Or.inr ⟨Text.trim a, Text.trim b, by rw [parts]; rfl, ?_⟩
    rw [expandDates, once]

theorem expandDates_between {value : String}
    (few : ((Text.split ':' value).map Text.trim).length ≤ 2)
    (some : ∃ x ∈ (Text.split ':' value).map Text.trim, x ≠ "")
    (dates : ∀ x ∈ (Text.split ':' value).map Text.trim, x ≠ "" → IsDate x) :
    ∃ a b, expandDates .between value = a ++ ":" ++ b ∧ IsBound a ∧ IsBound b ∧
      (a ≠ "" ∨ b ≠ "") := by
  rcases expandDates_cases few with ⟨v, elements, expanded⟩ | ⟨a, b, elements, expanded⟩
  · rw [elements] at some dates
    obtain ⟨x, member, some⟩ := some
    obtain rfl := List.mem_singleton.mp member
    have first := Calendar.isFullDay_firstDay (dates x member some)
    exact ⟨firstDay x, lastDay x, expanded, Or.inr first,
      Or.inr (Calendar.isFullDay_lastDay (dates x member some)),
      Or.inl (Calendar.ne_empty_of_isDate first.1)⟩
  · rw [elements] at some dates
    have dateA := dates a (by simp)
    have dateB := dates b (by simp)
    refine ⟨_, _, expanded, isBound_shift dateA Calendar.isFullDay_firstDay,
      isBound_shift dateB Calendar.isFullDay_lastDay, ?_⟩
    obtain ⟨x, member, some⟩ := some
    simp only [List.mem_cons, List.not_mem_nil, or_false] at member
    rcases member with rfl | rfl
    · exact Or.inl (shift_ne_empty some (dateA some) Calendar.isFullDay_firstDay)
    · exact Or.inr (shift_ne_empty some (dateB some) Calendar.isFullDay_lastDay)

/-! ### Final forms -/

theorem regularDate (listed : e.parameter ∈ dt.definition.allParameters)
    (date : e.parameter.kind = .date) :
    (e.parameter.operator = .between ∨ e.parameter.operator = .atLeast ∨
        e.parameter.operator = .below) ∧
      e.parameter.uriPrefix = none ∧ e.parameter.decoded = false ∧
      Control.isList e.parameter.name = false ∧ e.name ≠ Control.searchAfter := by
  have regular := (DocumentType.isRegular_of_mem listed).date date
  simp only [Parameter.isRegularDate, Bool.and_eq_true, Bool.or_eq_true, beq_iff_eq, bne_iff_ne,
    Bool.not_eq_true'] at regular
  obtain ⟨⟨⟨⟨⟨⟨operator, -⟩, prefix_⟩, plain⟩, list⟩, name⟩, -⟩ := regular
  exact ⟨or_assoc.mp operator, prefix_, plain, list, name⟩

theorem regularAddress (listed : e.parameter ∈ dt.definition.allParameters) {path : String}
    (address : e.parameter.uriPrefix = some path) :
    e.parameter.decoded = true ∧ takesOneValue e.parameter = false ∧ ',' ∉ path.toList ∧
      e.parameter.scope ≠ .control := by
  have regular := (DocumentType.isRegular_of_mem listed).address path address
  simp only [Parameter.isRegularAddress, Bool.and_eq_true, bne_iff_ne, Bool.not_eq_true',
    List.contains_eq_mem, decide_eq_false_iff_not] at regular
  obtain ⟨⟨⟨⟨⟨-, isDecoded⟩, many⟩, -⟩, inPath⟩, search⟩ := regular
  exact ⟨isDecoded, by rw [takesOneValue, many, Bool.false_and], inPath, search⟩

section

variable (h : c.IsFor dt apiHost) (listed : e.parameter ∈ dt.definition.allParameters)
include h listed

theorem isSettled_pair {a b : String} (date : e.parameter.kind = .date)
    (between : e.parameter.operator = .between) (ha : IsBound a) (hb : IsBound b)
    (some : a ≠ "" ∨ b ≠ "") : IsSettled c { e with value := a ++ ":" ++ b } := by
  obtain ⟨-, plainAddress, plain, -, name⟩ := regularDate listed date
  have elements : Entry.elements { e with value := a ++ ":" ++ b } = [a, b] := by
    rw [Entry.elements, Parameter.elements, between]
    simp only [Operator.delimiter]
    rw [split_pair (not_mem_of_isBound ha) (not_mem_of_isBound hb)]
    simp only [List.map_cons, List.map_nil, show Text.trim a = a from trimmed_of_isBound ha,
      show Text.trim b = b from trimmed_of_isBound hb]
  have accepted : ∀ x, IsBound x →
      e.parameter.operator = .between ∧ x = "" ∨ c.acceptsValue e.parameter x = true := by
    rintro x (none | full)
    · exact Or.inl ⟨between, none⟩
    · exact Or.inr ((acceptsValue_date h listed date x).trans full.1.1)
  refine ⟨h.definition ▸ listed, trimmed_pair ha hb, ?_, ?_, ?_, ?_⟩
  · intro empty
    have := congrArg String.toList empty
    simp at this
  · simp only [decoded, plain, Bool.false_eq_true, if_false]
  · rw [issue?_eq_none_iff, countFault?_between between, formFault?_eq_none_iff,
      meaningFault?_eq_none_iff, elements]
    refine ⟨⟨Nat.le_refl 2, ?_⟩, ?_, ?_, fun same => absurd same name⟩
    · rcases some with some | some
      · exact ⟨a, by simp, some⟩
      · exact ⟨b, by simp, some⟩
    · simpa using ⟨accepted a ha, accepted b hb⟩
    · intro _ x member filled
      have bound : IsBound x := by
        simp only [List.mem_cons, List.not_mem_nil, or_false] at member
        rcases member with rfl | rfl
        · exact ha
        · exact hb
      rcases bound with none | full
      · exact absurd none filled
      · exact full.1.2
  · rw [settleEntry_of_date (e := ⟨e.parameter, a ++ ":" ++ b⟩) date plainAddress]
    simp only [between, expandDates_pair ha hb]

theorem isSettled_day {s : String} (date : e.parameter.kind = .date)
    (single : e.parameter.operator = .atLeast ∨ e.parameter.operator = .below) (full : IsFullDay s) :
    IsSettled c { e with value := s } := by
  obtain ⟨-, plainAddress, plain, -, name⟩ := regularDate listed date
  have trimmed := Calendar.trimmed_of_isDate full.1
  have delimiter : e.parameter.operator.delimiter = ',' := by
    rcases single with same | same <;> rw [same] <;> rfl
  have other : e.parameter.operator ≠ .between := by
    rcases single with same | same <;> rw [same] <;> decide
  have elements : Entry.elements { e with value := s } = [s] := by
    rw [Entry.elements, Parameter.elements, delimiter]
    simp only [Text.split_of_not_mem (not_mem_of_isDate full.1).2, List.map_cons, List.map_nil,
      show Text.trim s = s from trimmed]
  refine ⟨h.definition ▸ listed, trimmed, Calendar.ne_empty_of_isDate full.1, ?_, ?_, ?_⟩
  · simp only [decoded, plain, Bool.false_eq_true, if_false]
  · rw [issue?_eq_none_iff, countFault?_eq_none_iff other, formFault?_eq_none_iff,
      meaningFault?_eq_none_iff, elements]
    refine ⟨fun _ => Nat.le_refl 1, ?_, ?_, fun same => absurd same name⟩
    · simpa using Or.inr ((acceptsValue_date h listed date s).trans full.1.1)
    · simpa using fun _ _ => full.1.2
  · rw [settleEntry_of_date (e := ⟨e.parameter, s⟩) date plainAddress]
    have fixed : expandDates e.parameter.operator s = s := by
      rcases single with same | same <;> rw [same, expandDates, show Text.trim s = s from trimmed] <;>
        exact full.2.1
    simp only [fixed]

theorem isDate_of_sound (date : e.parameter.kind = .date) (sound : issue? c e = none) :
    ∀ x ∈ e.elements, x ≠ "" → IsDate x := by
  obtain ⟨-, form, meaning⟩ := issue?_eq_none_iff.mp sound
  exact isDate_of_accepted h listed date (formFault?_eq_none_iff.mp form)
    ((meaningFault?_eq_none_iff.mp meaning).1 date)

theorem single_of_sound (date : e.parameter.kind = .date)
    (single : e.parameter.operator = .atLeast ∨ e.parameter.operator = .below)
    (sound : issue? c e = none) : e.elements = [Text.trim e.value] ∧ IsDate (Text.trim e.value) ∧
      expandDates e.parameter.operator e.value = firstDay (Text.trim e.value) := by
  obtain ⟨-, -, -, list, -⟩ := regularDate listed date
  obtain ⟨count, form, -⟩ := issue?_eq_none_iff.mp sound
  have dates := isDate_of_sound h listed date sound
  have form := formFault?_eq_none_iff.mp form
  have delimiter : e.parameter.operator.delimiter = ',' := by
    rcases single with same | same <;> rw [same] <;> rfl
  have other : e.parameter.operator ≠ .between := by
    rcases single with same | same <;> rw [same] <;> decide
  have takes : takesOneValue e.parameter = true := by
    rw [takesOneValue, list]
    rcases single with same | same <;> rw [same] <;> rfl
  have few := (countFault?_eq_none_iff other).mp count takes
  rw [Entry.elements, Parameter.elements, delimiter] at few form dates ⊢
  rw [List.length_map] at few
  rcases split_of_length_le (Nat.le_succ_of_le few) with ⟨-, -, whole⟩ | ⟨a, b, -, parts⟩
  · rw [whole] at form dates ⊢
    have accepted := (form (Text.trim e.value) List.mem_cons_self).resolve_left
      fun left => other left.1
    rw [acceptsValue_date h listed date] at accepted
    refine ⟨rfl, dates _ List.mem_cons_self (Calendar.ne_empty_of_occursIn accepted), ?_⟩
    rcases single with same | same <;> rw [same] <;> rfl
  · rw [parts] at few
    exact absurd few (by simp)

theorem isSettled_settleEntry_date (date : e.parameter.kind = .date) (sound : issue? c e = none) :
    IsSettled c (settleEntry c.rules e) := by
  obtain ⟨operator, plainAddress, -⟩ := regularDate listed date
  rw [settleEntry_of_date date plainAddress]
  rcases operator with between | single
  · have dates := isDate_of_sound h listed date sound
    obtain ⟨few, some⟩ := (countFault?_between between).mp (issue?_eq_none_iff.mp sound).1
    rw [Entry.elements, Parameter.elements, between] at few some dates
    obtain ⟨a, b, expanded, ha, hb, some⟩ := expandDates_between few some dates
    rw [between, expanded]
    exact isSettled_pair h listed date between ha hb some
  · obtain ⟨-, isDate, expanded⟩ := single_of_sound h listed date single sound
    rw [expanded]
    exact isSettled_day h listed date single (Calendar.isFullDay_firstDay isDate)

omit h listed in
theorem elements_join {p : Parameter} {parts : List String} (delimiter : p.operator.delimiter = ',')
    (some : parts ≠ []) (free : ∀ a ∈ parts, ',' ∉ a.toList) :
    Entry.elements ⟨p, Text.join (',').toString parts⟩ = parts.map Text.trim := by
  rw [Entry.elements, Parameter.elements, delimiter]
  simp only
  rw [Text.split_join some free]

omit h listed in
theorem elements_join_trimmed {p : Parameter} {parts : List String}
    (delimiter : p.operator.delimiter = ',') (some : parts ≠ [])
    (each : ∀ a ∈ parts, Trimmed a ∧ ',' ∉ a.toList) :
    Entry.elements ⟨p, Text.join (',').toString parts⟩ = parts := by
  rw [elements_join delimiter some fun a ha => (each a ha).2]
  exact (List.map_congr_left fun a ha => (each a ha).1).trans (List.map_id parts)

omit h listed in
theorem not_mem_of_mem_elements {rules : Rules} {path : String} (single : ',' ∉ rules.apiHost.toList)
    (inPath : ',' ∉ path.toList) (delimiter : e.parameter.operator.delimiter = ',') :
    ∀ a ∈ e.elements.map (rules.expandUri path), ',' ∉ a.toList := by
  intro a ha
  obtain ⟨x, hx, rfl⟩ := List.mem_map.mp ha
  obtain ⟨part, hpart, rfl⟩ := List.mem_map.mp hx
  rw [delimiter] at hpart
  exact Rules.not_mem_expandUri single inPath
    fun hc => Text.not_mem_of_mem_split hpart (Text.mem_trim hc)

omit h listed in
theorem isAddress_of_mem_elements {rules : Rules} {path : String} (absolute : IsAbsolute rules.apiHost)
    (inPath : ',' ∉ path.toList) (delimiter : e.parameter.operator.delimiter = ',') :
    ∀ a ∈ e.elements.map (rules.expandUri path), isAddress a = true ∧ Trimmed a ∧ ',' ∉ a.toList := by
  intro a ha
  have free := not_mem_of_mem_elements absolute.single inPath delimiter a ha
  obtain ⟨x, hx, rfl⟩ := List.mem_map.mp ha
  obtain ⟨part, -, rfl⟩ := List.mem_map.mp hx
  exact ⟨Rules.isAddress_expandUri absolute,
    Rules.trimmed_expandUri absolute (Text.trimmed_trim part), free⟩

omit h in
theorem undated_of_decoded (isDecoded : e.parameter.decoded = true) : e.parameter.kind ≠ .date := by
  intro date
  rw [(regularDate listed date).2.2.1] at isDecoded
  cases isDecoded

/-- What is decoded takes part in a list of texts, and is sound if none of them is empty. -/
theorem issue?_of_decoded (isDecoded : e.parameter.decoded = true) : issue? c e = none ↔
    (takesOneValue e.parameter = true → e.elements.length ≤ 1) ∧ ∀ x ∈ e.elements, x ≠ "" := by
  have delimiter := ((DocumentType.isRegular_of_mem listed).decoded isDecoded).2
  have other : e.parameter.operator ≠ .between := by
    intro same
    rw [same] at delimiter
    exact absurd delimiter (by decide)
  have undated := undated_of_decoded listed isDecoded
  have cursor : e.name ≠ Control.searchAfter := by
    intro same
    rw [h.eq_of_name listed dt.cursor_mem same] at isDecoded
    cases isDecoded
  rw [issue?_eq_none_iff, countFault?_eq_none_iff other, formFault?_eq_none_iff,
    meaningFault?_eq_none_iff]
  refine and_congr_right fun _ => ⟨fun checked x hx => ?_, fun filled => ⟨fun x hx => ?_, ?_⟩⟩
  · have accepted := (checked.1 x hx).resolve_left fun left => other left.1
    exact (acceptsValue_decoded h listed isDecoded x).mp accepted
  · exact Or.inr ((acceptsValue_decoded h listed isDecoded x).mpr (filled x hx))
  · exact ⟨fun date => absurd date undated, fun same => absurd same cursor⟩

theorem isSettled_settleEntry_address (absolute : IsAbsolute apiHost) {path : String}
    (address : e.parameter.uriPrefix = some path)
    (final : '%' ∉ (settleEntry c.rules e).value.toList ∧ Trimmed (settleEntry c.rules e).value) :
    IsSettled c (settleEntry c.rules e) := by
  obtain ⟨isDecoded, many, inPath, -⟩ := regularAddress listed address
  have delimiter := ((DocumentType.isRegular_of_mem listed).decoded isDecoded).2
  have undated := undated_of_decoded listed isDecoded
  have host : IsAbsolute c.rules.apiHost := by rwa [h.host]
  rw [settleEntry_of_address undated address, delimiter] at final ⊢
  -- The addresses of the elements, which are texts without commas.
  have some : e.elements.map (c.rules.expandUri path) ≠ [] := by
    simpa [Entry.elements, Parameter.elements] using Text.split_ne_nil _ e.value
  have each := isAddress_of_mem_elements host inPath delimiter
  generalize e.elements.map (c.rules.expandUri path) = addresses at *
  have elements : Entry.elements ⟨e.parameter, Text.join (',').toString addresses⟩ = addresses :=
    elements_join_trimmed delimiter some fun a ha => (each a ha).2
  refine ⟨h.definition ▸ listed, final.2, ?_, decoded_eq_self final.1, ?_, ?_⟩
  · intro empty
    rw [show Text.join (',').toString addresses = "" from empty] at elements
    have blank : "" ∈ addresses := by
      rw [← elements, Entry.elements, Parameter.elements, delimiter]
      exact List.mem_cons_self
    exact ne_empty_of_isAddress (each "" blank).1 rfl
  · refine (issue?_of_decoded (e := ⟨e.parameter, Text.join (',').toString addresses⟩)
      h listed isDecoded).mpr ⟨fun one => ?_, ?_⟩
    · rw [many] at one
      cases one
    · rw [elements]
      exact fun a ha => ne_empty_of_isAddress (each a ha).1
  · rw [settleEntry_of_address (e := ⟨e.parameter, Text.join (',').toString addresses⟩) undated address,
      elements, delimiter]
    have fixed : addresses.map (c.rules.expandUri path) = addresses :=
      (List.map_congr_left fun a ha => Rules.expandUri_of_isAddress (each a ha).1).trans
        (List.map_id addresses)
    rw [fixed]

omit h in
theorem settleEntry_of_control {rules : Rules} (control : e.parameter.scope = .control) :
    settleEntry rules e = e := by
  have regular := DocumentType.isRegular_of_mem listed
  have other : e.parameter.kind ≠ .date := by
    intro date
    have := regular.date date
    simp only [Parameter.isRegularDate, control, bne_self_eq_false, Bool.and_false] at this
    cases this
  have plain : e.parameter.uriPrefix = none :=
    Option.eq_none_iff_forall_ne_some.mpr fun _ address =>
      (regularAddress listed address).2.2.2 control
  rw [settleEntry, settleDates_of_ne other, settleAddresses_of_none plain]

theorem isSettled_settleEntry_tidy (plain : e.parameter.decoded = false) (sound : issue? c e = none)
    (tidy : Trimmed e.value ∧ e.value ≠ "") : IsSettled c (settleEntry c.rules e) := by
  by_cases date : e.parameter.kind = .date
  · exact isSettled_settleEntry_date h listed date sound
  · have address : e.parameter.uriPrefix = none :=
      Option.eq_none_iff_forall_ne_some.mpr fun _ address =>
        Bool.false_ne_true (plain.symm.trans (regularAddress listed address).1)
    have same : settleEntry c.rules e = e := by
      rw [settleEntry, settleDates_of_ne date, settleAddresses_of_none address]
    rw [same]
    refine ⟨h.definition ▸ listed, tidy.1, tidy.2, ?_, sound, same⟩
    simp only [decoded, plain, Bool.false_eq_true, if_false]

/-- The final form of an entry is settled if nothing is wrong with the entry. A value that is decoded
must have come without percent signs and blanks at its ends. -/
theorem isSettled_settleEntry (absolute : IsAbsolute apiHost) (sound : issue? c e = none)
    (kept : e.parameter.decoded = false → Trimmed e.value ∧ e.value ≠ "")
    (final : e.parameter.decoded = true →
      '%' ∉ (settleEntry c.rules e).value.toList ∧ Trimmed (settleEntry c.rules e).value) :
    IsSettled c (settleEntry c.rules e) := by
  cases isDecoded : e.parameter.decoded with
  | false => exact isSettled_settleEntry_tidy h listed isDecoded sound (kept isDecoded)
  | true =>
    cases address : e.parameter.uriPrefix with
    | some path =>
      exact isSettled_settleEntry_address h listed absolute address (final isDecoded)
    | none =>
      have same : settleEntry c.rules e = e := by
        rw [settleEntry, settleDates_of_ne (undated_of_decoded listed isDecoded),
          settleAddresses_of_none address]
      obtain ⟨plain, trimmed⟩ := final isDecoded
      rw [same] at plain trimmed ⊢
      refine ⟨h.definition ▸ listed, trimmed, ?_, decoded_eq_self plain, sound, same⟩
      intro empty
      have filled := ((issue?_of_decoded h listed isDecoded).mp sound).2
      rw [Entry.elements, Parameter.elements,
        ((DocumentType.isRegular_of_mem listed).decoded isDecoded).2, empty] at filled
      exact filled "" List.mem_cons_self rfl

end

end FacetSearch.Acceptance
