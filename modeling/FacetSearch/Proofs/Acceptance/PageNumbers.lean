import FacetSearch.Proofs.Acceptance.Gathering
import FacetSearch.Proofs.Acceptance.Rereading
import FacetSearch.Proofs.Links.SelfLink
import FacetSearch.Proofs.Query.Reading

/-!
# Page numbers

The offset and the size of an accepted page are the numbers that their texts denote, and a page number
is multiplied by the size. Texts of digits that 64 bits do not hold, or that are not of ASCII, pass the
checks as well: such a size or offset counts as zero, and such a page number stays where it is.
-/

namespace FacetSearch

open Acceptance
open Control (offsetParameter sizeParameter pageParameter)
open Number (maxWord mulWord addWord)
open Number.Decimal (render digits?)
open Text (Trimmed)

variable {dt : DocumentType} {apiHost : String} {catalogue : Catalogue} {c : Criteria} {p : Parameter}
  {extra : List String} {limits : Limits} {pairs : List (String × String)} {name text : String}

/-- One or more digits, of whatever script. -/
def Text.IsNumeral (s : String) : Prop := s ≠ "" ∧ ∀ c ∈ s.toList, Text.isDigit c = true

/-- The number that digits of ASCII denote, if 64 bits hold it. -/
def Number.word? (s : String) : Option Nat := (digits? s.toList).filter (· ≤ maxWord)

open Number (word?)

theorem Criteria.number?_of_get? (stands : c.get? name = some text) (trimmed : Trimmed text)
    (numeral : Text.IsNumeral text) : c.number? name = word? text := by
  rw [Criteria.number?, stands, Option.bind_some, show Text.trim text = text from trimmed]
  unfold Number.Decimal.read?
  split
  · rename_i rest plus
    have digit := numeral.2 '+' (plus ▸ List.mem_cons_self)
    exact absurd digit (by decide)
  · rfl

namespace Acceptance

/-! ### Texts of numbers -/

section

variable (h : catalogue.IsFor dt apiHost)
include h

theorem isNumeral_of_sound (hp : p ∈ [offsetParameter, sizeParameter, pageParameter])
    (trimmed : Trimmed text) (sound : issue? catalogue ⟨p, text⟩ = none) : Text.IsNumeral text := by
  have number : ∀ p ∈ [offsetParameter, sizeParameter, pageParameter],
      p ∈ Control.parameters ∧ p.operator = .silent ∧ takesOneValue p = true ∧
        p.elementPattern = "^\\d+$" := by
    decide
  obtain ⟨shared, operator, single, digits⟩ := number p hp
  have other : p.operator ≠ .between := by
    rw [operator]
    decide
  obtain ⟨count, form, -⟩ := issue?_eq_none_iff.mp sound
  have few := (countFault?_eq_none_iff other).mp count single
  have form := formFault?_eq_none_iff.mp form
  rw [Entry.elements, Parameter.elements, operator] at few form
  simp only [Operator.delimiter, List.length_map] at few form
  rcases split_of_length_le (Nat.le_succ_of_le few) with ⟨-, -, whole⟩ | ⟨a, b, -, parts⟩
  · rw [whole] at form
    have accepted := (form (Text.trim text) List.mem_cons_self).resolve_left fun left =>
      absurd left.1 (by decide)
    rw [h.acceptsValue_eq (dt.mem_of_control shared) (digits ▸ Pattern.parse?_digits),
      Pattern.occursIn_digits, show Text.trim text = text from trimmed] at accepted
    exact accepted
  · rw [parts] at few
    exact absurd few (by simp)

theorem isNumeral_of_accept (accepted : catalogue.accept extra limits pairs = .ok c)
    (hp : p ∈ [offsetParameter, sizeParameter, pageParameter]) (stands : c.get? p.name = some text) :
    Trimmed text ∧ Text.IsNumeral text := by
  have listed : p ∈ dt.definition.allParameters ∧ p.decoded = false := by
    have shared : ∀ p ∈ [offsetParameter, sizeParameter, pageParameter],
        p ∈ Control.parameters ∧ p.decoded = false := by decide
    exact ⟨dt.mem_of_control (shared p hp).1, (shared p hp).2⟩
  obtain ⟨e, found, rfl⟩ := Option.map_eq_some_iff.mp stands
  obtain ⟨placed, -⟩ := shape_of_accept h accepted
  obtain ⟨member, rfl⟩ := placed.parameter_of_entry? listed.1 found
  have settled := isSettled_of_accept h accepted member listed.2
  exact ⟨settled.trimmed, isNumeral_of_sound h hp settled.trimmed settled.sound⟩

theorem number?_of_accept (accepted : catalogue.accept extra limits pairs = .ok c)
    (hp : p ∈ [offsetParameter, sizeParameter, pageParameter]) (stands : c.get? p.name = some text) :
    Text.IsNumeral text ∧ c.number? p.name = word? text := by
  obtain ⟨trimmed, numeral⟩ := isNumeral_of_accept h accepted hp stands
  exact ⟨numeral, Criteria.number?_of_get? stands trimmed numeral⟩

/-! ### The page asked for -/

theorem given_of_single {pair : String × String} (hp : p ∈ dt.definition.allParameters)
    (single : takesOneValue p = true) (other : p.operator ≠ .between) (member : pair ∈ pairs)
    (own : catalogue.resolve pair.1 = p) (filled : Text.trim pair.2 ≠ "")
    (sound : ∀ e, (gather catalogue extra pairs).criteria.entry? p.name = some e →
      issue? catalogue e = none) :
    given catalogue p pairs = [decoded p (Text.trim pair.2)] := by
  have counts : decoded p (Text.trim pair.2) ∈ given catalogue p pairs :=
    List.mem_map_of_mem (List.mem_filter.mpr ⟨member, decide_eq_true ⟨own, filled⟩⟩)
  have found := entry?_gather h extra pairs hp
  rw [if_neg (List.ne_nil_of_mem counts)] at found
  have many := length_given_le_one single other (sound _ found)
  obtain ⟨value, only⟩ := List.length_eq_one_iff.mp
    (Nat.le_antisymm many (List.length_pos_of_mem counts))
  rw [only] at counts ⊢
  rw [List.mem_singleton.mp counts]

/-- A page number is given once, and the checks of the values leave it alone. -/
theorem entry?_page_sorted {sorted : Criteria} {pair : String × String}
    (values : ∀ e ∈ (addDefaults catalogue (gather catalogue extra pairs).criteria).entries,
      issue? catalogue e = none)
    (sorting : settleSort catalogue (addDefaults catalogue (gather catalogue extra pairs).criteria) =
      .ok sorted)
    (member : pair ∈ pairs) (own : catalogue.resolve pair.1 = pageParameter)
    (filled : Text.trim pair.2 ≠ "") :
    sorted.entry? Control.page = some ⟨pageParameter, Text.trim pair.2⟩ := by
  have kept : Criteria.entry? (addDefaults catalogue (gather catalogue extra pairs).criteria)
      Control.page = (gather catalogue extra pairs).criteria.entry? Control.page :=
    entry?_addDefaults h (Or.inr rfl)
  have sound : ∀ e, (gather catalogue extra pairs).criteria.entry? pageParameter.name = some e →
      issue? catalogue e = none :=
    fun e found => values e (List.mem_of_find?_eq_some (kept.trans found))
  have once : given catalogue pageParameter pairs = [Text.trim pair.2] :=
    given_of_single h dt.page_mem rfl (by decide) member own filled sound
  have found := entry?_gather h extra pairs dt.page_mem
  rw [once, if_neg (List.cons_ne_nil _ _), Text.join_singleton] at found
  rw [entry?_settleSort_of_ne h sorting (by decide) (by decide), kept]
  exact found

theorem settle_of_page? (ready : IsSound dt catalogue (requiredNames catalogue extra) c) {page : Nat}
    (read : c.page? = some page) : Criteria.entry? (settle catalogue c) Control.page = none ∧
      Criteria.offset (settle catalogue c) = mulWord page (Criteria.size (settle catalogue c)) := by
  have moved : settlePage catalogue c =
      (c.remove Control.page).set offsetParameter (String.ofList (render (mulWord page c.size))) := by
    unfold settlePage
    rw [read]
    simp only
    rw [show Control.offset = offsetParameter.name from rfl, h.parameter?_name dt.offset_mem]
  have final : ∀ p ∈ dt.definition.allParameters, p.scope = .control →
      Criteria.entry? (settle catalogue c) p.name = Criteria.entry? (settlePage catalogue c) p.name :=
    fun p hp control => entry?_settleEntries_control (isSound_settlePage h ready).1.placed hp control
  have size : Criteria.size (settle catalogue c) = c.size := by
    have same := entry?_settle_of_ne h ready dt.size_mem rfl (by decide) (by decide)
    exact congrArg (Option.getD · 0) (Criteria.number?_congr same)
  have offset : Criteria.get? (settle catalogue c) Control.offset =
      some (String.ofList (render (mulWord page c.size))) := by
    refine (Criteria.get?_congr (final offsetParameter dt.offset_mem rfl)).trans ?_
    rw [moved]
    exact (ready.placed.remove Control.page).get?_set_self dt.offset_mem
  refine ⟨?_, ?_⟩
  · refine (final pageParameter dt.page_mem rfl).trans ?_
    rw [moved, Criteria.set, Criteria.entry?_modifyFor_of_ne (by decide)]
    exact ready.placed.entry?_remove_self _
  · rw [offset_of_get? (Nat.min_le_right _ _) offset, size]
    rfl

omit h in
theorem settle_of_unread (ready : IsSound dt catalogue (requiredNames catalogue extra) c)
    (unread : c.page? = none) :
    Criteria.entry? (settle catalogue c) Control.page = c.entry? Control.page := by
  rw [settle_of_unpaged unread]
  exact entry?_settleEntries_control ready.placed dt.page_mem rfl

/-- A page number that can be read becomes an offset; one that cannot stays. -/
theorem page_of_accept (accepted : catalogue.accept extra limits pairs = .ok c)
    {pair : String × String} (member : pair ∈ pairs) (own : catalogue.resolve pair.1 = pageParameter)
    (filled : Text.trim pair.2 ≠ "") {number : Option Nat}
    (denoted : word? (Text.trim pair.2) = number) :
    match number with
    | some page => c.get? Control.page = none ∧ c.offset = mulWord page c.size
    | none => c.get? Control.page = some (Text.trim pair.2) := by
  obtain ⟨collected, sorted, rfl, -, -, values, sorting, -, -, rfl⟩ := accept_eq_ok_iff.mp accepted
  have values := checkValues_eq_ok_iff.mp values
  have ready : IsSound dt catalogue (requiredNames catalogue extra)
      (addDefaults catalogue (gather catalogue extra pairs).criteria) :=
    ⟨isCollected_addDefaults h (isCollected_gather h extra pairs), values⟩
  obtain ⟨sound, -⟩ := isOrdered_settleSort h ready sorting
  have stands := entry?_page_sorted h values sorting member own filled
  have trimmed := Text.trimmed_trim pair.2
  have numeral := isNumeral_of_sound h (by decide) trimmed
    (sound.sound _ (List.mem_of_find?_eq_some stands))
  have read : sorted.page? = word? (Text.trim pair.2) :=
    Criteria.number?_of_get? (congrArg (Option.map Entry.value) stands) trimmed numeral
  cases number with
  | some page =>
    obtain ⟨gone, moved⟩ := settle_of_page? h sound (read.trans denoted)
    exact ⟨congrArg (Option.map Entry.value) gone, moved⟩
  | none =>
    have kept := (settle_of_unread sound (read.trans denoted)).trans stands
    exact congrArg (Option.map Entry.value) kept

end

end Acceptance

theorem DocumentType.required_mem (dt : DocumentType) :
    Control.size ∈ dt.definition.required ∧ Control.offset ∈ dt.definition.required := by
  cases dt with
  | publication => decide
  | ticket => decide
  | importCandidate => decide

/-- The numbers of an accepted page. Its size and offset are what their texts denote, or nothing if
they cannot be read; they keep to the limits as natural numbers while the window is below the largest
number of 64 bits. A page number that can be read is gone, and the offset is that many sizes. -/
theorem Catalogue.accept_page {settings : Settings}
    (built : Service.buildCatalogue settings dt = .ok catalogue)
    (accepted : catalogue.accept extra limits pairs = .ok c) (promoted : List String) :
    let body := (catalogue.compile c promoted).body
    (∃ size offset, c.get? Control.size = some size ∧ c.get? Control.offset = some offset ∧
      Text.IsNumeral size ∧ Text.IsNumeral offset ∧
      c.size = (word? size).getD 0 ∧ c.offset = (word? offset).getD 0) ∧
    body.get? "size" = some (.nat c.size) ∧
    (c.searchAfter? = none → body.get? "from" = some (.nat c.offset)) ∧
    c.size ≤ limits.maxSize ∧
    (c.searchAfter? = none → limits.window < maxWord → c.offset + c.size ≤ limits.window) ∧
    (∀ text, c.get? Control.page = some text → Text.IsNumeral text ∧ word? text = none) ∧
    ∀ pair ∈ pairs, catalogue.resolve pair.1 = pageParameter → Text.trim pair.2 ≠ "" →
      match word? (Text.trim pair.2) with
      | some page => c.get? Control.page = none ∧ c.offset = min (page * c.size) maxWord ∧
          (c.searchAfter? = none → limits.window < maxWord → c.offset = page * c.size)
      | none => c.get? Control.page = some (Text.trim pair.2) := by
  intro body
  have h := Service.isFor_of_buildCatalogue built
  obtain ⟨-, -, -, unpaged, bounds⟩ := shape_of_accept h accepted
  obtain ⟨small, near⟩ := checkBounds_eq_ok_iff.mp bounds
  have within : c.searchAfter? = none → limits.window < maxWord → c.offset + c.size ≤ limits.window := by
    intro first below
    unfold windowIssue? at near
    split at near
    · cases near
    · rename_i inside
      rw [first, addWord] at inside
      simp only [Option.isNone_none, true_and] at inside
      omega
  obtain ⟨needsSize, needsOffset⟩ := dt.required_mem
  rw [← h.definition] at needsSize needsOffset
  obtain ⟨size, written⟩ := Criteria.contains_iff.mp (contains_of_accept h accepted
    (mem_requiredNames.mpr (Or.inl needsSize)) (by decide) (by decide))
  obtain ⟨offset, started⟩ := Criteria.contains_iff.mp (contains_of_accept h accepted
    (mem_requiredNames.mpr (Or.inl needsOffset)) (by decide) (by decide))
  have sized := number?_of_accept h accepted (p := sizeParameter) (by decide) written
  have placed := number?_of_accept h accepted (p := offsetParameter) (by decide) started
  refine ⟨⟨size, offset, written, started, sized.1, placed.1, congrArg (Option.getD · 0) sized.2,
    congrArg (Option.getD · 0) placed.2⟩, (catalogue.compile c promoted).get?_body_size, ?_, ?_, within,
    ?_, ?_⟩
  · intro first
    have start : (catalogue.compile c promoted).after = none := by
      simp only [compile, first, Option.bind_none, Option.map_none]
    exact (Query.get?_body_offset start).2
  · unfold sizeIssue? at small
    split at small
    · cases small
    · omega
  · intro text stands
    have read := number?_of_accept h accepted (p := pageParameter) (by decide) stands
    exact ⟨read.1, read.2.symm.trans unpaged⟩
  · intro pair member own filled
    cases number : word? (Text.trim pair.2) with
    | none => exact page_of_accept h accepted member own filled number
    | some page =>
      have outcome := page_of_accept h accepted member own filled number
      simp only [mulWord] at outcome ⊢
      refine ⟨outcome.1, outcome.2, fun first below => ?_⟩
      have := within first below
      have := outcome.2
      omega

/-! ### Pages of tickets -/

theorem exists_numbered :
    ∃ catalogue, Service.buildCatalogue Settings.forTesting .ticket = .ok catalogue ∧
    (∃ c, catalogue.accept [] {} [("page", "2"), ("size", "10")] = .ok c ∧
      catalogue.resolve "page" = pageParameter ∧ c.searchAfter? = none ∧
      c.get? Control.size = some "10") ∧
    ∃ c, catalogue.accept [] {} [("page", "18446744073709551616"), ("size", "18446744073709551616")] =
        .ok c ∧
      c.get? Control.size = some "18446744073709551616" ∧ c.size = 0 ∧
      c.get? Control.page = some "18446744073709551616" := by
  have evaluated : passes (Service.buildCatalogue Settings.forTesting .ticket) (fun catalogue =>
      passes (catalogue.accept [] {} [("page", "2"), ("size", "10")]) (fun c =>
        decide (catalogue.resolve "page" = pageParameter ∧ c.searchAfter? = none ∧
          c.get? Control.size = some "10")) &&
      passes (catalogue.accept [] {}
          [("page", "18446744073709551616"), ("size", "18446744073709551616")]) fun c =>
        decide (c.get? Control.size = some "18446744073709551616" ∧ c.size = 0 ∧
          c.get? Control.page = some "18446744073709551616")) = true := by
    rw [Service.buildCatalogue_eq]
    decide +kernel
  obtain ⟨catalogue, built, outcome⟩ := exists_of_passes evaluated
  obtain ⟨first, second⟩ := Bool.and_eq_true_iff.mp outcome
  obtain ⟨c, accepted, found⟩ := exists_of_passes first
  obtain ⟨c', accepted', found'⟩ := exists_of_passes second
  exact ⟨catalogue, built, ⟨c, accepted, of_decide_eq_true found⟩, c', accepted',
    of_decide_eq_true found'⟩

theorem accept_page_second :
    ∃ catalogue c, Service.buildCatalogue Settings.forTesting .ticket = .ok catalogue ∧
      catalogue.accept [] {} [("page", "2"), ("size", "10")] = .ok c ∧ c.get? Control.page = none ∧
      c.offset = 20 ∧ (catalogue.compile c []).body.get? "from" = some (.nat 20) := by
  obtain ⟨catalogue, built, ⟨c, accepted, own, first, written⟩, -⟩ := exists_numbered
  obtain ⟨⟨size, -, stands, -, -, -, sized, -⟩, -, start, -, -, -, paged⟩ :=
    Catalogue.accept_page built accepted []
  obtain rfl : "10" = size := Option.some.inj (written.symm.trans stands)
  have ten : c.size = 10 := sized.trans (by decide)
  have two : word? (Text.trim "2") = some 2 := by decide
  have moved := paged ("page", "2") List.mem_cons_self own (by decide)
  simp only [two] at moved
  obtain ⟨gone, -, offset⟩ := moved
  have twenty : c.offset = 20 := by rw [offset first (by decide), ten]
  exact ⟨catalogue, c, built, accepted, gone, twenty, twenty ▸ start first⟩

/-- A size beyond 64 bits is accepted as no results at all, and such a page number is never used. -/
theorem accept_page_unread :
    ∃ catalogue c size, Service.buildCatalogue Settings.forTesting .ticket = .ok catalogue ∧
      catalogue.accept [] {} [("page", "18446744073709551616"), ("size", "18446744073709551616")] =
        .ok c ∧
      c.get? Control.size = some size ∧ digits? size.toList = some 18446744073709551616 ∧
      c.size = 0 ∧ (catalogue.compile c []).body.get? "size" = some (.nat 0) ∧
      c.get? Control.page = some "18446744073709551616" := by
  obtain ⟨catalogue, built, -, c, accepted, written, nothing, page⟩ := exists_numbered
  have body := (catalogue.compile c []).get?_body_size
  rw [show (catalogue.compile c []).size = c.size from rfl, nothing] at body
  exact ⟨catalogue, c, _, built, accepted, written, by decide, nothing, body, page⟩

end FacetSearch
