import FacetSearch.Proofs.Acceptance.Offences
import FacetSearch.Proofs.Json.Exact
import FacetSearch.Proofs.Links.Pairs
import FacetSearch.Proofs.Query.Reading

/-!
# Cursors in requests

The sort values of a hit survive the way through a cursor: they are read from it as they were, a
request may give it wherever it may give none, and the engine is asked to continue behind them.
-/

namespace FacetSearch

open Acceptance
open Control (cursorParameter)

namespace Acceptance

variable {dt : DocumentType} {apiHost : String} {catalogue : Catalogue} {c : Criteria}
  {extra : List String} {limits : Limits} {pairs : List (String × String)} {p q : Parameter}

/-! ### One more parameter -/

def besides (catalogue : Catalogue) (p : Parameter) (pairs : List (String × String)) :
    List (String × String) :=
  pairs.filter fun pair => catalogue.resolve pair.1 != p

theorem given_besides (other : q ≠ p) :
    given catalogue q (besides catalogue p pairs) = given catalogue q pairs := by
  rw [given, given, besides, List.filter_filter]
  refine congrArg _ (List.filter_congr fun pair _ => ?_)
  by_cases own : catalogue.resolve pair.1 = q
  · simp [own, other]
  · simp [own]

theorem missingNames_subset :
    missingNames catalogue extra pairs ⊆ missingNames catalogue extra (besides catalogue p pairs) := by
  intro name missing
  obtain ⟨required, left⟩ := List.mem_filter.mp missing
  obtain ⟨plain, absent⟩ := Bool.and_eq_true_iff.mp left
  refine List.mem_filter.mpr ⟨required, Bool.and_eq_true_iff.mpr ⟨plain, ?_⟩⟩
  rw [Bool.not_eq_true', Bool.eq_false_iff] at absent ⊢
  intro there
  obtain ⟨pair, member, useful, same⟩ := gives_iff.mp there
  exact absent (gives_iff.mpr ⟨pair, (List.mem_filter.mp member).1, useful, same⟩)

theorem unknownNames_subset (known : p.isUnknown = false) :
    unknownNames catalogue pairs ⊆ unknownNames catalogue (besides catalogue p pairs) := by
  intro name member
  simp only [unknownNames, List.mem_eraseDups, List.mem_filter, List.mem_map] at member ⊢
  obtain ⟨⟨pair, member, rfl⟩, unknown⟩ := member
  refine ⟨⟨pair, List.mem_filter.mpr ⟨member, bne_iff_ne.mpr ?_⟩, rfl⟩, unknown⟩
  rintro rfl
  rw [known] at unknown
  cases unknown

section

variable (h : catalogue.IsFor dt apiHost)
include h

/-- A request is not refused for a sound value of one more parameter, unless that is the order or the
choice of facets. -/
theorem refusalOfForm?_of_besides (hp : p ∈ dt.definition.allParameters)
    (sort : p ≠ Control.sortParameter) (facets : p ≠ Control.aggregationParameter)
    (filled : given catalogue p pairs ≠ []) (sound : issue? catalogue (givenEntry catalogue pairs p) = none)
    (formed : refusalOfForm? catalogue extra (besides catalogue p pairs) = none) :
    refusalOfForm? catalogue extra pairs = none := by
  have kept : ∀ q ∈ dt.definition.allParameters, q ≠ p →
      Criteria.entry? (stored catalogue extra pairs) q.name =
        Criteria.entry? (stored catalogue extra (besides catalogue p pairs)) q.name :=
    fun q hq other => entry?_stored_congr h hq (given_besides other).symm
  rw [refusalOfForm?] at formed ⊢
  simp only [Option.or_eq_none_iff, reported_eq_none_iff] at formed ⊢
  obtain ⟨missing, unknown, values, order, chosen⟩ := formed
  have known := (DocumentType.isRegular_of_mem hp).known
  refine ⟨List.eq_nil_of_subset_nil (missing ▸ missingNames_subset),
    List.eq_nil_of_subset_nil (unknown ▸ unknownNames_subset known), ?_, ?_, ?_⟩
  · rw [valueIssues_eq_nil_iff] at values ⊢
    intro e he
    have placed := (isCollected_stored h extra pairs).placed
    by_cases own : e.parameter = p
    · rcases (mem_stored h hp (congrArg Parameter.name own)).mp he with ⟨-, rfl⟩ | ⟨empty, -⟩
      · exact sound
      · exact absurd empty filled
    · have found := (kept e.parameter (placed.listed e he) own).symm.trans (placed.entry?_of_mem he)
      exact values e (List.mem_of_find?_eq_some found)
  · have same : Criteria.sort? (stored catalogue extra pairs) = _ :=
      Criteria.get?_congr (kept _ dt.sort_mem sort.symm)
    rw [strayTokens, same]
    exact order
  · have same : Criteria.get? (stored catalogue extra pairs) Control.aggregation = _ :=
      Criteria.get?_congr (kept _ dt.aggregation_mem facets.symm)
    rw [facetIssues, Criteria.facets, same]
    exact chosen

theorem formed_of_accept (accepted : catalogue.accept extra limits pairs = .ok c) :
    refusalOfForm? catalogue extra pairs = none := by
  rw [accept_eq h] at accepted
  cases refused : refusalOfForm? catalogue extra pairs with
  | none => rfl
  | some refusal =>
    rw [refused] at accepted
    cases accepted

theorem stored_of_accept (accepted : catalogue.accept extra limits pairs = .ok c) :
    checkBounds limits c = .ok () ∧ c.size = (stored catalogue extra pairs).size ∧
      c.searchAfter? = (stored catalogue extra pairs).searchAfter? := by
  obtain ⟨settled, decided, size, cursor, -⟩ := exists_settled h (formed_of_accept h accepted)
  rw [decided] at accepted
  cases bounds : checkBounds limits settled with
  | error refusal =>
    rw [bounds] at accepted
    cases accepted
  | ok _ =>
    rw [bounds] at accepted
    obtain rfl := Except.ok.inj accepted
    exact ⟨bounds, size, cursor⟩

variable {text : String} (single : given catalogue cursorParameter pairs = [text])
include single

theorem searchAfter?_stored : (stored catalogue extra pairs).searchAfter? = some text := by
  have stands : (stored catalogue extra pairs).searchAfter? = _ := get?_stored h dt.cursor_mem
  rw [stands, single, if_pos (List.cons_ne_nil text []), Text.join_singleton]

theorem accept_of_besides (sound : issue? catalogue ⟨cursorParameter, text⟩ = none)
    (accepted : catalogue.accept extra limits (besides catalogue cursorParameter pairs) = .ok c) :
    ∃ c, catalogue.accept extra limits pairs = .ok c := by
  have entry : givenEntry catalogue pairs cursorParameter = ⟨cursorParameter, text⟩ := by
    rw [givenEntry, single, Text.join_singleton]
  have formed := refusalOfForm?_of_besides h dt.cursor_mem (by decide) (by decide)
    (single ▸ List.cons_ne_nil text []) (entry ▸ sound) (formed_of_accept h accepted)
  obtain ⟨settled, decided, size, cursor, -⟩ := exists_settled h formed
  obtain ⟨bounds, size', -⟩ := stored_of_accept h accepted
  -- The page is as large as it was, and where it begins is not bounded behind a cursor.
  have kept : Criteria.size (stored catalogue extra pairs) = Criteria.size _ :=
    congrArg (Option.getD · 0) (Criteria.number?_congr
      (entry?_stored_congr h dt.size_mem (given_besides (p := cursorParameter) (by decide)).symm))
  have small : sizeIssue? limits settled = none := by
    rw [sizeIssue?, size, kept, ← size']
    exact (checkBounds_eq_ok_iff.mp bounds).1
  have unbounded : windowIssue? limits settled = none := by
    rw [windowIssue?, cursor, searchAfter?_stored h single]
    exact if_neg fun both => Bool.false_ne_true both.1
  rw [decided, checkBounds_eq_ok_iff.mpr ⟨small, unbounded⟩]
  exact ⟨settled, rfl⟩

theorem after_of_accept {values : List Json} (read : Cursor.decode? text = some ⟨values⟩)
    (accepted : catalogue.accept extra limits pairs = .ok c) (promoted : List String) :
    c.searchAfter? = some text ∧ (catalogue.compile c promoted).after = some values := by
  have cursor := (stored_of_accept h accepted).2.2.trans (searchAfter?_stored h single)
  refine ⟨cursor, ?_⟩
  rw [Catalogue.compile, cursor]
  simp only [Option.bind_some, read, Option.map_some]

end

end Acceptance

theorem Text.Base64.letter_urlSafe {n : Nat} (h : n < 64) : (letter urlSafe n).isAlphanum = true ∨
    letter urlSafe n = '-' ∨ letter urlSafe n = '_' := by
  have all : ∀ m < 64, (letter urlSafe m).isAlphanum = true ∨
      letter urlSafe m = '-' ∨ letter urlSafe m = '_' := by
    decide
  exact all n h

theorem Cursor.sortValues_ne_nil {s : String} {cursor : Cursor} (read : decode? s = some cursor) :
    cursor.sortValues ≠ [] := by
  obtain ⟨bytes, -, read⟩ := Option.bind_eq_some_iff.mp read
  obtain ⟨json, -, read⟩ := Option.bind_eq_some_iff.mp read
  obtain ⟨value, -, read⟩ := Option.bind_eq_some_iff.mp read
  split at read
  · obtain rfl := Option.some.inj read
    exact List.cons_ne_nil _ _
  · cases read

/-- The sort values of a cursor are read as they were written, if they are kept by their texts. What
is written is a sound value for the cursor of a request, which is accepted if it is without, and from
which the engine gets these values. A cursor is never without values. -/
theorem Catalogue.cursor_kept {settings : Settings} {dt : DocumentType} {catalogue : Catalogue}
    (built : Service.buildCatalogue settings dt = .ok catalogue) :
    (∀ values : List Json, values ≠ [] → (∀ v ∈ values, v.Exact 100) →
      Cursor.decode? (Cursor.encode ⟨values⟩) = some ⟨values⟩ ∧
      Cursor.encode ⟨values⟩ ≠ "" ∧
      (∀ c ∈ (Cursor.encode ⟨values⟩).toList, c.isAlphanum = true ∨ c = '-' ∨ c = '_') ∧
      issue? catalogue ⟨cursorParameter, Cursor.encode ⟨values⟩⟩ = none ∧
      ∀ extra limits pairs, given catalogue cursorParameter pairs = [Cursor.encode ⟨values⟩] →
        ((∃ c, catalogue.accept extra limits (besides catalogue cursorParameter pairs) = .ok c) →
          ∃ c, catalogue.accept extra limits pairs = .ok c) ∧
        ∀ c promoted, catalogue.accept extra limits pairs = .ok c →
          c.searchAfter? = some (Cursor.encode ⟨values⟩) ∧
          (catalogue.compile c promoted).after = some values ∧
          (catalogue.compile c promoted).body.get? "search_after" = some (.arr values)) ∧
    (∀ s cursor, Cursor.decode? s = some cursor → cursor.sortValues ≠ []) ∧
    Cursor.decode? (Cursor.encode ⟨[]⟩) = none ∧
      issue? catalogue ⟨cursorParameter, Cursor.encode ⟨[]⟩⟩ ≠ none := by
  have h := Service.isFor_of_buildCatalogue built
  refine ⟨fun values filled kept => ?_, ?_, ?_, ?_⟩
  · obtain ⟨value, rest, rfl⟩ := List.exists_cons_of_ne_nil filled
    have read := Cursor.decode?_encode ((Json.Exact.arr kept).parse?_text (by decide))
    have readable : (Cursor.decode? (Cursor.encode ⟨value :: rest⟩)).isSome = true := by rw [read]; rfl
    have sound := (isSettled_cursor h readable).sound
    refine ⟨read, ne_empty_of_decode? readable, fun c hc => ?_, sound,
      fun extra limits pairs single => ⟨fun ⟨c, accepted⟩ => accept_of_besides h single sound accepted,
        fun c promoted accepted => ?_⟩⟩
    · obtain ⟨n, hn, rfl⟩ := exists_letter_of_mem_encode _ c hc
      exact Text.Base64.letter_urlSafe hn
    · obtain ⟨cursor, after⟩ := after_of_accept h single read accepted promoted
      exact ⟨cursor, after, Query.get?_body_cursor after⟩
  · exact fun s cursor read => Cursor.sortValues_ne_nil read
  · decide
  · intro sound
    have readable := (meaningFault?_eq_none_iff.mp (issue?_eq_none_iff.mp sound).2.2).2 rfl
    exact absurd readable (by decide)

theorem cursor_kept_tickets :
    ∃ catalogue c, Service.buildCatalogue Settings.forTesting .ticket = .ok catalogue ∧
      catalogue.accept [] {}
        [("search-after", Cursor.encode ⟨[.int 1700000000000, .str "Blåbær"]⟩)] = .ok c ∧
      (catalogue.compile c []).body.get? "search_after" =
        some (.arr [.int 1700000000000, .str "Blåbær"]) := by
  generalize named : Cursor.encode ⟨[.int 1700000000000, .str "Blåbær"]⟩ = text
  have evaluated : passes (Service.buildCatalogue Settings.forTesting .ticket) (fun catalogue =>
      decide (given catalogue cursorParameter [("search-after", text)] = [text]) &&
        passes (catalogue.accept [] {} (besides catalogue cursorParameter [("search-after", text)]))
          fun _ => true) = true := by
    rw [Service.buildCatalogue_eq, ← named]
    decide +kernel
  obtain ⟨catalogue, built, outcome⟩ := exists_of_passes evaluated
  obtain ⟨single, others⟩ := Bool.and_eq_true_iff.mp outcome
  obtain ⟨c, accepted, -⟩ := exists_of_passes others
  have values : ∀ v ∈ [Json.int 1700000000000, .str "Blåbær"], v.Exact 100 := by
    intro v hv
    rcases List.mem_cons.mp hv with rfl | hv
    · exact .int (by decide) (by decide)
    · obtain rfl := List.mem_singleton.mp hv
      exact .str "Blåbær"
  obtain ⟨-, -, -, -, request⟩ := (Catalogue.cursor_kept built).1 _ (List.cons_ne_nil _ _) values
  rw [named] at request
  obtain ⟨accepts, compiles⟩ := request [] {} [("search-after", text)] (of_decide_eq_true single)
  obtain ⟨c', accepted'⟩ := accepts ⟨c, accepted⟩
  exact ⟨catalogue, c', built, accepted', (compiles c' [] accepted').2.2⟩

end FacetSearch
