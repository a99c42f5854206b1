import FacetSearch.Proofs.Links.Pairs

/-!
# Self links

The self link of a page asks for that page again. Only the direction of the order and a page number,
which are turned into other parameters, are no longer there when they are required.
-/

namespace FacetSearch

open Acceptance
open Control (offsetParameter)
open Number.Decimal (render)

variable {dt : DocumentType} {catalogue : Catalogue} {c : Criteria} {extra : List String}
  {limits : Limits} {pairs : List (String × String)}

/-! ### What is required again -/

namespace Acceptance

theorem contains_addDefaults {name : String} (present : (addDefaults catalogue c).contains name = true) :
    c.contains name = true ∨ (catalogue.defaultValue? name).isSome = true := by
  unfold addDefaults at present
  generalize absent c = names at present
  induction names generalizing c with
  | nil => exact Or.inl present
  | cons first rest ih =>
    rw [List.foldl_cons] at present
    rcases ih present with stands | default
    · unfold addDefault at stands
      split at stands
      · rename_i p value found default
        by_cases same : name = p.name
        · refine Or.inr ?_
          have named : p.name = first := by
            rw [Catalogue.parameter?, Definition.parameter?] at found
            simpa using List.find?_some found
          rw [same, named, default]
          rfl
        · refine Or.inl ?_
          rwa [Criteria.contains, Criteria.merge, Criteria.entry?_modifyFor_of_ne same] at stands
      · exact Or.inl stands
    · exact Or.inr default

theorem required_addDefaults (c : Criteria) : (addDefaults catalogue c).required = c.required := by
  unfold addDefaults
  generalize absent c = names
  induction names generalizing c with
  | nil => rfl
  | cons first rest ih =>
    rw [List.foldl_cons, ih]
    unfold addDefault
    split
    · exact Criteria.required_modifyFor c _ _
    · rfl

theorem contains_of_required {gathered : Criteria} {name : String}
    (accepted : catalogue.accept extra limits pairs = .ok c)
    (read : gather catalogue extra pairs = ⟨gathered, []⟩) (required : name ∈ gathered.required) :
    gathered.contains name = true ∨ (catalogue.defaultValue? name).isSome = true := by
  obtain ⟨collected, sorted, rfl, missing, -⟩ := accept_eq_ok_iff.mp accepted
  rw [read] at missing
  apply contains_addDefaults
  rw [← required_addDefaults] at required
  simpa using List.filter_eq_nil_iff.mp missing name required

variable {apiHost : String}

/-- Accepted criteria lack a required name only if it is the direction or a page that was read. -/
theorem present_of_accept (h : catalogue.IsFor dt apiHost)
    (accepted : catalogue.accept extra limits pairs = .ok c) (order : Control.order ∉ extra)
    (page : Control.page ∈ extra → c.contains Control.page = true) :
    ∀ name ∈ requiredNames catalogue extra, c.contains name = true := by
  have own : Control.order ∉ dt.definition.required ∧ Control.page ∉ dt.definition.required := by
    cases dt <;> decide
  intro name required
  by_cases isOrder : name = Control.order
  · rw [isOrder, mem_requiredNames, h.definition] at required
    rcases required with required | required
    · exact absurd required own.1
    · exact absurd required order
  · by_cases isPage : name = Control.page
    · rw [isPage, mem_requiredNames, h.definition] at required
      rw [isPage]
      rcases required with required | required
      · exact absurd required own.2
      · exact page required
    · exact contains_of_accept h accepted required isOrder isPage

/-- Whether criteria still have those required names that acceptance turns into others: the direction
of the order, which it always drops, and the page, which it drops once it has read it. -/
def KeepsRequired (extra : List String) (c : Criteria) : Prop :=
  Control.order ∉ extra ∧ (Control.page ∈ extra → c.contains Control.page = true)

theorem keepsRequired_nil (c : Criteria) : KeepsRequired [] c :=
  ⟨List.not_mem_nil, fun member => absurd member List.not_mem_nil⟩

/-- Where no direction is gathered and no page but that of the criteria, pairs are refused if the
direction is required, or a page that was read. -/
theorem required_again {gathered again : Criteria} (order : gathered.contains Control.order = false)
    (page : gathered.contains Control.page = c.contains Control.page)
    (same : gathered.required = requiredNames catalogue extra)
    (read : gather catalogue extra pairs = ⟨gathered, []⟩)
    (accepted : catalogue.accept extra limits pairs = .ok again) : KeepsRequired extra c := by
  have kept : ∀ name, catalogue.defaultValue? name = none → name ∈ extra →
      gathered.contains name = true := by
    intro name default member
    have required : name ∈ gathered.required := same ▸ mem_requiredNames.mpr (Or.inr member)
    refine (contains_of_required accepted read required).resolve_right fun filled => ?_
    rw [default] at filled
    cases filled
  refine ⟨fun member => ?_, fun member => page ▸ kept _ rfl member⟩
  have stands := kept Control.order rfl member
  rw [order] at stands
  cases stands

/-- Where nothing else can be missing, this condition decides, and acceptance has one outcome. -/
theorem accepted_iff {gathered next : Criteria} (final : IsFinal dt catalogue limits c)
    (agree : c.Agree gathered) (same : gathered.required = requiredNames catalogue extra)
    (read : gather catalogue extra pairs = ⟨gathered, []⟩)
    (succeeds : Control.order ∉ extra → (Control.page ∈ extra → c.contains Control.page = true) →
      catalogue.accept extra limits pairs = .ok next) :
    ((∃ again, catalogue.accept extra limits pairs = .ok again) ↔
      Control.order ∉ extra ∧ (Control.page ∈ extra → c.contains Control.page = true)) ∧
    ∀ again, catalogue.accept extra limits pairs = .ok again → again = next := by
  have apart : ∀ name ∈ [Control.order, Control.page], ¬ Control.Positional name := by
    intro name member
    simp only [List.mem_cons, List.not_mem_nil, or_false] at member
    rcases member with rfl | rfl <;> exact Criteria.not_positional (by decide) (by decide)
  have order : gathered.contains Control.order = false := by
    rw [contains_of_ne agree (apart _ (by decide))]
    exact Criteria.contains_eq_false_iff.mpr final.ordered.1
  have page := contains_of_ne agree (apart Control.page (by decide))
  refine ⟨⟨?_, ?_⟩, ?_⟩
  · rintro ⟨again, accepted⟩
    exact required_again order page same read accepted
  · rintro ⟨order, page⟩
    exact ⟨next, succeeds order page⟩
  · intro again accepted
    obtain ⟨direction, number⟩ := required_again order page same read accepted
    rw [succeeds direction number] at accepted
    exact (Except.ok.inj accepted).symm

end Acceptance

/-! ### The page again -/

variable {settings : Settings}

theorem Acceptance.accept_atOffset {apiHost : String} (h : catalogue.IsFor dt apiHost)
    (final : IsFinal dt catalogue limits c) (required : c.required = requiredNames catalogue extra)
    (present : ∀ name ∈ requiredNames catalogue extra, c.contains name = true) :
    catalogue.accept extra limits (c.set offsetParameter (String.ofList (render c.offset))).toPairs =
      .ok (c.set offsetParameter (String.ofList (render c.offset))) := by
  apply accept_toPairs h (isFinal_set_offset h final)
  · rw [Criteria.set, Criteria.required_modifyFor, required]
  · intro name hn
    by_cases offset : name = Control.offset
    · rw [offset]
      exact Criteria.contains_iff.mpr ⟨_, final.placed.get?_set_self dt.offset_mem⟩
    · rw [Criteria.contains, Criteria.set, Criteria.entry?_modifyFor_of_ne offset]
      exact present name hn

/-- The query of a page behind a cursor does not change when its offset is dropped. -/
theorem Catalogue.body_withoutOffset {apiHost : String} (h : catalogue.IsFor dt apiHost)
    (final : IsFinal dt catalogue limits c) (cursor : c.searchAfter?.isSome = true)
    (promoted : List String) :
    (catalogue.compile ((c.remove Control.offset).merge offsetParameter "0") promoted).body =
      (catalogue.compile c promoted).body := by
  have agree : c.Agree ((c.remove Control.offset).merge offsetParameter "0") :=
    (agree_remove final.placed dt.offset_mem (Or.inl rfl) rfl).trans
      (agree_merge (p := offsetParameter) (Or.inl rfl) rfl _ "0")
  have kept : ((c.remove Control.offset).merge offsetParameter "0").searchAfter? = c.searchAfter? :=
    (Criteria.get?_modifyFor_of_ne (by decide)).trans (Criteria.get?_remove_of_ne (by decide))
  -- An accepted cursor can be read, so the query continues behind its values.
  obtain ⟨values, after⟩ : ∃ values, (catalogue.compile c promoted).after = some values := by
    obtain ⟨text, stands⟩ := Option.isSome_iff_exists.mp cursor
    obtain ⟨e, found, rfl⟩ := Option.map_eq_some_iff.mp stands
    obtain ⟨member, same⟩ := final.placed.parameter_of_entry? dt.cursor_mem found
    obtain ⟨-, -, meaning⟩ := issue?_eq_none_iff.mp (final.settled e member).sound
    have name : e.name = Control.searchAfter := congrArg Parameter.name same
    obtain ⟨read, decodes⟩ :=
      Option.isSome_iff_exists.mp ((meaningFault?_eq_none_iff.mp meaning).2 name)
    refine ⟨read.sortValues, ?_⟩
    show (c.searchAfter?.bind Cursor.decode?).map (·.sortValues) = some read.sortValues
    rw [stands, Option.bind_some, decodes, Option.map_some]
  rw [Catalogue.compile_of_agree h final.placed agree, kept]
  exact Query.body_of_after after _

section

variable {apiHost : String} (h : catalogue.IsFor dt apiHost) (absolute : IsAbsolute apiHost)
  (accepted : catalogue.accept extra limits pairs = .ok c) (plain : IsPlain c) (base : Url)
  (size total hits : Nat) (lastSort : Option (List Json))
include h absolute accepted plain

theorem selfLink_of_none (cursor : c.searchAfter? = none) :
    let self := ((Linker.ofCriteria base c).links ⟨c.offset, size, total⟩ hits lastSort).self
    ((∃ again, catalogue.accept extra limits self.pairs = .ok again) ↔
      Control.order ∉ extra ∧ (Control.page ∈ extra → c.contains Control.page = true)) ∧
    ∀ again, catalogue.accept extra limits self.pairs = .ok again →
      again = c.set offsetParameter (String.ofList (render c.offset)) := by
  have final := isFinal_of_accept h accepted absolute plain
  have required := required_of_accept h accepted
  have offset := contains_of_accept h accepted (offset_required h extra) (by decide) (by decide)
  intro self
  have carried : self.pairs = (c.set offsetParameter (String.ofList (render c.offset))).toPairs := by
    have plainLink : ¬ (Linker.ofCriteria base c).isContinued = true := by
      rw [Linker.isContinued_iff, cursor]
      exact Bool.false_ne_true
    simp only [self, Linker.links, if_neg plainLink]
    exact Linker.pairs_atOffset base final.placed c.offset offset
  have agree := agree_set (p := offsetParameter) (Or.inl rfl) rfl c (String.ofList (render c.offset))
  have same : (c.set offsetParameter (String.ofList (render c.offset))).required =
      requiredNames catalogue extra := (Criteria.required_modifyFor c _ _).trans required
  have canonical := isFinal_set_offset h final
  rw [carried]
  apply accepted_iff final agree same (gather_toPairs h canonical.placed canonical.settled same)
  intro order page
  exact accept_atOffset h final required (present_of_accept h accepted order page)

theorem selfLink_of_cursor (cursor : c.searchAfter?.isSome = true) :
    let self := ((Linker.ofCriteria base c).links ⟨c.offset, size, total⟩ hits lastSort).self
    ((∃ again, catalogue.accept extra limits self.pairs = .ok again) ↔
      Control.order ∉ extra ∧ (Control.page ∈ extra → c.contains Control.page = true)) ∧
    ∀ again, catalogue.accept extra limits self.pairs = .ok again →
      again = (c.remove Control.offset).merge offsetParameter "0" := by
  have final := isFinal_of_accept h accepted absolute plain
  have required := required_of_accept h accepted
  intro self
  have carried : self.pairs = (c.remove Control.offset).toPairs := by
    have continuedLink := (Linker.isContinued_iff base).mpr cursor
    simp only [self, Linker.links, if_pos continuedLink]
    exact Linker.pairs_withoutOffset base final.placed
  have agree := agree_remove final.placed dt.offset_mem (Or.inl rfl) rfl
  have same := (Criteria.required_remove c Control.offset).trans required
  have settled : ∀ e ∈ (c.remove Control.offset).entries, IsSettled catalogue e :=
    fun e he => final.settled e (Criteria.mem_of_mem_remove he)
  rw [carried]
  apply accepted_iff final agree same
    (gather_toPairs h (final.placed.remove Control.offset) settled same)
  intro order page
  exact accept_withoutOffset h final required (present_of_accept h accepted order page) cursor

end

/-- The self link of a page is accepted unless it lacks a required name: the direction of the order,
or a page that was turned into an offset. It then stands for the same criteria with the offset in its
canonical form; behind a cursor, where it has no offset, it leads to the same query. -/
theorem Catalogue.accept_selfLink (built : Service.buildCatalogue settings dt = .ok catalogue)
    (absolute : IsAbsolute settings.apiHost) (accepted : catalogue.accept extra limits pairs = .ok c)
    (plain : IsPlain c) (base : Url) (size total hits : Nat) (lastSort : Option (List Json)) :
    let self := ((Linker.ofCriteria base c).links ⟨c.offset, size, total⟩ hits lastSort).self
    ((∃ again, catalogue.accept extra limits self.pairs = .ok again) ↔
      Control.order ∉ extra ∧ (Control.page ∈ extra → c.contains Control.page = true)) ∧
    ∀ again, catalogue.accept extra limits self.pairs = .ok again →
      (c.searchAfter? = none → again.search = c.search ∧
        again.control = c.control.map fun e =>
          if e.name = Control.offset then { e with value := String.ofList (render c.offset) } else e) ∧
      (c.searchAfter? ≠ none → ∀ promoted,
        (catalogue.compile again promoted).body = (catalogue.compile c promoted).body) := by
  have h := Service.isFor_of_buildCatalogue built
  have final := isFinal_of_accept h accepted absolute plain
  intro self
  cases cursor : c.searchAfter? with
  | none =>
    obtain ⟨decides, outcome⟩ :=
      selfLink_of_none h absolute accepted plain base size total hits lastSort cursor
    refine ⟨decides, fun again accepted' => ⟨fun _ => ?_, fun some_ => absurd rfl some_⟩⟩
    have offset := contains_of_accept h accepted (offset_required h extra) (by decide) (by decide)
    obtain ⟨e, found⟩ := Option.isSome_iff_exists.mp offset
    rw [show Control.offset = offsetParameter.name from rfl,
      final.placed.entry?_control dt.offset_mem rfl] at found
    rw [outcome again accepted', Criteria.set, Criteria.search_modifyFor rfl]
    exact ⟨rfl, Entry.upsert_eq_map final.placed.controlOnce ⟨e, Entry.named?_eq_some found⟩⟩
  | some text =>
    have isCursor : c.searchAfter?.isSome = true := by
      rw [cursor]
      rfl
    obtain ⟨decides, outcome⟩ :=
      selfLink_of_cursor h absolute accepted plain base size total hits lastSort isCursor
    refine ⟨decides, fun again accepted' => ⟨?_, fun _ promoted => ?_⟩⟩
    · intro none_
      exact absurd none_ (Option.some_ne_none _)
    · rw [outcome again accepted']
      exact Catalogue.body_withoutOffset h final isCursor promoted

theorem Settings.isAbsolute_forTesting : IsAbsolute Settings.forTesting.apiHost :=
  ⟨by decide, by decide⟩

/-- A host whose addresses fall apart in a list. -/
def Settings.withCommas : Settings := { Settings.forTesting with apiHost := "https://a,,b" }

def Url.ofTickets : Url :=
  { scheme := "https", authority := some { host := "api.test" }, path := .segments ["tickets"] }

theorem exists_thirdPage : ∃ catalogue, Service.buildCatalogue Settings.forTesting .ticket = .ok catalogue ∧
    ∀ extra ∈ [[], [Control.page]], ∃ c,
      catalogue.accept extra {} [("page", "3"), ("size", "1")] = .ok c ∧ IsPlain c ∧
        c.searchAfter? = none ∧ c.contains Control.page = false ∧ c.offset = 3 ∧ c.size = 1 ∧
        (catalogue.compile c []).sort.length = 2 := by
  have evaluated : passes (Service.buildCatalogue Settings.forTesting .ticket) (fun catalogue =>
      [[], [Control.page]].all fun extra =>
        passes (catalogue.accept extra {} [("page", "3"), ("size", "1")]) fun c =>
          decide (IsPlain c ∧ c.searchAfter? = none ∧ c.contains Control.page = false ∧
            c.offset = 3 ∧ c.size = 1 ∧ (catalogue.compile c []).sort.length = 2)) = true := by
    rw [Service.buildCatalogue_eq]
    decide +kernel
  obtain ⟨catalogue, built, outcome⟩ := exists_of_passes evaluated
  refine ⟨catalogue, built, fun extra member => ?_⟩
  obtain ⟨c, accepted, found⟩ := exists_of_passes (List.all_eq_true.mp outcome extra member)
  exact ⟨c, accepted, of_decide_eq_true found⟩

theorem selfLink_thirdPage :
    let base : Url :=
      { scheme := "https", authority := some { host := "api.test" }, path := .segments ["tickets"] }
    ∃ catalogue c again, Service.buildCatalogue Settings.forTesting .ticket = .ok catalogue ∧
      catalogue.accept [] {} [("page", "3"), ("size", "1")] = .ok c ∧
      catalogue.accept [] {} ((Linker.ofCriteria base c).links ⟨c.offset, 1, 100⟩ 1 none).self.pairs =
        .ok again ∧ again.search = c.search := by
  intro base
  obtain ⟨catalogue, built, each⟩ := exists_thirdPage
  obtain ⟨c, accepted, plain, cursor, -⟩ := each [] List.mem_cons_self
  obtain ⟨decides, outcome⟩ :=
    Catalogue.accept_selfLink built Settings.isAbsolute_forTesting accepted plain base 1 100 1 none
  obtain ⟨again, accepted'⟩ := decides.mpr ⟨List.not_mem_nil, (fun member => absurd member List.not_mem_nil)⟩
  exact ⟨catalogue, c, again, built, accepted, accepted', ((outcome again accepted').1 cursor).1⟩

/-- Where every request must have a page number, a page reached by one has a self link that is
refused: the number has become an offset. -/
theorem selfLink_refused : ∃ catalogue c,
    Service.buildCatalogue Settings.forTesting .ticket = .ok catalogue ∧
    IsAbsolute Settings.forTesting.apiHost ∧ '%' ∉ Settings.forTesting.apiHost.toList ∧
    catalogue.accept [Control.page] {} [("page", "3"), ("size", "1")] = .ok c ∧ IsPlain c ∧
    ∀ base size total hits lastSort, ¬ ∃ again, catalogue.accept [Control.page] {}
      ((Linker.ofCriteria base c).links ⟨c.offset, size, total⟩ hits lastSort).self.pairs =
        .ok again := by
  obtain ⟨catalogue, built, each⟩ := exists_thirdPage
  obtain ⟨c, accepted, plain, cursor, page, -⟩ :=
    each [Control.page] (List.mem_cons_of_mem _ List.mem_cons_self)
  have absolute := Settings.isAbsolute_forTesting
  refine ⟨catalogue, c, built, absolute, by decide, accepted, plain, ?_⟩
  intro base size total hits lastSort again
  have h := Service.isFor_of_buildCatalogue built
  obtain ⟨decides, -⟩ :=
    selfLink_of_none h absolute accepted plain base size total hits lastSort cursor
  rw [(decides.mp again).2 List.mem_cons_self] at page
  cases page

end FacetSearch
