import FacetSearch.Proofs.Acceptance.PageNumbers
import FacetSearch.Proofs.Acceptance.Stored

/-!
# Offences of a request

Everything that a request can be refused for, said of its stored entries, and the one class of
offences that is reported: required names that are missing, unknown names, faulty values, tokens that
give no order, names of no facet, and numbers beyond the bounds of a page. The classes are looked for
in this order, and the report lists all offences of the first class that has some.
-/

namespace FacetSearch

open Calendar (isPeriod)
open Control (offsetParameter sizeParameter pageParameter)
open Number (maxWord mulWord addWord word?)

variable {dt : DocumentType} {apiHost : String} {catalogue : Catalogue} {c c' : Criteria} {e : Entry}
  {extra : List String} {limits : Limits} {pairs : List (String × String)} {p : Parameter}

/-! ### Faults of a value -/

namespace Acceptance

/-- What can be wrong with the value of an entry, in the order in which it is looked for. -/
inductive Fault where
  | tooMany
  /-- A pair both bounds of which are left open. -/
  | emptyPair
  | malformed
  | impossibleDate
  | undecodableCursor
  deriving DecidableEq, Repr

def mostElements? (p : Parameter) : Option Nat :=
  if p.operator = .between then some 2 else if takesOneValue p then some 1 else none

namespace Fault

def all : List Fault := [tooMany, emptyPair, malformed, impossibleDate, undecodableCursor]

def isFound (catalogue : Catalogue) (e : Entry) : Fault → Bool
  | tooMany => (mostElements? e.parameter).any (· < e.elements.length)
  | emptyPair => e.parameter.operator == .between && e.elements.all (· == "")
  | malformed => e.elements.any fun x =>
      !(e.parameter.operator == .between && x == "") && !catalogue.acceptsValue e.parameter x
  | impossibleDate => e.parameter.kind == .date && e.elements.any fun x => x != "" && !isPeriod x
  | undecodableCursor => e.name == Control.searchAfter && (Cursor.decode? e.value).isNone

def message (p : Parameter) : Fault → String
  | tooMany =>
    if p.operator = .between then p.name ++ " must be a value or a lower:upper pair"
    else p.name ++ " accepts a single value"
  | emptyPair | malformed => p.expectation
  | impossibleDate => p.name ++ " is not a calendar date"
  | undecodableCursor => p.name ++ " is not a valid cursor"

def first? (catalogue : Catalogue) (e : Entry) : Option Fault := all.find? (isFound catalogue e)

end Fault

theorem countFault?_eq (catalogue : Catalogue) (e : Entry) : countFault? e.parameter e.elements =
    ([Fault.tooMany, .emptyPair].find? (·.isFound catalogue e)).map (·.message e.parameter) := by
  unfold countFault?
  rw [List.find?_cons, List.find?_cons, List.find?_nil, Fault.isFound, Fault.isFound, mostElements?]
  by_cases between : e.parameter.operator = .between
  · rw [if_pos between, if_pos between, beq_iff_eq.mpr between, Option.any_some, Bool.true_and]
    by_cases many : 2 < e.elements.length
    · rw [if_pos many, decide_eq_true many]
      simp [Fault.message, between]
    · rw [if_neg many, decide_eq_false many]
      cases e.elements.all (· == "") <;> simp [Fault.message]
  · rw [if_neg between, if_neg between, beq_eq_false_iff_ne.mpr between, Bool.false_and]
    cases takesOneValue e.parameter with
    | false => simp
    | true =>
      by_cases many : 1 < e.elements.length
      · simp [many, Fault.message, between]
      · simp [many]

theorem formFault?_eq : formFault? catalogue e.parameter e.elements =
    ([Fault.malformed].find? (·.isFound catalogue e)).map (·.message e.parameter) := by
  unfold formFault?
  rw [List.find?_cons, List.find?_nil, Fault.isFound]
  have opposite : (e.elements.any fun x => !(e.parameter.operator == .between && x == "") &&
      !catalogue.acceptsValue e.parameter x) =
      !(e.elements.all fun x => (e.parameter.operator == .between && x == "") ||
        catalogue.acceptsValue e.parameter x) := by
    rw [List.not_all_eq_any_not]
    congr 1
    funext x
    rw [Bool.not_or]
  rw [opposite]
  cases e.elements.all _ <;> rfl

theorem meaningFault?_eq (catalogue : Catalogue) (e : Entry) : meaningFault? e =
    ([Fault.impossibleDate, .undecodableCursor].find? (·.isFound catalogue e)).map
      (·.message e.parameter) := by
  unfold meaningFault?
  rw [List.find?_cons, List.find?_cons, List.find?_nil, Fault.isFound, Fault.isFound]
  have opposite : (e.elements.any fun x => x != "" && !isPeriod x) =
      !((e.elements.filter (· != "")).all isPeriod) := by
    rw [List.all_filter, List.not_all_eq_any_not]
    congr 1
    funext x
    cases x != "" <;> rfl
  rw [opposite]
  cases e.parameter.kind == .date && !((e.elements.filter (· != "")).all isPeriod) with
  | true => rfl
  | false =>
    cases e.name == Control.searchAfter && (Cursor.decode? e.value).isNone with
    | true => rfl
    | false => rfl

/-- An entry is reported for its first fault, and not at all if it has none. -/
theorem issue?_eq : issue? catalogue e = (Fault.first? catalogue e).map fun fault =>
    ⟨e.name, e.value, fault.message e.parameter⟩ := by
  have split : Fault.first? catalogue e =
      ([Fault.tooMany, .emptyPair].find? (·.isFound catalogue e)).or
        (([Fault.malformed].find? (·.isFound catalogue e)).or
          ([Fault.impossibleDate, .undecodableCursor].find? (·.isFound catalogue e))) := by
    rw [← List.find?_append, ← List.find?_append]
    rfl
  rw [issue?, countFault?_eq catalogue, formFault?_eq, meaningFault?_eq catalogue,
    split, ← Option.map_or, ← Option.map_or, Option.map_map]
  rfl

/-! ### The classes of offences -/

def valueIssues (catalogue : Catalogue) (c : Criteria) : List Issue :=
  c.entries.filterMap fun e => (Fault.first? catalogue e).map fun fault =>
    ⟨e.name, e.value, fault.message e.parameter⟩

end Acceptance

/-- Whether a token is the name of a sort key, alone or with a direction. -/
def SortTable.reads (table : SortTable) (token : String) : Bool :=
  match Text.split ':' token with
  | [name] => (table.resolve? (Text.trim name)).isSome
  | [name, direction] =>
    (Direction.parse? (Text.trim direction)).isSome && (table.resolve? (Text.trim name)).isSome
  | _ => false

namespace Acceptance

def strayTokens (catalogue : Catalogue) (c : Criteria) : List String :=
  ((c.sort?.map SortTable.tokens).getD []).filter fun token => !catalogue.sorts.reads token

/-- The names of no facet, where facets are chosen by their names. -/
def facetIssues (catalogue : Catalogue) (c : Criteria) : List Issue :=
  match c.facets with
  | .only names => (names.filter fun name => (catalogue.facet? name).isNone).map fun name =>
      ⟨Control.aggregation, name,
        "must be all, none or one of: " ++ Text.join ", " (catalogue.facets.map (·.name))⟩
  | _ => []

/-- Where a page begins and how long it is, if digits of ASCII say so and 64 bits hold each number. -/
def page? (c : Criteria) : Option (Nat × Nat) :=
  ((c.get? Control.size).bind word?).bind fun size =>
    match c.get? Control.page with
    | some page => (word? page).map fun page => (page * size, size)
    | none => ((c.get? Control.offset).bind word?).map fun offset => (offset, size)

/-- What of a page is beyond its bounds. The end of a page behind a cursor is not bounded. -/
def boundIssues (limits : Limits) (c : Criteria) (offset size : Nat) : List Issue :=
  (if limits.maxSize < size then
    [⟨Control.size, String.ofList (Number.Decimal.render size),
      "must be at most " ++ String.ofList (Number.Decimal.render limits.maxSize)⟩] else []) ++
  if c.searchAfter? = none ∧ limits.window < offset + size then
    [⟨Control.offset, String.ofList (Number.Decimal.render (min offset maxWord)),
      "from + size must not exceed " ++ String.ofList (Number.Decimal.render limits.window) ++
        "; use searchAfter for deeper pages"⟩] else []

def reported (offences : List α) (report : List α → Refusal) : Option Refusal :=
  if offences.isEmpty then none else some (report offences)

/-- What a request is refused for before the bounds of its page are looked at. -/
def refusalOfForm? (catalogue : Catalogue) (extra : List String) (pairs : List (String × String)) :
    Option Refusal :=
  let c := stored catalogue extra pairs
  (reported (missingNames catalogue extra pairs) .missingRequired).or <|
  (reported (unknownNames catalogue pairs) (.unknownParameters · catalogue.names)).or <|
  (reported (valueIssues catalogue c) .invalidValues).or <|
  (reported (strayTokens catalogue c) (.invalidSort · catalogue.sorts.names)).or <|
  reported (facetIssues catalogue c) .invalidValues

def refusal? (catalogue : Catalogue) (extra : List String) (limits : Limits)
    (pairs : List (String × String)) : Option Refusal :=
  let c := stored catalogue extra pairs
  (refusalOfForm? catalogue extra pairs).or <|
  (page? c).bind fun page => reported (boundIssues limits c page.1 page.2) .invalidValues

/-! ### The checks report their classes -/

theorem checkValues_eq : checkValues catalogue c =
    match reported (valueIssues catalogue c) .invalidValues with
    | some refusal => .error refusal
    | none => .ok () := by
  have same : c.entries.filterMap (issue? catalogue) = valueIssues catalogue c := by
    rw [valueIssues]
    congr 1
    funext e
    exact issue?_eq
  unfold checkValues
  rw [same]
  cases valueIssues catalogue c with
  | nil => rfl
  | cons issue rest => rfl

theorem isNone_directive? (table : SortTable) (fallback : Option Direction) (token : String) :
    (table.directive? fallback token).isNone = !table.reads token := by
  unfold SortTable.directive? SortTable.reads
  generalize Text.split ':' token = parts
  rcases parts with - | ⟨name, - | ⟨direction, - | ⟨more, rest⟩⟩⟩
  · rfl
  · cases found : table.resolve? (Text.trim name) <;> simp [found]
  · cases read : Direction.parse? (Text.trim direction) <;>
      cases found : table.resolve? (Text.trim name) <;> simp [read, found]
  · rfl

section

variable (h : catalogue.IsFor dt apiHost)
include h

theorem settleSort_cases (c : Criteria) :
    match reported (strayTokens catalogue c) (.invalidSort · catalogue.sorts.names) with
    | some refusal => settleSort catalogue c = .error refusal
    | none => ∃ sorted, settleSort catalogue c = .ok sorted := by
  have sort : (c.remove Control.order).sort? = c.sort? :=
    Criteria.get?_congr (Criteria.entry?_remove_of_ne (by decide))
  unfold settleSort strayTokens
  simp only [Criteria.take_eq, sort, SortTable.parse_eq, isNone_directive?]
  cases c.sort? with
  | none => exact ⟨_, rfl⟩
  | some expression =>
    simp only [Option.map_some, Option.getD_some]
    cases (SortTable.tokens expression).filter fun token => !catalogue.sorts.reads token with
    | cons token rest => rfl
    | nil =>
      rw [show Control.sort = Control.sortParameter.name from rfl, h.parameter?_name dt.sort_mem]
      exact ⟨_, rfl⟩

omit h in
theorem checkFacets_eq : checkFacets catalogue c =
    match reported (facetIssues catalogue c) .invalidValues with
    | some refusal => .error refusal
    | none => .ok () := by
  unfold checkFacets facetIssues
  cases c.facets with
  | none => rfl
  | all => rfl
  | only names =>
    simp only
    cases names.filter fun name => (catalogue.facet? name).isNone with
    | nil => rfl
    | cons name rest => rfl

/-- A request is refused for its form, or else its bounds decide. -/
theorem accept_eq : catalogue.accept extra limits pairs =
    match refusalOfForm? catalogue extra pairs with
    | some refusal => .error refusal
    | none => (settleSort catalogue (stored catalogue extra pairs)).bind fun sorted =>
        (checkBounds limits (settle catalogue sorted)).map fun _ => settle catalogue sorted := by
  unfold Catalogue.accept refusalOfForm?
  simp only [addDefaults_gather h, absent_stored h, unknown_gather_eq, checkValues_eq]
  have sorting := settleSort_cases h (stored catalogue extra pairs)
  have facets : ∀ sorted, settleSort catalogue (stored catalogue extra pairs) = .ok sorted →
      checkFacets catalogue sorted = checkFacets catalogue (stored catalogue extra pairs) :=
    fun sorted sorting => checkFacets_congr (entry?_settleSort_of_ne h sorting (by decide) (by decide))
  rw [checkFacets_eq] at facets
  cases missingNames catalogue extra pairs with
  | cons name rest => rfl
  | nil =>
    cases unknownNames catalogue pairs with
    | cons name rest => rfl
    | nil =>
      cases valueIssues catalogue (stored catalogue extra pairs) with
      | cons issue rest => rfl
      | nil =>
        cases stray : strayTokens catalogue (stored catalogue extra pairs) with
        | cons token rest =>
          rw [stray] at sorting
          have refused : settleSort catalogue (stored catalogue extra pairs) = _ := sorting
          rw [refused]
          rfl
        | nil =>
          rw [stray] at sorting
          obtain ⟨sorted, sorting⟩ := sorting
          have named := facets sorted sorting
          rw [sorting]
          simp only [bind, Except.bind, named]
          cases facetIssues catalogue (stored catalogue extra pairs) with
          | cons issue rest => rfl
          | nil =>
            simp only [reported, List.isEmpty_nil, if_true, Option.none_or]
            cases checkBounds limits (settle catalogue sorted) <;> rfl

/-! ### The bounds of a page -/

omit h in
theorem reported_eq_none_iff {offences : List α} {report : List α → Refusal} :
    reported offences report = none ↔ offences = [] := by
  cases offences with
  | nil => simp [reported]
  | cons first rest => simp [reported]

omit h in
theorem valueIssues_eq_nil_iff :
    valueIssues catalogue c = [] ↔ ∀ e ∈ c.entries, issue? catalogue e = none := by
  rw [valueIssues, List.filterMap_eq_nil_iff]
  exact forall₂_congr fun e _ => by rw [issue?_eq]

theorem number?_eq_word? {required : List String} (ready : IsSound dt catalogue required c)
    (hp : p ∈ [offsetParameter, sizeParameter, pageParameter]) :
    c.number? p.name = (c.get? p.name).bind word? := by
  have plain : ∀ p ∈ [offsetParameter, sizeParameter, pageParameter],
      p ∈ Control.parameters ∧ p.decoded = false := by decide
  cases stands : c.get? p.name with
  | none =>
    rw [Criteria.number?, stands, Option.bind_none, Option.bind_none]
  | some text =>
    obtain ⟨e, found, rfl⟩ := Option.map_eq_some_iff.mp stands
    obtain ⟨member, rfl⟩ := ready.placed.parameter_of_entry? (dt.mem_of_control (plain p hp).1) found
    have trimmed := (ready.tidy e member (plain _ hp).2).1
    exact Criteria.number?_of_get? stands trimmed
      (isNumeral_of_sound h hp trimmed (ready.sound e member))

theorem isSound_stored (formed : refusalOfForm? catalogue extra pairs = none) :
    IsSound dt catalogue (requiredNames catalogue extra) (stored catalogue extra pairs) := by
  rw [refusalOfForm?] at formed
  simp only [Option.or_eq_none_iff, reported_eq_none_iff] at formed
  exact ⟨isCollected_stored h extra pairs, valueIssues_eq_nil_iff.mp formed.2.2.1⟩

/-- What the bounds of a page are checked on when nothing else is wrong with a request. -/
theorem exists_settled (formed : refusalOfForm? catalogue extra pairs = none) :
    ∃ settled, (∀ limits, catalogue.accept extra limits pairs =
        (checkBounds limits settled).map fun _ => settled) ∧
      settled.size = (stored catalogue extra pairs).size ∧
      settled.searchAfter? = (stored catalogue extra pairs).searchAfter? ∧
      settled.offset = match (stored catalogue extra pairs).page? with
        | some page => mulWord page (stored catalogue extra pairs).size
        | none => (stored catalogue extra pairs).offset := by
  have ready := isSound_stored h formed
  have whole := formed
  rw [refusalOfForm?] at formed
  simp only [Option.or_eq_none_iff, reported_eq_none_iff] at formed
  have sorting := settleSort_cases h (stored catalogue extra pairs)
  rw [formed.2.2.2.1] at sorting
  obtain ⟨sorted, sorting⟩ := sorting
  have sound := (isOrdered_settleSort h ready sorting).1
  -- Neither the order nor the page touches the other numbers.
  have kept : ∀ name, name ≠ Control.order → name ≠ Control.sort →
      sorted.entry? name = Criteria.entry? (stored catalogue extra pairs) name :=
    fun name order sort => entry?_settleSort_of_ne h sorting order sort
  have size := Criteria.number?_congr ((entry?_settle_of_ne h sound dt.size_mem rfl (by decide)
    (by decide)).trans (kept Control.size (by decide) (by decide)))
  have cursor := Criteria.get?_congr ((entry?_settle_of_ne h sound dt.cursor_mem rfl (by decide)
    (by decide)).trans (kept Control.searchAfter (by decide) (by decide)))
  have page := Criteria.number?_congr (kept Control.page (by decide) (by decide))
  have offset := Criteria.number?_congr (kept Control.offset (by decide) (by decide))
  have size : Criteria.size (settle catalogue sorted) = (stored catalogue extra pairs).size :=
    congrArg (Option.getD · 0) size
  refine ⟨settle catalogue sorted, fun limits => ?_, size, cursor, ?_⟩
  · rw [accept_eq h, whole, sorting]
    rfl
  · rw [Criteria.page?, ← page]
    cases asked : sorted.number? Control.page with
    | some n =>
      rw [(settle_of_page? h sound asked).2, size]
    | none =>
      have same : Criteria.entry? (settleEntries catalogue.rules sorted) Control.offset =
          sorted.entry? Control.offset := entry?_settleEntries_control sound.placed dt.offset_mem rfl
      rw [settle_of_unpaged asked]
      exact congrArg (Option.getD · 0) ((Criteria.number?_congr same).trans offset)

omit h in
theorem checkBounds_eq {offset size : Nat} (below : limits.window < maxWord)
    (sized : c.size = size) (begun : c.offset = min offset maxWord)
    (behind : c.searchAfter? = c'.searchAfter?) : checkBounds limits c =
      match reported (boundIssues limits c' offset size) .invalidValues with
      | some refusal => .error refusal
      | none => .ok () := by
  -- Sums and products that stop at the largest number are beyond the window all the same.
  have window : limits.window < addWord (min offset maxWord) size ↔ limits.window < offset + size := by
    rw [addWord]
    omega
  have issues : (sizeIssue? limits c).toList ++ (windowIssue? limits c).toList =
      boundIssues limits c' offset size := by
    rw [sizeIssue?, windowIssue?, boundIssues]
    simp only [Option.isNone_iff_eq_none, behind, begun, sized, window]
    congr 1
    · split
      · rfl
      · rfl
    · split
      · rfl
      · rfl
  unfold checkBounds
  rw [issues]
  cases boundIssues limits c' offset size with
  | nil => rfl
  | cons issue rest => rfl

theorem bounds_of_page? {settled : Criteria} {offset size : Nat} {required : List String}
    (ready : IsSound dt catalogue required c) (sized : settled.size = c.size)
    (begun : settled.offset = match c.page? with
      | some page => mulWord page c.size
      | none => c.offset)
    (described : page? c = some (offset, size)) :
    settled.size = size ∧ settled.offset = min offset maxWord := by
  obtain ⟨number, denoted, described⟩ := Option.bind_eq_some_iff.mp described
  have read : c.number? Control.size = some number :=
    (number?_eq_word? h ready (p := sizeParameter) (by decide)).trans denoted
  have size_ : c.size = number := by rw [Criteria.size, read, Option.getD_some]
  have page := number?_eq_word? h ready (p := pageParameter) (by decide)
  rw [show pageParameter.name = Control.page from rfl] at page
  cases asked : c.get? Control.page with
  | some text =>
    rw [asked] at described page
    obtain ⟨n, word, same⟩ := Option.map_eq_some_iff.mp described
    obtain ⟨rfl, rfl⟩ := Prod.mk.inj same
    have turned : c.page? = some n := page.trans word
    rw [turned] at begun
    simp only [size_] at begun
    exact ⟨sized.trans size_, begun⟩
  | none =>
    rw [asked] at described page
    obtain ⟨n, word, same⟩ := Option.map_eq_some_iff.mp described
    obtain ⟨rfl, rfl⟩ := Prod.mk.inj same
    have kept : c.page? = none := page
    have first : c.number? Control.offset = some n :=
      (number?_eq_word? h ready (p := offsetParameter) (by decide)).trans word
    rw [kept] at begun
    rw [begun, Criteria.offset, first]
    exact ⟨sized.trans size_, (Nat.min_eq_left (number?_le first)).symm⟩

theorem accept_of_page? (limits : Limits) {offset size : Nat}
    (formed : refusalOfForm? catalogue extra pairs = none)
    (below : limits.window < maxWord)
    (described : page? (stored catalogue extra pairs) = some (offset, size)) :
    match reported (boundIssues limits (stored catalogue extra pairs) offset size) .invalidValues with
    | some refusal => catalogue.accept extra limits pairs = .error refusal
    | none => ∃ c, catalogue.accept extra limits pairs = .ok c := by
  obtain ⟨settled, decided, sized, behind, begun⟩ := exists_settled h formed
  obtain ⟨size_, offset_⟩ := bounds_of_page? h (isSound_stored h formed) sized begun described
  rw [decided, checkBounds_eq below size_ offset_ behind]
  cases reported (boundIssues limits (stored catalogue extra pairs) offset size) .invalidValues with
  | some refusal => rfl
  | none => exact ⟨settled, rfl⟩

end

end Acceptance

open Acceptance

/-- The outcome of a request. It is refused for the first class of offences that it has, with exactly
the offences of this class in their order, and accepted if it has none. The numbers of its page must
be held by 64 bits, and the window be below the largest such number. -/
theorem Catalogue.accept_outcome {settings : Settings}
    (built : Service.buildCatalogue settings dt = .ok catalogue)
    (readable : refusalOfForm? catalogue extra pairs = none →
      limits.window < maxWord ∧ (page? (stored catalogue extra pairs)).isSome = true) :
    (∀ refusal, catalogue.accept extra limits pairs = .error refusal ↔
      refusal? catalogue extra limits pairs = some refusal) ∧
    ((∃ c, catalogue.accept extra limits pairs = .ok c) ↔
      refusal? catalogue extra limits pairs = none) := by
  have h := Service.isFor_of_buildCatalogue built
  suffices outcome : match refusal? catalogue extra limits pairs with
      | some refusal => catalogue.accept extra limits pairs = .error refusal
      | none => ∃ c, catalogue.accept extra limits pairs = .ok c by
    cases found : refusal? catalogue extra limits pairs with
    | some refusal =>
      rw [found] at outcome
      simp only at outcome
      simp [outcome, eq_comm]
    | none =>
      rw [found] at outcome
      obtain ⟨c, accepted⟩ := outcome
      simp [accepted]
  cases formed : refusalOfForm? catalogue extra pairs with
  | some refusal =>
    rw [refusal?, formed, Option.some_or, accept_eq h, formed]
  | none =>
    obtain ⟨below, described⟩ := readable formed
    obtain ⟨⟨offset, size⟩, described⟩ := Option.isSome_iff_exists.mp described
    rw [refusal?, formed, Option.none_or, described, Option.bind_some]
    exact accept_of_page? h limits formed below described

/-! ### Tickets that are refused -/

/-- What tickets are refused for, and what is not reported of them. -/
theorem exists_judged :
    ∃ catalogue c, Service.buildCatalogue Settings.forTesting .ticket = .ok catalogue ∧
      (page? (stored catalogue [] [("page", "700"), ("size", "2000")])).isSome = true ∧
      refusal? catalogue [] {} [("page", "700"), ("size", "2000")] = some (.invalidValues [
        ⟨"size", "2000", "must be at most 1000"⟩,
        ⟨"from", "1400000",
          "from + size must not exceed 10000; use searchAfter for deeper pages"⟩]) ∧
      catalogue.accept [] {} [("aggregation", "all,colour")] = .ok c ∧
      c.values Control.aggregation = ["all", "colour"] ∧ catalogue.facet? "colour" = none := by
  have evaluated : passes (Service.buildCatalogue Settings.forTesting .ticket) (fun catalogue =>
      decide ((page? (stored catalogue [] [("page", "700"), ("size", "2000")])).isSome = true ∧
        refusal? catalogue [] {} [("page", "700"), ("size", "2000")] = some (.invalidValues [
          ⟨"size", "2000", "must be at most 1000"⟩,
          ⟨"from", "1400000",
            "from + size must not exceed 10000; use searchAfter for deeper pages"⟩])) &&
      passes (catalogue.accept [] {} [("aggregation", "all,colour")]) fun c =>
        decide (c.values Control.aggregation = ["all", "colour"] ∧
          catalogue.facet? "colour" = none)) = true := by
    rw [Service.buildCatalogue_eq]
    decide +kernel
  obtain ⟨catalogue, built, outcome⟩ := exists_of_passes evaluated
  obtain ⟨far, outweighed⟩ := Bool.and_eq_true_iff.mp outcome
  obtain ⟨described, refused⟩ := of_decide_eq_true far
  obtain ⟨c, accepted, found⟩ := exists_of_passes outweighed
  exact ⟨catalogue, c, built, described, refused, accepted, of_decide_eq_true found⟩

/-- A page far behind the window, of more tickets than a page may have: both are reported. -/
theorem accept_outcome_far :
    ∃ catalogue, Service.buildCatalogue Settings.forTesting .ticket = .ok catalogue ∧
      catalogue.accept [] {} [("page", "700"), ("size", "2000")] = .error (.invalidValues [
        ⟨"size", "2000", "must be at most 1000"⟩,
        ⟨"from", "1400000",
          "from + size must not exceed 10000; use searchAfter for deeper pages"⟩]) := by
  obtain ⟨catalogue, -, built, described, refused, -⟩ := exists_judged
  have readable : refusalOfForm? catalogue [] [("page", "700"), ("size", "2000")] = none →
      Limits.window {} < maxWord ∧
        (page? (stored catalogue [] [("page", "700"), ("size", "2000")])).isSome = true :=
    fun _ => ⟨by decide, described⟩
  exact ⟨catalogue, built, ((Catalogue.accept_outcome built readable).1 _).mpr refused⟩

/-- Beside the word for all facets, the name of no facet is not reported. -/
theorem accept_outweighed :
    ∃ catalogue c, Service.buildCatalogue Settings.forTesting .ticket = .ok catalogue ∧
      catalogue.accept [] {} [("aggregation", "all,colour")] = .ok c ∧
      c.values Control.aggregation = ["all", "colour"] ∧
      catalogue.facet? "colour" = none := by
  obtain ⟨catalogue, c, built, -, -, accepted, found⟩ := exists_judged
  exact ⟨catalogue, c, built, accepted, found⟩

end FacetSearch
