import FacetSearch.Proofs.Acceptance.Final
import FacetSearch.Proofs.Acceptance.Gathering

/-!
# Stored entries

What the values of a request are checked on, written out: an entry for each parameter that the pairs
give a value for, in the order in which they first do, and after them the defaults of the required
names that no pair gives. The entries of the query stand apart from those of the presentation.
-/

namespace FacetSearch

def appendNew [DecidableEq α] (xs : List α) (x : α) : List α := if x ∈ xs then xs else xs ++ [x]

theorem eraseDups_concat [DecidableEq α] (xs : List α) (x : α) :
    (xs ++ [x]).eraseDups = appendNew xs.eraseDups x := by
  rw [List.eraseDups_append, List.cons_removeAll, List.nil_removeAll, appendNew]
  simp only [List.contains_eq_mem, decide_eq_false_iff_not, List.mem_eraseDups]
  by_cases known : x ∈ xs
  · rw [if_neg (not_not_intro known), if_pos known, List.eraseDups_nil, List.append_nil]
  · rw [if_pos known, if_neg known]
    rfl

theorem filter_appendNew [DecidableEq α] (keep : α → Bool) (xs : List α) (x : α) :
    (appendNew xs x).filter keep =
      if keep x then appendNew (xs.filter keep) x else xs.filter keep := by
  unfold appendNew
  cases kept : keep x with
  | true => by_cases known : x ∈ xs <;> simp [known, kept]
  | false => by_cases known : x ∈ xs <;> simp [known, kept]

namespace Acceptance

variable {dt : DocumentType} {apiHost : String} {catalogue : Catalogue} {c : Criteria} {e : Entry}
  {extra : List String} {pairs pairs' : List (String × String)} {pair : String × String} {p : Parameter}
  {name : String}

/-! ### What the pairs give -/

/-- Whether a pair gives a value: its name is that of a parameter, and its value is not blank. -/
def counts (catalogue : Catalogue) (pair : String × String) : Bool :=
  !(catalogue.resolve pair.1).isUnknown && Text.trim pair.2 != ""

/-- The parameters that the pairs give values for, in the order in which they first come. -/
def givenParameters (catalogue : Catalogue) (pairs : List (String × String)) : List Parameter :=
  ((pairs.filter (counts catalogue)).map fun pair => catalogue.resolve pair.1).eraseDups

def givenEntry (catalogue : Catalogue) (pairs : List (String × String)) (p : Parameter) : Entry :=
  ⟨p, Text.join p.operator.delimiter.toString (given catalogue p pairs)⟩

theorem counts_iff : counts catalogue pair = true ↔
    (catalogue.resolve pair.1).isUnknown = false ∧ Text.trim pair.2 ≠ "" := by
  rw [counts, Bool.and_eq_true, Bool.not_eq_true', bne_iff_ne]

theorem givenParameters_concat (pairs : List (String × String)) (pair : String × String) :
    givenParameters catalogue (pairs ++ [pair]) =
      if counts catalogue pair = true then
        appendNew (givenParameters catalogue pairs) (catalogue.resolve pair.1)
      else givenParameters catalogue pairs := by
  rw [givenParameters, List.filter_append, List.map_append, List.filter_cons, List.filter_nil]
  split
  · rw [List.map_singleton, eraseDups_concat]
    rfl
  · rw [List.map_nil, List.append_nil]
    rfl

theorem mem_givenParameters : p ∈ givenParameters catalogue pairs ↔
    ∃ pair ∈ pairs, counts catalogue pair = true ∧ catalogue.resolve pair.1 = p := by
  simp only [givenParameters, List.mem_eraseDups, List.mem_map, List.mem_filter, and_assoc]

theorem map_parameter_upsert {change : Option String → String} {es : List Entry}
    (hp : p ∈ dt.definition.allParameters)
    (listed : ∀ e ∈ es, e.parameter ∈ dt.definition.allParameters) :
    (Entry.upsert p change es).map Entry.parameter = appendNew (es.map Entry.parameter) p := by
  induction es with
  | nil => rfl
  | cons e rest ih =>
    have first := listed e List.mem_cons_self
    unfold appendNew at ih ⊢
    rw [Entry.upsert]
    by_cases same : e.name = p.name
    · obtain rfl : e.parameter = p := DocumentType.eq_of_name first hp same
      rw [if_pos same, if_pos (List.mem_map_of_mem List.mem_cons_self)]
      rfl
    · have other : p ≠ e.parameter := fun equal => same (congrArg Parameter.name equal.symm)
      rw [if_neg same, List.map_cons, ih fun e he => listed e (List.mem_cons_of_mem _ he)]
      simp only [List.map_cons, List.mem_cons, or_iff_right other]
      split
      · rfl
      · rfl

def parametersOf (control : Bool) (c : Criteria) : List Parameter :=
  (if control then c.control else c.search).map Entry.parameter

/-- One more value adds its parameter behind those of its side, unless it is one of them. -/
theorem parametersOf_modifyFor {change : Option String → String} (placed : c.IsPlaced dt)
    (hp : p ∈ dt.definition.allParameters) (control : Bool) :
    parametersOf control (c.modifyFor p (Entry.upsert p change)) =
      if (p.scope == .control) == control then appendNew (parametersOf control c) p
      else parametersOf control c := by
  have changed : ∀ es : List Entry, (∀ e ∈ es, e ∈ c.entries) →
      (Entry.upsert p change es).map Entry.parameter = appendNew (es.map Entry.parameter) p :=
    fun es inside => map_parameter_upsert hp fun e he => placed.listed e (inside e he)
  rw [Criteria.modifyFor]
  by_cases own : p.scope = .control
  · rw [if_pos own, beq_iff_eq.mpr own]
    cases control with
    | false => rfl
    | true => exact changed c.control fun e he => Criteria.mem_entries.mpr (Or.inr he)
  · rw [if_neg own, beq_eq_false_iff_ne.mpr own]
    cases control with
    | false => exact changed c.search fun e he => Criteria.mem_entries.mpr (Or.inl he)
    | true => rfl

section

variable (h : catalogue.IsFor dt apiHost)
include h

theorem listed_of_counts (useful : counts catalogue pair = true) :
    catalogue.resolve pair.1 ∈ dt.definition.allParameters := by
  rcases h.resolve_eq_unknown_or_mem pair.1 with unknown | listed
  · rw [counts, unknown] at useful
    cases useful
  · exact listed

theorem parametersOf_gather (extra : List String) (pairs : List (String × String)) (control : Bool) :
    parametersOf control (gather catalogue extra pairs).criteria =
      (givenParameters catalogue pairs).filter fun p => (p.scope == .control) == control := by
  induction pairs using List.reverseRecOn with
  | nil => cases control <;> rfl
  | append_singleton front pair ih =>
    rw [gather_concat, givenParameters_concat]
    by_cases useful : counts catalogue pair = true
    · have listed := listed_of_counts h useful
      obtain ⟨known, filled⟩ := counts_iff.mp useful
      have placed := (isCollected_gather h extra front).placed
      rw [add_of_known known filled, merge_eq, parametersOf_modifyFor placed listed, ih,
        if_pos useful, filter_appendNew]
    · have idle : (catalogue.resolve pair.1).isUnknown = true ∨ Text.trim pair.2 = "" := by
        rw [counts_iff, not_and_or, Bool.not_eq_false, not_not] at useful
        exact useful
      rw [criteria_add_of_not idle, ih, if_neg useful]

theorem eq_givenEntry (member : e ∈ (gather catalogue extra pairs).criteria.entries) :
    e = givenEntry catalogue pairs e.parameter := by
  have placed := (isCollected_gather h extra pairs).placed
  have found := (placed.entry?_of_mem member).symm.trans
    (entry?_gather h extra pairs (placed.listed e member))
  split at found
  · cases found
  · exact Option.some.inj found

theorem gather_criteria (extra : List String) (pairs : List (String × String)) :
    (gather catalogue extra pairs).criteria =
      sorted (requiredNames catalogue extra)
        ((givenParameters catalogue pairs).map (givenEntry catalogue pairs)) := by
  have whole : ∀ es : List Entry, (∀ e ∈ es, e ∈ (gather catalogue extra pairs).criteria.entries) →
      es = (es.map Entry.parameter).map (givenEntry catalogue pairs) := by
    intro es inside
    rw [List.map_map]
    exact ((List.map_congr_left fun e he => (eq_givenEntry h (inside e he)).symm).trans
      (List.map_id es)).symm
  have search := whole (gather catalogue extra pairs).criteria.search
    fun e he => Criteria.mem_entries.mpr (Or.inl he)
  have control := whole (gather catalogue extra pairs).criteria.control
    fun e he => Criteria.mem_entries.mpr (Or.inr he)
  have front := parametersOf_gather h extra pairs false
  have back := parametersOf_gather h extra pairs true
  simp only [parametersOf, Bool.false_eq_true, if_false] at front
  simp only [parametersOf, if_true] at back
  rw [front] at search
  rw [back] at control
  have required : (gather catalogue extra pairs).criteria.required = requiredNames catalogue extra :=
    (isCollected_gather h extra pairs).required
  rw [sorted, List.filter_map, List.filter_map]
  refine congr (congr (congrArg Criteria.mk ?_) ?_) required
  · rw [search]
    congr 2
    funext p
    simp [givenEntry, bne]
  · rw [control]
    congr 2
    funext p
    simp [givenEntry]

end

/-! ### Defaults -/

def defaultOf? (catalogue : Catalogue) (name : String) : Option Entry :=
  (catalogue.parameter? name).bind fun p => (catalogue.defaultValue? name).map (Entry.mk p)

def gives (catalogue : Catalogue) (pairs : List (String × String)) (name : String) : Bool :=
  (givenParameters catalogue pairs).any (·.name == name)

theorem gives_iff {name : String} : gives catalogue pairs name = true ↔
    ∃ pair ∈ pairs, counts catalogue pair = true ∧ (catalogue.resolve pair.1).name = name := by
  simp only [gives, List.any_eq_true, beq_iff_eq, mem_givenParameters]
  constructor
  · rintro ⟨-, ⟨pair, member, useful, rfl⟩, same⟩
    exact ⟨pair, member, useful, same⟩
  · rintro ⟨pair, member, useful, same⟩
    exact ⟨_, ⟨pair, member, useful, rfl⟩, same⟩

def leftOut (catalogue : Catalogue) (extra : List String) (pairs : List (String × String)) :
    List String :=
  (requiredNames catalogue extra).filter fun name => !gives catalogue pairs name

/-- The criteria whose values are checked. -/
def stored (catalogue : Catalogue) (extra : List String) (pairs : List (String × String)) : Criteria :=
  sorted (requiredNames catalogue extra)
    ((givenParameters catalogue pairs).map (givenEntry catalogue pairs) ++
      (leftOut catalogue extra pairs).filterMap (defaultOf? catalogue))

theorem addDefault_eq (c : Criteria) (name : String) : addDefault catalogue c name =
    match defaultOf? catalogue name with
    | some e => c.merge e.parameter e.value
    | none => c := by
  unfold addDefault defaultOf?
  cases catalogue.parameter? name with
  | none => rfl
  | some p =>
    cases catalogue.defaultValue? name with
    | none => rfl
    | some value => rfl

theorem name_of_defaultOf? (found : defaultOf? catalogue name = some e) : e.name = name := by
  obtain ⟨p, known, found⟩ := Option.bind_eq_some_iff.mp found
  obtain ⟨value, -, rfl⟩ := Option.map_eq_some_iff.mp found
  have same : p.name = name := by simpa using List.find?_some known
  exact same

theorem mem_entries_sorted {required : List String} {es : List Entry} :
    e ∈ (sorted required es).entries ↔ e ∈ es := by
  rw [Criteria.mem_entries]
  constructor
  · rintro (he | he)
    · exact (List.mem_filter.mp he).1
    · exact (List.mem_filter.mp he).1
  · intro he
    cases side : e.parameter.scope == .control with
    | true => exact Or.inr (List.mem_filter.mpr ⟨he, side⟩)
    | false => exact Or.inl (List.mem_filter.mpr ⟨he, by rw [bne, side]; rfl⟩)

theorem any_entries_sorted (required : List String) (es : List Entry) (check : Entry → Bool) :
    (sorted required es).entries.any check = es.any check := by
  rw [Bool.eq_iff_iff, List.any_eq_true, List.any_eq_true]
  simp only [mem_entries_sorted]

theorem contains_sorted (required : List String) (es : List Entry) (name : String) :
    (sorted required es).contains name = es.any (·.name == name) := by
  rw [Criteria.contains, Criteria.entry?, ← any_entries_sorted required es, Bool.eq_iff_iff,
    List.find?_isSome, List.any_eq_true]

/-- Defaults of names that are absent come behind the entries that are there. -/
theorem foldl_addDefault {required names : List String} (once : names.Nodup) : ∀ es : List Entry,
    (∀ name ∈ names, ∀ e ∈ es, e.name ≠ name) →
    names.foldl (addDefault catalogue) (sorted required es) =
      sorted required (es ++ names.filterMap (defaultOf? catalogue)) := by
  induction names with
  | nil =>
    intro es _
    rw [List.foldl_nil, List.filterMap_nil, List.append_nil]
  | cons name rest ih =>
    intro es absent
    obtain ⟨fresh, once⟩ := List.nodup_cons.mp once
    rw [List.foldl_cons, addDefault_eq]
    cases found : defaultOf? catalogue name with
    | none =>
      rw [List.filterMap_cons_none found]
      exact ih once es fun other ho => absent other (List.mem_cons_of_mem name ho)
    | some e =>
      have own := name_of_defaultOf? found
      have apart : ∀ f ∈ (sorted required es).entries, f.name ≠ e.parameter.name := by
        intro f hf same
        have there := contains_sorted required es name
        have stands : (sorted required es).entries.any (·.name == name) = true :=
          List.any_eq_true.mpr ⟨f, hf, beq_iff_eq.mpr (same.trans own)⟩
        rw [any_entries_sorted] at stands
        obtain ⟨g, hg, named⟩ := List.any_eq_true.mp stands
        exact absent name List.mem_cons_self g hg (beq_iff_eq.mp named)
      rw [List.filterMap_cons_some found]
      simp only
      rw [Criteria.merge_of_absent apart, ← sorted_append, ih once, List.append_assoc]
      · rfl
      · intro other ho f hf same
        rcases List.mem_append.mp hf with hf | hf
        · exact absent other (List.mem_cons_of_mem name ho) f hf same
        · rw [List.mem_singleton.mp hf, own] at same
          exact fresh (same ▸ ho)

theorem any_name_givenEntry : ((givenParameters catalogue pairs).map (givenEntry catalogue pairs)).any
    (·.name == name) = gives catalogue pairs name := by
  rw [List.any_map]
  rfl

theorem addDefaults_gather (h : catalogue.IsFor dt apiHost) (extra : List String)
    (pairs : List (String × String)) :
    addDefaults catalogue (gather catalogue extra pairs).criteria = stored catalogue extra pairs := by
  have missing : absent (sorted (requiredNames catalogue extra)
      ((givenParameters catalogue pairs).map (givenEntry catalogue pairs))) =
      leftOut catalogue extra pairs :=
    List.filter_congr fun name _ => by rw [contains_sorted, any_name_givenEntry]
  rw [gather_criteria h, addDefaults, missing, foldl_addDefault]
  · rfl
  · exact (nodup_requiredNames catalogue extra).filter _
  · intro name absent e he same
    have open_ := (List.mem_filter.mp absent).2
    rw [← any_name_givenEntry, Bool.not_eq_true', List.any_eq_false] at open_
    exact open_ e he (beq_iff_eq.mpr same)

/-! ### Names that are missing and names that are unknown -/

/-- The required names that have no default and that the pairs give no value for. -/
def missingNames (catalogue : Catalogue) (extra : List String) (pairs : List (String × String)) :
    List String :=
  (requiredNames catalogue extra).filter fun name =>
    (catalogue.defaultValue? name).isNone && !gives catalogue pairs name

def unknownNames (catalogue : Catalogue) (pairs : List (String × String)) : List String :=
  ((pairs.map Prod.fst).filter fun name => (catalogue.resolve name).isUnknown).eraseDups

theorem required_requiring (names : List String) :
    (Criteria.requiring names).required = names.eraseDups := by
  induction names using List.reverseRecOn with
  | nil => rfl
  | append_singleton front name ih =>
    rw [required_requiring_concat, eraseDups_concat, ih, appendNew]
    simp only [List.contains_iff_mem]

theorem unknown_gather_eq (extra : List String) (pairs : List (String × String)) :
    (gather catalogue extra pairs).unknown = unknownNames catalogue pairs := by
  rw [unknown_gather, required_requiring, unknownNames, List.filter_map]
  rfl

theorem parameter?_of_defaultValue? (h : catalogue.IsFor dt apiHost) {value : String}
    (found : catalogue.defaultValue? name = some value) : ∃ p, catalogue.parameter? name = some p := by
  have named : name = Control.offset ∨ name = Control.size ∨ name = Control.sort ∨
      name = Control.aggregation := by
    unfold Catalogue.defaultValue? at found
    split_ifs at found with offset size sort aggregation
    · exact Or.inl offset
    · exact Or.inr (Or.inl size)
    · exact Or.inr (Or.inr (Or.inl sort))
    · exact Or.inr (Or.inr (Or.inr aggregation))
  rcases named with rfl | rfl | rfl | rfl
  · exact ⟨_, h.parameter?_name dt.offset_mem⟩
  · exact ⟨_, h.parameter?_name dt.size_mem⟩
  · exact ⟨_, h.parameter?_name dt.sort_mem⟩
  · exact ⟨_, h.parameter?_name dt.aggregation_mem⟩

theorem isNone_defaultOf? (h : catalogue.IsFor dt apiHost) (name : String) :
    (defaultOf? catalogue name).isNone = (catalogue.defaultValue? name).isNone := by
  unfold defaultOf?
  cases default : catalogue.defaultValue? name with
  | none => cases catalogue.parameter? name <;> rfl
  | some value =>
    obtain ⟨p, known⟩ := parameter?_of_defaultValue? h default
    rw [known]
    rfl

theorem absent_stored (h : catalogue.IsFor dt apiHost) (extra : List String)
    (pairs : List (String × String)) :
    absent (stored catalogue extra pairs) = missingNames catalogue extra pairs := by
  apply List.filter_congr
  intro name required
  rw [stored, contains_sorted, List.any_append, any_name_givenEntry, ← isNone_defaultOf? h]
  cases given : gives catalogue pairs name with
  | true => simp
  | false =>
    have left : name ∈ leftOut catalogue extra pairs :=
      List.mem_filter.mpr ⟨required, by rw [given]; rfl⟩
    rw [Bool.false_or, Bool.not_false, Bool.and_true]
    cases found : defaultOf? catalogue name with
    | none =>
      rw [Option.isNone_none, Bool.not_eq_true', List.any_eq_false]
      intro e he same
      obtain ⟨other, -, made⟩ := List.mem_filterMap.mp he
      obtain rfl : name = other := (beq_iff_eq.mp same).symm.trans (name_of_defaultOf? made)
      rw [found] at made
      cases made
    | some e =>
      rw [Option.isNone_some, Bool.not_eq_false', List.any_eq_true]
      exact ⟨e, List.mem_filterMap.mpr ⟨name, left, found⟩,
        beq_iff_eq.mpr (name_of_defaultOf? found)⟩

theorem isCollected_stored (h : catalogue.IsFor dt apiHost) (extra : List String)
    (pairs : List (String × String)) :
    IsCollected dt (requiredNames catalogue extra) (stored catalogue extra pairs) := by
  rw [← addDefaults_gather h]
  exact isCollected_addDefaults h (isCollected_gather h extra pairs)

/-! ### Entries one by one -/

section

variable (h : catalogue.IsFor dt apiHost) (hp : p ∈ dt.definition.allParameters)
include h hp

theorem gives_iff_given : gives catalogue pairs p.name = true ↔ given catalogue p pairs ≠ [] := by
  rw [gives_iff, given, ne_eq, List.map_eq_nil_iff, List.filter_eq_nil_iff]
  simp only [decide_eq_true_eq, not_and, not_not, Classical.not_forall]
  constructor
  · rintro ⟨pair, member, useful, same⟩
    have own := DocumentType.eq_of_name (listed_of_counts h useful) hp same
    exact ⟨pair, member, own, (counts_iff.mp useful).2⟩
  · rintro ⟨pair, member, rfl, filled⟩
    exact ⟨pair, member, counts_iff.mpr ⟨(DocumentType.isRegular_of_mem hp).known, filled⟩, rfl⟩

/-- What is stored for a parameter is given, or a default in place of what is left out. -/
theorem mem_stored (own : e.name = p.name) : e ∈ (stored catalogue extra pairs).entries ↔
    given catalogue p pairs ≠ [] ∧ e = givenEntry catalogue pairs p ∨
      given catalogue p pairs = [] ∧ p.name ∈ requiredNames catalogue extra ∧
        defaultOf? catalogue p.name = some e := by
  have gives_ : gives catalogue pairs p.name = true ↔ given catalogue p pairs ≠ [] :=
    gives_iff_given h hp
  rw [stored, mem_entries_sorted, List.mem_append]
  refine or_congr ?_ ?_
  · rw [List.mem_map]
    constructor
    · rintro ⟨q, hq, rfl⟩
      obtain ⟨pair, member, useful, rfl⟩ := mem_givenParameters.mp hq
      have same := DocumentType.eq_of_name (listed_of_counts h useful) hp own
      rw [same]
      exact ⟨gives_.mp (gives_iff.mpr ⟨pair, member, useful, own⟩), rfl⟩
    · rintro ⟨filled, rfl⟩
      obtain ⟨pair, member, useful, same⟩ := gives_iff.mp (gives_.mpr filled)
      have same := DocumentType.eq_of_name (listed_of_counts h useful) hp same
      exact ⟨p, mem_givenParameters.mpr ⟨pair, member, useful, same⟩, rfl⟩
  · rw [List.mem_filterMap]
    constructor
    · rintro ⟨name, left, found⟩
      obtain rfl : p.name = name := own.symm.trans (name_of_defaultOf? found)
      obtain ⟨required, open_⟩ := List.mem_filter.mp left
      rw [Bool.not_eq_true', ← Bool.not_eq_true, gives_, ne_eq, not_not] at open_
      exact ⟨open_, required, found⟩
    · rintro ⟨open_, required, found⟩
      refine ⟨p.name, List.mem_filter.mpr ⟨required, ?_⟩, found⟩
      rw [Bool.not_eq_true', ← Bool.not_eq_true, gives_, ne_eq, not_not]
      exact open_

/-- What stands under the name of a parameter: what is given, else the default of a required name. -/
theorem entry?_stored : Criteria.entry? (stored catalogue extra pairs) p.name =
    if given catalogue p pairs ≠ [] then some (givenEntry catalogue pairs p)
    else if p.name ∈ requiredNames catalogue extra then defaultOf? catalogue p.name else none := by
  ext e
  have found : Criteria.entry? (stored catalogue extra pairs) p.name = some e ↔
      e.name = p.name ∧ e ∈ (stored catalogue extra pairs).entries := by
    constructor
    · exact fun found => ⟨by simpa using List.find?_some found, List.mem_of_find?_eq_some found⟩
    · rintro ⟨own, member⟩
      rw [← own]
      exact (isCollected_stored h extra pairs).placed.entry?_of_mem member
  rw [found]
  constructor
  · rintro ⟨own, member⟩
    rcases (mem_stored h hp own).mp member with ⟨filled, rfl⟩ | ⟨empty, required, default⟩
    · rw [if_pos filled]
    · rw [if_neg (not_not_intro empty), if_pos required, default]
  · intro stands
    split_ifs at stands with filled required
    · obtain rfl := Option.some.inj stands
      exact ⟨rfl, (mem_stored h hp rfl).mpr (Or.inl ⟨filled, rfl⟩)⟩
    · have own : e.name = p.name := name_of_defaultOf? stands
      exact ⟨own, (mem_stored h hp own).mpr (Or.inr ⟨not_not.mp filled, required, stands⟩)⟩

/-- What is stored for a parameter depends on what is given for it alone. -/
theorem entry?_stored_congr (same : given catalogue p pairs = given catalogue p pairs') :
    Criteria.entry? (stored catalogue extra pairs) p.name =
      Criteria.entry? (stored catalogue extra pairs') p.name := by
  rw [entry?_stored h hp, entry?_stored h hp, givenEntry, givenEntry, same]

theorem get?_stored : Criteria.get? (stored catalogue extra pairs) p.name =
    if given catalogue p pairs ≠ [] then
      some (Text.join p.operator.delimiter.toString (given catalogue p pairs))
    else if p.name ∈ requiredNames catalogue extra then catalogue.defaultValue? p.name else none := by
  rw [Criteria.get?, entry?_stored h hp, defaultOf?, h.parameter?_name hp, Option.bind_some]
  split_ifs with filled required
  · rfl
  · rw [Option.map_map]
    exact congrFun Option.map_id _
  · rfl

end

end Acceptance

end FacetSearch
