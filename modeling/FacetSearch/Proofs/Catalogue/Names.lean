import FacetSearch.Proofs.Catalogue.Build
import FacetSearch.Proofs.Pattern.Words

/-!
# Names of parameters

The three definitions can be built, and in what is built every parameter and every sort key is found
by its own name.
-/

namespace FacetSearch

/-! ### Names and their patterns -/

/-- Every name is spelled by its own pattern and by none that is looked at before. -/
def Apart (name : α → String) (entries : List (Pattern × α)) : Prop :=
  (∀ e ∈ entries, e.1.occursIn (name e.2) = true) ∧
    entries.Pairwise fun e f => e.1.occursIn (name f.2) = false

namespace Apart

variable {name : α → String} {entries : List (Pattern × α)} {e : Pattern × α}

theorem find? (apart : Apart name entries) (he : e ∈ entries) :
    entries.find? (fun f => f.1.occursIn (name e.2)) = some e := by
  obtain ⟨own, before⟩ := apart
  induction entries with
  | nil => cases he
  | cons f rest ih =>
    obtain ⟨others, before⟩ := List.pairwise_cons.mp before
    rcases List.mem_cons.mp he with rfl | he
    · exact List.find?_cons_of_pos (own e List.mem_cons_self)
    · rw [List.find?_cons, others e he]
      exact ih he (fun g hg => own g (List.mem_cons_of_mem f hg)) before

theorem ne_nothing (apart : Apart name entries) (he : e ∈ entries) : e.1 ≠ .nothing := by
  intro unread
  have own := apart.1 e he
  rw [unread] at own
  obtain ⟨_, _, _, _, impossible⟩ := Pattern.occursIn_iff.mp own
  exact impossible

end Apart

/-! ### Tables without ambiguity -/

/-- Every name is spelled by its own pattern, no text is spelled by two patterns, and case makes no
difference. -/
structure IsUnambiguous (name : α → String) (entries : List (Pattern × α)) : Prop where
  own : ∀ e ∈ entries, e.1.occursIn (name e.2) = true
  distinct : entries.Pairwise fun e f => ∀ s, e.1.occursIn s = true → f.1.occursIn s = false
  folded : ∀ e ∈ entries, ∀ s t : String, s.toList.map Text.fold = t.toList.map Text.fold →
    e.1.occursIn s = e.1.occursIn t

/-- Whether every list of words has its name, taken to pieces, and shares no word with another. -/
def shareNoWord : List (Option (List (List Char)) × List Char) → Bool
  | [] => true
  | (none, _) :: _ => false
  | (some ws, name) :: rest => ws.contains (name.map Text.fold) &&
      rest.all (fun e => e.1.any fun vs => ws.all fun w => vs.all (· != w)) && shareNoWord rest

namespace IsUnambiguous

variable {name : α → String} {entries : List (Pattern × α)}

theorem of_shareNoWord
    (h : shareNoWord (entries.map fun e => (e.1.wholeWords?, (name e.2).toList)) = true) :
    IsUnambiguous name entries := by
  induction entries with
  | nil => exact ⟨List.forall_mem_nil _, .nil, List.forall_mem_nil _⟩
  | cons e rest ih =>
    rw [List.map_cons] at h
    cases listed : e.1.wholeWords? with
    | none =>
      rw [listed] at h
      cases h
    | some ws =>
      have reads {s : String} := Pattern.occursIn_iff_of_wholeWords? (s := s) listed
      simp only [listed, shareNoWord, Bool.and_eq_true, List.contains_iff_mem, List.all_map,
        List.all_eq_true, Function.comp_apply, Option.any_eq_true, bne_iff_ne] at h
      obtain ⟨⟨own, apart⟩, others⟩ := h
      obtain ⟨owns, distinct, folded⟩ := ih others
      refine ⟨List.forall_mem_cons.mpr ⟨reads.mpr own, owns⟩,
        List.pairwise_cons.mpr ⟨fun f hf s spelled => ?_, distinct⟩,
        List.forall_mem_cons.mpr ⟨fun s t same => ?_, folded⟩⟩
      · obtain ⟨vs, listed', apart⟩ := apart f hf
        rw [Bool.eq_false_iff, ne_eq, Pattern.occursIn_iff_of_wholeWords? listed']
        exact fun other => apart _ (reads.mp spelled) _ other rfl
      · rw [Bool.eq_iff_iff, reads, reads, same]

theorem apart (h : IsUnambiguous name entries) : Apart name entries := by
  refine ⟨h.own, h.distinct.imp_of_mem fun {e f} he hf distinct => ?_⟩
  rw [Bool.eq_false_iff]
  intro spelled
  have other := distinct _ spelled
  rw [h.own f hf] at other
  cases other

end IsUnambiguous

def Catalogue.Named (c : Catalogue) : Prop :=
  Apart (fun p : Parameter => plainName (Text.trim p.name)) c.spellings ∧
    Apart (fun k : SortKey => plainName k.name) c.sorts.entries

/-! ### The three definitions -/

/-- A definition in which no text stands for two parameters or for two sort keys. -/
structure Definition.IsUnambiguous (d : Definition) : Prop where
  parameters : FacetSearch.IsUnambiguous (fun p => plainName (Text.trim p.name)) d.spellings
  keys : FacetSearch.IsUnambiguous (fun k => plainName k.name) d.sortTable.entries

theorem Publications.isUnambiguous_definition : Publications.definition.IsUnambiguous :=
  ⟨.of_shareNoWord (by decide +kernel), .of_shareNoWord (by decide +kernel)⟩

theorem Tickets.isUnambiguous_definition : Tickets.definition.IsUnambiguous :=
  ⟨.of_shareNoWord (by decide +kernel), .of_shareNoWord (by decide +kernel)⟩

theorem ImportCandidates.isUnambiguous_definition : ImportCandidates.definition.IsUnambiguous :=
  ⟨.of_shareNoWord (by decide +kernel), .of_shareNoWord (by decide +kernel)⟩

/-- A definition that can be built and in which everything is found by its name. -/
structure Definition.IsSound (d : Definition) : Prop where
  parameters : Apart (fun p => plainName (Text.trim p.name)) d.spellings
  keys : Apart (fun k => plainName k.name) d.sortTable.entries
  values : ∀ p ∈ d.allParameters, (Pattern.parse? p.elementPattern).isSome = true
  references : ∀ name ∈ d.references, (d.parameter? name).isSome = true
  order : (d.sortTable.parse d.defaultSort none).isOk = true

theorem Publications.isSound_definition : Publications.definition.IsSound :=
  ⟨isUnambiguous_definition.parameters.apart, isUnambiguous_definition.keys.apart,
    by decide +kernel, by decide +kernel, by decide +kernel⟩

theorem Tickets.isSound_definition : Tickets.definition.IsSound :=
  ⟨isUnambiguous_definition.parameters.apart, isUnambiguous_definition.keys.apart,
    by decide +kernel, by decide +kernel, by decide +kernel⟩

theorem ImportCandidates.isSound_definition : ImportCandidates.definition.IsSound :=
  ⟨isUnambiguous_definition.parameters.apart, isUnambiguous_definition.keys.apart,
    by decide +kernel, by decide +kernel, by decide +kernel⟩

namespace DocumentType

theorem isUnambiguous_definition (dt : DocumentType) : dt.definition.IsUnambiguous := by
  cases dt with
  | publication => exact Publications.isUnambiguous_definition
  | ticket => exact Tickets.isUnambiguous_definition
  | importCandidate => exact ImportCandidates.isUnambiguous_definition

theorem isSound_definition (dt : DocumentType) : dt.definition.IsSound := by
  cases dt with
  | publication => exact Publications.isSound_definition
  | ticket => exact Tickets.isSound_definition
  | importCandidate => exact ImportCandidates.isSound_definition

theorem isComplete_definition (dt : DocumentType) : dt.definition.IsComplete :=
  have sound := dt.isSound_definition
  ⟨fun _ => sound.parameters.ne_nothing, sound.values, fun _ => sound.keys.ne_nothing,
    sound.references, sound.order⟩

theorem build_definition (dt : DocumentType) (apiHost : String) :
    Catalogue.build dt.definition apiHost = .ok (dt.definition.catalogue apiHost) :=
  dt.isComplete_definition.build_eq apiHost

end DocumentType

/-! ### The catalogues of a service -/

namespace Service

def catalogueOf (s : Settings) (dt : DocumentType) : Catalogue :=
  (s.defaultPageSize.map (dt.definition.catalogue s.apiHost).withDefaultSize).getD
    (dt.definition.catalogue s.apiHost)

theorem buildCatalogue_eq (s : Settings) (dt : DocumentType) :
    buildCatalogue s dt = .ok (catalogueOf s dt) := by
  rw [buildCatalogue, dt.build_definition]
  rfl

end Service
end FacetSearch
