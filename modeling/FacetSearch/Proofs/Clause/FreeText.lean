import FacetSearch.Catalogue.Tickets
import FacetSearch.Clause.OfParameter
import FacetSearch.Proofs.Number.Order
import FacetSearch.Proofs.Text.Trimming

/-!
# What a free text asks for

The first terms of a text are sought across the selected fields, and preferred as a phrase in the
strongest of these. Fields are selected by paths that name them; of equally strong fields the earlier
ones are preferred.
-/

namespace FacetSearch.Clause

variable {fields : List WeightedField} {restriction : List String} {wanted path text : String}

/-! ### Terms -/

def termsOf (text : String) : List String :=
  ((text.toList.splitOnP fun c => Text.isBlank c || c == ',').filter (!·.isEmpty)).map String.ofList

theorem textWords_trim (text : String) : textWords (Text.trim text) = termsOf text := by
  rw [textWords, Text.words_trim fun c blank => by rw [blank, Bool.true_or], Text.words,
    Text.splitWhere_eq_splitOnP, termsOf]

theorem termsOf_ne_nil_of_star (star : Text.trim text = "*") : termsOf text ≠ [] := by
  rw [← textWords_trim, star]
  decide

/-! ### Selected fields -/

/-- A path is named by itself, by a path above it and by its end, whatever the case of the letters. -/
def Names (wanted path : String) : Prop :=
  Text.lower path = Text.lower wanted ∨
  (∃ below, Text.lower path = Text.lower wanted ++ "." ++ below) ∨
  ∃ above, Text.lower path = above ++ "." ++ Text.lower wanted

theorem namesField_iff {f : WeightedField} :
    namesField (Text.lower wanted) f = true ↔ Names wanted f.path := by
  simp only [namesField, Bool.or_eq_true, beq_iff_eq, Text.startsWith_iff, Text.endsWith_iff, or_assoc,
    Names, String.append_assoc]

instance : Decidable (Names wanted path) :=
  decidable_of_iff (namesField (Text.lower wanted) ⟨path, Boost.one⟩ = true) namesField_iff

def namedFields (fields : List WeightedField) (restriction : List String) : List WeightedField :=
  fields.filter fun f => ∃ wanted ∈ restriction, Names wanted f.path

theorem mem_namedFields {f : WeightedField} : f ∈ namedFields fields restriction ↔
    f ∈ fields ∧ ∃ wanted ∈ restriction, Names wanted f.path := by
  rw [namedFields, List.mem_filter, decide_eq_true_iff]

theorem namedFields_eq_nil_iff : namedFields fields restriction = [] ↔
    ∀ f ∈ fields, ∀ wanted ∈ restriction, ¬Names wanted f.path := by
  rw [namedFields, List.filter_eq_nil_iff]
  simp only [decide_eq_true_iff, not_exists, not_and]

/-- The restriction leaves every field: it is empty, asks for all or names none of them. -/
def IsLifted (fields : List WeightedField) (restriction : List String) : Prop :=
  restriction = [] ∨ (∃ wanted ∈ restriction, Text.lower wanted = "all") ∨
  ∀ f ∈ fields, ∀ wanted ∈ restriction, ¬Names wanted f.path

instance : Decidable (IsLifted fields restriction) :=
  inferInstanceAs (Decidable (_ ∨ _ ∨ _))

theorem isLifted_iff : IsLifted fields restriction ↔
    namedFields fields restriction = [] ∨ ∃ wanted ∈ restriction, Text.lower wanted = "all" := by
  rw [IsLifted, namedFields_eq_nil_iff]
  constructor
  · rintro (rfl | all | unnamed)
    · exact Or.inl fun _ _ _ member => absurd member List.not_mem_nil
    · exact Or.inr all
    · exact Or.inl unnamed
  · rintro (unnamed | all)
    · exact Or.inr (Or.inr unnamed)
    · exact Or.inr (Or.inl all)

theorem selectFields_eq : selectFields fields restriction =
    if IsLifted fields restriction then fields else namedFields fields restriction := by
  have left : (fields.filter fun f => restriction.any fun wanted => namesField (Text.lower wanted) f) =
      namedFields fields restriction := by
    refine List.filter_congr fun f _ => ?_
    rw [Bool.eq_iff_iff, List.any_eq_true, decide_eq_true_iff]
    simp only [namesField_iff]
  have all : restriction.any (Text.sameWord · Control.allFields) = true ↔
      ∃ wanted ∈ restriction, Text.lower wanted = "all" := by
    simp only [List.any_eq_true, Text.sameWord_iff]
    rfl
  rw [selectFields, left]
  simp only [Bool.or_eq_true, List.isEmpty_iff, all, isLifted_iff]

/-- What a restriction selects of a table of fields. -/
structure Selects (restriction : List String) (fields selected : List WeightedField) : Prop where
  filled : selected ≠ []
  ordered : selected.Sublist fields
  all : IsLifted fields restriction → selected = fields
  named : ¬IsLifted fields restriction → selected = namedFields fields restriction

theorem selects_selectFields (filled : fields ≠ []) (restriction : List String) :
    Selects restriction fields (selectFields fields restriction) := by
  rw [selectFields_eq]
  split
  · rename_i lifted
    exact ⟨filled, List.Sublist.refl fields, fun _ => rfl, fun held => absurd lifted held⟩
  · rename_i held
    refine ⟨fun nothing => ?_, List.filter_sublist, fun lifted => absurd lifted held, fun _ => rfl⟩
    exact held (isLifted_iff.mpr (Or.inl nothing))

/-- Whether a field is selected depends on its path alone, so no other field shares its path. -/
theorem Selects.path_ne {selected : List WeightedField} (selects : Selects restriction fields selected)
    {f g : WeightedField} (member : f ∈ fields) (absent : f ∉ selected) (chosen : g ∈ selected) :
    g.path ≠ f.path := by
  intro same
  by_cases lifted : IsLifted fields restriction
  · exact absent (selects.all lifted ▸ member)
  · rw [selects.named lifted, mem_namedFields] at absent chosen
    exact absent ⟨member, same ▸ chosen.2⟩

/-! ### The strongest fields -/

/-- Of two fields with their places, the first has the higher boost, or the same and the earlier place. -/
def Outranks (f g : WeightedField × Nat) : Prop :=
  g.1.boost ≤ f.1.boost ∧ (f.1.boost ≤ g.1.boost → f.2 < g.2)

/-- So many of the fields, or all if there are no more, from the strongest down. -/
def AreStrongest (count : Nat) (fields chosen : List WeightedField) : Prop :=
  chosen.length = min count fields.length ∧
  ∃ ahead behind : List (WeightedField × Nat), (ahead ++ behind).Perm fields.zipIdx ∧
    chosen = ahead.map (·.1) ∧ ahead.Pairwise Outranks ∧ ∀ f ∈ ahead, ∀ g ∈ behind, Outranks f g

theorem AreStrongest.subset {count : Nat} {chosen : List WeightedField}
    (strongest : AreStrongest count fields chosen) : ∀ f ∈ chosen, f ∈ fields := by
  obtain ⟨-, ahead, behind, perm, rfl, -⟩ := strongest
  intro f member
  obtain ⟨placed, among, rfl⟩ := List.mem_map.mp member
  have found : placed.1 ∈ fields.zipIdx.map (·.1) :=
    List.mem_map_of_mem (perm.mem_iff.mp (List.mem_append_left behind among))
  rwa [List.zipIdx_map_fst] at found

def isStronger (f g : WeightedField) : Bool := g.boost.le f.boost

theorem outranks_of_zipIdxLE {f g : WeightedField × Nat} (before : List.zipIdxLE isStronger f g = true)
    (apart : f.2 ≠ g.2) : Outranks f g := by
  unfold List.zipIdxLE at before
  split at before
  · rename_i above
    refine ⟨Boost.le_iff.mp above, fun equal => ?_⟩
    have tied : isStronger g.1 f.1 = true := Boost.le_iff.mpr equal
    rw [if_pos tied, decide_eq_true_iff] at before
    omega
  · cases before

theorem areStrongest_take (count : Nat) (fields : List WeightedField) :
    AreStrongest count fields ((strongest fields).take count) := by
  have trans : ∀ f g h, isStronger f g = true → isStronger g h = true → isStronger f h = true := by
    intro f g h above above'
    exact Boost.le_iff.mpr (le_trans (Boost.le_iff.mp above') (Boost.le_iff.mp above))
  have total : ∀ f g, (isStronger f g || isStronger g f) = true := by
    intro f g
    rw [Bool.or_eq_true, isStronger, isStronger, Boost.le_iff, Boost.le_iff]
    exact Boost.le_or_le g.boost f.boost
  -- The fields are sorted together with their places, which tell equally strong ones apart.
  generalize placed : fields.zipIdx.mergeSort (List.zipIdxLE isStronger) = sorted
  have same : sorted.map (·.1) = strongest fields := by
    rw [← placed]
    exact List.mergeSort_zipIdx
  have perm : sorted.Perm fields.zipIdx := placed ▸ List.mergeSort_perm _ _
  have once : sorted.Pairwise fun f g => f.2 ≠ g.2 := by
    have places : (fields.zipIdx.map Prod.snd).Nodup := by
      rw [List.zipIdx_map_snd]
      exact List.nodup_range'
    exact List.pairwise_map.mp ((perm.map Prod.snd).nodup_iff.mpr places)
  have ranked : sorted.Pairwise Outranks := by
    have ordered : sorted.Pairwise fun f g => List.zipIdxLE isStronger f g = true := by
      rw [← placed]
      exact List.pairwise_mergeSort (List.zipIdxLE_trans trans) (List.zipIdxLE_total total) _
    exact (ordered.and once).imp fun both => outranks_of_zipIdxLE both.1 both.2
  refine ⟨?_, sorted.take count, sorted.drop count, ?_, ?_, ranked.sublist (List.take_sublist _ _), ?_⟩
  · rw [List.length_take, strongest, List.length_mergeSort]
  · rwa [List.take_append_drop]
  · rw [← same, List.map_take]
  · exact fun f hf g hg => ranked.rel_of_mem_take_of_mem_drop hf hg

/-! ### The whole clause -/

/-- How terms are sought that must all occur in the selected fields and, as a phrase, are preferred in
some of them. -/
def freeTextJson (sought : List String) (selected preferred : List WeightedField) : Json :=
  .obj [("bool", .obj [
    ("must", .arr [.obj [("multi_match", .obj [
      ("query", .str (Text.join " " (sought.take 5))),
      ("fields", .strs (selected.map fun f => f.path ++ "^" ++ f.boost.text)),
      ("type", .str "cross_fields"),
      ("operator", .str "and")])]]),
    ("should", .arr (preferred.map fun f => .obj [("match_phrase", .obj [(f.path, .obj [
      ("query", .str (Text.join " " (sought.take 10))),
      ("boost", f.boost.toJson)])])]))])]

theorem map_toJson_freeText? (fields : List WeightedField) (text : String) (restriction : List String) :
    (freeText? fields text restriction).map toJson =
      if Text.trim text = "*" then some (.obj [("match_all", .obj [])])
      else if termsOf text = [] then none
      else some (freeTextJson (termsOf text) (selectFields fields restriction)
        ((strongest (selectFields fields restriction)).take 2)) := by
  rw [freeText?, textWords_trim]
  split
  · rfl
  · split
    · rename_i nothing
      rw [if_pos nothing]
      rfl
    · rename_i some_
      rw [if_neg some_]
      simp only [Option.map_some, toJson, listToJson_eq_map, List.map_map, List.map_cons, List.map_nil]
      rfl

/-- A star asks for everything and a text without terms for nothing. Of any other text the first five
terms must occur across the selected fields, and the first ten are preferred as a phrase in the one or
two strongest of these. Fields that are not selected are left out altogether. -/
theorem freeText_meaning (filled : fields ≠ []) (text : String) (restriction : List String) :
    ∃ selected preferred : List WeightedField,
      Selects restriction fields selected ∧ AreStrongest 2 selected preferred ∧
      (∀ f ∈ fields, f ∉ selected → ∀ g ∈ selected ++ preferred, g.path ≠ f.path) ∧
      ((freeText? fields text restriction).map toJson = some (.obj [("match_all", .obj [])]) ↔
        Text.trim text = "*") ∧
      ((freeText? fields text restriction).map toJson = none ↔ termsOf text = []) ∧
      (Text.trim text ≠ "*" → termsOf text ≠ [] →
        (freeText? fields text restriction).map toJson =
          some (freeTextJson (termsOf text) selected preferred)) ∧
      ∀ (p : Parameter) (criteria : Criteria), p.shape = some (.freeText fields) →
        criteria.searchedFields = restriction →
        p.clause? text criteria = freeText? fields text restriction := by
  have selects := selects_selectFields filled restriction
  have strongest := areStrongest_take 2 (selectFields fields restriction)
  refine ⟨_, _, selects, strongest, fun f member absent g chosen => ?_, ?_, ?_, fun other some_ => ?_,
    fun p criteria shape searched => ?_⟩
  · refine selects.path_ne member absent ((List.mem_append.mp chosen).elim id (strongest.subset g))
  · rw [map_toJson_freeText?]
    split
    · rename_i star
      exact iff_of_true rfl star
    · rename_i other
      refine iff_of_false (fun same => ?_) other
      split at same
      · cases same
      · simp [freeTextJson] at same
  · rw [map_toJson_freeText?]
    split
    · rename_i star
      exact iff_of_false (Option.some_ne_none _) (termsOf_ne_nil_of_star star)
    · split
      · rename_i nothing
        exact iff_of_true rfl nothing
      · rename_i some_
        exact iff_of_false (Option.some_ne_none _) some_
  · rw [map_toJson_freeText?, if_neg other, if_neg some_]
  · simp only [Parameter.clause?, shape, Parameter.shapeClause?, searched]

/-- Tickets of an owner: both parts of the name are as strong, and keep their order. -/
theorem freeText_meaning_owner :
    Tickets.freeText ≠ [] ∧ Text.trim " Hansen,  Kari" ≠ "*" ∧
    ∃ selected preferred, selected.map (·.path) = ["owner.firstName", "owner.lastName"] ∧
      AreStrongest 2 selected preferred ∧
      (freeText? Tickets.freeText " Hansen,  Kari" ["OWNER"]).map toJson =
        some (freeTextJson ["Hansen", "Kari"] selected preferred) := by
  have filled : Tickets.freeText ≠ [] := List.cons_ne_nil _ _
  have other : Text.trim " Hansen,  Kari" ≠ "*" := by decide
  have found : termsOf " Hansen,  Kari" = ["Hansen", "Kari"] := by decide
  obtain ⟨selected, preferred, selects, strongest, -, -, -, clause, -⟩ :=
    freeText_meaning filled " Hansen,  Kari" ["OWNER"]
  refine ⟨filled, other, selected, preferred, ?_, strongest, ?_⟩
  · rw [selects.named (by decide)]
    decide
  · rw [clause other (by rw [found]; exact List.cons_ne_nil _ _), found]

end FacetSearch.Clause
