import FacetSearch.Proofs.Pattern.Language

/-!
# Patterns of finitely many words

A pattern that repeats nothing and takes its characters in any case has a finite list of words, and
it matches a text exactly if the text is one of them once it is folded. What two such patterns have
in common is then a question about two lists.
-/

namespace FacetSearch.Pattern

def Member.letter? : Member → Option Char
  | .range first last => if first = last then some (Text.fold first) else none
  | _ => none

namespace Class

def letters (k : Class) : List Char := k.members.filterMap Member.letter?

/-- The class names its characters one by one and takes them in any case. -/
def isListed (k : Class) : Bool :=
  k.anyCase && !k.negated && k.members.all (·.letter?.isSome)

theorem has_iff_of_isListed {k : Class} (listed : k.isListed = true) {c : Char} :
    k.has c = true ↔ Text.fold c ∈ k.letters := by
  simp only [isListed, Bool.and_eq_true, Bool.not_eq_true', List.all_eq_true] at listed
  obtain ⟨⟨anyCase, positive⟩, single⟩ := listed
  rw [has, positive, Bool.false_bne, List.any_eq_true, letters, List.mem_filterMap]
  refine exists_congr fun m => and_congr_right fun hm => ?_
  obtain ⟨letter, hl⟩ := Option.isSome_iff_exists.mp (single m hm)
  cases m with
  | range first last =>
    obtain ⟨rfl, rfl⟩ : first = last ∧ Text.fold first = letter := by
      simpa [Member.letter?] using hl
    simp only [anyCase, if_true, Bool.true_and, Bool.or_eq_true, beq_iff_eq, Member.letter?,
      Option.some.injEq, Member.has, Bool.and_eq_true, decide_eq_true_eq]
    constructor
    · rintro (⟨lower, upper⟩ | same)
      · exact congrArg Text.fold (Char.le_antisymm lower upper)
      · exact same
    · exact Or.inr
  | digit | word | blank => cases hl

end Class

/-- Whether a pattern repeats nothing and leaves the place of what it matches open. -/
def isFinite : Pattern → Bool
  | nothing | empty => true
  | one k => k.isListed
  | seq p q | alt p q => p.isFinite && q.isFinite
  | atStart | atEnd | many _ => false

def words : Pattern → List (List Char)
  | empty => [[]]
  | one k => k.letters.map ([·])
  | seq p q => p.words.flatMap fun u => q.words.map (u ++ ·)
  | alt p q => p.words ++ q.words
  | nothing | atStart | atEnd | many _ => []

theorem matches_iff_of_isFinite {p : Pattern} (finite : p.isFinite = true) {begin finish : Bool}
    {cs : List Char} : p.Matches begin finish cs ↔ cs.map Text.fold ∈ p.words := by
  induction p generalizing begin finish cs with
  | nothing => simp [Matches, words]
  | empty => simp [Matches, words]
  | atStart => cases finite
  | atEnd => cases finite
  | many p => cases finite
  | one k =>
    simp only [Matches, words, List.mem_map, Class.has_iff_of_isListed finite]
    constructor
    · rintro ⟨c, member, rfl⟩
      exact ⟨Text.fold c, member, rfl⟩
    · rintro ⟨letter, member, same⟩
      obtain ⟨c, rfl, rfl⟩ := List.map_eq_singleton_iff.mp same.symm
      exact ⟨c, member, rfl⟩
  | seq p q hp hq =>
    obtain ⟨first, second⟩ := Bool.and_eq_true_iff.mp finite
    simp only [Matches, words, List.mem_flatMap, List.mem_map, hp first, hq second]
    constructor
    · rintro ⟨u, v, rfl, hu, hv⟩
      exact ⟨_, hu, _, hv, List.map_append.symm⟩
    · rintro ⟨u', hu, v', hv, same⟩
      obtain ⟨u, v, rfl, rfl, rfl⟩ := List.map_eq_append_iff.mp same.symm
      exact ⟨u, v, rfl, hu, hv⟩
  | alt p q hp hq =>
    obtain ⟨left, right⟩ := Bool.and_eq_true_iff.mp finite
    rw [Matches, hp left, hq right, words, List.mem_append]

/-! ### Words of whole texts -/

def wholeWords? : Pattern → Option (List (List Char))
  | .seq .atStart (.seq p .atEnd) => if p.isFinite then some p.words else none
  | _ => none

theorem occursIn_iff_of_wholeWords? {p : Pattern} {ws : List (List Char)}
    (listed : p.wholeWords? = some ws) {s : String} :
    p.occursIn s = true ↔ s.toList.map Text.fold ∈ ws := by
  unfold wholeWords? at listed
  split at listed
  · split at listed
    · rename_i finite
      obtain rfl := Option.some.inj listed
      rw [occursIn_anchored, matches_iff_of_isFinite finite]
    · cases listed
  · cases listed

end FacetSearch.Pattern
