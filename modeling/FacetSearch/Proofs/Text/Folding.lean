import FacetSearch.Text.Fold
import FacetSearch.Text.Letters

/-!
# Folded words

Folding takes a character to an ASCII letter exactly where lowering does, the long s and the sign for
kelvin apart. So a text that folds to a small word without `k` is that word in some case, or it has a
long s.
-/

namespace FacetSearch.Text

/-! ### Small letters -/

theorem fold_toLower (c : Char) : fold c.toLower = fold c := by
  by_cases ascii : c.toNat < 0x80
  · -- The characters that have a small letter are few enough to try.
    have each : ∀ n : Fin 0x80, fold (Char.ofNat n).toLower = fold (Char.ofNat n) := by
      decide
    simpa using each ⟨c.toNat, ascii⟩
  · have same : c.toLower = c := by
      refine dif_neg fun letter => ascii ?_
      have upper := UInt32.le_iff_toNat_le.mp letter.2
      exact Nat.lt_of_le_of_lt upper (by decide)
    rw [same]

theorem map_fold_of_lower {s t : String} (same : lower s = lower t) :
    s.toList.map fold = t.toList.map fold := by
  have each : ∀ cs : List Char, (cs.map Char.toLower).map fold = cs.map fold := fun cs => by
    rw [List.map_map]
    exact List.map_congr_left fun c _ => fold_toLower c
  rw [← each s.toList, ← each t.toList, String.ofList_inj.mp same]

/-! ### Characters folded into ASCII -/

theorem exists_run_of_imageIn {runs : List (Nat × Nat × Nat × Nat)} {code image : Nat}
    (mapped : imageIn runs code = some image) : ∃ first last step target,
      (first, last, step, target) ∈ runs ∧ first ≤ code ∧ code ≤ last ∧
        image = target + (code - first) := by
  obtain ⟨⟨first, last, step, target⟩, found, rfl⟩ := Option.map_eq_some_iff.mp mapped
  have within := List.find?_some found
  simp only [Bool.and_eq_true, decide_eq_true_eq] at within
  exact ⟨first, last, step, target, List.mem_of_find?_eq_some found, within.1.1, within.1.2, rfl⟩

/-- Whether a run maps to characters outside ASCII, or maps one character only, which is `single`, or
ASCII capitals. -/
def leavesAscii (single : Nat) : Nat × Nat × Nat × Nat → Bool
  | (first, last, _, target) => first == single && last == single || last < 0x80 ||
      0x80 ≤ target && (target + (last - first) < 0xD800 ||
        0xDFFF < target && target + (last - first) < 0x110000)

theorem le_of_imageIn {runs : List (Nat × Nat × Nat × Nat)} {single code image : Nat}
    (apart : ∀ run ∈ runs, leavesAscii single run = true) (other : code ≠ single) (large : 0x80 ≤ code)
    (mapped : imageIn runs code = some image) : 0x80 ≤ (Char.ofNat image).toNat := by
  obtain ⟨first, last, step, target, member, lower, upper, rfl⟩ := exists_run_of_imageIn mapped
  have kept := apart _ member
  simp only [leavesAscii, Bool.or_eq_true, Bool.and_eq_true, beq_iff_eq, decide_eq_true_eq] at kept
  have valid : (target + (code - first)).isValidChar := by
    unfold Nat.isValidChar
    omega
  rw [Char.ofNat, dif_pos valid]
  show 0x80 ≤ target + (code - first)
  omega

/-- The only characters outside ASCII that are folded into it are the long s and the sign for kelvin. -/
theorem fold_eq_toLower {c : Char} (ascii : (fold c).toNat < 0x80) (long : c ≠ 'ſ')
    (kelvin : c ≠ '\u212a') : fold c = c.toLower := by
  by_cases small : c.toNat < 0x80
  · exact if_pos small
  · have large : 0x80 ≤ c.toNat := Nat.le_of_not_lt small
    have apart : ∀ d : Char, c ≠ d → c.toNat ≠ d.toNat := fun d other same => other (Char.toNat_inj.mp same)
    rw [fold, if_neg small] at ascii
    split at ascii
    · rename_i image mapped
      have outside := le_of_imageIn (by decide) (apart 'ſ' long) large mapped
      omega
    · unfold smallLetter at ascii
      split at ascii
      · rename_i image mapped
        have outside := le_of_imageIn (by decide +kernel) (apart '\u212a' kelvin) large mapped
        omega
      · omega

/-! ### Words in any case -/

/-- Whether a text is a word in any case, where the long s and the sign for kelvin count as letters. -/
def foldsTo (s word : String) : Bool := s.toList.map fold == word.toList

theorem foldsTo_iff {s word : String} : foldsTo s word = true ↔ s.toList.map fold = word.toList :=
  beq_iff_eq

/-- Whether a word is of small ASCII letters, none of which is folded from the sign for kelvin. -/
def isSmall (word : String) : Bool :=
  word.toList.all fun c => c.toNat < 0x80 && c.toLower == c && c != 'k'

/-- A text is a small word in any case of ASCII if it folds to the word and has no long s. -/
theorem sameWord_iff_foldsTo {s word : String} (plain : isSmall word = true) :
    sameWord s word = true ↔ foldsTo s word = true ∧ 'ſ' ∉ s.toList := by
  have small : ∀ c ∈ word.toList, c.toNat < 0x80 ∧ c.toLower = c ∧ c ≠ 'k' := by
    simpa only [isSmall, List.all_eq_true, Bool.and_eq_true, decide_eq_true_eq, beq_iff_eq, bne_iff_ne,
      and_assoc] using plain
  have lowered : word.toList.map Char.toLower = word.toList :=
    (List.map_congr_left fun c hc => (small c hc).2.1).trans (List.map_id' _)
  have folded : word.toList.map fold = word.toList :=
    (List.map_congr_left fun c hc => by rw [fold, if_pos (small c hc).1, (small c hc).2.1]).trans
      (List.map_id' _)
  constructor
  · intro same
    refine ⟨foldsTo_iff.mpr ((map_fold_of_lower (sameWord_iff.mp same)).trans folded), fun long => ?_⟩
    rw [sameWord, beq_iff_eq, lowered] at same
    have member : 'ſ' ∈ word.toList := same ▸ List.mem_map.mpr ⟨'ſ', long, by decide⟩
    exact absurd (small 'ſ' member).1 (by decide)
  · rintro ⟨folds, short⟩
    have whole := foldsTo_iff.mp folds
    rw [sameWord, beq_iff_eq, lowered, ← whole]
    refine List.map_congr_left fun c hc => ?_
    have member : fold c ∈ word.toList := whole ▸ List.mem_map_of_mem hc
    obtain ⟨ascii, -, other⟩ := small _ member
    refine (fold_eq_toLower ascii (fun long => short (long ▸ hc)) fun kelvin => other ?_).symm
    rw [kelvin]
    decide

end FacetSearch.Text
