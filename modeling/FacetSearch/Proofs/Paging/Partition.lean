import FacetSearch.Window
import Mathlib.Algebra.Order.Floor.Div
import Mathlib.Data.List.Range
import Mathlib.Order.Interval.Finset.Nat

/-!
# Windows one after the other

From the first window on, each next one starts where the one before ends, until all results are shown.
Every result is in one window, and the way back leads through the same windows.
-/

namespace FacetSearch.Window

variable {size total k i : Nat} {w : Window} {pages others : List Window}

def shown (w : Window) : Finset Nat := Finset.Ico w.offset (min (w.offset + w.size) w.total)

/-- The windows from one on: each starts at the next offset of the one before, and the last has none. -/
inductive Walk : Window → List Window → Prop where
  | last {w : Window} (ends : w.next? = none) : Walk w [w]
  | more {w : Window} {n : Nat} {rest : List Window} (next : w.next? = some n)
      (onward : Walk { w with offset := n } rest) : Walk w (w :: rest)

theorem Walk.unique (walk : Walk w pages) (other : Walk w others) : others = pages := by
  induction walk generalizing others with
  | last ends =>
    cases other with
    | last _ => rfl
    | more next _ => rw [ends] at next; cases next
  | more next _ ih =>
    cases other with
    | last ends => rw [ends] at next; cases next
    | more next' onward =>
      obtain rfl := Option.some.inj (next.symm.trans next')
      rw [ih onward]

/-! ### The pages of a size -/

def page (size total k : Nat) : Window := ⟨k * size, size, total⟩

/-- There is one page even of no results. -/
def pageCount (size total : Nat) : Nat := max 1 (total ⌈/⌉ size)

theorem one_le_pageCount : 1 ≤ pageCount size total := le_max_left 1 _

theorem succ_lt_pageCount_iff (some_ : 0 < size) : k + 1 < pageCount size total ↔ (k + 1) * size < total := by
  rw [pageCount, lt_max_iff, or_iff_right (by omega), ← not_le, ceilDiv_le_iff_le_mul some_, not_le,
    Nat.mul_comm]

/-- Where the sum would not fit into a word there is no next page either. -/
theorem next?_page (some_ : 0 < size) (bound : total ≤ Number.maxWord) :
    (page size total k).next? = if k + 1 < pageCount size total then some ((k + 1) * size) else none := by
  by_cases more : k + 1 < pageCount size total
  · rw [if_pos more, next?_eq_some_iff bound]
    exact ⟨some_, Nat.succ_mul k size, (succ_lt_pageCount_iff some_).mp more⟩
  · rw [if_neg more, Option.eq_none_iff_forall_ne_some]
    intro n next
    obtain ⟨-, rfl, within⟩ := (next?_eq_some_iff bound).mp next
    exact more ((succ_lt_pageCount_iff some_).mpr (Nat.succ_mul k size ▸ within))

theorem previous?_page_zero : (page size total 0).previous? = none := by
  rw [Option.eq_none_iff_forall_ne_some]
  intro n previous
  obtain ⟨some_, sum⟩ := previous?_eq_some_iff.mp previous
  simp only [page] at some_ sum
  omega

theorem previous?_page_succ (some_ : 0 < size) :
    (page size total (k + 1)).previous? = some (page size total k).offset :=
  previous?_eq_some_iff.mpr ⟨some_, (Nat.succ_mul k size).symm⟩

theorem mem_shown_page (some_ : 0 < size) : i ∈ (page size total k).shown ↔ i < total ∧ i / size = k := by
  rw [shown, Finset.mem_Ico, lt_min_iff, Nat.div_eq_iff some_]
  simp only [page]
  omega

theorem walk_page (some_ : 0 < size) (bound : total ≤ Number.maxWord) (left : Nat) (k : Nat)
    (count : k + 1 + left = pageCount size total) :
    Walk (page size total k) ((List.range' k (left + 1)).map (page size total)) := by
  induction left generalizing k with
  | zero =>
    refine .last ?_
    rw [next?_page some_ bound, if_neg (by omega)]
  | succ left ih =>
    have next : (page size total k).next? = some ((k + 1) * size) := by
      rw [next?_page some_ bound, if_pos (by omega)]
    rw [List.range'_succ, List.map_cons]
    exact .more next (ih (k + 1) (by omega))

/-- The windows from the first offset on are the pages, and there are no others. -/
theorem walk_first (some_ : 0 < size) (bound : total ≤ Number.maxWord) :
    Walk ⟨0, size, total⟩ ((List.range (pageCount size total)).map (page size total)) := by
  have first : page size total 0 = ⟨0, size, total⟩ := by rw [page, Nat.zero_mul]
  have walk := walk_page some_ bound (pageCount size total - 1) 0 (Nat.add_sub_cancel' one_le_pageCount)
  rwa [first, ← List.range_eq_range', Nat.sub_add_cancel one_le_pageCount] at walk

theorem div_lt_pageCount (some_ : 0 < size) (within : i < total) : i / size < pageCount size total := by
  cases place : i / size with
  | zero => exact one_le_pageCount
  | succ k =>
    rw [succ_lt_pageCount_iff some_, ← place]
    exact (Nat.div_mul_le_self i size).trans_lt within

theorem offset_page_le (some_ : 0 < size) (bound : total ≤ Number.maxWord) (within : k < pageCount size total) :
    (page size total k).offset ≤ Number.maxWord := by
  cases k with
  | zero => exact (Nat.zero_mul size).trans_le (Nat.zero_le _)
  | succ k => exact ((succ_lt_pageCount_iff some_).mp within).le.trans bound

/-- The windows from the first offset on are as many as the results need, and no others lead on from it.
Each result is in exactly one, each starts where the one before ends and leads back to that one, and no
offset comes twice or is more than a word. -/
theorem walk_partitions (some_ : 0 < size) (bound : total ≤ Number.maxWord) :
    ∃ pages, Walk ⟨0, size, total⟩ pages ∧ (∀ others, Walk ⟨0, size, total⟩ others → others = pages) ∧
      pages.length = max 1 (total ⌈/⌉ size) ∧
      pages.Pairwise (fun a b => Disjoint a.shown b.shown) ∧
      (∀ i, i < total ↔ ∃ w ∈ pages, i ∈ w.shown) ∧
      (∀ w ∈ pages.head?, w.offset = 0 ∧ w.previous? = none) ∧
      pages.IsChain (fun a b => a.next? = some b.offset ∧ b.offset = a.offset + a.size ∧
        b.previous? = some a.offset) ∧
      pages.Pairwise (fun a b => a.offset < b.offset) ∧
      ∀ w ∈ pages, w.offset ≤ Number.maxWord ∧ w.size = size ∧ w.total = total := by
  have walk := walk_first some_ bound
  refine ⟨_, walk, fun others => walk.unique, ?_, ?_, ?_, ?_, ?_, ?_, ?_⟩
  · rw [List.length_map, List.length_range, pageCount]
  · refine List.pairwise_map.mpr (List.pairwise_lt_range.imp fun {a b} before => ?_)
    refine Finset.disjoint_left.mpr fun i here there => ?_
    have first := (mem_shown_page some_).mp here
    have second := (mem_shown_page some_).mp there
    omega
  · intro i
    constructor
    · intro within
      exact ⟨_, List.mem_map_of_mem (List.mem_range.mpr (div_lt_pageCount some_ within)),
        (mem_shown_page some_).mpr ⟨within, rfl⟩⟩
    · rintro ⟨_, member, shown⟩
      obtain ⟨k, -, rfl⟩ := List.mem_map.mp member
      exact ((mem_shown_page some_).mp shown).1
  · intro w first
    obtain ⟨n, count⟩ := Nat.exists_eq_add_of_le' one_le_pageCount
    rw [count, List.range_succ_eq_map, List.map_cons, List.head?_cons, Option.mem_some_iff] at first
    subst first
    exact ⟨Nat.zero_mul size, previous?_page_zero⟩
  · rw [List.isChain_map]
    refine (List.isChain_range _ _).mpr fun k within => ?_
    refine ⟨?_, Nat.succ_mul k size, previous?_page_succ some_⟩
    rw [next?_page some_ bound, if_pos (by omega)]
    rfl
  · refine List.pairwise_map.mpr (List.pairwise_lt_range.imp fun {a b} before => ?_)
    exact Nat.mul_lt_mul_of_pos_right before some_
  · intro w member
    obtain ⟨k, within, rfl⟩ := List.mem_map.mp member
    exact ⟨offset_page_le some_ bound (List.mem_range.mp within), rfl, rfl⟩

/-- The most results that a word can count, on pages of half of them: two pages and one result more. -/
theorem walk_partitions_widest : ∃ pages,
    Walk ⟨0, 0x7FFFFFFFFFFFFFFF, Number.maxWord⟩ pages ∧ pages.length = 3 ∧
      ∀ i, i < Number.maxWord ↔ ∃ w ∈ pages, i ∈ w.shown := by
  obtain ⟨pages, walk, -, count, -, cover, -⟩ :=
    walk_partitions (by decide : 0 < 0x7FFFFFFFFFFFFFFF) (le_refl Number.maxWord)
  exact ⟨pages, walk, count.trans (by decide), cover⟩

end FacetSearch.Window
