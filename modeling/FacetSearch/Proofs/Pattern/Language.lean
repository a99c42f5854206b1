import FacetSearch.Pattern.Basic

/-!
# What a pattern matches

The texts of a pattern, said without a matcher, and the proof that `Pattern.run` decides them. A part
of a text matches at a place: whether it begins where the text begins and ends where the text ends.
-/

namespace FacetSearch.Pattern

/-- A run of parts, none of them empty, that each satisfy `part`. -/
inductive Repeats (part : Bool → Bool → List Char → Prop) : Bool → Bool → List Char → Prop where
  | done {begin finish : Bool} : Repeats part begin finish []
  | more {begin finish : Bool} {c : Char} {u v : List Char} (first : part begin (finish && v.isEmpty) (c :: u))
      (rest : Repeats part false finish v) : Repeats part begin finish (c :: (u ++ v))

/-- Whether a part of a text matches that begins and finishes the text or not. -/
def Matches : Pattern → Bool → Bool → List Char → Prop
  | nothing, _, _, _ => False
  | empty, _, _, cs => cs = []
  | atStart, begin, _, cs => begin = true ∧ cs = []
  | atEnd, _, finish, cs => finish = true ∧ cs = []
  | one k, _, _, cs => ∃ c, k.has c = true ∧ cs = [c]
  | seq p q, begin, finish, cs => ∃ u v, cs = u ++ v ∧
      p.Matches begin (finish && v.isEmpty) u ∧ q.Matches (begin && u.isEmpty) finish v
  | alt p q, begin, finish, cs => p.Matches begin finish cs ∨ q.Matches begin finish cs
  | many p, begin, finish, cs => Repeats p.Matches begin finish cs

/-! ### The simplified constructors -/

theorem matches_andThen {p q : Pattern} {begin finish : Bool} {cs : List Char} :
    (p.andThen q).Matches begin finish cs ↔ (seq p q).Matches begin finish cs := by
  unfold andThen
  split
  · simp [Matches]
  · simp [Matches]
  · constructor
    · exact fun h => ⟨[], cs, rfl, rfl, by simpa using h⟩
    · rintro ⟨u, v, rfl, rfl, h⟩
      simpa using h
  · constructor
    · exact fun h => ⟨cs, [], by simp, by simpa using h, rfl⟩
    · rintro ⟨u, v, rfl, h, rfl⟩
      simpa using h
  · exact Iff.rfl

theorem matches_either {p q : Pattern} {begin finish : Bool} {cs : List Char} :
    (p.either q).Matches begin finish cs ↔ p.Matches begin finish cs ∨ q.Matches begin finish cs := by
  unfold either
  split
  · simp [Matches]
  · simp [Matches]
  · split
    · rename_i same
      simp [same]
    · exact Iff.rfl

/-! ### The matcher -/

theorem accepts_iff {p : Pattern} {begin finish : Bool} :
    p.accepts begin finish = true ↔ p.Matches begin finish [] := by
  induction p generalizing begin finish with
  | nothing => simp [accepts, Matches]
  | empty => simp [accepts, Matches]
  | atStart => simp [accepts, Matches]
  | atEnd => simp [accepts, Matches]
  | one k => simp [accepts, Matches]
  | seq p q hp hq =>
    rw [accepts, Bool.and_eq_true, hp, hq]
    constructor
    · exact fun ⟨first, second⟩ => ⟨[], [], rfl, by simpa using first, by simpa using second⟩
    · rintro ⟨u, v, same, first, second⟩
      obtain ⟨rfl, rfl⟩ := List.append_eq_nil_iff.mp same.symm
      exact ⟨by simpa using first, by simpa using second⟩
  | alt p q hp hq => rw [accepts, Bool.or_eq_true, hp, hq, Matches]
  | many p hp => simpa [accepts, Matches] using Repeats.done

section FirstCharacter

variable {p q : Pattern} {begin finish : Bool} {c : Char} {rest : List Char}

theorem matches_seq_cons : (seq p q).Matches begin finish (c :: rest) ↔
    (p.Matches begin false [] ∧ q.Matches begin finish (c :: rest)) ∨
      ∃ u v, rest = u ++ v ∧ p.Matches begin (finish && v.isEmpty) (c :: u) ∧
        q.Matches false finish v := by
  constructor
  · rintro ⟨u, v, same, first, second⟩
    cases u with
    | nil =>
      obtain rfl : c :: rest = v := same
      exact Or.inl ⟨by simpa using first, by simpa using second⟩
    | cons d u =>
      obtain ⟨rfl, rfl⟩ := List.cons.inj same
      exact Or.inr ⟨u, v, rfl, first, by simpa using second⟩
  · rintro (⟨first, second⟩ | ⟨u, v, rfl, first, second⟩)
    · exact ⟨[], c :: rest, rfl, by simpa using first, by simpa using second⟩
    · exact ⟨c :: u, v, rfl, first, by simpa using second⟩

theorem matches_many_cons : (many p).Matches begin finish (c :: rest) ↔
    ∃ u v, rest = u ++ v ∧ p.Matches begin (finish && v.isEmpty) (c :: u) ∧
      (many p).Matches false finish v := by
  constructor
  · intro h
    cases h with
    | more first more => exact ⟨_, _, rfl, first, more⟩
  · rintro ⟨u, v, rfl, first, more⟩
    exact .more first more

theorem matches_one_cons {k : Class} :
    (one k).Matches begin finish (c :: rest) ↔ k.has c = true ∧ rest = [] := by
  constructor
  · rintro ⟨d, member, same⟩
    obtain ⟨rfl, nothing⟩ := List.cons.inj same
    exact ⟨member, nothing⟩
  · rintro ⟨member, rfl⟩
    exact ⟨c, member, rfl⟩

theorem after_iff :
    (p.after begin c).Matches false finish rest ↔ p.Matches begin finish (c :: rest) := by
  induction p generalizing begin finish rest with
  | nothing => simp [after, Matches]
  | empty => simp [after, Matches]
  | atStart => simp [after, Matches]
  | atEnd => simp [after, Matches]
  | one k =>
    rw [after, matches_one_cons]
    by_cases member : k.has c = true
    · simp [member, Matches]
    · simp [member, Matches]
  | seq p q hp hq =>
    have reads : ((p.after begin c).andThen q).Matches false finish rest ↔
        ∃ u v, rest = u ++ v ∧ p.Matches begin (finish && v.isEmpty) (c :: u) ∧
          q.Matches false finish v := by
      simp only [matches_andThen, Matches, hp, Bool.false_and]
    rw [matches_seq_cons, ← accepts_iff, ← hq, ← reads, after]
    by_cases skip : p.accepts begin false = true
    · simp [skip, matches_either, or_comm]
    · simp [skip]
  | alt p q hp hq => rw [after, matches_either, hp, hq, Matches]
  | many p hp =>
    rw [after, matches_andThen, matches_many_cons]
    simp only [Matches, hp, Bool.false_and]

end FirstCharacter

theorem run_iff {p : Pattern} {begin : Bool} {cs : List Char} :
    p.run begin cs = true ↔ p.Matches begin true cs := by
  induction cs generalizing p begin with
  | nil => rw [run, accepts_iff]
  | cons c rest ih => rw [run, ih, after_iff]

/-! ### Parts of a text -/

theorem matches_alt {p q : Pattern} {begin finish : Bool} {cs : List Char} :
    (alt p q).Matches begin finish cs ↔ p.Matches begin finish cs ∨ q.Matches begin finish cs :=
  Iff.rfl

theorem matches_many_one {k : Class} {begin finish : Bool} {cs : List Char} :
    (many (one k)).Matches begin finish cs ↔ ∀ c ∈ cs, k.has c = true := by
  induction cs generalizing begin with
  | nil => exact ⟨fun _ => by simp, fun _ => .done⟩
  | cons c rest ih =>
    rw [matches_many_cons, List.forall_mem_cons]
    constructor
    · rintro ⟨u, v, rfl, first, more⟩
      obtain ⟨member, rfl⟩ := matches_one_cons.mp first
      exact ⟨member, ih.mp more⟩
    · rintro ⟨member, others⟩
      exact ⟨[], rest, rfl, matches_one_cons.mpr ⟨member, rfl⟩, ih.mpr others⟩

theorem matches_any {begin finish : Bool} {cs : List Char} : (many any).Matches begin finish cs := by
  refine matches_many_one.mpr fun c _ => ?_
  rfl

/-- A pattern occurs in a text where some part of the text matches in its place. -/
theorem occursIn_iff {p : Pattern} {s : String} :
    p.occursIn s = true ↔
      ∃ u v w, s.toList = u ++ (v ++ w) ∧ p.Matches u.isEmpty w.isEmpty v := by
  rw [occursIn, run_iff]
  constructor
  · rintro ⟨u, rest, same, -, v, w, rfl, h, -⟩
    exact ⟨u, v, w, same, by simpa using h⟩
  · rintro ⟨u, v, w, same, h⟩
    exact ⟨u, v ++ w, same, matches_any, v, w, rfl, by simpa using h, matches_any⟩

theorem matches_seq_assoc {p q r : Pattern} {begin finish : Bool} {cs : List Char} :
    (seq p (seq q r)).Matches begin finish cs ↔ (seq (seq p q) r).Matches begin finish cs := by
  have both : ∀ a b : List Char, (a ++ b).isEmpty = (a.isEmpty && b.isEmpty) := by
    intro a b
    cases a <;> rfl
  constructor
  · rintro ⟨u, _, rfl, first, v, w, rfl, second, third⟩
    refine ⟨u ++ v, w, (List.append_assoc u v w).symm, ⟨u, v, rfl, ?_, second⟩, ?_⟩
    · rwa [both, Bool.and_comm v.isEmpty, ← Bool.and_assoc] at first
    · rwa [both, ← Bool.and_assoc]
  · rintro ⟨_, w, rfl, ⟨u, v, rfl, first, second⟩, third⟩
    refine ⟨u, v ++ w, List.append_assoc u v w, ?_, v, w, rfl, second, ?_⟩
    · rwa [both, Bool.and_comm v.isEmpty, ← Bool.and_assoc]
    · rwa [both, ← Bool.and_assoc] at third

theorem occursIn_anchored {p : Pattern} {s : String} :
    (seq atStart (seq p atEnd)).occursIn s = true ↔ p.Matches true true s.toList := by
  rw [occursIn_iff]
  constructor
  · rintro ⟨u, v, w, same, _, _, rfl, ⟨begun, rfl⟩, v, _, rfl, h, ended, rfl⟩
    obtain rfl : u = [] := by simpa using begun
    obtain rfl : w = [] := by simpa using ended
    rw [same]
    simpa using h
  · intro h
    exact ⟨[], s.toList, [], by simp, [], s.toList, rfl, ⟨rfl, rfl⟩, s.toList, [], by simp,
      by simpa using h, rfl, rfl⟩

theorem occursIn_anchored_seq {p q : Pattern} {s : String} :
    (seq atStart (seq p (seq q atEnd))).occursIn s = true ↔
      (seq p q).Matches true true s.toList := by
  rw [← occursIn_anchored, occursIn_iff, occursIn_iff]
  constructor
  · rintro ⟨u, v, w, same, a, b, joined, start, h⟩
    exact ⟨u, v, w, same, a, b, joined, start, matches_seq_assoc.mp h⟩
  · rintro ⟨u, v, w, same, a, b, joined, start, h⟩
    exact ⟨u, v, w, same, a, b, joined, start, matches_seq_assoc.mpr h⟩

theorem matches_one_seq {k : Class} {q : Pattern} {begin finish : Bool} {cs : List Char} :
    (seq (one k) q).Matches begin finish cs ↔
      ∃ c rest, cs = c :: rest ∧ k.has c = true ∧ q.Matches false finish rest := by
  constructor
  · rintro ⟨_, rest, rfl, ⟨c, member, rfl⟩, h⟩
    exact ⟨c, rest, rfl, member, by simpa using h⟩
  · rintro ⟨c, rest, rfl, member, h⟩
    exact ⟨[c], rest, rfl, ⟨c, member, rfl⟩, by simpa using h⟩

theorem occursIn_plus {k : Class} {s : String} :
    (seq atStart (seq (seq (one k) (many (one k))) atEnd)).occursIn s = true ↔
      s ≠ "" ∧ ∀ c ∈ s.toList, k.has c = true := by
  rw [occursIn_anchored, matches_one_seq]
  constructor
  · rintro ⟨c, rest, same, member, h⟩
    have others := matches_many_one.mp h
    rw [same]
    refine ⟨?_, ?_⟩
    · rintro rfl
      cases same
    · simpa [member] using others
  · rintro ⟨some, all⟩
    cases same : s.toList with
    | nil => exact absurd (String.toList_eq_nil_iff.mp same) some
    | cons c rest =>
      rw [same] at all
      exact ⟨c, rest, rfl, all c List.mem_cons_self,
        matches_many_one.mpr fun d hd => all d (List.mem_cons_of_mem c hd)⟩

end FacetSearch.Pattern
