import FacetSearch.Parameter.Control
import FacetSearch.Pattern.Notation
import FacetSearch.Proofs.Pattern.Language

/-!
# The form of values

What the patterns of values denote and which texts they accept: any text that is not empty, a run of
digits, the letters of a cursor, and a date with its month and its day or without them.
-/

namespace FacetSearch.Pattern

def ofMembers (members : List Member) : Pattern := one { members }

/-- One or more characters of a class, and nothing else. -/
def onlyOf (k : Class) : Pattern := seq atStart (seq (seq (one k) (many (one k))) atEnd)

/-! ### Texts, numbers and cursors -/

theorem parse?_anyText : parse? "(?s)^.+$" = some (onlyOf ⟨[], true, false⟩) := by
  decide

theorem parse?_digits : parse? "^\\d+$" = some (onlyOf { members := [.digit] }) := by
  decide

/-- The letters of the URL-safe Base64 alphabet. -/
def cursorLetter : Class where
  members := [.range '_' '_', .range '-' '-', .range '0' '9', .range 'a' 'z', .range 'A' 'Z']

theorem parse?_cursor : parse? "^[A-Za-z0-9_-]+$" = some (onlyOf cursorLetter) := by
  decide

theorem occursIn_anyText {s : String} : (onlyOf ⟨[], true, false⟩).occursIn s = true ↔ s ≠ "" := by
  rw [onlyOf, occursIn_plus]
  exact ⟨fun h => h.1, fun h => ⟨h, fun _ _ => rfl⟩⟩

theorem occursIn_digits {s : String} : (onlyOf { members := [.digit] }).occursIn s = true ↔
    s ≠ "" ∧ ∀ c ∈ s.toList, Text.isDigit c = true := by
  rw [onlyOf, occursIn_plus]
  simp [Class.has, Member.has]

theorem occursIn_cursor {s : String} : (onlyOf cursorLetter).occursIn s = true ↔
    s ≠ "" ∧ ∀ c ∈ s.toList, cursorLetter.has c = true := by
  rw [onlyOf, occursIn_plus]

/-! ### Dates -/

def month : Pattern :=
  alt (seq (ofMembers [.range '0' '0']) (ofMembers [.range '1' '9']))
    (seq (ofMembers [.range '1' '1']) (ofMembers [.range '0' '2']))

def day : Pattern :=
  alt
    (alt (seq (ofMembers [.range '0' '0']) (ofMembers [.range '1' '9']))
      (seq (ofMembers [.range '2' '2', .range '1' '1']) (ofMembers [.digit])))
    (seq (ofMembers [.range '3' '3']) (ofMembers [.range '1' '1', .range '0' '0']))

def year : Pattern :=
  seq (ofMembers [.digit]) (seq (ofMembers [.digit]) (seq (ofMembers [.digit]) (ofMembers [.digit])))

def dashed (p : Pattern) : Pattern := alt empty (seq (ofMembers [.range '-' '-']) p)

def date : Pattern :=
  seq atStart (seq year (seq (dashed (seq month (dashed day))) atEnd))

theorem parse?_date : parse? Kind.date.pattern = some date := by
  decide

theorem matches_ofMembers {members : List Member} {begin finish : Bool} {cs : List Char} :
    (ofMembers members).Matches begin finish cs ↔
      ∃ c, (∃ m ∈ members, m.has c = true) ∧ cs = [c] := by
  simp [ofMembers, Matches, Class.has]

theorem matches_pair {first second : List Member} {begin finish : Bool} {cs : List Char} :
    (seq (ofMembers first) (ofMembers second)).Matches begin finish cs ↔
      ∃ c d, cs = [c, d] ∧ (∃ m ∈ first, m.has c = true) ∧ ∃ m ∈ second, m.has d = true := by
  rw [ofMembers, matches_one_seq]
  constructor
  · rintro ⟨c, _, rfl, hc, h⟩
    obtain ⟨d, hd, rfl⟩ := matches_ofMembers.mp h
    exact ⟨c, d, rfl, by simpa [Class.has] using hc, hd⟩
  · rintro ⟨c, d, rfl, hc, hd⟩
    exact ⟨c, [d], rfl, by simpa [Class.has] using hc, matches_ofMembers.mpr ⟨d, hd, rfl⟩⟩

theorem has_single {a c : Char} : (Member.range a a).has c = true ↔ c = a := by
  simp only [Member.has, Bool.and_eq_true, decide_eq_true_eq]
  exact ⟨fun h => Char.le_antisymm h.2 h.1, fun h => h ▸ ⟨Char.le_refl _, Char.le_refl _⟩⟩

def isMonth (a b : Char) : Bool :=
  a == '0' && (Member.range '1' '9').has b || a == '1' && (Member.range '0' '2').has b

/-- The two characters of a day; the second of those from the tenth to the twenty-ninth may be a
digit of any script. -/
def isDayOfMonth (a b : Char) : Bool :=
  a == '0' && (Member.range '1' '9').has b || (a == '2' || a == '1') && Text.isDigit b ||
    a == '3' && (b == '1' || b == '0')

theorem matches_month {begin finish : Bool} {cs : List Char} :
    month.Matches begin finish cs ↔ ∃ a b, cs = [a, b] ∧ isMonth a b = true := by
  rw [month, matches_alt, matches_pair, matches_pair]
  simp only [List.mem_singleton, exists_eq_left, has_single, isMonth, Bool.or_eq_true,
    Bool.and_eq_true, beq_iff_eq]
  constructor
  · rintro (⟨a, b, same, h⟩ | ⟨a, b, same, h⟩)
    · exact ⟨a, b, same, Or.inl h⟩
    · exact ⟨a, b, same, Or.inr h⟩
  · rintro ⟨a, b, same, h | h⟩
    · exact Or.inl ⟨a, b, same, h⟩
    · exact Or.inr ⟨a, b, same, h⟩

theorem matches_day {begin finish : Bool} {cs : List Char} :
    day.Matches begin finish cs ↔ ∃ a b, cs = [a, b] ∧ isDayOfMonth a b = true := by
  rw [day, matches_alt, matches_alt, matches_pair, matches_pair, matches_pair]
  simp only [List.mem_cons, List.not_mem_nil, or_false, exists_eq_left, exists_eq_or_imp,
    has_single, isDayOfMonth, Bool.or_eq_true, Bool.and_eq_true, beq_iff_eq]
  constructor
  · rintro ((⟨a, b, same, h⟩ | ⟨a, b, same, h⟩) | ⟨a, b, same, h⟩)
    · exact ⟨a, b, same, Or.inl (Or.inl h)⟩
    · exact ⟨a, b, same, Or.inl (Or.inr h)⟩
    · exact ⟨a, b, same, Or.inr h⟩
  · rintro ⟨a, b, same, (h | h) | h⟩
    · exact Or.inl (Or.inl ⟨a, b, same, h⟩)
    · exact Or.inl (Or.inr ⟨a, b, same, h⟩)
    · exact Or.inr ⟨a, b, same, h⟩

theorem matches_dashed {p : Pattern} {finish : Bool} {cs : List Char} :
    (dashed p).Matches false finish cs ↔
      cs = [] ∨ ∃ rest, cs = '-' :: rest ∧ p.Matches false finish rest := by
  rw [dashed, Matches, Matches, ofMembers, matches_one_seq]
  simp only [Class.has, List.any_cons, List.any_nil, Bool.false_and, Bool.or_false,
    Bool.false_bne, has_single]
  constructor
  · rintro (none | ⟨c, rest, same, rfl, h⟩)
    · exact Or.inl none
    · exact Or.inr ⟨rest, same, h⟩
  · rintro (none | ⟨rest, same, h⟩)
    · exact Or.inl none
    · exact Or.inr ⟨'-', rest, same, rfl, h⟩

theorem matches_year {begin finish : Bool} {cs : List Char} :
    year.Matches begin finish cs ↔
      ∃ a b c d, cs = [a, b, c, d] ∧ ∀ e ∈ [a, b, c, d], Text.isDigit e = true := by
  have digit : ∀ {c}, Class.has { members := [.digit] } c = Text.isDigit c := by
    intro c
    simp [Class.has, Member.has]
  rw [year]
  constructor
  · intro h
    obtain ⟨a, _, rfl, ha, h⟩ := matches_one_seq.mp h
    obtain ⟨b, _, rfl, hb, h⟩ := matches_one_seq.mp h
    obtain ⟨c, _, rfl, hc, h⟩ := matches_one_seq.mp h
    obtain ⟨d, hd, rfl⟩ := h
    rw [digit] at ha hb hc hd
    exact ⟨a, b, c, d, rfl, by simp [ha, hb, hc, hd]⟩
  · rintro ⟨a, b, c, d, rfl, h⟩
    simp only [List.mem_cons, List.not_mem_nil, or_false, forall_eq_or_imp, forall_eq] at h
    obtain ⟨ha, hb, hc, hd⟩ := h
    refine matches_one_seq.mpr ⟨a, _, rfl, digit.trans ha, ?_⟩
    refine matches_one_seq.mpr ⟨b, _, rfl, digit.trans hb, ?_⟩
    refine matches_one_seq.mpr ⟨c, _, rfl, digit.trans hc, ?_⟩
    exact ⟨d, digit.trans hd, rfl⟩

/-- What may follow the year: a month, and behind it a day. -/
def IsDateRest (cs : List Char) : Prop :=
  cs = [] ∨ ∃ a b rest, cs = '-' :: a :: b :: rest ∧ isMonth a b = true ∧
    (rest = [] ∨ ∃ c d, rest = ['-', c, d] ∧ isDayOfMonth c d = true)

theorem matches_dateRest {finish : Bool} {cs : List Char} :
    (dashed (seq month (dashed day))).Matches false finish cs ↔ IsDateRest cs := by
  rw [matches_dashed, IsDateRest]
  constructor
  · rintro (none | ⟨_, rfl, _, rest, rfl, first, second⟩)
    · exact Or.inl none
    · obtain ⟨a, b, rfl, hm⟩ := matches_month.mp first
      refine Or.inr ⟨a, b, rest, rfl, hm, ?_⟩
      rcases matches_dashed.mp second with none | ⟨_, rfl, third⟩
      · exact Or.inl none
      · obtain ⟨c, d, rfl, hd⟩ := matches_day.mp third
        exact Or.inr ⟨c, d, rfl, hd⟩
  · rintro (none | ⟨a, b, rest, rfl, hm, hd⟩)
    · exact Or.inl none
    · refine Or.inr ⟨a :: b :: rest, rfl, [a, b], rest, rfl, matches_month.mpr ⟨a, b, rfl, hm⟩, ?_⟩
      rcases hd with rfl | ⟨c, d, rfl, hd⟩
      · exact matches_dashed.mpr (Or.inl rfl)
      · exact matches_dashed.mpr (Or.inr ⟨[c, d], rfl, matches_day.mpr ⟨c, d, rfl, hd⟩⟩)

theorem occursIn_date {s : String} : date.occursIn s = true ↔
    ∃ a b c d rest, s.toList = a :: b :: c :: d :: rest ∧
      (∀ e ∈ [a, b, c, d], Text.isDigit e = true) ∧ IsDateRest rest := by
  rw [date, occursIn_anchored_seq]
  constructor
  · rintro ⟨_, rest, same, hy, hr⟩
    obtain ⟨a, b, c, d, rfl, digits⟩ := matches_year.mp hy
    exact ⟨a, b, c, d, rest, same, digits, matches_dateRest.mp (by simpa using hr)⟩
  · rintro ⟨a, b, c, d, rest, same, digits, hr⟩
    refine ⟨[a, b, c, d], rest, same, matches_year.mpr ⟨a, b, c, d, rfl, digits⟩, ?_⟩
    simpa using matches_dateRest.mpr hr

/-! ### Pairs -/

def notColon : Class where
  members := [.range ':' ':']
  negated := true

def pair : Pattern :=
  seq atStart (seq (seq (one notColon) (many (one notColon))) (seq (ofMembers [.range ':' ':'])
    (seq (seq (one notColon) (many (one notColon))) atEnd)))

theorem parse?_pair : parse? "^[^:]+:[^:]+$" = some pair := by
  decide

/-- Whatever surrounds it, the character of a class with one member occurs in a text that matches. -/
theorem mem_of_occursIn_around {d : Char} {p q r : Pattern} {s : String}
    (h : (seq p (seq q (seq (ofMembers [.range d d]) r))).occursIn s = true) : d ∈ s.toList := by
  obtain ⟨u, v, w, same, _, _, rfl, -, _, _, rfl, -, h⟩ := occursIn_iff.mp h
  obtain ⟨c, rest, rfl, member, -⟩ := matches_one_seq.mp h
  obtain rfl : c = d := by simpa [Class.has, has_single] using member
  rw [same]
  simp

theorem mem_of_occursIn_pair {s : String} (h : pair.occursIn s = true) : ':' ∈ s.toList :=
  mem_of_occursIn_around h

end FacetSearch.Pattern
