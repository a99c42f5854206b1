import FacetSearch.Calendar.Period
import FacetSearch.Proofs.Number.Digits
import FacetSearch.Proofs.Pattern.Values
import FacetSearch.Proofs.Text.Parts

/-!
# Accepted dates

The dates that a request may hold are exactly the written forms of the periods of the calendar up to
the year 9999. The first and last day of such a period are dates themselves, and stand for themselves.
-/

namespace FacetSearch.Calendar

open Number.Decimal
open Pattern (IsDateRest isMonth isDayOfMonth)

namespace Period

def tail (p : Period) : List Char :=
  (p.month.map fun m => '-' :: padded 2 m).getD [] ++ (p.day.map fun d => '-' :: padded 2 d).getD []

def text (p : Period) : String := String.ofList (padded 4 p.year ++ p.tail)

/-- Whether a period is one of the calendar with a year of four digits. -/
structure IsProper (p : Period) : Prop where
  real : p.isReal = true
  year : p.year ≤ 9999
  day : p.month = none → p.day = none

def first (p : Period) : Period :=
  { p with month := some (p.month.getD 1), day := some (p.day.getD 1) }

def last (p : Period) : Period :=
  { p with
    month := some (p.month.getD 12)
    day := some (p.day.getD (daysIn p.year (p.month.getD 12))) }

theorem isDay_of_isProper {p : Period} (h : p.IsProper) :
    1 ≤ p.month.getD 1 ∧ p.month.getD 1 ≤ 12 ∧ 1 ≤ p.day.getD 1 ∧
      p.day.getD 1 ≤ daysIn p.year (p.month.getD 1) := by
  have real := h.real
  simp only [isReal, isDay, Bool.and_eq_true, decide_eq_true_eq] at real
  obtain ⟨⟨_, low⟩, high⟩ := real
  have month := (daysIn_pos_iff p.year (p.month.getD 1)).mp (by omega)
  exact ⟨month.1, month.2, low, high⟩

theorem isProper_first {p : Period} (h : p.IsProper) : p.first.IsProper := by
  refine ⟨?_, h.year, fun none => absurd none (Option.some_ne_none _)⟩
  exact h.real

theorem isProper_last {p : Period} (h : p.IsProper) : p.last.IsProper := by
  obtain ⟨low, high, day, length⟩ := isDay_of_isProper h
  have known : p.year ≤ lastYear := Nat.le_trans h.year (by decide)
  refine ⟨?_, h.year, fun none => absurd none (Option.some_ne_none _)⟩
  have lastDay : isDay p.year (p.month.getD 12) (p.day.getD (daysIn p.year (p.month.getD 12))) = true := by
    cases hm : p.month with
    | none =>
      rw [h.day hm, isDay]
      have december : daysIn p.year 12 = 31 := by simp [daysIn]
      simp [known, december]
    | some m =>
      rw [hm, Option.getD_some] at low high length
      have some := (daysIn_pos_iff p.year m).mpr ⟨low, high⟩
      cases hd : p.day with
      | none => simpa [isDay, known] using Nat.succ_le_of_lt some
      | some d =>
        rw [hd, Option.getD_some] at day length
        simp [isDay, known, day, length]
  exact lastDay

/-! ### Reading what was written -/

theorem not_dash_of_isDigit {cs : List Char} (h : ∀ c ∈ cs, c.isDigit = true) :
    ∀ c ∈ cs, (c == '-') = false := by
  intro c hc
  refine beq_eq_false_iff_ne.mpr ?_
  rintro rfl
  exact absurd (h _ hc) (by decide)

theorem splitWhere_padded {width n : Nat} {rest : List Char} :
    Text.splitWhere (· == '-') (padded width n ++ '-' :: rest) =
      padded width n :: Text.splitWhere (· == '-') rest :=
  Text.splitWhere_append (not_dash_of_isDigit isDigit_of_mem_padded) (by decide)

theorem splitWhere_padded_end {width n : Nat} :
    Text.splitWhere (· == '-') (padded width n) = [padded width n] :=
  Text.splitWhere_of_not (not_dash_of_isDigit isDigit_of_mem_padded)

/-- Whether the parts of a period are small enough to be read. -/
structure IsReadable (p : Period) : Prop where
  year : p.year ≤ yearLimit
  month : ∀ m ∈ p.month, m ≤ partLimit
  day : ∀ d ∈ p.day, d ≤ partLimit
  nested : p.month = none → p.day = none

theorem IsProper.isReadable {p : Period} (h : p.IsProper) : p.IsReadable := by
  obtain ⟨-, high, -, length⟩ := isDay_of_isProper h
  have most := daysIn_le p.year (p.month.getD 1)
  have limit : 31 ≤ partLimit := by decide
  refine ⟨Nat.le_trans h.year (by decide), fun m hm => ?_, fun d hd => ?_, h.day⟩
  · rw [Option.mem_def.mp hm, Option.getD_some] at high
    omega
  · rw [Option.mem_def.mp hd, Option.getD_some] at length
    omega

theorem parse?_written {p : Period} (h : p.IsReadable) {year : List Char}
    (undashed : ∀ c ∈ year, (c == '-') = false) (read : read? yearLimit year = some p.year) :
    parse? (String.ofList (year ++ p.tail)) = some p := by
  have part {n : Nat} (small : n ≤ partLimit) : read? partLimit (padded 2 n) = some n :=
    read?_padded small
  obtain ⟨y, month, day⟩ := p
  cases month with
  | none =>
    obtain rfl : day = none := h.nested rfl
    rw [show tail { year := y } = [] from rfl, List.append_nil, parse?, String.toList_ofList,
      Text.splitWhere_of_not undashed]
    simp [read, part?]
  | some m =>
    have hm := part (h.month m rfl)
    rw [parse?, String.toList_ofList, tail, Option.map_some, Option.getD_some, List.cons_append,
      Text.splitWhere_append undashed rfl]
    cases day with
    | none =>
      rw [Option.map_none, Option.getD_none, List.append_nil, splitWhere_padded_end]
      simp [read, hm, part?]
    | some d =>
      have hd := part (h.day d rfl)
      rw [Option.map_some, Option.getD_some, splitWhere_padded, splitWhere_padded_end]
      simp [read, hm, hd, part?]

theorem parse?_text {p : Period} (h : p.IsProper) : parse? p.text = some p :=
  parse?_written h.isReadable (not_dash_of_isDigit isDigit_of_mem_padded)
    (read?_padded h.isReadable.year)

theorem readFrom_of_read? {limit n : Nat} {c : Char} {cs : List Char}
    (h : read? limit (c :: cs) = some n) (unsigned : c ≠ '+') : readFrom 0 (c :: cs) = some n := by
  unfold read? at h
  split at h
  · rename_i same
    exact absurd (List.cons.inj same).1 unsigned
  · exact (Option.filter_eq_some_iff.mp h).1

theorem read?_of_parse? {s : String} {p : Period} {year : List Char} {rest : List (List Char)}
    (parts : Text.splitWhere (· == '-') s.toList = year :: rest) (h : parse? s = some p) :
    read? yearLimit year = some p.year ∧ part? rest = some p.month ∧
      part? (rest.drop 1) = some p.day := by
  rw [parse?, parts] at h
  simp only [Option.bind_eq_bind, Option.bind_eq_some_iff, Option.some.injEq] at h
  obtain ⟨_, year, _, month, _, day, rfl⟩ := h
  exact ⟨year, month, day⟩

theorem padded_of_part? {a b : Char} {rest : List (List Char)} {part : Option Nat} (unsigned : a ≠ '+')
    (h : part? ([a, b] :: rest) = some part) : ∃ n, part = some n ∧ padded 2 n = [a, b] := by
  obtain ⟨n, read, rfl⟩ := Option.map_eq_some_iff.mp h
  exact ⟨n, rfl, (padded_two_of_readFrom (readFrom_of_read? read unsigned)).2⟩

end Period

/-! ### Dates of the right form -/

def IsDate (s : String) : Prop := Pattern.date.occursIn s = true ∧ isPeriod s = true

theorem ne_sign_of_isDigit {c : Char} (h : Text.isDigit c = true) : c ≠ '-' ∧ c ≠ '+' := by
  constructor
  · rintro rfl
    exact absurd h (by decide)
  · rintro rfl
    exact absurd h (by decide)

theorem ne_sign_of_isMonth {a b : Char} (h : isMonth a b = true) : a ≠ '-' ∧ a ≠ '+' ∧ b ≠ '-' := by
  refine ⟨?_, ?_, ?_⟩
  · rintro rfl
    simp [isMonth] at h
  · rintro rfl
    simp [isMonth] at h
  · rintro rfl
    simp [isMonth, Pattern.Member.has] at h

theorem ne_sign_of_isDayOfMonth {a b : Char} (h : isDayOfMonth a b = true) :
    a ≠ '-' ∧ a ≠ '+' ∧ b ≠ '-' := by
  have other : Text.isDigit '-' = false := by decide
  refine ⟨?_, ?_, ?_⟩
  · rintro rfl
    simp [isDayOfMonth] at h
  · rintro rfl
    simp [isDayOfMonth] at h
  · rintro rfl
    simp [isDayOfMonth, Pattern.Member.has, other] at h

theorem isMonth_digits {m : Nat} (low : 1 ≤ m) (high : m ≤ 12) :
    isMonth (digit (m / 10)) (digit m) = true := by
  have all : ∀ m < 13, 1 ≤ m → isMonth (digit (m / 10)) (digit m) = true := by decide
  exact all m (by omega) low

theorem isDayOfMonth_digits {d : Nat} (low : 1 ≤ d) (high : d ≤ 31) :
    isDayOfMonth (digit (d / 10)) (digit d) = true := by
  have all : ∀ d < 32, 1 ≤ d → isDayOfMonth (digit (d / 10)) (digit d) = true := by
    decide
  exact all d (by omega) low

theorem isDateRest_tail {p : Period} (h : p.IsProper) : IsDateRest p.tail := by
  obtain ⟨low, high, day, length⟩ := Period.isDay_of_isProper h
  have most := daysIn_le p.year (p.month.getD 1)
  cases hm : p.month with
  | none =>
    rw [Period.tail, hm, h.day hm]
    exact Or.inl rfl
  | some m =>
    rw [hm, Option.getD_some] at low high
    rw [Period.tail, hm, Option.map_some, Option.getD_some, padded_two (by omega)]
    refine Or.inr ⟨_, _, _, rfl, isMonth_digits low high, ?_⟩
    cases hd : p.day with
    | none => exact Or.inl rfl
    | some d =>
      rw [hd, Option.getD_some] at day length
      rw [Option.map_some, Option.getD_some, padded_two (by omega)]
      exact Or.inr ⟨_, _, rfl, isDayOfMonth_digits day (by omega)⟩

theorem occursIn_date_text {p : Period} (h : p.IsProper) : Pattern.date.occursIn p.text = true := by
  have digits : ∀ c ∈ padded 4 p.year, Text.isDigit c = true := fun c hc =>
    Text.isDigit_of_ascii (isDigit_of_mem_padded c hc)
  have year := padded_four (Nat.lt_succ_of_le h.year)
  rw [year] at digits
  refine Pattern.occursIn_date.mpr ⟨_, _, _, _, p.tail, ?_, digits, isDateRest_tail h⟩
  rw [Period.text, String.toList_ofList, year]
  rfl

theorem isPeriod_iff {s : String} :
    isPeriod s = true ↔ ∃ p, Period.parse? s = some p ∧ p.isReal = true := by
  rw [isPeriod]
  cases Period.parse? s with
  | none => simp
  | some p => simp

/-- The period that an accepted date spells is written so. -/
theorem text_of_parse? {s : String} {p : Period} (form : Pattern.date.occursIn s = true)
    (h : Period.parse? s = some p) : p.year ≤ 9999 ∧ (p.month = none → p.day = none) ∧ s = p.text := by
  obtain ⟨a, b, c, d, rest, same, digits, tail⟩ := Pattern.occursIn_date.mp form
  have inYear : ∀ e ∈ [a, b, c, d], (e == '-') = false := fun e he =>
    beq_eq_false_iff_ne.mpr (ne_sign_of_isDigit (digits e he)).1
  have unsigned := (ne_sign_of_isDigit (digits a List.mem_cons_self)).2
  have text : s = String.ofList s.toList := String.ofList_toList.symm
  rcases tail with rfl | ⟨m, n, rest, rfl, hm, tail⟩
  · have whole : Text.splitWhere (· == '-') s.toList = [[a, b, c, d]] := by
      rw [same, Text.splitWhere_of_not inYear]
    obtain ⟨year, month, day⟩ := Period.read?_of_parse? whole h
    obtain ⟨small, py⟩ := padded_four_of_readFrom (Period.readFrom_of_read? year unsigned)
    have noDay : p.day = none := (Option.some.inj day).symm
    refine ⟨Nat.le_of_lt_succ small, fun _ => noDay, ?_⟩
    rw [text, same, Period.text, Period.tail, py, ← Option.some.inj month, noDay]
    rfl
  · obtain ⟨dashM, signM, dashN⟩ := ne_sign_of_isMonth hm
    have inMonth : ∀ e ∈ [m, n], (e == '-') = false := by simp [dashM, dashN]
    have front : Text.splitWhere (· == '-') s.toList =
        [a, b, c, d] :: Text.splitWhere (· == '-') (m :: n :: rest) := by
      rw [same]
      exact Text.splitWhere_append inYear rfl
    obtain ⟨year, month, day⟩ := Period.read?_of_parse? front h
    obtain ⟨small, py⟩ := padded_four_of_readFrom (Period.readFrom_of_read? year unsigned)
    rcases tail with rfl | ⟨x, y, rfl, hd⟩
    · rw [Text.splitWhere_of_not inMonth] at month day
      obtain ⟨_, some_, pm⟩ := Period.padded_of_part? signM month
      refine ⟨Nat.le_of_lt_succ small, fun none_ => absurd (some_.symm.trans none_) nofun, ?_⟩
      rw [text, same, Period.text, Period.tail, py, some_, Option.map_some, Option.getD_some, pm,
        ← Option.some.inj day]
      rfl
    · obtain ⟨dashX, signX, dashY⟩ := ne_sign_of_isDayOfMonth hd
      have inDay : ∀ e ∈ [x, y], (e == '-') = false := by simp [dashX, dashY]
      have middle : Text.splitWhere (· == '-') (m :: n :: ['-', x, y]) =
          [m, n] :: Text.splitWhere (· == '-') [x, y] :=
        Text.splitWhere_append inMonth rfl
      rw [middle, Text.splitWhere_of_not inDay] at month day
      obtain ⟨_, some_, pm⟩ := Period.padded_of_part? signM month
      obtain ⟨_, some', pd⟩ := Period.padded_of_part? signX day
      refine ⟨Nat.le_of_lt_succ small, fun none_ => absurd (some_.symm.trans none_) nofun, ?_⟩
      rw [text, same, Period.text, Period.tail, py, some_, some', Option.map_some, Option.getD_some,
        pm, Option.map_some, Option.getD_some, pd]
      rfl

/-- The accepted dates are the texts of the proper periods. -/
theorem isDate_iff {s : String} : IsDate s ↔ ∃ p : Period, p.IsProper ∧ s = p.text := by
  constructor
  · rintro ⟨form, known⟩
    obtain ⟨p, parsed, real⟩ := isPeriod_iff.mp known
    obtain ⟨year, day, same⟩ := text_of_parse? form parsed
    exact ⟨p, ⟨real, year, day⟩, same⟩
  · rintro ⟨p, proper, rfl⟩
    exact ⟨occursIn_date_text proper, isPeriod_iff.mpr ⟨p, Period.parse?_text proper, proper.real⟩⟩

/-! ### First and last days -/

theorem firstDay_text {p : Period} (h : p.IsProper) : firstDay p.text = p.first.text := by
  have day := h.day
  unfold firstDay
  rw [Period.parse?_text h]
  obtain ⟨y, month, day'⟩ := p
  have first : padded 2 1 = ['0', '1'] := padded_two (by decide)
  cases month with
  | none =>
    obtain rfl : day' = none := day rfl
    simp [Period.text, Period.tail, Period.first, first]
  | some m =>
    cases day' with
    | none => simp [Period.text, Period.tail, Period.first, first]
    | some d => rfl

theorem lastDay_text {p : Period} (h : p.IsProper) : lastDay p.text = p.last.text := by
  obtain ⟨low, high, -, -⟩ := Period.isDay_of_isProper h
  have day := h.day
  have year := h.year
  unfold lastDay
  rw [Period.parse?_text h]
  obtain ⟨y, month, day'⟩ := p
  have december : padded 2 12 = ['1', '2'] := padded_two (by decide)
  have last : padded 2 31 = ['3', '1'] := padded_two (by decide)
  cases month with
  | none =>
    obtain rfl : day' = none := day rfl
    have length : daysIn y 12 = 31 := by simp [daysIn]
    simp [Period.text, Period.tail, Period.last, length, december, last]
  | some m =>
    cases day' with
    | none =>
      rw [Option.getD_some] at low high
      have known : isDay y m 1 = true := by
        have some := (daysIn_pos_iff y m).mpr ⟨low, high⟩
        have : y ≤ lastYear := Nat.le_trans year (by decide)
        simpa [isDay, this] using Nat.succ_le_of_lt some
      have early : ¬(y = lastYear ∧ m = 12) := by
        rintro ⟨rfl, -⟩
        exact absurd year (show ¬lastYear ≤ 9999 by decide)
      simp only [known, early, not_false_eq_true, and_self, if_true, yearText, if_pos year]
      simp [Period.text, Period.tail, Period.last]
    | some d => rfl

/-- Whether an accepted date stands for itself at either end of a period. -/
def IsFullDay (s : String) : Prop := IsDate s ∧ firstDay s = s ∧ lastDay s = s

theorem isFullDay_text {p : Period} (h : p.IsProper) (month : p.month.isSome = true)
    (day : p.day.isSome = true) : IsFullDay p.text := by
  refine ⟨isDate_iff.mpr ⟨p, h, rfl⟩, ?_, ?_⟩
  · rw [firstDay_text h]
    obtain ⟨y, month', day'⟩ := p
    cases month' with
    | none => cases month
    | some m =>
      cases day' with
      | none => cases day
      | some d => rfl
  · rw [lastDay_text h]
    obtain ⟨y, month', day'⟩ := p
    cases month' with
    | none => cases month
    | some m =>
      cases day' with
      | none => cases day
      | some d => rfl

theorem isFullDay_firstDay {s : String} (h : IsDate s) : IsFullDay (firstDay s) := by
  obtain ⟨p, proper, rfl⟩ := isDate_iff.mp h
  rw [firstDay_text proper]
  exact isFullDay_text (Period.isProper_first proper) rfl rfl

theorem isFullDay_lastDay {s : String} (h : IsDate s) : IsFullDay (lastDay s) := by
  obtain ⟨p, proper, rfl⟩ := isDate_iff.mp h
  rw [lastDay_text proper]
  exact isFullDay_text (Period.isProper_last proper) rfl rfl

theorem mem_of_isDate {s : String} (h : IsDate s) :
    ∀ c ∈ s.toList, c.isDigit = true ∨ c = '-' := by
  obtain ⟨p, -, rfl⟩ := isDate_iff.mp h
  have part : ∀ {part : Option Nat}, ∀ c ∈ (part.map fun n => '-' :: padded 2 n).getD [],
      c.isDigit = true ∨ c = '-' := by
    intro part c hc
    cases part with
    | none => cases hc
    | some n =>
      rcases List.mem_cons.mp hc with rfl | hc
      · exact Or.inr rfl
      · exact Or.inl (isDigit_of_mem_padded c hc)
  intro c hc
  rw [Period.text, String.toList_ofList, Period.tail] at hc
  rcases List.mem_append.mp hc with hc | hc
  · exact Or.inl (isDigit_of_mem_padded c hc)
  · rcases List.mem_append.mp hc with hc | hc
    · exact part c hc
    · exact part c hc

theorem ne_empty_of_occursIn {s : String} (h : Pattern.date.occursIn s = true) : s ≠ "" := by
  rintro rfl
  obtain ⟨_, _, _, _, _, same, -⟩ := Pattern.occursIn_date.mp h
  cases same

theorem ne_empty_of_isDate {s : String} (h : IsDate s) : s ≠ "" := ne_empty_of_occursIn h.1

theorem trimmed_of_isDate {s : String} (h : IsDate s) : Text.Trimmed s := by
  apply Text.trimmed_of_forall
  intro c hc
  rcases mem_of_isDate h c hc with digit | rfl
  · exact Text.not_isBlank_of_isDigit digit
  · decide

end FacetSearch.Calendar
