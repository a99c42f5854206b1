import FacetSearch.Proofs.Calendar.Period

/-!
# The days of a period

Between the first and the last day of a period, in the order of their texts, stand exactly the days
that the text of the period begins. Days stand for themselves, so taking the first or the last day
twice is taking it once, whatever the text.
-/

namespace FacetSearch.Calendar

open Number.Decimal

def dayText (year month day : Nat) : String :=
  String.ofList (padded 4 year ++ '-' :: padded 2 month ++ '-' :: padded 2 day)

/-- Whether a text is a day of the calendar, written with a year of four digits. -/
def IsDayText (s : String) : Prop :=
  ∃ year month day, year ≤ 9999 ∧ isDay year month day = true ∧ s = dayText year month day

/-! ### The order of days -/

theorem small_of_isDay {y m d : Nat} (h : isDay y m d = true) :
    1 ≤ m ∧ m ≤ 12 ∧ 1 ≤ d ∧ d ≤ 31 ∧ d ≤ daysIn y m := by
  simp only [isDay, Bool.and_eq_true, decide_eq_true_eq] at h
  obtain ⟨⟨-, low⟩, high⟩ := h
  have month := (daysIn_pos_iff y m).mp (Nat.lt_of_lt_of_le low high)
  exact ⟨month.1, month.2, low, Nat.le_trans high (daysIn_le y m), high⟩

theorem dayText_lt_dayText_iff {y m d y' m' d' : Nat} (hy : y ≤ 9999) (hm : m < 100) (hd : d < 100)
    (hy' : y' ≤ 9999) (hm' : m' < 100) (hd' : d' < 100) :
    dayText y m d < dayText y' m' d' ↔ y < y' ∨ y = y' ∧ (m < m' ∨ m = m' ∧ d < d') := by
  have four {n : Nat} (h : n ≤ 9999) : n < 10 ^ 4 := Nat.lt_of_le_of_lt h (by decide)
  have two {n : Nat} (h : n < 100) : n < 10 ^ 2 := h
  have years := (length_padded (by decide) (four hy)).trans (length_padded (by decide) (four hy')).symm
  have months := (length_padded (by decide) (two hm)).trans (length_padded (by decide) (two hm')).symm
  change (String.ofList _).toList < (String.ofList _).toList ↔ _
  rw [String.toList_ofList, String.toList_ofList, List.append_assoc, List.append_assoc,
    append_lt_append_iff years, padded_lt_padded_iff (by decide) (four hy) (four hy'), padded_inj,
    List.cons_append, List.cons_append, List.cons_lt_cons_iff, append_lt_append_iff months,
    padded_lt_padded_iff (by decide) (two hm) (two hm'), padded_inj, List.cons_lt_cons_iff,
    padded_lt_padded_iff (by decide) (two hd) (two hd')]
  simp only [Char.lt_irrefl, true_and, false_or]

/-! ### Days that begin with a period -/

theorem append_prefix_append_iff {a b x y : List Char} (same : a.length = b.length) :
    a ++ x <+: b ++ y ↔ a = b ∧ x <+: y := by
  constructor
  · rintro ⟨rest, h⟩
    rw [List.append_assoc] at h
    obtain ⟨rfl, rfl⟩ := List.append_inj h same
    exact ⟨rfl, rest, rfl⟩
  · rintro ⟨rfl, rest, rfl⟩
    exact ⟨rest, List.append_assoc a x rest⟩

namespace Period

variable {p : Period}

theorem text_first (p : Period) : p.first.text = dayText p.year (p.month.getD 1) (p.day.getD 1) := by
  simp [text, tail, first, dayText]

theorem text_last (p : Period) : p.last.text =
    dayText p.year (p.month.getD 12) (p.day.getD (daysIn p.year (p.month.getD 12))) := by
  simp [text, tail, last, dayText]

/-- A day begins with the text of a period, or is it, if all that the period names is the same. -/
theorem begins_iff (h : p.IsProper) {y m d : Nat} (hy : y ≤ 9999) (hm : m < 100) (hd : d < 100) :
    dayText y m d = p.text ∨ (p.text ++ "-").toList <+: (dayText y m d).toList ↔
      p.year = y ∧ (∀ month ∈ p.month, month = m) ∧ ∀ day ∈ p.day, day = d := by
  obtain ⟨-, small, -, length⟩ := isDay_of_isProper h
  have few := daysIn_le p.year (p.month.getD 1)
  have wide {n n' : Nat} (hn : n < 100) (hn' : n' < 100) : (padded 2 n).length = (padded 2 n').length :=
    (length_padded (by decide) hn).trans (length_padded (by decide) hn').symm
  have years : (padded 4 p.year).length = (padded 4 y).length :=
    (length_padded (by decide) (Nat.lt_succ_of_le h.year)).trans
      (length_padded (by decide) (Nat.lt_succ_of_le hy)).symm
  -- With a dash behind both texts the two ways to begin are one.
  have dashed : dayText y m d = p.text ∨ (p.text ++ "-").toList <+: (dayText y m d).toList ↔
      padded 4 p.year ++ (p.tail ++ ['-']) <+:
        padded 4 y ++ '-' :: (padded 2 m ++ '-' :: (padded 2 d ++ ['-'])) := by
    have day : padded 4 y ++ '-' :: (padded 2 m ++ '-' :: (padded 2 d ++ ['-'])) =
        (dayText y m d).toList ++ ['-'] := by
      simp [dayText]
    rw [day, ← List.append_assoc, show padded 4 p.year ++ p.tail = p.text.toList by simp [text],
      List.prefix_concat_iff, List.append_left_inj, String.toList_inj, eq_comm (a := p.text),
      String.toList_append]
    rfl
  rw [dashed, append_prefix_append_iff years, padded_inj]
  obtain ⟨y₀, month, day⟩ := p
  cases month with
  | none =>
    obtain rfl : day = none := h.day rfl
    simp [tail]
  | some m₀ =>
    rw [Option.getD_some] at small length few
    cases day with
    | none =>
      simp [tail, List.cons_prefix_cons, append_prefix_append_iff (wide (by omega : m₀ < 100) hm),
        padded_inj]
    | some d₀ =>
      rw [Option.getD_some] at length
      simp [tail, List.cons_prefix_cons, append_prefix_append_iff (wide (by omega : m₀ < 100) hm),
        append_prefix_append_iff (wide (by omega : d₀ < 100) hd), padded_inj]

/-- The days from the first to the last day of a period are those that begin with its text. -/
theorem covers_iff (h : p.IsProper) {s : String} (isDay : IsDayText s) :
    p.first.text ≤ s ∧ s ≤ p.last.text ↔ s = p.text ∨ (p.text ++ "-").toList <+: s.toList := by
  obtain ⟨y, m, d, hy, isDay, rfl⟩ := isDay
  obtain ⟨lowM, highM, lowD, highD, most⟩ := small_of_isDay isDay
  obtain ⟨low, high, day, length⟩ := isDay_of_isProper h
  have few := daysIn_le p.year (p.month.getD 1)
  rw [begins_iff h hy (by omega) (by omega), ← String.not_lt, ← String.not_lt, text_first, text_last]
  obtain ⟨y₀, month, day₀⟩ := p
  have year := h.year
  cases month with
  | none =>
    obtain rfl : day₀ = none := h.day rfl
    have december : daysIn y₀ 12 = 31 := by simp [daysIn]
    simp only [Option.getD_none, december]
    rw [dayText_lt_dayText_iff hy (by omega) (by omega) year (by omega) (by omega),
      dayText_lt_dayText_iff year (by omega) (by omega) hy (by omega) (by omega)]
    simp only [Option.not_mem_none, false_imp_iff, implies_true, and_true]
    omega
  | some m₀ =>
    have most₀ := daysIn_le y₀ m₀
    simp only [Option.getD_some] at low high length few ⊢
    cases day₀ with
    | none =>
      simp only [Option.getD_none]
      rw [dayText_lt_dayText_iff hy (by omega) (by omega) year (by omega) (by omega),
        dayText_lt_dayText_iff year (by omega) (by omega) hy (by omega) (by omega)]
      simp only [Option.mem_some_iff, forall_eq', Option.not_mem_none, false_imp_iff, implies_true, and_true]
      constructor
      · omega
      · rintro ⟨rfl, rfl⟩
        omega
    | some d₀ =>
      simp only [Option.getD_some] at day length ⊢
      rw [dayText_lt_dayText_iff hy (by omega) (by omega) year (by omega) (by omega),
        dayText_lt_dayText_iff year (by omega) (by omega) hy (by omega) (by omega)]
      simp only [Option.mem_some_iff, forall_eq']
      omega

theorem isDayText_first (h : p.IsProper) : IsDayText p.first.text :=
  ⟨_, _, _, h.year, (isProper_first h).real, text_first p⟩

theorem isDayText_last (h : p.IsProper) : IsDayText p.last.text :=
  ⟨_, _, _, h.year, (isProper_last h).real, text_last p⟩

theorem first_le_last (h : p.IsProper) : p.first.text ≤ p.last.text := by
  obtain ⟨-, high, -, length⟩ := isDay_of_isProper h
  have few := daysIn_le p.year (p.month.getD 1)
  refine ((covers_iff h (isDayText_first h)).mpr ?_).2
  rw [text_first, begins_iff h h.year (by omega) (by omega)]
  refine ⟨rfl, fun month hm => ?_, fun day hd => ?_⟩
  · rw [Option.mem_def.mp hm, Option.getD_some]
  · rw [Option.mem_def.mp hd, Option.getD_some]

end Period

/-! ### Days stand for themselves -/

namespace Period

theorem le_of_part? {cs : List (List Char)} {part : Option Nat} (read : part? cs = some part) :
    ∀ n ∈ part, n ≤ partLimit := by
  intro n hn
  obtain rfl := Option.mem_def.mp hn
  cases cs with
  | nil => cases read
  | cons c rest =>
    obtain ⟨m, number, same⟩ := Option.map_eq_some_iff.mp read
    obtain rfl := Option.some.inj same
    exact le_of_read? number

theorem isReadable_of_parse? {s : String} {p : Period} (h : parse? s = some p) : p.IsReadable := by
  unfold parse? at h
  split at h
  · cases h
  · rename_i year rest _
    obtain ⟨y, hy, h⟩ := Option.bind_eq_some_iff.mp h
    obtain ⟨month, hm, h⟩ := Option.bind_eq_some_iff.mp h
    obtain ⟨day, hd, h⟩ := Option.bind_eq_some_iff.mp h
    obtain rfl := Option.some.inj h
    refine ⟨le_of_read? hy, le_of_part? hm, le_of_part? hd, ?_⟩
    rintro rfl
    cases rest with
    | nil => exact (Option.some.inj hd).symm
    | cons c rest =>
      obtain ⟨m, -, same⟩ := Option.map_eq_some_iff.mp hm
      cases same

end Period

/-- Whether a text is read as a day, of the calendar or not. -/
def ReadsDay (s : String) : Prop :=
  ∃ y m d, Period.parse? s = some { year := y, month := some m, day := some d }

theorem ReadsDay.firstDay_eq {s : String} (h : ReadsDay s) : firstDay s = s := by
  obtain ⟨y, m, d, read⟩ := h
  rw [firstDay, read]

theorem ReadsDay.lastDay_eq {s : String} (h : ReadsDay s) : lastDay s = s := by
  obtain ⟨y, m, d, read⟩ := h
  rw [lastDay, read]

theorem readsDay_written {y m d : Nat} (hy : y ≤ Period.yearLimit) (hm : m ≤ Period.partLimit)
    (hd : d ≤ Period.partLimit) {year : List Char} (undashed : ∀ c ∈ year, (c == '-') = false)
    (read : read? Period.yearLimit year = some y) :
    ReadsDay (String.ofList (year ++ '-' :: padded 2 m ++ '-' :: padded 2 d)) := by
  have readable : Period.IsReadable { year := y, month := some m, day := some d } :=
    ⟨hy, fun _ same => Option.some.inj same ▸ hm, fun _ same => Option.some.inj same ▸ hd,
      fun none => absurd none (Option.some_ne_none m)⟩
  have written := Period.parse?_written readable undashed read
  refine ⟨y, m, d, ?_⟩
  rw [← written]
  simp [Period.tail]

theorem read?_yearText {y : Nat} (h : y ≤ Period.yearLimit) :
    read? Period.yearLimit (yearText y) = some y := by
  unfold yearText
  split
  · exact read?_padded h
  · rw [read?, digits?_padded, Option.filter_some, if_pos (decide_eq_true h)]

theorem not_dash_of_mem_yearText {y : Nat} : ∀ c ∈ yearText y, (c == '-') = false := by
  have digits : ∀ c ∈ padded 4 y, (c == '-') = false :=
    Period.not_dash_of_isDigit isDigit_of_mem_padded
  unfold yearText
  split
  · exact digits
  · exact List.forall_mem_cons.mpr ⟨rfl, digits⟩

theorem firstDay_cases (s : String) : firstDay s = s ∨ ReadsDay (firstDay s) := by
  cases read : Period.parse? s with
  | none =>
    left
    rw [firstDay, read]
  | some p =>
    obtain ⟨year, month, -, -⟩ := Period.isReadable_of_parse? read
    obtain ⟨y, m, d⟩ := p
    have undashed : ∀ c ∈ padded 4 y, (c == '-') = false :=
      Period.not_dash_of_isDigit isDigit_of_mem_padded
    have first : padded 2 1 = ['0', '1'] := padded_two (by decide)
    have small : 1 ≤ Period.partLimit := by decide
    cases m with
    | none =>
      right
      simpa [firstDay, read, first] using readsDay_written year small small undashed (read?_padded year)
    | some m =>
      cases d with
      | none =>
        right
        simpa [firstDay, read, first] using
          readsDay_written year (month m rfl) small undashed (read?_padded year)
      | some d =>
        left
        rw [firstDay, read]

theorem lastDay_cases (s : String) : lastDay s = s ∨ ReadsDay (lastDay s) := by
  cases read : Period.parse? s with
  | none =>
    left
    rw [lastDay, read]
  | some p =>
    obtain ⟨year, month, -, -⟩ := Period.isReadable_of_parse? read
    obtain ⟨y, m, d⟩ := p
    cases m with
    | none =>
      right
      have undashed : ∀ c ∈ padded 4 y, (c == '-') = false :=
        Period.not_dash_of_isDigit isDigit_of_mem_padded
      have december : padded 2 12 = ['1', '2'] := padded_two (by decide)
      have last : padded 2 31 = ['3', '1'] := padded_two (by decide)
      have written := readsDay_written (m := 12) (d := 31) year (by decide) (by decide) undashed
        (read?_padded year)
      simpa [lastDay, read, december, last] using written
    | some m =>
      cases d with
      | none =>
        by_cases real : isDay y m 1 ∧ ¬(y = lastYear ∧ m = 12)
        · right
          have length : daysIn y m ≤ Period.partLimit := Nat.le_trans (daysIn_le y m) (by decide)
          have written := readsDay_written year (month m rfl) length not_dash_of_mem_yearText
            (read?_yearText year)
          rw [lastDay, read]
          simp only [if_pos real]
          exact written
        · left
          rw [lastDay, read]
          exact if_neg real
      | some d =>
        left
        rw [lastDay, read]

theorem firstDay_firstDay (s : String) : firstDay (firstDay s) = firstDay s := by
  rcases firstDay_cases s with same | day
  · rw [same, same]
  · exact day.firstDay_eq

theorem lastDay_lastDay (s : String) : lastDay (lastDay s) = lastDay s := by
  rcases lastDay_cases s with same | day
  · rw [same, same]
  · exact day.lastDay_eq

end FacetSearch.Calendar
