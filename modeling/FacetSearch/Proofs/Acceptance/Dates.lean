import FacetSearch.Proofs.Acceptance.Entries
import FacetSearch.Proofs.Calendar.Cover

/-!
# Partial dates in requests

A year or a month in a request stands for all of its days: the bounds that it is expanded to are the
first and the last of the days whose texts it begins, and they are not changed again.
-/

namespace FacetSearch

open Acceptance Calendar

def Catalogue.AcceptsDate (c : Catalogue) (p : Parameter) (v : String) : Prop :=
  c.acceptsValue p v = true ∧ isPeriod v = true

namespace Acceptance

variable {dt : DocumentType} {apiHost : String} {c : Catalogue} {p : Parameter} {v value : String}
  (h : c.IsFor dt apiHost) (listed : p ∈ dt.definition.allParameters) (date : p.kind = .date)
include h listed date

theorem acceptsDate_iff : c.AcceptsDate p v ↔ IsDate v := by
  rw [Catalogue.AcceptsDate, acceptsValue_date h listed date]
  exact Iff.rfl

theorem covers_of_acceptsDate (accepted : c.AcceptsDate p v) :
    IsDayText (firstDay v) ∧ IsDayText (lastDay v) ∧ firstDay v ≤ lastDay v ∧
      ∀ d, IsDayText d →
        (firstDay v ≤ d ∧ d ≤ lastDay v ↔ d = v ∨ (v ++ "-").toList <+: d.toList) := by
  obtain ⟨p, proper, rfl⟩ := isDate_iff.mp ((acceptsDate_iff h listed date).mp accepted)
  rw [firstDay_text proper, lastDay_text proper]
  exact ⟨Period.isDayText_first proper, Period.isDayText_last proper, Period.first_le_last proper,
    fun d day => Period.covers_iff proper day⟩

/-- An accepted pair is a period, or two of which one may be left open. -/
theorem between_of_sound (between : p.operator = .between) (sound : issue? c ⟨p, value⟩ = none) :
    (∃ v, p.elements value = [v] ∧ c.AcceptsDate p v ∧
      expandDates .between value = firstDay v ++ ":" ++ lastDay v) ∨
    ∃ a b, p.elements value = [a, b] ∧ (a ≠ "" ∨ b ≠ "") ∧
      (a ≠ "" → c.AcceptsDate p a) ∧ (b ≠ "" → c.AcceptsDate p b) ∧
      expandDates .between value =
        (if a = "" then "" else firstDay a) ++ ":" ++ (if b = "" then "" else lastDay b) := by
  have dates := isDate_of_sound (e := ⟨p, value⟩) h listed date sound
  obtain ⟨few, some⟩ := (countFault?_between between).mp (issue?_eq_none_iff.mp sound).1
  have elements : p.elements value = (Text.split ':' value).map Text.trim := by
    rw [Parameter.elements, between]
    rfl
  simp only [Entry.elements, elements] at few some dates ⊢
  simp only [acceptsDate_iff h listed date]
  rcases expandDates_cases few with ⟨v, parts, expanded⟩ | ⟨a, b, parts, expanded⟩
  · rw [parts] at some dates ⊢
    simp only [List.mem_singleton, exists_eq_left] at some
    exact Or.inl ⟨v, rfl, dates v List.mem_cons_self some, expanded⟩
  · rw [parts] at some dates ⊢
    simp only [List.mem_cons, List.not_mem_nil, or_false, exists_eq_or_imp, exists_eq_left] at some
    exact Or.inr ⟨a, b, rfl, some, dates a (by simp), dates b (by simp), expanded⟩

theorem expandDates_expandDates (sound : issue? c ⟨p, value⟩ = none) :
    expandDates p.operator (expandDates p.operator value) = expandDates p.operator value := by
  have plain := (regularDate (e := ⟨p, value⟩) listed date).2.1
  have settled := (isSettled_settleEntry_date (e := ⟨p, value⟩) h listed date sound).settled
  rw [settleEntry_of_date (e := ⟨p, value⟩) date plain, settleEntry_of_date
    (e := ⟨p, expandDates p.operator value⟩) date plain] at settled
  exact congrArg Entry.value settled

end Acceptance

/-- The bounds of an accepted date are days of the calendar, and between them stand exactly the days
that the date begins. A pair is bounded by the first day of its lower and the last day of its upper
period, which are one for a lone value, and a single bound is the first day of its period. None of
this changes when it is done once more. -/
theorem Catalogue.expandDates_covers {settings : Settings} {dt : DocumentType} {catalogue : Catalogue}
    (built : Service.buildCatalogue settings dt = .ok catalogue) {p : Parameter}
    (listed : p ∈ dt.definition.allParameters) (date : p.kind = .date) :
    (∀ v, catalogue.AcceptsDate p v →
      IsDayText (firstDay v) ∧ IsDayText (lastDay v) ∧ firstDay v ≤ lastDay v ∧
      ∀ d, IsDayText d →
        (firstDay v ≤ d ∧ d ≤ lastDay v ↔ d = v ∨ (v ++ "-").toList <+: d.toList)) ∧
    (∀ s, firstDay (firstDay s) = firstDay s ∧ lastDay (lastDay s) = lastDay s) ∧
    ∀ value, issue? catalogue ⟨p, value⟩ = none →
      expandDates p.operator (expandDates p.operator value) = expandDates p.operator value ∧
      (p.operator = .between ∧
          ((∃ v, p.elements value = [v] ∧ catalogue.AcceptsDate p v ∧
              expandDates .between value = firstDay v ++ ":" ++ lastDay v) ∨
            ∃ a b, p.elements value = [a, b] ∧ (a ≠ "" ∨ b ≠ "") ∧
              (a ≠ "" → catalogue.AcceptsDate p a) ∧ (b ≠ "" → catalogue.AcceptsDate p b) ∧
              expandDates .between value =
                (if a = "" then "" else firstDay a) ++ ":" ++ (if b = "" then "" else lastDay b)) ∨
        (p.operator = .atLeast ∨ p.operator = .below) ∧
          ∃ v, p.elements value = [v] ∧ catalogue.AcceptsDate p v ∧
            expandDates p.operator value = firstDay v) := by
  have h := Service.isFor_of_buildCatalogue built
  refine ⟨fun v accepted => covers_of_acceptsDate h listed date accepted,
    fun s => ⟨firstDay_firstDay s, lastDay_lastDay s⟩,
    fun value sound => ⟨expandDates_expandDates h listed date sound, ?_⟩⟩
  rcases (regularDate (e := ⟨p, value⟩) listed date).1 with between | single
  · exact Or.inl ⟨between, between_of_sound h listed date between sound⟩
  · obtain ⟨elements, isDate, expanded⟩ := single_of_sound (e := ⟨p, value⟩) h listed date single sound
    exact Or.inr ⟨single, _, elements, (acceptsDate_iff h listed date).mpr isDate, expanded⟩

/-- February 2024 as the creation of tickets. -/
theorem expandDates_covers_february :
    ∃ catalogue p, Service.buildCatalogue Settings.forTesting .ticket = .ok catalogue ∧
      p ∈ DocumentType.ticket.definition.allParameters ∧ p.kind = .date ∧
      issue? catalogue ⟨p, "2024-02"⟩ = none ∧
      expandDates p.operator (expandDates p.operator "2024-02") = expandDates p.operator "2024-02" ∧
      firstDay "2024-02" ≤ "2024-02-29" ∧ "2024-02-29" ≤ lastDay "2024-02" := by
  have evaluated : passes (Service.buildCatalogue Settings.forTesting .ticket) (fun catalogue =>
      DocumentType.ticket.definition.allParameters.any fun p => decide (p.kind = .date ∧
        issue? catalogue ⟨p, "2024-02"⟩ = none ∧ catalogue.acceptsValue p "2024-02" = true)) = true := by
    rw [Service.buildCatalogue_eq]
    decide +kernel
  obtain ⟨catalogue, built, found⟩ := exists_of_passes evaluated
  obtain ⟨p, listed, found⟩ := List.any_eq_true.mp found
  obtain ⟨date, sound, form⟩ := of_decide_eq_true found
  obtain ⟨covers, -, expands⟩ := Catalogue.expandDates_covers built listed date
  obtain ⟨-, -, -, days⟩ := covers "2024-02" ⟨form, by decide⟩
  have leapDay : IsDayText "2024-02-29" := ⟨2024, 2, 29, by decide, by decide, by decide +kernel⟩
  exact ⟨catalogue, p, built, listed, date, sound, (expands _ sound).1,
    (days _ leapDay).mpr (Or.inr (by decide))⟩

end FacetSearch
