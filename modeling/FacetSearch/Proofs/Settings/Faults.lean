import FacetSearch.Settings.Basic

/-!
# What settings are checked for

Nothing is wrong with settings exactly if they pass each check by itself.
-/

namespace FacetSearch.Settings

theorem pageSizeFault?_eq_none_iff {s : Settings} : s.pageSizeFault? = none ↔
    ∀ size, s.defaultPageSize = some size → size ≠ 0 ∧ size ≤ s.maxPageSize := by
  unfold pageSizeFault?
  cases s.defaultPageSize with
  | none => simp
  | some size =>
    by_cases empty : size = 0
    · simp [empty]
    · simp [empty]

theorem faults_eq_nil_iff {s : Settings} : s.faults = [] ↔
    s.port ≠ 0 ∧ s.requestTimeout ≠ 0 ∧ s.maxPageSize ≠ 0 ∧
      (∀ size, s.defaultPageSize = some size → size ≠ 0 ∧ size ≤ s.maxPageSize) ∧
      isUrl s.baseUrl = true ∧ isUrl s.apiHost = true ∧ s.nodeList ≠ [] := by
  rw [← pageSizeFault?_eq_none_iff]
  simp [faults, Option.toList_eq_nil_iff]

/-! ### Settings that choose little -/

theorem isUrl_baseUrl : isUrl (baseUrl {}) = true := by decide +kernel

theorem isUrl_apiHost : isUrl (apiHost {}) = true := by decide +kernel

theorem nodeList_ne_nil : nodeList {} ≠ [] := by decide

theorem port_ne_zero : port {} ≠ 0 := by decide

theorem requestTimeout_ne_zero : requestTimeout {} ≠ 0 := by decide

theorem faults_sizes (own : Option Nat) (largest : Nat) :
    faults { defaultPageSize := own, maxPageSize := largest } = [] ↔
      largest ≠ 0 ∧ ∀ size, own = some size → size ≠ 0 ∧ size ≤ largest := by
  rw [faults_eq_nil_iff]
  exact ⟨fun ⟨_, _, filled, fits, _⟩ => ⟨filled, fits⟩, fun ⟨filled, fits⟩ =>
    ⟨port_ne_zero, requestTimeout_ne_zero, filled, fits, isUrl_baseUrl, isUrl_apiHost,
      nodeList_ne_nil⟩⟩

theorem faults_baseUrl (url : String) : faults { baseUrl := url } = [] ↔ isUrl url = true := by
  rw [faults_eq_nil_iff]
  have fits : ∀ size, defaultPageSize {} = some size → size ≠ 0 ∧ size ≤ maxPageSize {} :=
    fun _ own => nomatch own
  exact ⟨fun ⟨_, _, _, _, read, _⟩ => read, fun read =>
    ⟨port_ne_zero, requestTimeout_ne_zero, Nat.succ_ne_zero 999, fits, read, isUrl_apiHost,
      nodeList_ne_nil⟩⟩

end FacetSearch.Settings
