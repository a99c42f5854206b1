import FacetSearch.Catalogue.Basic
import FacetSearch.Proofs.Text.Parts

/-!
# Addresses of identifiers

An identifier that was turned into an address under a host that begins like an address is not turned
into another one, and under a host without commas a list of such addresses can be taken apart again.
-/

namespace FacetSearch

open Text

def isAddress (s : String) : Bool := startsWith "http://" s || startsWith "https://" s

/-- A host whose addresses are taken for addresses and can stand in a list. -/
structure IsAbsolute (apiHost : String) : Prop where
  address : isAddress (trimEnd '/' apiHost) = true
  single : ',' ∉ apiHost.toList

theorem startsWith_append {beginning s t : String} (h : startsWith beginning s = true) :
    startsWith beginning (s ++ t) = true := by
  rw [startsWith, List.isPrefixOf_iff_prefix] at h ⊢
  rw [String.toList_append]
  exact h.trans (List.prefix_append s.toList t.toList)

theorem isAddress_append {s t : String} (h : isAddress s = true) : isAddress (s ++ t) = true := by
  rw [isAddress, Bool.or_eq_true] at h ⊢
  rcases h with h | h
  · exact Or.inl (startsWith_append h)
  · exact Or.inr (startsWith_append h)

theorem head?_of_isAddress {s : String} (h : isAddress s = true) : s.toList.head? = some 'h' := by
  rw [isAddress, Bool.or_eq_true, startsWith, startsWith, List.isPrefixOf_iff_prefix,
    List.isPrefixOf_iff_prefix] at h
  rcases h with ⟨rest, same⟩ | ⟨rest, same⟩
  · rw [← same]
    rfl
  · rw [← same]
    rfl

theorem ne_empty_of_isAddress {s : String} (h : isAddress s = true) : s ≠ "" := by
  rintro rfl
  exact absurd (head?_of_isAddress h) (by simp)

theorem mem_trimStart {c d : Char} {s : String} (h : c ∈ (trimStart d s).toList) : c ∈ s.toList := by
  rw [trimStart, String.toList_ofList] at h
  exact (List.dropWhile_suffix _).subset h

theorem getLast?_of_trimStart {c d : Char} {s : String}
    (h : (trimStart d s).toList.getLast? = some c) : s.toList.getLast? = some c := by
  rw [trimStart, String.toList_ofList] at h
  rw [← List.takeWhile_append_dropWhile (p := (· == d)) (l := s.toList), List.getLast?_append, h]
  rfl

theorem mem_trimEnd {c d : Char} {s : String} (h : c ∈ (trimEnd d s).toList) : c ∈ s.toList := by
  rw [trimEnd, String.toList_ofList, List.mem_reverse] at h
  exact List.mem_reverse.mp ((List.dropWhile_suffix _).subset h)

namespace Rules

variable {rules : Rules} {path value : String}

theorem expandUri_of_isAddress (h : isAddress value = true) : rules.expandUri path value = value :=
  if_pos h

theorem expandUri_of_not (h : isAddress value = false) :
    rules.expandUri path value = trimEnd '/' rules.apiHost ++
      ("/" ++ trimStart '/' (trimEnd '/' path) ++ "/" ++ trimStart '/' value) := by
  rw [isAddress] at h
  rw [expandUri, h]
  simp only [Bool.false_eq_true, if_false, String.append_assoc]

theorem isAddress_expandUri (absolute : IsAbsolute rules.apiHost) :
    isAddress (rules.expandUri path value) = true := by
  cases h : isAddress value with
  | true => rwa [expandUri_of_isAddress h]
  | false =>
    rw [expandUri_of_not h]
    exact isAddress_append absolute.address

theorem expandUri_expandUri (absolute : IsAbsolute rules.apiHost) :
    rules.expandUri path (rules.expandUri path value) = rules.expandUri path value :=
  expandUri_of_isAddress (isAddress_expandUri absolute)

theorem not_mem_expandUri (single : ',' ∉ rules.apiHost.toList) (inPath : ',' ∉ path.toList)
    (inValue : ',' ∉ value.toList) : ',' ∉ (rules.expandUri path value).toList := by
  cases h : isAddress value with
  | true => rwa [expandUri_of_isAddress h]
  | false =>
    rw [expandUri_of_not h]
    simp only [String.toList_append, List.mem_append, not_or]
    have slash : ',' ∉ "/".toList := by decide
    exact ⟨fun hc => single (mem_trimEnd hc), ⟨⟨slash, fun hc =>
      inPath (mem_trimEnd (mem_trimStart hc))⟩, slash⟩, fun hc => inValue (mem_trimStart hc)⟩

/-- An address holds a letter or a slash, whatever the identifier. -/
theorem exists_visible_expandUri (rules : Rules) (path value : String) :
    ∃ c ∈ (rules.expandUri path value).toList, isBlank c = false ∧ c ≠ ',' := by
  cases h : isAddress value with
  | true =>
    rw [expandUri_of_isAddress h]
    exact ⟨'h', List.mem_of_mem_head? (head?_of_isAddress h), by decide⟩
  | false =>
    rw [expandUri_of_not h]
    exact ⟨'/', by simp [String.toList_append], by decide⟩

theorem trimmed_expandUri (absolute : IsAbsolute rules.apiHost) (trimmed : Trimmed value) :
    Trimmed (rules.expandUri path value) := by
  cases h : isAddress value with
  | true => rwa [expandUri_of_isAddress h]
  | false =>
    rw [expandUri_of_not h, trimmed_iff, String.toList_append]
    have last := (trimmed_iff.mp trimmed).2
    have filled := toList_ne_nil (ne_empty_of_isAddress absolute.address)
    refine bare_append ?_ ?_ filled (by simp)
    · intro c hc
      rw [head?_of_isAddress absolute.address] at hc
      obtain rfl := Option.some.inj hc
      decide
    · intro c hc
      rw [String.toList_append, List.getLast?_append] at hc
      cases ended : (trimStart '/' value).toList.getLast? with
      | none =>
        rw [ended, Option.none_or, String.toList_append, List.getLast?_append] at hc
        obtain rfl : '/' = c := Option.some.inj hc
        decide
      | some d =>
        rw [ended, Option.some_or] at hc
        obtain rfl := Option.some.inj hc
        exact last d (getLast?_of_trimStart ended)

end Rules

end FacetSearch
