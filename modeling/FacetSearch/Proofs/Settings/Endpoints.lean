import FacetSearch.Proofs.Links.Pairs
import FacetSearch.Proofs.Settings.Faults
import FacetSearch.Proofs.Url.Extension
import FacetSearch.Service.Search

/-!
# The addresses of endpoints

Links start with the address of an endpoint: the public address of the settings with the path of the
endpoint behind it. Before the service starts the public address is read by itself, which does not say
what becomes of a path behind it. The path is found at the end of the endpoint's address where the
public one has neither query nor fragment and nothing at its end that the path changes the meaning of;
behind a query or fragment it is lost.
-/

namespace FacetSearch

open Url Url.Parser
open Service (endpointPath)

variable {s : Settings}

/-! ### Links on an address -/

/-- A link with pairs on it leads to the address itself, unless blanks at the end of its path are
dropped. -/
theorem Url.withPairs_unqueried {u : Url} (ended : ∀ c ∈ u.path.text.toList.getLast?, c ≠ ' ')
    (query : u.query = none) (pairs : List (String × String)) :
    { u.withPairs pairs with query := none } = u := by
  have dropped : ∀ text, u.path = .plain text → Text.trimEnd ' ' text = text := by
    intro text shape
    rw [shape] at ended
    exact Text.trimEnd_eq_self ended
  have same : { u with query := none } = u := by rw [← query]
  unfold withPairs
  split
  · split
    · rename_i text shape _
      rw [dropped text shape, ← shape]
      exact same
    · exact same
  · exact same

/-! ### Endpoints -/

def endpointWords : DocumentType → List String
  | .publication => ["search", "resources"]
  | .ticket => ["search", "tickets"]
  | .importCandidate => ["search", "import-candidates"]

theorem arePlain_endpointWords (dt : DocumentType) : ArePlain (endpointWords dt) := by
  have solid : (written (endpointWords dt)).all (!isPadding ·) = true := by cases dt <;> decide
  refine ⟨?_, ?_, ?_, by simpa using solid, ?_⟩ <;> cases dt <;> decide

theorem toList_endpointPath (dt : DocumentType) : (endpointPath dt).toList = written (endpointWords dt) := by
  cases dt <;> rfl

theorem Settings.toList_endpoint (s : Settings) (dt : DocumentType) :
    (Text.trimEnd '/' s.baseUrl ++ "/" ++ Text.trimStart '/' (endpointPath dt)).toList =
      (Text.trimEnd '/' s.baseUrl).toList ++ written (endpointWords dt) := by
  rw [String.toList_append, String.toList_append, List.append_assoc]
  cases dt <;> rfl

theorem Settings.exists_baseUrl (sound : s.faults = []) : ∃ base, Url.parse s.baseUrl = .ok base := by
  have read := (faults_eq_nil_iff.mp sound).2.2.2.2.1
  cases outcome : Url.parse s.baseUrl with
  | ok base => exact ⟨base, rfl⟩
  | error e =>
    rw [isUrl, outcome] at read
    cases read

/-- A query or fragment of the public address goes on behind it and takes the path in. Without either,
and with an end that a path can be written behind, the path is the end of the endpoint's address, which
has neither as well; and the links of a page are that address apart from their queries. -/
theorem Settings.endpointUrl_below (s : Settings) (sound : s.faults = []) (dt : DocumentType) :
    (('?' ∈ s.baseUrl.toList ∨ '#' ∈ s.baseUrl.toList) →
      ∀ u, s.endpointUrl (endpointPath dt) = .ok u → u.query ≠ none ∨ u.fragment ≠ none) ∧
    ('?' ∉ s.baseUrl.toList → '#' ∉ s.baseUrl.toList →
      Closed (Text.trimEnd '/' s.baseUrl).toList →
      ∃ base u, Url.parse s.baseUrl = .ok base ∧ s.endpointUrl (endpointPath dt) = .ok u ∧
        u.scheme = base.scheme ∧
        (isSpecial base.scheme = true → base.scheme ≠ "file" → u.authority = base.authority) ∧
        Text.endsWith (endpointPath dt) u.path.text = true ∧ u.query = none ∧ u.fragment = none ∧
        ∀ pairs w hits last, ∀ link ∈ (Linker.links ⟨u, pairs⟩ w hits last).all,
          { link with query := none } = u) := by
  obtain ⟨slashes, all, shown⟩ := Text.exists_trimEnd '/' s.baseUrl
  have further := s.toList_endpoint dt
  have kept : ∀ mark, mark ≠ '/' → mark ∈ s.baseUrl.toList →
      mark ∈ (Text.trimEnd '/' s.baseUrl).toList := by
    intro mark other member
    rw [shown, List.mem_append] at member
    exact member.resolve_right fun slash => other (all mark slash)
  refine ⟨fun marked u read => ?_, fun query fragment closed => ?_⟩
  · by_contra bare
    obtain ⟨query, fragment⟩ := not_or.mp bare
    have unmarked := unmarked_of_parse read (Classical.not_not.mp query) (Classical.not_not.mp fragment)
    rw [further, List.mem_append, List.mem_append] at unmarked
    rcases marked with marked | marked
    · exact unmarked.1 (Or.inl (kept '?' (by decide) marked))
    · exact unmarked.2 (Or.inl (kept '#' (by decide) marked))
  · -- The slashes at the end of the public address make room for those of the path.
    have plain := arePlain_endpointWords dt
    obtain ⟨base, read⟩ := exists_baseUrl sound
    have within : ∀ mark, mark ∉ s.baseUrl.toList → mark ∉ (Text.trimEnd '/' s.baseUrl).toList :=
      fun mark absent member => absent (shown ▸ List.mem_append_left slashes member)
    obtain ⟨u, found, scheme, ends, noQuery, noFragment, authority⟩ :=
      parse_extended plain all closed
        ⟨within '?' query, within '#' fragment⟩ shown further read
    refine ⟨base, u, read, found, scheme, authority, ?_, noQuery, noFragment, ?_⟩
    · rw [Text.endsWith, List.isSuffixOf_iff_suffix, toList_endpointPath]
      exact ends
    · intro pairs w hits last link member
      obtain ⟨changed, rfl⟩ := Linker.exists_of_mem_all member
      exact Url.withPairs_unqueried (fun c hc same => by
        rw [same] at hc
        exact absurd (ends.solid plain ' ' hc) (by decide)) noQuery changed

theorem Settings.endpointUrl_below_unchosen :
    ∃ u, Settings.endpointUrl {} (endpointPath .ticket) = .ok u ∧
      Text.endsWith "/search/tickets" u.path.text = true ∧ u.query = none ∧ u.fragment = none := by
  obtain ⟨base, u, read, found, scheme, authority, ends, query, fragment, -⟩ :=
    (Settings.endpointUrl_below {} ((Settings.faults_sizes none 1000).mpr (by simp)) .ticket).2
      (by decide) (by decide) (by decide)
  exact ⟨u, found, ends, query, fragment⟩

/-- Behind a query the path of the endpoint is lost, and behind a blank it cannot be read. -/
theorem Settings.endpointUrl_lost :
    Settings.faults { baseUrl := "https://api.test?x=1" } = [] ∧
    Settings.endpointUrl { baseUrl := "https://api.test?x=1" } (endpointPath .ticket) = .ok
      { scheme := "https", authority := some { host := "api.test" }, path := .segments [""]
        query := some "x=1/search/tickets" } ∧
    Settings.faults { baseUrl := "https://api.test " } = [] ∧
    Settings.endpointUrl { baseUrl := "https://api.test " } (endpointPath .ticket) =
      .error .invalidInternationalName := by
  rw [Settings.faults_baseUrl, Settings.faults_baseUrl]
  refine ⟨?_, ?_, ?_, ?_⟩ <;> decide +kernel

end FacetSearch
