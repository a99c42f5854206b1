/-!
# Letter case in ASCII

Words of the interface (`asc`, `all`, media types, field paths) are compared without regard to the
case of ASCII letters; other letters are compared as they are.
-/

namespace FacetSearch.Text

def lower (s : String) : String :=
  String.ofList (s.toList.map Char.toLower)

def sameWord (a b : String) : Bool :=
  a.toList.map Char.toLower == b.toList.map Char.toLower

theorem sameWord_iff {a b : String} : sameWord a b = true ↔ lower a = lower b := by
  simp [sameWord, lower, String.ofList_inj]

end FacetSearch.Text
