/-!
# Splitting and joining

`split` cuts a text at every copy of a separator and `join` puts the parts together again.
`splitOnce` cuts at the first copy only.
-/

namespace FacetSearch.Text

/-- The parts between the characters that satisfy `p`; there is always at least one. -/
def splitWhere (p : Char → Bool) : List Char → List (List Char)
  | [] => [[]]
  | c :: rest =>
    if p c then [] :: splitWhere p rest
    else match splitWhere p rest with
      | [] => [[c]]
      | part :: parts => (c :: part) :: parts

def split (separator : Char) (s : String) : List String :=
  (splitWhere (· == separator) s.toList).map String.ofList

def join (separator : String) (parts : List String) : String :=
  String.ofList (separator.toList.intercalate (parts.map String.toList))

/-- What stands before and after the first copy of `separator`, if there is one. -/
def cutAt (separator : Char) : List Char → Option (List Char × List Char)
  | [] => none
  | c :: rest =>
    if c == separator then some ([], rest)
    else (cutAt separator rest).map fun (before, after) => (c :: before, after)

/-- What stands before and after the first copy of `separator` in a text. -/
def splitOnce (separator : Char) (s : String) : Option (String × String) :=
  (cutAt separator s.toList).map fun (before, after) => (String.ofList before, String.ofList after)

def words (p : Char → Bool) (s : String) : List String :=
  ((splitWhere p s.toList).filter (!·.isEmpty)).map String.ofList

def startsWith (beginning s : String) : Bool :=
  beginning.toList.isPrefixOf s.toList

def endsWith (ending s : String) : Bool :=
  ending.toList.isSuffixOf s.toList

def dropEnding (ending s : String) : String :=
  if endsWith ending s then String.ofList (s.toList.take (s.toList.length - ending.toList.length)) else s

theorem splitWhere_ne_nil (p : Char → Bool) (cs : List Char) : splitWhere p cs ≠ [] := by
  cases cs with
  | nil => simp [splitWhere]
  | cons c rest =>
    unfold splitWhere
    split
    · simp
    · split <;> simp

/-- No part holds a character that was split at. -/
theorem not_of_mem_splitWhere {p : Char → Bool} {cs part : List Char} (hp : part ∈ splitWhere p cs)
    {c : Char} (hc : c ∈ part) : p c = false := by
  induction cs generalizing part with
  | nil => simp [splitWhere] at hp; simp [hp] at hc
  | cons d rest ih =>
    unfold splitWhere at hp
    split at hp
    · rcases List.mem_cons.1 hp with rfl | hp
      · simp at hc
      · exact ih hp hc
    · rename_i hd
      split at hp
      · rename_i hs
        exact absurd hs (splitWhere_ne_nil p rest)
      · rename_i first others hs
        rcases List.mem_cons.1 hp with rfl | hp
        · rcases List.mem_cons.1 hc with rfl | hc
          · simpa using hd
          · exact ih (by simp [hs]) hc
        · exact ih (by simp [hs, hp]) hc

end FacetSearch.Text
