import FacetSearch.Clause.Basic
import FacetSearch.Parameter.Control
import FacetSearch.Text.Letters

/-!
# Free text

The first words of a text must all occur somewhere in the searched fields. Records in which the text
occurs as a phrase, in one of the strongest fields, come first.
-/

namespace FacetSearch.Clause

def requiredWords : Nat := 5

def phraseWords : Nat := 10

def phraseFields : Nat := 2

/-- Whether a restricting path, in small letters, names a field: in full, by its beginning or by its
end. -/
def namesField (wanted : String) (field : WeightedField) : Bool :=
  let path := Text.lower field.path
  path == wanted || Text.startsWith (wanted ++ ".") path || Text.endsWith ("." ++ wanted) path

/-- The fields that a restriction leaves; one that leaves none is no restriction. -/
def selectFields (fields : List WeightedField) (restriction : List String) : List WeightedField :=
  let left := fields.filter fun f => restriction.any fun wanted => namesField (Text.lower wanted) f
  if left.isEmpty || restriction.any (Text.sameWord · Control.allFields) then fields else left

/-- The fields from the strongest down; equally strong ones keep their order. -/
def strongest (fields : List WeightedField) : List WeightedField :=
  fields.mergeSort fun a b => b.boost.le a.boost

def textWords (text : String) : List String :=
  Text.words (fun c => Text.isBlank c || c == ',') text

/-- The clause of a free text, if it has words; a star stands for everything. -/
def freeText? (fields : List WeightedField) (text : String) (restriction : List String) :
    Option Clause :=
  if Text.trim text = "*" then some everything
  else match textWords (Text.trim text) with
    | [] => none
    | found =>
      let selected := selectFields fields restriction
      let sought := Text.join " " (found.take phraseWords)
      some (preferring
        [acrossFields (Text.join " " (found.take requiredWords)) selected]
        (((strongest selected).take phraseFields).map fun f => phrase f.path sought f.boost))

end FacetSearch.Clause
