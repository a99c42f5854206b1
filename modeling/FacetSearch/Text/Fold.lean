import FacetSearch.Text.Lowercase

/-!
# Case folding

Two characters differ in case alone when their folded forms agree. Folding maps one character to
one; besides the capitals it folds some small letters, such as the long s.
-/

namespace FacetSearch.Text

/-- Characters whose folded form is not their small letter. -/
def foldedRuns : List (Nat × Nat × Nat × Nat) := [
    (0xB5, 0xB5, 1, 0x3BC), (0x17F, 0x17F, 1, 0x73), (0x345, 0x345, 1, 0x3B9),
    (0x3C2, 0x3C2, 1, 0x3C3), (0x3D0, 0x3D0, 1, 0x3B2), (0x3D1, 0x3D1, 1, 0x3B8),
    (0x3D5, 0x3D5, 1, 0x3C6), (0x3D6, 0x3D6, 1, 0x3C0), (0x3F0, 0x3F0, 1, 0x3BA),
    (0x3F1, 0x3F1, 1, 0x3C1), (0x3F5, 0x3F5, 1, 0x3B5), (0x13A0, 0x13EF, 1, 0x13A0),
    (0x13F8, 0x13FD, 1, 0x13F0), (0x1C80, 0x1C80, 1, 0x432), (0x1C81, 0x1C81, 1, 0x434),
    (0x1C82, 0x1C82, 1, 0x43E), (0x1C83, 0x1C84, 1, 0x441), (0x1C85, 0x1C85, 1, 0x442),
    (0x1C86, 0x1C86, 1, 0x44A), (0x1C87, 0x1C87, 1, 0x463), (0x1C88, 0x1C88, 1, 0xA64B),
    (0x1E9B, 0x1E9B, 1, 0x1E61), (0x1FBE, 0x1FBE, 1, 0x3B9), (0x1FD3, 0x1FD3, 1, 0x390),
    (0x1FE3, 0x1FE3, 1, 0x3B0), (0xAB70, 0xABBF, 1, 0x13A0), (0xFB05, 0xFB05, 1, 0xFB06)]

/-- The representative of all characters that differ in case alone. -/
def fold (c : Char) : Char :=
  if c.toNat < 0x80 then c.toLower
  else match imageIn foldedRuns c.toNat with
    | some code => Char.ofNat code
    | none => smallLetter c

def sourcesIn (runs : List (Nat × Nat × Nat × Nat)) (code : Nat) : List Nat :=
  runs.filterMap fun (first, last, step, target) =>
    if target ≤ code && first + (code - target) ≤ last && (code - target) % step == 0 then
      some (first + (code - target))
    else none

/-- Every character that differs from `c` in case alone, and `c`. -/
def variants (c : Char) : List Char :=
  let folded := fold c
  folded :: ((sourcesIn capitalRuns folded.toNat ++ sourcesIn foldedRuns folded.toNat).map
    Char.ofNat).filter (fold · == folded)

end FacetSearch.Text
