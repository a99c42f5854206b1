import FacetSearch.Text.Split

/-!
# Letters of any script in host names

A label with letters beyond ASCII is written as its ASCII letters, a hyphen, and the others as
differences in base 36: which code point comes next and how many places further on.
-/

namespace FacetSearch.Url.Punycode

def digit (n : Nat) : Char :=
  Char.ofNat (if n < 26 then 0x61 + n else 0x30 + (n - 26))

/-- From which value a digit at position `k` (a multiple of 36) is not the last. -/
def threshold (k bias : Nat) : Nat :=
  max 1 (min 26 (k - bias))

/-- Halves a difference until it is small; the number of rounds times 36 is added to `k`. -/
def settle (delta k : Nat) : Nat × Nat :=
  if 455 < delta then settle (delta / 35) (k + 36) else (delta, k)
termination_by delta

/-- The bias after a difference, when `count` code points have been written. -/
def adapt (delta count : Nat) (first : Bool) : Nat :=
  let delta := if first then delta / 700 else delta / 2
  let (delta, k) := settle (delta + delta / count) 0
  k + 36 * delta / (delta + 38)

def digits (bias k q : Nat) : List Char :=
  let t := threshold k bias
  if q < t then [digit q]
  else digit (t + (q - t) % (36 - t)) :: digits bias (k + 36) ((q - t) / (36 - t))
termination_by q
decreasing_by
  have ht : 1 ≤ threshold k bias := by unfold threshold; omega
  exact Nat.lt_of_le_of_lt (Nat.div_le_self _ _) (by omega)

/-- What has been written, the difference since, and how many code points are done. -/
structure Progress where
  written : List Char
  delta : Nat
  bias : Nat
  done : Nat

/-- Goes past one character of the label while the code point `n` is being written. -/
def pass (plain n : Nat) (p : Progress) (c : Char) : Progress :=
  if c.toNat < n then { p with delta := p.delta + 1 }
  else if c.toNat = n then
    { written := p.written ++ digits p.bias 36 p.delta
      delta := 0
      bias := adapt p.delta (p.done + 1) (p.done == plain)
      done := p.done + 1 }
  else p

/-- Writes the code points in rising order; `previous` is the one before them. -/
def writeAll (label : List Char) (plain : Nat) : Nat → List Nat → Progress → Progress
  | _, [], p => p
  | previous, n :: rest, p =>
    let jumped := { p with delta := p.delta + (n - previous) * (p.done + 1) }
    let passed := label.foldl (pass plain n) jumped
    writeAll label plain (n + 1) rest { passed with delta := passed.delta + 1 }

/-- The label in ASCII, without the mark that tells such labels apart. -/
def encode (label : List Char) : List Char :=
  let ascii := label.filter fun c => c.toNat < 128
  let others := ((label.map Char.toNat).filter (128 ≤ ·)).eraseDups.mergeSort
  let start := if ascii.isEmpty then [] else ascii ++ ['-']
  (writeAll label ascii.length 128 others ⟨start, 0, 72, ascii.length⟩).written

/-! ### Reading labels -/

def value? (c : Char) : Option Nat :=
  if c.isDigit then some (c.toNat - 0x30 + 26)
  else if c.isLower then some (c.toNat - 0x61)
  else none

/-- The label so far, where the last code point went, and the difference being read. -/
structure Unfolding where
  label : List Char
  code : Nat := 128
  bias : Nat := 72
  start : Nat := 0
  delta : Nat := 0
  weight : Nat := 1
  k : Nat := 36

/-- Puts the next code point in its place; `delta` counts the places gone by, round after round. -/
def place? (u : Unfolding) (delta : Nat) : Option Unfolding :=
  let count := u.label.length + 1
  let code := u.code + delta / count
  let here := delta % count
  if code.isValidChar then
    some { label := u.label.take here ++ Char.ofNat code :: u.label.drop here
           code
           bias := adapt (delta - u.start) count (u.start == 0)
           start := here + 1
           delta := here + 1 }
  else none

def advance? (u : Unfolding) (c : Char) : Option Unfolding := do
  let d ← value? c
  let delta := u.delta + d * u.weight
  let t := threshold u.k u.bias
  if d < t then place? u delta
  else some { u with delta, weight := u.weight * (36 - t), k := u.k + 36 }

/-- What stands before the last hyphen, and what stands behind it. -/
def parts (label : List Char) : List Char × List Char :=
  match Text.cutAt '-' label.reverse with
  | some (after, before) => (before.reverse, after.reverse)
  | none => ([], label)

def decode? (text : List Char) : Option (List Char) := do
  let (ascii, differences) := parts text
  let u ← differences.foldlM advance? { label := ascii }
  if u.k = 36 then some u.label else none

end FacetSearch.Url.Punycode
