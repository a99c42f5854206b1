/-!
# Texts as bytes

Texts travel as UTF-8. Reading is strict where a malformed byte makes the whole unreadable, and
lenient where each malformed sequence stands for one replacement character.
-/

namespace FacetSearch.Text.Utf8

def bytes (s : String) : List UInt8 :=
  s.toUTF8.data.toList

def text? (bs : List UInt8) : Option String :=
  String.fromUTF8? ⟨bs.toArray⟩

theorem text?_bytes (s : String) : text? (bytes s) = some s := by
  simp [text?, bytes, String.fromUTF8?, String.toUTF8, s.isValidUTF8]
  rfl

/-- A sequence begun but not ended: the bytes still to come, the bounds of the next one and the
code point so far. -/
structure Pending where
  missing : Nat
  low : Nat
  high : Nat
  code : Nat

/-- What a first byte begins: a character of its own, a longer sequence, or nothing. -/
def lead (b : Nat) : Option Char × Option Pending :=
  if b < 0x80 then (some (Char.ofNat b), none)
  else if 0xC2 ≤ b ∧ b ≤ 0xDF then (none, some ⟨1, 0x80, 0xBF, b % 0x20⟩)
  else if 0xE0 ≤ b ∧ b ≤ 0xEF then
    (none, some ⟨2, if b = 0xE0 then 0xA0 else 0x80, if b = 0xED then 0x9F else 0xBF, b % 0x10⟩)
  else if 0xF0 ≤ b ∧ b ≤ 0xF4 then
    (none, some ⟨3, if b = 0xF0 then 0x90 else 0x80, if b = 0xF4 then 0x8F else 0xBF, b % 0x08⟩)
  else (some '\uFFFD', none)

/-- Lenient reading. A byte that does not continue the sequence begun ends it with one
replacement character and is then read afresh. -/
def decodeFrom : Option Pending → List UInt8 → List Char
  | none, [] => []
  | some _, [] => ['\uFFFD']
  | none, b :: rest =>
    match lead b.toNat with
    | (some c, next) => c :: decodeFrom next rest
    | (none, next) => decodeFrom next rest
  | some p, b :: rest =>
    if p.low ≤ b.toNat ∧ b.toNat ≤ p.high then
      let code := p.code * 0x40 + b.toNat % 0x40
      if p.missing ≤ 1 then Char.ofNat code :: decodeFrom none rest
      else decodeFrom (some ⟨p.missing - 1, 0x80, 0xBF, code⟩) rest
    else
      match lead b.toNat with
      | (some c, next) => '\uFFFD' :: c :: decodeFrom next rest
      | (none, next) => '\uFFFD' :: decodeFrom next rest

/-- The text that these bytes spell, with replacement characters for what is malformed. -/
def textLossy (bs : List UInt8) : String :=
  String.ofList (decodeFrom none bs)

end FacetSearch.Text.Utf8
