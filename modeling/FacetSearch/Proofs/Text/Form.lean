import FacetSearch.Proofs.Text.Bytes
import FacetSearch.Proofs.Text.Parts
import FacetSearch.Text.Form

/-!
# Query strings are read back

Pairs that were written as a query string are read back as they were. A written part is ASCII and
holds neither of the separators, and each of its escapes stands for one byte.
-/

namespace FacetSearch.Text

/-! ### Escapes -/

namespace Percent

theorem hexValue?_hexDigit {n : Nat} (h : n < 16) :
    hexValue? (UInt8.ofNat (hexDigit n).toNat) = some n := by
  have all : ∀ m < 16, hexValue? (UInt8.ofNat (hexDigit m).toNat) = some m := by decide
  exact all n h

theorem decode_cons_of_ne {b : UInt8} (h : b ≠ 0x25) (rest : List UInt8) :
    decode (b :: rest) = b :: decode rest := by
  cases rest with
  | nil => rw [decode]; exact fun _ _ _ same => absurd same h
  | cons high rest =>
    cases rest with
    | nil => rw [decode]; exact fun _ _ _ same => absurd same h
    | cons low rest => rw [decode]; exact fun _ _ _ same => absurd same h

theorem decode_eq_self {bs : List UInt8} (h : (0x25 : UInt8) ∉ bs) : decode bs = bs := by
  induction bs with
  | nil => rw [decode]
  | cons b bs ih =>
    have other : b ≠ 0x25 := fun same => h (same ▸ List.mem_cons_self)
    rw [decode_cons_of_ne other, ih fun hb => h (List.mem_cons_of_mem b hb)]

theorem decode_escape (b : UInt8) (rest : List UInt8) :
    decode ((escape b).map (fun c => UInt8.ofNat c.toNat) ++ rest) = b :: decode rest := by
  have small := b.toNat_lt
  have high := hexValue?_hexDigit (n := b.toNat / 16) (by omega)
  have low := hexValue?_hexDigit (n := b.toNat % 16) (by omega)
  have percent : UInt8.ofNat '%'.toNat = 0x25 := rfl
  simp only [escape, List.map_cons, List.map_nil, List.cons_append, List.nil_append, percent]
  rw [decode, high, low]
  simp only
  rw [show b.toNat / 16 * 16 + b.toNat % 16 = b.toNat by omega, UInt8.ofNat_toNat]

end Percent

namespace Form

/-! ### Parts -/

def encodeByte (b : UInt8) : List Char :=
  if b == 0x20 then ['+'] else if isPlain b then [Char.ofNat b.toNat] else Percent.escape b

theorem encodePart_eq (s : String) : encodePart s = (Utf8.bytes s).flatMap encodeByte := rfl

def isInner (c : Char) : Bool := c.toNat < 0x80 && c != '&' && c != '='

theorem isInner_encodeByte (b : UInt8) : ∀ c ∈ encodeByte b, isInner c = true := by
  have all : ∀ n < 256, (encodeByte (UInt8.ofNat n)).all isInner = true := by decide +kernel
  have inner := all b.toNat b.toNat_lt
  rw [UInt8.ofNat_toNat] at inner
  exact List.all_eq_true.mp inner

theorem isInner_encodePart (s : String) : ∀ c ∈ encodePart s, isInner c = true := by
  intro c hc
  rw [encodePart_eq] at hc
  obtain ⟨b, -, hc⟩ := List.mem_flatMap.mp hc
  exact isInner_encodeByte b c hc

/-- Plain bytes are neither a plus nor a percent sign, and escapes hold no plus sign. -/
theorem map_encodeByte (b : UInt8) :
    ((encodeByte b).map fun c => UInt8.ofNat c.toNat).map (fun b => if b == 0x2B then 0x20 else b) =
      if b == 0x20 || isPlain b then [b]
      else (Percent.escape b).map fun c => UInt8.ofNat c.toNat := by
  have all : ∀ n < 256, ((encodeByte (UInt8.ofNat n)).map fun c => UInt8.ofNat c.toNat).map
      (fun b => if b == 0x2B then 0x20 else b) =
      if UInt8.ofNat n == 0x20 || isPlain (UInt8.ofNat n) then [UInt8.ofNat n]
      else (Percent.escape (UInt8.ofNat n)).map fun c => UInt8.ofNat c.toNat := by decide +kernel
  have this := all b.toNat b.toNat_lt
  rwa [UInt8.ofNat_toNat] at this

theorem decode_encodeByte (b : UInt8) (rest : List UInt8) :
    Percent.decode (((encodeByte b).map fun c => UInt8.ofNat c.toNat).map
      (fun b => if b == 0x2B then 0x20 else b) ++ rest) = b :: Percent.decode rest := by
  rw [map_encodeByte]
  split
  · rename_i plain
    have other : b ≠ 0x25 := by
      rintro rfl
      exact absurd plain (by decide)
    exact Percent.decode_cons_of_ne other rest
  · exact Percent.decode_escape b rest

theorem bytes_ofList_of_ascii {cs : List Char} (h : ∀ c ∈ cs, isInner c = true) :
    Utf8.bytes (String.ofList cs) = cs.map fun c => UInt8.ofNat c.toNat := by
  rw [Utf8.bytes_ofList]
  induction cs with
  | nil => rfl
  | cons c cs ih =>
    have inner := h c List.mem_cons_self
    simp only [isInner, Bool.and_eq_true, decide_eq_true_eq] at inner
    rw [List.flatMap_cons, ih fun d hd => h d (List.mem_cons_of_mem c hd),
      Utf8.utf8EncodeChar_of_ascii inner.1.1]
    rfl

theorem decodePart_encodePart (s : String) : decodePart (encodePart s) = s := by
  have each : ∀ bs : List UInt8, Percent.decode (((bs.flatMap encodeByte).map fun c =>
      UInt8.ofNat c.toNat).map fun b => if b == 0x2B then 0x20 else b) = bs := by
    intro bs
    induction bs with
    | nil => rw [List.flatMap_nil]; rfl
    | cons b bs ih =>
      rw [List.flatMap_cons, List.map_append, List.map_append, decode_encodeByte, ih]
  rw [decodePart, bytes_ofList_of_ascii (isInner_encodePart s), encodePart_eq, each,
    Utf8.textLossy_bytes]

/-! ### Pairs -/

theorem decodePair_encodePair (pair : String × String) : decodePair (encodePair pair) = pair := by
  have name : '=' ∉ encodePart pair.1 := by
    intro h
    exact absurd (isInner_encodePart pair.1 _ h) (by decide)
  rw [decodePair, encodePair, cutAt_append name]
  simp only [decodePart_encodePart]

theorem not_mem_encodePair (pair : String × String) : '&' ∉ encodePair pair := by
  intro h
  rcases List.mem_append.mp h with h | h
  · exact absurd (isInner_encodePart pair.1 _ h) (by decide)
  · rcases List.mem_cons.mp h with h | h
    · exact absurd h (by decide)
    · exact absurd (isInner_encodePart pair.2 _ h) (by decide)

/-- Reading a query string gives back the pairs that were written. -/
theorem decode_encode (pairs : List (String × String)) : decode (encode pairs) = pairs := by
  cases pairs with
  | nil => rfl
  | cons pair rest =>
    have parts : splitWhere (· == '&') (['&'].intercalate ((pair :: rest).map encodePair)) =
        (pair :: rest).map encodePair := by
      apply splitWhere_intercalate
      · exact List.cons_ne_nil _ _
      · intro part hp
        obtain ⟨pair, -, rfl⟩ := List.mem_map.mp hp
        exact not_mem_encodePair pair
    have filled : ((pair :: rest).map encodePair).filter (!·.isEmpty) =
        (pair :: rest).map encodePair := by
      apply List.filter_eq_self.mpr
      intro part hp
      obtain ⟨pair, -, rfl⟩ := List.mem_map.mp hp
      simp [encodePair]
    rw [decode, encode, String.toList_ofList, parts, filled, List.map_map]
    have same : decodePair ∘ encodePair = id := funext decodePair_encodePair
    rw [same, List.map_id]

end Form

end FacetSearch.Text
