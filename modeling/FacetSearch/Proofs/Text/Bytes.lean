import FacetSearch.Text.Utf8

/-!
# Texts as bytes

The bytes of a text, character by character. Lenient reading of them gives the text back, and below
`0x80` a byte is a character of its own.
-/

namespace FacetSearch.Text.Utf8

theorem bytes_ofList (cs : List Char) : bytes (String.ofList cs) = cs.flatMap String.utf8EncodeChar := by
  rw [bytes, String.toUTF8, String.toByteArray_ofList, List.utf8Encode, List.toList_data_toByteArray]

theorem bytes_eq (s : String) : bytes s = s.toList.flatMap String.utf8EncodeChar := by
  rw [← bytes_ofList, String.ofList_toList]

theorem utf8EncodeChar_of_ascii {c : Char} (h : c.toNat < 0x80) :
    String.utf8EncodeChar c = [UInt8.ofNat c.toNat] := by
  have small : c.val.toNat ≤ 0x7F := Nat.le_of_lt_succ h
  rw [String.utf8EncodeChar, if_pos small]
  rfl

theorem le_of_mem_utf8EncodeChar {c : Char} (h : 0x80 ≤ c.toNat) :
    ∀ b ∈ String.utf8EncodeChar c, 0x80 ≤ b.toNat := by
  have large : ¬c.val.toNat ≤ 0x7F := Nat.not_le.mpr h
  intro b hb
  rw [String.utf8EncodeChar, if_neg large] at hb
  split at hb
  · simp only [List.mem_cons, List.not_mem_nil, or_false] at hb
    rcases hb with rfl | rfl <;> rw [UInt8.toNat_ofNat'] <;> omega
  · split at hb
    · simp only [List.mem_cons, List.not_mem_nil, or_false] at hb
      rcases hb with rfl | rfl | rfl <;> rw [UInt8.toNat_ofNat'] <;> omega
    · simp only [List.mem_cons, List.not_mem_nil, or_false] at hb
      rcases hb with rfl | rfl | rfl | rfl <;> rw [UInt8.toNat_ofNat'] <;> omega

theorem mem_of_mem_bytes {s : String} {b : UInt8} (hb : b ∈ bytes s) (h : b.toNat < 0x80) :
    ∃ c ∈ s.toList, c.toNat = b.toNat := by
  rw [bytes_eq] at hb
  obtain ⟨c, hc, hb⟩ := List.mem_flatMap.mp hb
  refine ⟨c, hc, ?_⟩
  by_cases ascii : c.toNat < 0x80
  · rw [utf8EncodeChar_of_ascii ascii] at hb
    obtain rfl := List.mem_singleton.mp hb
    rw [UInt8.toNat_ofNat']
    omega
  · have := le_of_mem_utf8EncodeChar (Nat.not_lt.mp ascii) b hb
    omega

/-! ### Lenient reading -/

theorem isValid (c : Char) : c.toNat < 0xD800 ∨ 0xDFFF < c.toNat ∧ c.toNat < 0x110000 := c.valid

theorem decodeFrom_last {low high code : Nat} {b : UInt8} {rest : List UInt8}
    (h : low ≤ b.toNat ∧ b.toNat ≤ high) :
    decodeFrom (some ⟨1, low, high, code⟩) (b :: rest) =
      Char.ofNat (code * 0x40 + b.toNat % 0x40) :: decodeFrom none rest := by
  rw [decodeFrom, if_pos h, if_pos (Nat.le_refl 1)]

theorem decodeFrom_within {m low high code : Nat} {b : UInt8} {rest : List UInt8}
    (h : low ≤ b.toNat ∧ b.toNat ≤ high) :
    decodeFrom (some ⟨m + 2, low, high, code⟩) (b :: rest) =
      decodeFrom (some ⟨m + 1, 0x80, 0xBF, code * 0x40 + b.toNat % 0x40⟩) rest := by
  rw [decodeFrom, if_pos h, if_neg (Nat.not_le.mpr (Nat.lt_add_left m Nat.one_lt_two))]
  rfl

theorem decodeFrom_first {b : UInt8} {p : Pending} {rest : List UInt8}
    (h : lead b.toNat = (none, some p)) :
    decodeFrom none (b :: rest) = decodeFrom (some p) rest := by
  rw [decodeFrom, h]

theorem toNat_ofNat {n : Nat} (h : n < 0x100) : (UInt8.ofNat n).toNat = n := by
  rw [UInt8.toNat_ofNat']
  exact Nat.mod_eq_of_lt h

theorem lead_two {n : Nat} (low : 0x80 ≤ n) (high : n ≤ 0x7FF) :
    lead (n / 64 % 32 + 192) = (none, some ⟨1, 0x80, 0xBF, n / 64⟩) := by
  rw [lead, if_neg (by omega), if_pos (by omega), show (n / 64 % 32 + 192) % 0x20 = n / 64 by omega]

theorem lead_three {n : Nat} (low : 0x800 ≤ n) (high : n ≤ 0xFFFF) :
    lead (n / 4096 % 16 + 224) = (none, some ⟨2, if n / 4096 = 0 then 0xA0 else 0x80,
      if n / 4096 = 0xD then 0x9F else 0xBF, n / 4096⟩) := by
  have lowest : n / 4096 % 16 + 224 = 0xE0 ↔ n / 4096 = 0 := by omega
  have surrogates : n / 4096 % 16 + 224 = 0xED ↔ n / 4096 = 0xD := by omega
  rw [lead, if_neg (by omega), if_neg (by omega), if_pos (by omega),
    show (n / 4096 % 16 + 224) % 0x10 = n / 4096 by omega]
  simp only [lowest, surrogates]

theorem lead_four {n : Nat} (low : 0x10000 ≤ n) (high : n < 0x110000) :
    lead (n / 262144 % 8 + 240) = (none, some ⟨3, if n / 262144 = 0 then 0x90 else 0x80,
      if n / 262144 = 4 then 0x8F else 0xBF, n / 262144⟩) := by
  have lowest : n / 262144 % 8 + 240 = 0xF0 ↔ n / 262144 = 0 := by omega
  have highest : n / 262144 % 8 + 240 = 0xF4 ↔ n / 262144 = 4 := by omega
  rw [lead, if_neg (by omega), if_neg (by omega), if_neg (by omega), if_pos (by omega),
    show (n / 262144 % 8 + 240) % 0x08 = n / 262144 by omega]
  simp only [lowest, highest]

/-- The sequence of a character is read as that character; each byte adds six bits. -/
theorem decodeFrom_utf8EncodeChar (c : Char) (rest : List UInt8) :
    decodeFrom none (String.utf8EncodeChar c ++ rest) = c :: decodeFrom none rest := by
  have valid := isValid c
  have whole : ∀ n, n = c.toNat → Char.ofNat n = c := by
    intro n hn
    rw [hn, Char.ofNat_toNat]
  have same : c.val.toNat = c.toNat := rfl
  rw [String.utf8EncodeChar, same]
  generalize c.toNat = n at valid whole
  have tail := toNat_ofNat (n := n % 64 + 128) (by omega)
  have second := toNat_ofNat (n := n / 64 % 64 + 128) (by omega)
  have third := toNat_ofNat (n := n / 4096 % 64 + 128) (by omega)
  split
  · have single := toNat_ofNat (n := n) (by omega)
    simp only [List.singleton_append, decodeFrom, single, lead]
    rw [if_pos (by omega), whole n rfl]
  · split
    · have first := lead_two (n := n) (by omega) (by omega)
      rw [← toNat_ofNat (n := n / 64 % 32 + 192) (by omega)] at first
      simp only [List.cons_append, List.nil_append]
      rw [decodeFrom_first first, decodeFrom_last (by rw [tail]; omega), tail,
        whole _ (by omega)]
    · split
      · have first := lead_three (n := n) (by omega) (by omega)
        rw [← toNat_ofNat (n := n / 4096 % 16 + 224) (by omega)] at first
        simp only [List.cons_append, List.nil_append]
        rw [decodeFrom_first first,
          decodeFrom_within (by rw [second]; split <;> split <;> omega),
          decodeFrom_last (by rw [tail]; omega), tail, second,
          whole _ (by omega)]
      · have first := lead_four (n := n) (by omega) (by omega)
        rw [← toNat_ofNat (n := n / 262144 % 8 + 240) (by omega)] at first
        simp only [List.cons_append, List.nil_append]
        rw [decodeFrom_first first,
          decodeFrom_within (by rw [third]; split <;> split <;> omega),
          decodeFrom_within (by rw [second]; omega),
          decodeFrom_last (by rw [tail]; omega), tail, second, third,
          whole _ (by omega)]

theorem textLossy_bytes (s : String) : textLossy (bytes s) = s := by
  have each : ∀ cs : List Char, decodeFrom none (cs.flatMap String.utf8EncodeChar) = cs := by
    intro cs
    induction cs with
    | nil => rfl
    | cons c cs ih => rw [List.flatMap_cons, decodeFrom_utf8EncodeChar, ih]
  rw [textLossy, bytes_eq, each, String.ofList_toList]

end FacetSearch.Text.Utf8
