/-!
# Base64

Three bytes are written as four characters of an alphabet of sixty-four. The URL-safe form has no
padding, and is read only if the unused bits of its last character are zero.
-/

namespace FacetSearch.Text.Base64

structure Alphabet where
  plus : Char
  slash : Char

def urlSafe : Alphabet := ⟨'-', '_'⟩
def standard : Alphabet := ⟨'+', '/'⟩

def letter (a : Alphabet) (n : Nat) : Char :=
  if n < 26 then Char.ofNat (0x41 + n)
  else if n < 52 then Char.ofNat (0x61 + (n - 26))
  else if n < 62 then Char.ofNat (0x30 + (n - 52))
  else if n = 62 then a.plus
  else a.slash

def value? (a : Alphabet) (c : Char) : Option Nat :=
  if c.isUpper then some (c.toNat - 0x41)
  else if c.isLower then some (c.toNat - 0x61 + 26)
  else if c.isDigit then some (c.toNat - 0x30 + 52)
  else if c = a.plus then some 62
  else if c = a.slash then some 63
  else none

/-- The groups of six bits in a run of bytes. -/
def sextets : List UInt8 → List Nat
  | [] => []
  | [x] => [x.toNat / 4, x.toNat % 4 * 16]
  | [x, y] => [x.toNat / 4, x.toNat % 4 * 16 + y.toNat / 16, y.toNat % 16 * 4]
  | x :: y :: z :: rest =>
    x.toNat / 4 :: (x.toNat % 4 * 16 + y.toNat / 16) :: (y.toNat % 16 * 4 + z.toNat / 64) ::
      z.toNat % 64 :: sextets rest

/-- The bytes in a run of groups of six bits, if the bits left over are zero. -/
def octets? : List Nat → Option (List UInt8)
  | [] => some []
  | [_] => none
  | [a, b] => if b % 16 = 0 then some [UInt8.ofNat (a * 4 + b / 16)] else none
  | [a, b, c] =>
    if c % 4 = 0 then some [UInt8.ofNat (a * 4 + b / 16), UInt8.ofNat (b % 16 * 16 + c / 4)]
    else none
  | a :: b :: c :: d :: rest =>
    (octets? rest).map fun bytes =>
      UInt8.ofNat (a * 4 + b / 16) :: UInt8.ofNat (b % 16 * 16 + c / 4) ::
        UInt8.ofNat (c % 4 * 64 + d) :: bytes

def encode (bytes : List UInt8) : String :=
  String.ofList ((sextets bytes).map (letter urlSafe))

def decode? (s : String) : Option (List UInt8) :=
  (s.toList.mapM (value? urlSafe)).bind octets?

/-- Text of the common alphabet, padded to a multiple of four characters. -/
def encodePadded (bytes : List UInt8) : String :=
  let cs := (sextets bytes).map (letter standard)
  String.ofList (cs ++ List.replicate ((4 - cs.length % 4) % 4) '=')

/-! ### Reading what was written -/

theorem value?_letter {n : Nat} (h : n < 64) : value? urlSafe (letter urlSafe n) = some n := by
  have all : ∀ m < 64, value? urlSafe (letter urlSafe m) = some m := by decide
  exact all n h

theorem sextets_lt (bytes : List UInt8) : ∀ n ∈ sextets bytes, n < 64 := by
  fun_induction sextets bytes with
  | case1 => simp
  | case2 x =>
    have := x.toNat_lt
    simp only [List.mem_cons, List.not_mem_nil, or_false, forall_eq_or_imp, forall_eq]
    omega
  | case3 x y =>
    have := x.toNat_lt
    have := y.toNat_lt
    simp only [List.mem_cons, List.not_mem_nil, or_false, forall_eq_or_imp, forall_eq]
    omega
  | case4 x y z rest ih =>
    have := x.toNat_lt
    have := y.toNat_lt
    have := z.toNat_lt
    simp only [List.mem_cons, forall_eq_or_imp]
    exact ⟨by omega, by omega, by omega, by omega, ih⟩

theorem octets?_sextets (bytes : List UInt8) : octets? (sextets bytes) = some bytes := by
  fun_induction sextets bytes with
  | case1 => rfl
  | case2 x =>
    have := x.toNat_lt
    simp only [octets?, show x.toNat % 4 * 16 % 16 = 0 by omega, if_true]
    rw [show x.toNat / 4 * 4 + x.toNat % 4 * 16 / 16 = x.toNat by omega, UInt8.ofNat_toNat]
  | case3 x y =>
    have := x.toNat_lt
    have := y.toNat_lt
    simp only [octets?, show y.toNat % 16 * 4 % 4 = 0 by omega, if_true]
    rw [show x.toNat / 4 * 4 + (x.toNat % 4 * 16 + y.toNat / 16) / 16 = x.toNat by omega,
      show (x.toNat % 4 * 16 + y.toNat / 16) % 16 * 16 + y.toNat % 16 * 4 / 4 = y.toNat by omega,
      UInt8.ofNat_toNat, UInt8.ofNat_toNat]
  | case4 x y z rest ih =>
    have := x.toNat_lt
    have := y.toNat_lt
    have := z.toNat_lt
    simp only [octets?, ih, Option.map_some]
    rw [show x.toNat / 4 * 4 + (x.toNat % 4 * 16 + y.toNat / 16) / 16 = x.toNat by omega,
      show (x.toNat % 4 * 16 + y.toNat / 16) % 16 * 16 + (y.toNat % 16 * 4 + z.toNat / 64) / 4 =
        y.toNat by omega,
      show (y.toNat % 16 * 4 + z.toNat / 64) % 4 * 64 + z.toNat % 64 = z.toNat by omega,
      UInt8.ofNat_toNat, UInt8.ofNat_toNat, UInt8.ofNat_toNat]

theorem mapM_value?_letter {ns : List Nat} (h : ∀ n ∈ ns, n < 64) :
    (ns.map (letter urlSafe)).mapM (value? urlSafe) = some ns := by
  induction ns with
  | nil => rfl
  | cons n ns ih =>
    have hn := value?_letter (h n (by simp))
    have hns := ih fun m hm => h m (by simp [hm])
    simp [hn, hns]

theorem decode?_encode (bytes : List UInt8) : decode? (encode bytes) = some bytes := by
  simp [decode?, encode, mapM_value?_letter (sextets_lt bytes), octets?_sextets]

end FacetSearch.Text.Base64
