import FacetSearch.Proofs.Json.Roundtrip

/-!
# Values that writing keeps

A value without binary numbers whose objects have their fields in order is read from its text as it
was.
-/

namespace FacetSearch.Json

open Number (maxWord)

/-- Null, a truth value, an integer of 64 bits, a text, or an array or object of such values. So many
arrays and objects stand around one another at most, and each object has one field for a name, in the
order of the names. -/
inductive Exact : Nat → Json → Prop
  | null {n : Nat} : Exact n .null
  | bool {n : Nat} (b : Bool) : Exact n (.bool b)
  | int {n : Nat} {i : Int} (least : -0x8000000000000000 ≤ i) (most : i ≤ maxWord) : Exact n (.int i)
  | str {n : Nat} (s : String) : Exact n (.str s)
  | arr {n : Nat} {items : List Json} (each : ∀ v ∈ items, Exact n v) : Exact (n + 1) (.arr items)
  | obj {n : Nat} {fields : List (String × Json)} (ordered : fields.Pairwise fun f g => f.1 < g.1)
    (each : ∀ f ∈ fields, Exact n f.2) : Exact (n + 1) (.obj fields)

variable {n : Nat} {v : Json} {items : List Json} {fields : List (String × Json)}

theorem Exact.fits (own : Exact n v) : Fits n v := by
  induction own with
  | null => exact .null
  | bool b => exact .bool b
  | int least most => exact .int least most
  | str s => exact .str s
  | arr _ ih => exact .arr ih
  | obj _ _ ih => exact .obj ih

/-! ### Fields in order -/

theorem insertField_of_last {name : String} (last : ∀ f ∈ fields, f.1 < name) :
    insertField name v fields = fields ++ [(name, v)] := by
  induction fields with
  | nil => rfl
  | cons f rest ih =>
    obtain ⟨first, others⟩ := List.forall_mem_cons.mp last
    have apart : name ≠ f.1 := fun same => String.lt_irrefl _ (same ▸ first)
    rw [insertField, if_neg (String.lt_asymm first), if_neg apart, ih others]
    rfl

theorem object_of_ordered (ordered : fields.Pairwise fun f g => f.1 < g.1) :
    object fields = .obj fields := by
  have onto : ∀ front : List (String × Json), (front ++ fields).Pairwise (fun f g => f.1 < g.1) →
      fields.foldl (fun acc f => insertField f.1 f.2 acc) front = front ++ fields := by
    intro front whole
    induction fields generalizing front with
    | nil => rw [List.foldl_nil, List.append_nil]
    | cons f rest ih =>
      have last : ∀ g ∈ front, g.1 < f.1 := fun g hg =>
        (List.pairwise_append.mp whole).2.2 g hg f List.mem_cons_self
      rw [List.append_cons] at whole
      rw [List.foldl_cons, insertField_of_last last, ih (List.pairwise_cons.mp ordered).2 _ whole,
        ← List.append_cons]
  exact congrArg Json.obj (onto [] ordered)

/-! ### What the text is read as -/

theorem rereadItems_eq_self (each : ∀ v ∈ items, v.reread = v) : rereadItems items = items := by
  induction items with
  | nil => rfl
  | cons v rest ih =>
    obtain ⟨first, others⟩ := List.forall_mem_cons.mp each
    rw [rereadItems, first, ih others]

theorem rereadFields_eq_self (each : ∀ f ∈ fields, f.2.reread = f.2) :
    rereadFields fields = fields := by
  induction fields with
  | nil => rfl
  | cons f rest ih =>
    obtain ⟨first, others⟩ := List.forall_mem_cons.mp each
    rw [rereadFields, first, ih others]

theorem Exact.reread_eq (own : Exact n v) : v.reread = v := by
  induction own with
  | null => rfl
  | bool b => rfl
  | int least most => rfl
  | str s => rfl
  | arr _ ih => rw [reread, rereadItems_eq_self ih]
  | obj ordered _ ih => rw [reread, rereadFields_eq_self ih, object_of_ordered ordered]

theorem Exact.parse?_text (own : Exact n v) (shallow : n ≤ Parser.depthLimit) :
    parse? v.text = some v := by
  rw [Json.parse?_text (own.fits.mono shallow), own.reread_eq]

end FacetSearch.Json
