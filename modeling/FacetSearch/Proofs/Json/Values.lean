import FacetSearch.Json.Record
import FacetSearch.Proofs.Json.Roundtrip

/-!
# The values that text can hold

What is read from a text, and what is found inside it, are values that text can hold.
-/

namespace FacetSearch.Json

open Number (Binary Format maxWord)
open Numeral

variable {cs : List Char} {v : Json} {n : Nat}

/-! ### Numbers -/

def IsDouble (x : Binary) : Prop := x.significand < 2 ^ 53 ∧ x.exponent ≤ 971

theorem isDouble_zero (negative : Bool) : IsDouble ⟨negative, 0, -1074⟩ :=
  ⟨Nat.two_pow_pos 53, (by decide : (-1074 : Int) ≤ 971)⟩

theorem isDouble_of_nearest {negative : Bool} {num den : Nat} {y : Binary} (proper : den ≠ 0)
    (found : Binary.nearest Format.double negative num den = some y) : IsDouble y :=
  Binary.fits_of_nearest proper (by decide) (by decide) found

theorem isDouble_of_divByTen {x y : Binary} (small : n ≤ powerLimit) (found : divByTen x n = some y) :
    IsDouble y := by
  obtain ⟨t, ten, large, -⟩ := exists_tenTo small
  have filled : t.quotient.1 ≠ 0 := by
    intro zero
    rw [← t.quotient_eq, zero, Nat.cast_zero, zero_div] at large
    norm_num at large
  rw [divByTen, ten, Option.bind_some] at found
  exact isDouble_of_nearest (Nat.mul_ne_zero x.quotient_pos.ne' filled) found

theorem isDouble_of_scale {x y : Binary} {power : Int} (own : IsDouble x) (found : scale x power = some y) :
    IsDouble y := by
  unfold scale at found
  simp only at found
  split at found
  · exact Option.some.inj found ▸ own
  · split at found
    · split at found
      · obtain ⟨t, -, found⟩ := Option.bind_eq_some_iff.mp found
        exact isDouble_of_nearest (Nat.mul_ne_zero x.quotient_pos.ne' t.quotient_pos.ne') found
      · cases found
    · split at found
      · rename_i few
        exact isDouble_of_divByTen few found
      · split at found
        · obtain ⟨z, -, found⟩ := Option.bind_eq_some_iff.mp found
          exact isDouble_of_divByTen (by omega) found
        · exact Option.some.inj found ▸ isDouble_zero x.negative

theorem isDouble_of_float? {numeral : Numeral} {y : Binary} (found : numeral.float? = some y) :
    IsDouble y := by
  have scaled : ∀ (s : Nat) (power : Int),
      (((Binary.ofNat .double s).bind fun x => scale x power).map fun x =>
        { x with negative := numeral.negative }) = some y → IsDouble y := by
    intro s power signed
    obtain ⟨z, unsigned, rfl⟩ := Option.map_eq_some_iff.mp signed
    obtain ⟨x, read, scaled⟩ := Option.bind_eq_some_iff.mp unsigned
    have own : IsDouble z := isDouble_of_scale (isDouble_of_nearest Nat.one_ne_zero read) scaled
    exact own
  unfold float? at found
  simp only at found
  split at found
  · exact scaled _ _ found
  · split at found
    · split at found
      · cases found
      · exact Option.some.inj found ▸ isDouble_zero numeral.negative
    · exact scaled _ _ found

theorem fits_of_number? (read : number? cs = some v) : Fits n v := by
  obtain ⟨numeral, -, value⟩ := Option.bind_eq_some_iff.mp read
  have binary : numeral.float?.map Json.float = some v → Fits n v := by
    intro found
    obtain ⟨y, rounded, rfl⟩ := Option.map_eq_some_iff.mp found
    obtain ⟨small, low⟩ := isDouble_of_float? rounded
    exact .float small low
  unfold value? at value
  simp only at value
  split at value
  · split at value
    · rename_i small
      obtain rfl := Option.some.inj value
      exact .int (by omega) (by omega)
    · split at value
      · rename_i small
        obtain rfl := Option.some.inj value
        exact .int (by omega) (by omega)
      · exact binary value
  · exact binary value

/-! ### Tokens -/

theorem fits_of_word? (read : Lexer.word? cs = some v) : Fits n v := by
  unfold Lexer.word? at read
  split at read
  · exact Option.some.inj read ▸ .bool true
  · exact Option.some.inj read ▸ .bool false
  · exact Option.some.inj read ▸ .null
  · cases read

def Token.Fits (t : Token) : Prop := ∀ v, t = .plain v → ∀ n, Json.Fits n v

def Lexer.IsSound (l : Lexer) : Prop := ∀ t ∈ l.tokens, t.Fits

namespace Lexer

variable {l l' : Lexer} {c : Char} {t : Token}

theorem IsSound.emit (sound : l.IsSound) (fits : t.Fits) : (l.emit t).IsSound :=
  List.forall_mem_cons.mpr ⟨fits, sound⟩

theorem IsSound.close (sound : l.IsSound) (closes : l.close = some l') : l'.IsSound := by
  unfold Lexer.close at closes
  split at closes
  · exact Option.some.inj closes ▸ sound
  · obtain ⟨v, read, rfl⟩ := Option.map_eq_some_iff.mp closes
    apply sound.emit
    rintro _ ⟨⟩ n
    exact fits_of_word? read
  · obtain ⟨v, read, rfl⟩ := Option.map_eq_some_iff.mp closes
    apply sound.emit
    rintro _ ⟨⟩ n
    exact fits_of_number? read
  · cases closes

theorem IsSound.start (sound : l.IsSound) (starts : l.start c = some l') : l'.IsSound := by
  have marks : ∀ t : Token, (∀ v, t ≠ .plain v) → some (l.emit t) = some l' → l'.IsSound :=
    fun t plain same => Option.some.inj same ▸ sound.emit fun v isPlain => absurd isPlain (plain v)
  have kept : ∀ lexing : Lexing, some { l with lexing } = some l' → l'.IsSound :=
    fun lexing same => Option.some.inj same ▸ sound
  unfold Lexer.start at starts
  split at starts
  · exact Option.some.inj starts ▸ sound
  · repeat' (split at starts)
    all_goals first
      | exact marks _ (fun _ => Token.noConfusion) starts
      | exact kept _ starts
      | cases starts

theorem IsSound.step (sound : l.IsSound) (steps : l.step c = some l') : l'.IsSound := by
  have kept : ∀ lexing : Lexing, some { l with lexing } = some l' → l'.IsSound :=
    fun lexing same => Option.some.inj same ▸ sound
  have again : l.close.bind (·.start c) = some l' → l'.IsSound := by
    intro restarted
    obtain ⟨closed, closes, starts⟩ := Option.bind_eq_some_iff.mp restarted
    exact (sound.close closes).start starts
  unfold Lexer.step at steps
  split at steps
  · exact sound.start steps
  · split at steps
    · exact kept _ steps
    · exact again steps
  · split at steps
    · exact kept _ steps
    · exact again steps
  · repeat' (split at steps)
    · exact Option.some.inj steps ▸ sound.emit fun v isPlain => nomatch isPlain
    · exact kept _ steps
    · cases steps
    · exact kept _ steps
  · split at steps
    · exact kept _ steps
    · obtain ⟨d, -, same⟩ := Option.map_eq_some_iff.mp steps
      exact same ▸ sound
  · obtain ⟨d, -, steps⟩ := Option.bind_eq_some_iff.mp steps
    simp only at steps
    split at steps
    · obtain ⟨next, -, same⟩ := Option.map_eq_some_iff.mp steps
      exact same ▸ sound
    · exact kept _ steps
  · repeat' (split at steps)
    · exact kept _ steps
    · exact kept _ steps
    · cases steps

end Lexer

theorem Lexer.IsSound.run {l l' : Lexer} (sound : l.IsSound) (runs : cs.foldlM Lexer.step l = some l') :
    l'.IsSound := by
  induction cs generalizing l with
  | nil => exact Option.some.inj runs ▸ sound
  | cons c cs ih =>
    rw [List.foldlM_cons] at runs
    obtain ⟨next, steps, runs⟩ := Option.bind_eq_some_iff.mp runs
    exact ih (sound.step steps) runs

theorem fits_of_tokens? {ts : List Token} (read : tokens? cs = some ts) : ∀ t ∈ ts, t.Fits := by
  obtain ⟨last, closed, rfl⟩ := Option.map_eq_some_iff.mp read
  obtain ⟨l, run, closes⟩ := Option.bind_eq_some_iff.mp closed
  have start : Lexer.IsSound {} := fun t ht => nomatch ht
  have sound : l.IsSound := start.run run
  intro t ht
  exact sound.close closes t (List.mem_reverse.mp ht)

/-! ### Values -/

theorem mem_insertField {name : String} {fields : List (String × Json)} {f : String × Json}
    (mem : f ∈ insertField name v fields) : f = (name, v) ∨ f ∈ fields := by
  induction fields with
  | nil => exact Or.inl (List.mem_singleton.mp mem)
  | cons field rest ih =>
    rw [insertField] at mem
    split at mem
    · exact List.mem_cons.mp mem
    · split at mem
      · exact (List.mem_cons.mp mem).imp_right (List.mem_cons_of_mem field)
      · rcases List.mem_cons.mp mem with rfl | mem
        · exact Or.inr List.mem_cons_self
        · exact (ih mem).imp_right (List.mem_cons_of_mem field)

theorem Fits.object {fields : List (String × Json)} (each : ∀ f ∈ fields, Fits n f.2) :
    Fits (n + 1) (.object fields) := by
  suffices ∀ acc : List (String × Json), (∀ f ∈ acc, Fits n f.2) →
      ∀ f ∈ fields.foldl (fun acc field => insertField field.1 field.2 acc) acc, Fits n f.2 from
    .obj (this [] fun f hf => nomatch hf)
  induction fields with
  | nil => exact fun acc own => own
  | cons field rest ih =>
    intro acc own
    refine ih (fun f hf => each f (List.mem_cons_of_mem field hf)) _ fun f hf => ?_
    rcases mem_insertField hf with rfl | hf
    · exact each field List.mem_cons_self
    · exact own f hf

/-- The members read so far of an open array or object. -/
def Frame.Fits (n : Nat) : Frame → Prop
  | .items read => ∀ v ∈ read, Json.Fits n v
  | .fields read _ => ∀ f ∈ read, Json.Fits n f.2

/-- Open arrays and objects, each with room for its members inside the ones around it. -/
def StackFits : List Frame → Prop
  | [] => True
  | frame :: around =>
    around.length < Parser.depthLimit ∧ frame.Fits (Parser.depthLimit - (around.length + 1)) ∧
      StackFits around

structure Parser.IsSound (p : Parser) : Prop where
  stack : StackFits p.stack
  result : ∀ v, p.expect = .done v → Json.Fits depthLimit v

namespace Parser

variable {p p' : Parser} {stack : List Frame} {expect : Expect} {frame : Frame} {t : Token}

theorem isSound_of_stack (fits : StackFits stack) (open_ : ∀ v, expect ≠ .done v) :
    IsSound ⟨stack, expect⟩ :=
  ⟨fits, fun v same => absurd same (open_ v)⟩

theorem isSound_push (fits : StackFits stack) (own : Json.Fits (depthLimit - stack.length) v) :
    (push ⟨stack, expect⟩ v).IsSound := by
  match stack, fits with
  | [], fits => exact ⟨trivial, fun w same => Expect.done.inj same ▸ own⟩
  | .items read :: around, ⟨room, members, outer⟩ =>
    exact isSound_of_stack ⟨room, List.forall_mem_cons.mpr ⟨own, members⟩, outer⟩ fun _ => Expect.noConfusion
  | .fields read name :: around, ⟨room, members, outer⟩ =>
    exact isSound_of_stack ⟨room, List.forall_mem_cons.mpr ⟨own, members⟩, outer⟩ fun _ => Expect.noConfusion

theorem depth_of_closed {around : List Frame} (room : around.length < depthLimit) :
    depthLimit - (around.length + 1) + 1 = depthLimit - around.length := by
  omega

theorem IsSound.closeArr (sound : p.IsSound) (closes : p.closeArr = some p') : p'.IsSound := by
  obtain ⟨stack, expect⟩ := p
  unfold Parser.closeArr at closes
  split at closes
  · rename_i read around same
    obtain ⟨room, members, outer⟩ := (same ▸ sound.stack : StackFits (.items read :: around))
    refine Option.some.inj closes ▸ isSound_push outer (depth_of_closed room ▸ .arr fun w hw => ?_)
    exact members w (List.mem_reverse.mp hw)
  · cases closes

theorem IsSound.closeObj (sound : p.IsSound) (closes : p.closeObj = some p') : p'.IsSound := by
  obtain ⟨stack, expect⟩ := p
  unfold Parser.closeObj at closes
  split at closes
  · rename_i read name around same
    obtain ⟨room, members, outer⟩ := (same ▸ sound.stack : StackFits (.fields read name :: around))
    refine Option.some.inj closes ▸ isSound_push outer (depth_of_closed room ▸ .object fun f hf => ?_)
    exact members f (List.mem_reverse.mp hf)
  · cases closes

theorem IsSound.setName (sound : p.IsSound) {name : String} (sets : p.setName name = some p') :
    p'.IsSound := by
  unfold Parser.setName at sets
  split at sets
  · rename_i read old around same
    obtain ⟨room, members, outer⟩ := (same ▸ sound.stack : StackFits (.fields read old :: around))
    exact Option.some.inj sets ▸ isSound_of_stack ⟨room, members, outer⟩ fun _ => Expect.noConfusion
  · cases sets

theorem IsSound.openFrame (sound : p.IsSound) (empty : ∀ n, frame.Fits n) (open_ : ∀ v, expect ≠ .done v)
    (opens : p.openFrame frame expect = some p') : p'.IsSound := by
  unfold Parser.openFrame at opens
  split at opens
  · rename_i room
    exact Option.some.inj opens ▸ isSound_of_stack ⟨room, empty _, sound.stack⟩ open_
  · cases opens

theorem IsSound.value (sound : p.IsSound) (fits : t.Fits) (takes : p.value t = some p') :
    p'.IsSound := by
  unfold Parser.value at takes
  split at takes
  · have empty : ∀ n, (Frame.items []).Fits n := fun n => List.forall_mem_nil _
    exact sound.openFrame empty (fun _ => Expect.noConfusion) takes
  · have empty : ∀ n, (Frame.fields [] "").Fits n := fun n => List.forall_mem_nil _
    exact sound.openFrame empty (fun _ => Expect.noConfusion) takes
  · exact Option.some.inj takes ▸ isSound_push sound.stack (.str _)
  · exact Option.some.inj takes ▸ isSound_push sound.stack (fits _ rfl _)
  · cases takes

theorem IsSound.step (sound : p.IsSound) (fits : t.Fits) (steps : p.step t = some p') :
    p'.IsSound := by
  have expects : ∀ expect : Expect, (∀ v, expect ≠ .done v) → some { p with expect } = some p' →
      p'.IsSound :=
    fun expect open_ same => Option.some.inj same ▸ isSound_of_stack sound.stack open_
  unfold Parser.step at steps
  split at steps
  · exact sound.value fits steps
  · split at steps
    · exact sound.closeArr steps
    · exact sound.value fits steps
  · split at steps
    · exact sound.closeObj steps
    · exact sound.setName steps
    · cases steps
  · split at steps
    · exact sound.setName steps
    · cases steps
  · split at steps
    · exact expects _ (fun _ => Expect.noConfusion) steps
    · cases steps
  · split at steps
    · exact expects _ (fun _ => Expect.noConfusion) steps
    · exact expects _ (fun _ => Expect.noConfusion) steps
    · exact sound.closeArr steps
    · exact sound.closeObj steps
    · cases steps
  · cases steps

theorem IsSound.run {ts : List Token} (sound : p.IsSound) (fits : ∀ t ∈ ts, t.Fits)
    (runs : ts.foldlM Parser.step p = some p') : p'.IsSound := by
  induction ts generalizing p with
  | nil => exact Option.some.inj runs ▸ sound
  | cons t ts ih =>
    rw [List.foldlM_cons] at runs
    obtain ⟨next, steps, runs⟩ := Option.bind_eq_some_iff.mp runs
    exact ih (sound.step (fits t List.mem_cons_self) steps)
      (fun u hu => fits u (List.mem_cons_of_mem t hu)) runs

end Parser

/-- What is read from a text is a value that text can hold. -/
theorem fits_of_parse? {s : String} (read : parse? s = some v) : Fits Parser.depthLimit v := by
  obtain ⟨ts, cut, built⟩ := Option.bind_eq_some_iff.mp read
  obtain ⟨last, runs, ends⟩ := Option.bind_eq_some_iff.mp built
  have start : Parser.IsSound {} := Parser.isSound_of_stack trivial fun _ => Expect.noConfusion
  have sound : last.IsSound := start.run (fits_of_tokens? cut) runs
  unfold Parser.result? at ends
  split at ends
  · rename_i w done
    exact Option.some.inj ends ▸ sound.result w done
  · cases ends

/-! ### Parts of values -/

theorem Fits.get? {name : String} {w : Json} (fits : Fits n v) (found : v.get? name = some w) :
    Fits n w := by
  cases fits with
  | obj each =>
    obtain ⟨f, first, rfl⟩ := Option.map_eq_some_iff.mp found
    exact (each f (List.mem_of_find?_eq_some first)).mono (Nat.le_succ _)
  | null | bool | int | float | str | arr => cases found

theorem Fits.items? {items : List Json} {w : Json} (fits : Fits n v) (found : v.items? = some items)
    (mem : w ∈ items) : Fits n w := by
  cases fits with
  | arr each =>
    obtain rfl := Option.some.inj found
    exact (each w mem).mono (Nat.le_succ _)
  | null | bool | int | float | str | obj => cases found

theorem Fits.record? {names : List String} {values : List (Option Json)} {w : Json} (fits : Fits n v)
    (found : v.record? names = some values) (mem : some w ∈ values) : Fits n w := by
  unfold Json.record? at found
  split at found
  · obtain rfl := Option.some.inj found
    obtain ⟨name, -, found⟩ := List.mem_map.mp mem
    exact fits.get? found
  · split at found
    · obtain rfl := Option.some.inj found
      rcases List.mem_append.mp mem with mem | mem
      · obtain ⟨u, hu, same⟩ := List.mem_map.mp mem
        exact Option.some.inj same ▸ fits.items? rfl hu
      · cases (List.mem_replicate.mp mem).2
    · cases found
  · cases found

end FacetSearch.Json
