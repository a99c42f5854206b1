import FacetSearch.Json.Parser
import FacetSearch.Proofs.Json.Numerals

/-!
# Writing JSON and reading it again

Every value that text can hold is read from the text that it is written as. What is read differs from
the value in its binary numbers, which are read as the numbers that their decimals stand for, and in
its objects, whose fields are put in order.
-/

namespace FacetSearch.Json

open Number (Binary maxWord)

/-- A value that text can hold, with at most so many arrays and objects around one another. -/
inductive Fits : Nat → Json → Prop
  | null {n : Nat} : Fits n .null
  | bool {n : Nat} (b : Bool) : Fits n (.bool b)
  | int {n : Nat} {i : Int} (least : -0x8000000000000000 ≤ i) (most : i ≤ maxWord) : Fits n (.int i)
  | float {n : Nat} {x : Binary} (small : x.significand < 2 ^ 53) (low : x.exponent ≤ 971) :
    Fits n (.float x)
  | str {n : Nat} (s : String) : Fits n (.str s)
  | arr {n : Nat} {items : List Json} (each : ∀ v ∈ items, Fits n v) : Fits (n + 1) (.arr items)
  | obj {n : Nat} {fields : List (String × Json)} (each : ∀ f ∈ fields, Fits n f.2) :
    Fits (n + 1) (.obj fields)

theorem Fits.mono {n m : Nat} {v : Json} (fits : Fits n v) (le : n ≤ m) : Fits m v := by
  induction fits generalizing m with
  | null => exact .null
  | bool b => exact .bool b
  | int least most => exact .int least most
  | float small low => exact .float small low
  | str s => exact .str s
  | arr _ ih =>
    obtain ⟨k, rfl⟩ : ∃ k, m = k + 1 := ⟨m - 1, by omega⟩
    exact .arr fun v hv => ih v hv (by omega)
  | obj _ ih =>
    obtain ⟨k, rfl⟩ : ∃ k, m = k + 1 := ⟨m - 1, by omega⟩
    exact .obj fun f hf => ih f hf (by omega)

mutual

def reread : Json → Json
  | .float x => (number? (floatText x)).getD .null
  | .arr items => .arr (rereadItems items)
  | .obj fields => .object (rereadFields fields)
  | .null => .null
  | .bool b => .bool b
  | .int i => .int i
  | .str s => .str s

def rereadItems : List Json → List Json
  | [] => []
  | v :: items => v.reread :: rereadItems items

def rereadFields : List (String × Json) → List (String × Json)
  | [] => []
  | (name, v) :: fields => (name, v.reread) :: rereadFields fields

end

mutual

theorem printOnto_eq_append : ∀ (v : Json) (tail : List Char), printOnto v tail = printOnto v [] ++ tail
  | .null, _ => rfl
  | .bool true, _ => rfl
  | .bool false, _ => rfl
  | .int i, tail => by rw [printOnto, printOnto, List.append_nil]
  | .float x, tail => by rw [printOnto, printOnto, List.append_nil]
  | .str s, tail => by simp [printOnto, quoted]
  | .arr [], _ => rfl
  | .arr (item :: items), tail => by
    rw [printOnto, printOnto, printOnto_eq_append item, printItems_eq_append items,
      printOnto_eq_append item (printItems items _), printItems_eq_append items [_]]
    simp
  | .obj [], _ => rfl
  | .obj ((name, value) :: fields), tail => by
    rw [printOnto, printOnto, printOnto_eq_append value, printFields_eq_append fields,
      printOnto_eq_append value (printFields fields _), printFields_eq_append fields [_]]
    simp [quoted]

theorem printItems_eq_append :
    ∀ (items : List Json) (tail : List Char), printItems items tail = printItems items [] ++ tail
  | [], _ => rfl
  | item :: items, tail => by
    rw [printItems, printItems, printOnto_eq_append item, printItems_eq_append items,
      printOnto_eq_append item (printItems items [])]
    simp

theorem printFields_eq_append : ∀ (fields : List (String × Json)) (tail : List Char),
    printFields fields tail = printFields fields [] ++ tail
  | [], _ => rfl
  | (name, value) :: fields, tail => by
    rw [printFields, printFields, printOnto_eq_append value, printFields_eq_append fields,
      printOnto_eq_append value (printFields fields [])]
    simp [quoted]

end

/-! ### Tokens -/

variable {cs ds : List Char} {ts us : List Token} {c : Char} {t : Token} {v : Json} {n : Nat}

/-- Characters that are read as these tokens, the last of which has ended. -/
def Emits (cs : List Char) (ts : List Token) : Prop :=
  ∀ l : List Token, cs.foldlM Lexer.step ⟨l, .between⟩ = some ⟨ts.reverse ++ l, .between⟩

/-- The marks that end a word or a numeral. -/
inductive IsMark : Char → Token → Prop
  | comma : IsMark ',' .comma
  | closeArr : IsMark ']' .closeArr
  | closeObj : IsMark '\x7d' .closeObj

/-- Characters that are read as these tokens once a mark or nothing follows. -/
def Spells (cs : List Char) (ts : List Token) : Prop :=
  ∀ l : List Token, ∃ last : Lexer, cs.foldlM Lexer.step ⟨l, .between⟩ = some last ∧
    last.close = some ⟨ts.reverse ++ l, .between⟩ ∧
    ∀ c t, IsMark c t → last.step c = some ⟨t :: (ts.reverse ++ l), .between⟩

theorem start_of_isMark (mark : IsMark c t) (l : List Token) :
    Lexer.start ⟨l, .between⟩ c = some ⟨t :: l, .between⟩ := by
  cases mark <;> rfl

theorem Emits.spells (emits : Emits cs ts) : Spells cs ts :=
  fun l => ⟨_, emits l, rfl, fun _ _ mark => start_of_isMark mark _⟩

theorem Emits.append (emits : Emits cs ts) (emits' : Emits ds us) : Emits (cs ++ ds) (ts ++ us) := by
  intro l
  rw [List.foldlM_append, emits l, Option.bind_eq_bind, Option.bind_some, emits', List.reverse_append,
    List.append_assoc]

theorem Emits.append_spells (emits : Emits cs ts) (spells : Spells ds us) :
    Spells (cs ++ ds) (ts ++ us) := by
  intro l
  obtain ⟨last, read, closes, marks⟩ := spells (ts.reverse ++ l)
  rw [List.foldlM_append, emits l, Option.bind_eq_bind, Option.bind_some, List.reverse_append,
    List.append_assoc]
  exact ⟨last, read, closes, marks⟩

theorem Spells.mark (spells : Spells cs ts) (mark : IsMark c t) : Emits (cs ++ [c]) (ts ++ [t]) := by
  intro l
  obtain ⟨last, read, -, marks⟩ := spells l
  rw [List.foldlM_append, read, Option.bind_eq_bind, Option.bind_some, List.foldlM_cons, marks c t mark,
    Option.bind_eq_bind, Option.bind_some, List.foldlM_nil, List.reverse_append]
  rfl

/-! ### Texts -/

theorem hex?_hexDigit {k : Nat} (h : k < 16) : Lexer.hex? (hexDigit k) = some k := by
  have all : ∀ k < 16, Lexer.hex? (hexDigit k) = some k := by decide
  exact all k h

theorem step_code {d : Char} {k : Nat} (digit : Lexer.hex? d = some k) (l : List Token)
    (read : List Char) (half : Option Nat) (missing value : Nat) :
    Lexer.step ⟨l, .code read half (missing + 2) value⟩ d =
        some ⟨l, .code read half (missing + 1) (value * 16 + k)⟩ ∧
      Lexer.step ⟨l, .code read half 1 value⟩ d =
        (Lexer.coded read half (value * 16 + k)).map fun next => ⟨l, next⟩ := by
  constructor
  · simp [Lexer.step, digit]
  · simp [Lexer.step, digit]

theorem foldlM_code (control : c.toNat < 0x20) (l : List Token) (read : List Char) :
    ['\\', 'u', '0', '0', hexDigit (c.toNat / 16), hexDigit (c.toNat % 16)].foldlM Lexer.step
      ⟨l, .quoted read⟩ = some ⟨l, .quoted (c :: read)⟩ := by
  have escaped : Lexer.step ⟨l, .quoted read⟩ '\\' = some ⟨l, .escape read⟩ := rfl
  have coded : Lexer.step ⟨l, .escape read⟩ 'u' = some ⟨l, .code read none 4 0⟩ := rfl
  have zero : Lexer.hex? '0' = some 0 := by decide
  have high := hex?_hexDigit (show c.toNat / 16 < 16 by omega)
  have low := hex?_hexDigit (show c.toNat % 16 < 16 by omega)
  have value : ((0 * 16 + 0) * 16 + 0) * 16 + c.toNat / 16 = c.toNat / 16 := by omega
  have whole : c.toNat / 16 * 16 + c.toNat % 16 = c.toNat := by omega
  have plain : Lexer.coded read none c.toNat = some (.quoted (c :: read)) := by
    rw [Lexer.coded, if_neg (by omega), if_neg (by omega), Char.ofNat_toNat]
  simp only [List.foldlM_cons, List.foldlM_nil, escaped, coded, (step_code zero l read none 2 0).1,
    (step_code zero l read none 1 _).1, (step_code high l read none 0 _).1,
    (step_code low l read none 0 _).2, value, whole, plain, Option.bind_eq_bind, Option.bind_some,
    Option.map_some]
  rfl

theorem foldlM_escape (c : Char) (l : List Token) (read : List Char) :
    (escape c).foldlM Lexer.step ⟨l, .quoted read⟩ = some ⟨l, .quoted (c :: read)⟩ := by
  by_cases short : c ∈ ['"', '\\', '\x08', '\x0c', '\n', '\r', '\t']
  · simp only [List.mem_cons, List.not_mem_nil, or_false] at short
    rcases short with rfl | rfl | rfl | rfl | rfl | rfl | rfl <;> rfl
  · simp only [List.mem_cons, List.not_mem_nil, or_false, not_or] at short
    obtain ⟨quote, slash, back, form, line, carriage, tab⟩ := short
    rw [escape, if_neg quote, if_neg slash, if_neg back, if_neg form, if_neg line, if_neg carriage, if_neg tab]
    split
    · rename_i control
      exact foldlM_code control l read
    · rename_i visible
      have kept : Lexer.step ⟨l, .quoted read⟩ c = some ⟨l, .quoted (c :: read)⟩ := by
        rw [Lexer.step]
        simp only [if_neg quote, if_neg slash, if_neg visible]
      rw [List.foldlM_cons, kept]
      rfl

theorem foldlM_flatMap_escape (cs : List Char) (l : List Token) (read : List Char) :
    (cs.flatMap escape).foldlM Lexer.step ⟨l, .quoted read⟩ = some ⟨l, .quoted (cs.reverse ++ read)⟩ := by
  induction cs generalizing read with
  | nil => rfl
  | cons c cs ih =>
    rw [List.flatMap_cons, List.foldlM_append, foldlM_escape, Option.bind_eq_bind, Option.bind_some, ih,
      List.reverse_cons, List.append_assoc]
    rfl

theorem emits_quoted (s : String) : Emits (quoted s []) [.text s] := by
  intro l
  have opened : Lexer.step ⟨l, .between⟩ '"' = some ⟨l, .quoted []⟩ := rfl
  rw [quoted, List.foldlM_cons, opened, Option.bind_eq_bind, Option.bind_some, List.foldlM_append,
    foldlM_flatMap_escape, Option.bind_eq_bind, Option.bind_some, List.append_nil]
  simp [Lexer.step, Lexer.emit]

/-! ### Words and numerals -/

theorem spells_word (v : Json) (word : v = .null ∨ v = .bool true ∨ v = .bool false) :
    Spells (printOnto v []) [.plain v] := by
  intro l
  rcases word with rfl | rfl | rfl
  · exact ⟨⟨l, .word ['l', 'l', 'u', 'n']⟩, rfl, rfl, fun _ _ mark => by cases mark <;> rfl⟩
  · exact ⟨⟨l, .word ['e', 'u', 'r', 't']⟩, rfl, rfl, fun _ _ mark => by cases mark <;> rfl⟩
  · exact ⟨⟨l, .word ['e', 's', 'l', 'a', 'f']⟩, rfl, rfl, fun _ _ mark => by cases mark <;> rfl⟩

theorem foldlM_numeral (inside : ∀ c ∈ cs, Lexer.inNumeral c = true) (l : List Token)
    (read : List Char) : cs.foldlM Lexer.step ⟨l, .numeral read⟩ =
      some ⟨l, .numeral (cs.reverse ++ read)⟩ := by
  induction cs generalizing read with
  | nil => rfl
  | cons c cs ih =>
    have kept : Lexer.step ⟨l, .numeral read⟩ c = some ⟨l, .numeral (c :: read)⟩ := by
      rw [Lexer.step]
      simp only [if_pos (inside c List.mem_cons_self)]
    rw [List.foldlM_cons, kept, Option.bind_eq_bind, Option.bind_some,
      ih fun d hd => inside d (List.mem_cons_of_mem c hd), List.reverse_cons, List.append_assoc]
    rfl

theorem step_first {first : Char} (starts : first = '-' ∨ first.isDigit = true) (l : List Token) :
    Lexer.step ⟨l, .between⟩ first = some ⟨l, .numeral [first]⟩ := by
  rcases starts with rfl | isDigit
  · rfl
  · have other : ∀ d : Char, d.isDigit = false → first ≠ d := fun _ => Numeral.ne_of_isDigit isDigit
    have space : Lexer.isSpace first = false := by
      simp [Lexer.isSpace, other ' ' rfl, other '\n' rfl, other '\r' rfl, other '\t' rfl]
    rw [Lexer.step, Lexer.start]
    simp [space, isDigit, other '[' rfl, other ']' rfl, other '\x7b' rfl, other '\x7d' rfl,
      other ',' rfl, other ':' rfl, other '"' rfl]

theorem exists_first (numeral : IsNumeral cs) : ∃ first rest, cs = first :: rest ∧
    (first = '-' ∨ first.isDigit = true) ∧ ∀ c ∈ rest, Lexer.inNumeral c = true := by
  obtain ⟨negative, whole, fraction, exponent, rfl, run, hf, he⟩ := numeral
  have digits : ∀ cs, Numeral.IsRun cs → ∀ c ∈ cs, Lexer.inNumeral c = true := by
    intro cs run c hc
    simp [Lexer.inNumeral, run.2 c hc]
  have inFraction : ∀ c ∈ Numeral.fractionText fraction, Lexer.inNumeral c = true := by
    intro c hc
    cases fraction with
    | none => cases hc
    | some f =>
      rcases List.mem_cons.mp hc with rfl | hc
      · rfl
      · exact digits f (hf f rfl) c hc
  have inExponent : ∀ c ∈ Numeral.exponentText exponent, Lexer.inNumeral c = true := by
    intro c hc
    cases exponent with
    | none => cases hc
    | some e =>
      obtain ⟨minus, cs⟩ := e
      rcases List.mem_cons.mp hc with rfl | hc
      · rfl
      · rcases List.mem_append.mp hc with hc | hc
        · cases minus with
          | true => exact List.mem_singleton.mp hc ▸ rfl
          | false => cases hc
        · exact digits cs (he _ rfl) c hc
  have inRest : ∀ c ∈ Numeral.fractionText fraction ++ Numeral.exponentText exponent,
      Lexer.inNumeral c = true :=
    fun c hc => (List.mem_append.mp hc).elim (inFraction c) (inExponent c)
  cases negative with
  | true =>
    refine ⟨'-', whole ++ _, rfl, Or.inl rfl, fun c hc => ?_⟩
    exact (List.mem_append.mp hc).elim (digits whole run c) (inRest c)
  | false =>
    obtain ⟨first, rest, rfl, isDigit⟩ := Numeral.head_of_isRun run
    refine ⟨first, rest ++ _, rfl, Or.inr isDigit, fun c hc => ?_⟩
    exact (List.mem_append.mp hc).elim (fun hc => digits _ run c (List.mem_cons_of_mem first hc)) (inRest c)

theorem spells_numeral (numeral : IsNumeral cs) (read : number? cs = some v) :
    Spells cs [.plain v] := by
  obtain ⟨first, rest, rfl, starts, inside⟩ := exists_first numeral
  intro l
  have closes : Lexer.close ⟨l, .numeral (rest.reverse ++ [first])⟩ = some ⟨.plain v :: l, .between⟩ := by
    rw [Lexer.close]
    simp only
    rw [List.reverse_append, List.reverse_reverse, List.reverse_singleton, List.singleton_append, read]
    rfl
  refine ⟨⟨l, .numeral (rest.reverse ++ [first])⟩, ?_, closes, fun c t mark => ?_⟩
  · rw [List.foldlM_cons, step_first starts, Option.bind_eq_bind, Option.bind_some, foldlM_numeral inside]
  · have outside : Lexer.inNumeral c = false := by cases mark <;> decide
    rw [Lexer.step]
    simp only [outside, Bool.false_eq_true, if_false]
    rw [closes]
    exact start_of_isMark mark _

/-! ### Values -/

/-- Tokens that the reader puts together to this value wherever a value can stand that has at most so
many arrays and objects around one another. -/
def Builds (n : Nat) (ts : List Token) (v : Json) : Prop :=
  ∀ p : Parser, (p.expect = .value ∨ p.expect = .valueOrClose) →
    p.stack.length + n ≤ Parser.depthLimit → ts.foldlM Parser.step p = some (p.push v)

theorem builds_plain (v : Json) : Builds n [.plain v] v := by
  rintro ⟨stack, expect⟩ (rfl | rfl) -
  · rfl
  · rfl

theorem builds_text (s : String) : Builds n [.text s] (.str s) := by
  rintro ⟨stack, expect⟩ (rfl | rfl) -
  · rfl
  · rfl

def Survives (n : Nat) (v : Json) : Prop :=
  ∃ ts, Spells (printOnto v []) ts ∧ Builds n ts v.reread

theorem exists_printItems {items : List Json} (each : ∀ v ∈ items, Survives n v) : ∃ us,
    (∀ cs ts, Spells cs ts → Spells (cs ++ printItems items []) (ts ++ us)) ∧
    ∀ read stack, stack.length + 1 + n ≤ Parser.depthLimit →
      us.foldlM Parser.step ⟨.items read :: stack, .separator⟩ =
        some ⟨.items ((rereadItems items).reverse ++ read) :: stack, .separator⟩ := by
  induction items with
  | nil =>
    refine ⟨[], fun cs ts spells => ?_, fun _ _ _ => rfl⟩
    rwa [printItems, List.append_nil, List.append_nil]
  | cons v items ih =>
    obtain ⟨ts, spells, builds⟩ := each v List.mem_cons_self
    obtain ⟨us, writes, reads⟩ := ih fun w hw => each w (List.mem_cons_of_mem v hw)
    refine ⟨.comma :: ts ++ us, fun cs ts' front => ?_, fun read stack deep => ?_⟩
    · have whole := writes _ _ ((front.mark .comma).append_spells spells)
      rw [printItems, printOnto_eq_append]
      simpa using whole
    · have comma : Parser.step ⟨.items read :: stack, .separator⟩ .comma =
          some ⟨.items read :: stack, .value⟩ := rfl
      rw [List.cons_append, List.foldlM_cons, comma, Option.bind_eq_bind, Option.bind_some,
        List.foldlM_append, builds _ (Or.inl rfl) (by simpa using deep), Option.bind_eq_bind,
        Option.bind_some, Parser.push]
      simp only
      rw [reads _ _ deep, rereadItems, List.reverse_cons, List.append_assoc]
      rfl

theorem quoted_eq_append (s : String) (tail : List Char) : quoted s tail = quoted s [] ++ tail := by
  simp [quoted]

theorem exists_field (name : String) (survives : Survives n v) : ∃ ts,
    Spells (quoted name (':' :: printOnto v [])) ts ∧
    ∀ expect read old stack, (expect = .name ∨ expect = .nameOrClose) →
      stack.length + 1 + n ≤ Parser.depthLimit →
      ts.foldlM Parser.step ⟨.fields read old :: stack, expect⟩ =
        some ⟨.fields ((name, v.reread) :: read) "" :: stack, .separator⟩ := by
  obtain ⟨ts, spells, builds⟩ := survives
  refine ⟨[.text name] ++ ([.colon] ++ ts), ?_, fun expect read old stack expects deep => ?_⟩
  · have colon : Emits [':'] [.colon] := fun l => rfl
    rw [quoted_eq_append]
    exact (emits_quoted name).append_spells (colon.append_spells spells)
  · have named : Parser.step ⟨.fields read old :: stack, expect⟩ (.text name) =
        some ⟨.fields read name :: stack, .colon⟩ := by
      rcases expects with rfl | rfl <;> rfl
    have colon : Parser.step ⟨.fields read name :: stack, .colon⟩ .colon =
        some ⟨.fields read name :: stack, .value⟩ := rfl
    rw [List.singleton_append, List.foldlM_cons, named, Option.bind_eq_bind, Option.bind_some,
      List.singleton_append, List.foldlM_cons, colon, Option.bind_eq_bind, Option.bind_some,
      builds _ (Or.inl rfl) (by simpa using deep)]
    rfl

theorem exists_printFields {fields : List (String × Json)} (each : ∀ f ∈ fields, Survives n f.2) : ∃ us,
    (∀ cs ts, Spells cs ts → Spells (cs ++ printFields fields []) (ts ++ us)) ∧
    ∀ read stack, stack.length + 1 + n ≤ Parser.depthLimit →
      us.foldlM Parser.step ⟨.fields read "" :: stack, .separator⟩ =
        some ⟨.fields ((rereadFields fields).reverse ++ read) "" :: stack, .separator⟩ := by
  induction fields with
  | nil =>
    refine ⟨[], fun cs ts spells => ?_, fun _ _ _ => rfl⟩
    rwa [printFields, List.append_nil, List.append_nil]
  | cons field fields ih =>
    obtain ⟨name, v⟩ := field
    obtain ⟨ts, spells, builds⟩ := exists_field name (each (name, v) List.mem_cons_self)
    obtain ⟨us, writes, reads⟩ := ih fun g hg => each g (List.mem_cons_of_mem _ hg)
    refine ⟨.comma :: ts ++ us, fun cs ts' front => ?_, fun read stack deep => ?_⟩
    · have whole := writes _ _ ((front.mark .comma).append_spells spells)
      rw [printFields, printOnto_eq_append, quoted_eq_append]
      rw [quoted_eq_append] at whole
      simpa using whole
    · have comma : Parser.step ⟨.fields read "" :: stack, .separator⟩ .comma =
          some ⟨.fields read "" :: stack, .name⟩ := rfl
      rw [List.cons_append, List.foldlM_cons, comma, Option.bind_eq_bind, Option.bind_some,
        List.foldlM_append, builds _ _ _ _ (Or.inl rfl) deep, Option.bind_eq_bind, Option.bind_some,
        reads _ _ deep, rereadFields, List.reverse_cons, List.append_assoc]
      rfl

theorem step_open {p : Parser} (expects : p.expect = .value ∨ p.expect = .valueOrClose)
    (deep : p.stack.length < Parser.depthLimit) :
    p.step .openArr = some ⟨.items [] :: p.stack, .valueOrClose⟩ ∧
      p.step .openObj = some ⟨.fields [] "" :: p.stack, .nameOrClose⟩ := by
  obtain ⟨stack, expect⟩ := p
  simp only at expects deep
  rcases expects with rfl | rfl
  · exact ⟨if_pos deep, if_pos deep⟩
  · exact ⟨if_pos deep, if_pos deep⟩

theorem push_expect (stack : List Frame) (expect expect' : Expect) (v : Json) :
    Parser.push ⟨stack, expect⟩ v = Parser.push ⟨stack, expect'⟩ v := by
  cases stack with
  | nil => rfl
  | cons frame stack => cases frame <;> rfl

theorem survives_arr {items : List Json} (each : ∀ v ∈ items, Survives n v) :
    Survives (n + 1) (.arr items) := by
  have opens : Emits ['['] [.openArr] := fun _ => rfl
  cases items with
  | nil =>
    refine ⟨[.openArr, .closeArr], Emits.spells fun _ => rfl, fun p expects deep => ?_⟩
    rw [List.foldlM_cons, (step_open expects (by omega)).1]
    exact congrArg some (push_expect p.stack _ _ _)
  | cons v items =>
    obtain ⟨ts, spells, builds⟩ := each v List.mem_cons_self
    obtain ⟨us, writes, reads⟩ := exists_printItems fun w hw => each w (List.mem_cons_of_mem v hw)
    refine ⟨[.openArr] ++ (ts ++ us ++ [.closeArr]), ?_, fun p expects deep => ?_⟩
    · have whole := opens.append ((writes _ _ spells).mark .closeArr)
      rw [printOnto, printOnto_eq_append, printItems_eq_append]
      simpa using whole.spells
    · have closed : Parser.step ⟨.items ((rereadItems items).reverse ++ [v.reread]) :: p.stack, .separator⟩
          .closeArr = some (p.push (Json.arr (v :: items)).reread) := by
        have order : (((rereadItems items).reverse ++ [v.reread]).reverse) = rereadItems (v :: items) := by
          rw [List.reverse_append, List.reverse_reverse]
          rfl
        show some (Parser.push _ (.arr _)) = _
        rw [order]
        exact congrArg some (push_expect p.stack _ _ _)
      rw [List.singleton_append, List.foldlM_cons, (step_open expects (by omega)).1, Option.bind_eq_bind,
        Option.bind_some, List.foldlM_append, List.foldlM_append,
        builds _ (Or.inr rfl) (by simp only [List.length_cons]; omega), Option.bind_eq_bind, Option.bind_some,
        Parser.push]
      simp only
      rw [reads _ _ (by omega), Option.bind_some, List.foldlM_cons, closed]
      rfl

theorem survives_obj {fields : List (String × Json)} (each : ∀ f ∈ fields, Survives n f.2) :
    Survives (n + 1) (.obj fields) := by
  have opens : Emits ['\x7b'] [.openObj] := fun _ => rfl
  cases fields with
  | nil =>
    refine ⟨[.openObj, .closeObj], Emits.spells fun _ => rfl, fun p expects deep => ?_⟩
    rw [List.foldlM_cons, (step_open expects (by omega)).2]
    exact congrArg some (push_expect p.stack _ _ _)
  | cons field fields =>
    obtain ⟨name, v⟩ := field
    obtain ⟨ts, spells, builds⟩ := exists_field name (each (name, v) List.mem_cons_self)
    obtain ⟨us, writes, reads⟩ := exists_printFields fun g hg => each g (List.mem_cons_of_mem _ hg)
    refine ⟨[.openObj] ++ (ts ++ us ++ [.closeObj]), ?_, fun p expects deep => ?_⟩
    · have whole := opens.append ((writes _ _ spells).mark .closeObj)
      rw [printOnto, printOnto_eq_append, printFields_eq_append, quoted_eq_append]
      rw [quoted_eq_append] at whole
      simpa using whole.spells
    · have closed : Parser.step
          ⟨.fields ((rereadFields fields).reverse ++ [(name, v.reread)]) "" :: p.stack, .separator⟩
          .closeObj = some (p.push (Json.obj ((name, v) :: fields)).reread) := by
        have order : (((rereadFields fields).reverse ++ [(name, v.reread)]).reverse) =
            rereadFields ((name, v) :: fields) := by
          rw [List.reverse_append, List.reverse_reverse]
          rfl
        show some (Parser.push _ (.object _)) = _
        rw [order]
        exact congrArg some (push_expect p.stack _ _ _)
      rw [List.singleton_append, List.foldlM_cons, (step_open expects (by omega)).2, Option.bind_eq_bind,
        Option.bind_some, List.foldlM_append, List.foldlM_append,
        builds _ _ _ _ (Or.inr rfl) (by omega), Option.bind_eq_bind, Option.bind_some,
        reads _ _ (by omega), Option.bind_some, List.foldlM_cons, closed]
      rfl

/-- Every value that text can hold is read from its text. -/
theorem Fits.survives (fits : Fits n v) : Survives n v := by
  induction fits with
  | null => exact ⟨_, spells_word .null (Or.inl rfl), builds_plain _⟩
  | bool b =>
    cases b with
    | true => exact ⟨_, spells_word _ (Or.inr (Or.inl rfl)), builds_plain _⟩
    | false => exact ⟨_, spells_word _ (Or.inr (Or.inr rfl)), builds_plain _⟩
  | @int n i least most =>
    refine ⟨_, ?_, builds_plain _⟩
    rw [printOnto, List.append_nil]
    exact spells_numeral (isNumeral_intText i) (number?_intText least most)
  | @float n x small low =>
    obtain ⟨y, read⟩ := exists_number?_floatText small low
    refine ⟨[.plain (.float y)], ?_, ?_⟩
    · rw [printOnto, List.append_nil]
      exact spells_numeral (isNumeral_floatText x) read
    · rw [reread, read]
      exact builds_plain _
  | str s => exact ⟨_, emits_quoted s |>.spells, builds_text s⟩
  | arr _ ih => exact survives_arr ih
  | obj _ ih => exact survives_obj ih

theorem parse?_text (fits : Fits Parser.depthLimit v) : parse? v.text = some v.reread := by
  obtain ⟨ts, spells, builds⟩ := fits.survives
  obtain ⟨last, read, closes, -⟩ := spells []
  have cut : tokens? v.text.toList = some ts := by
    rw [tokens?, text, String.toList_ofList, read, Option.bind_some, closes, Option.map_some,
      List.append_nil, List.reverse_reverse]
  rw [parse?, cut, Option.bind_some, builds {} (Or.inl rfl) (by simp), Option.bind_some]
  rfl

end FacetSearch.Json
