import FacetSearch.Json.Numeral

/-!
# Reading JSON text

A text is cut into tokens, and a machine with a stack of open arrays and objects puts the tokens
together. Both go through their input once from left to right; neither looks back.
-/

namespace FacetSearch.Json

inductive Token where
  | openArr
  | closeArr
  | openObj
  | closeObj
  | comma
  | colon
  | text (value : String)
  | plain (value : Json)
  deriving Repr, BEq

/-! ### Tokens -/

/-- What the characters read since the last token are part of; texts are kept last character
first. -/
inductive Lexing where
  | between
  | word (read : List Char)
  | numeral (read : List Char)
  | quoted (read : List Char)
  | escape (read : List Char)
  /-- After `\u`: a first half awaiting its second, the digits to come and the value so far. -/
  | code (read : List Char) (half : Option Nat) (missing : Nat) (value : Nat)
  /-- After the first half of a pair: whether the backslash of the second has been read. -/
  | pair (read : List Char) (half : Nat) (slash : Bool)
  deriving Repr

/-- The tokens so far, last first, and the state of reading. -/
structure Lexer where
  tokens : List Token := []
  lexing : Lexing := .between
  deriving Repr

namespace Lexer

def emit (l : Lexer) (t : Token) : Lexer := ⟨t :: l.tokens, .between⟩

def isSpace (c : Char) : Bool := c == ' ' || c == '\n' || c == '\r' || c == '\t'

def inNumeral (c : Char) : Bool :=
  c.isDigit || c == '-' || c == '+' || c == '.' || c == 'e' || c == 'E'

def word? : List Char → Option Json
  | ['e', 'u', 'r', 't'] => some (.bool true)
  | ['e', 's', 'l', 'a', 'f'] => some (.bool false)
  | ['l', 'l', 'u', 'n'] => some .null
  | _ => none

/-- A word or numeral that has ended, as a token. -/
def close (l : Lexer) : Option Lexer :=
  match l.lexing with
  | .between => some l
  | .word read => (word? read).map fun v => l.emit (.plain v)
  | .numeral read => (number? read.reverse).map fun v => l.emit (.plain v)
  | _ => none

def start (l : Lexer) (c : Char) : Option Lexer :=
  if isSpace c then some l
  else if c = '[' then some (l.emit .openArr)
  else if c = ']' then some (l.emit .closeArr)
  else if c = '\x7b' then some (l.emit .openObj)
  else if c = '\x7d' then some (l.emit .closeObj)
  else if c = ',' then some (l.emit .comma)
  else if c = ':' then some (l.emit .colon)
  else if c = '"' then some { l with lexing := .quoted [] }
  else if c = '-' ∨ c.isDigit then some { l with lexing := .numeral [c] }
  else if c.isAlpha then some { l with lexing := .word [c] }
  else none

def escaped? (c : Char) : Option Char :=
  if c = '"' ∨ c = '\\' ∨ c = '/' then some c
  else if c = 'b' then some '\x08'
  else if c = 'f' then some '\x0c'
  else if c = 'n' then some '\n'
  else if c = 'r' then some '\r'
  else if c = 't' then some '\t'
  else none

def hex? (c : Char) : Option Nat :=
  if c.isDigit then some (c.toNat - 0x30)
  else if 'a' ≤ c ∧ c ≤ 'f' then some (c.toNat - 0x61 + 10)
  else if 'A' ≤ c ∧ c ≤ 'F' then some (c.toNat - 0x41 + 10)
  else none

/-- Four digits have been read: a character, the first half of a pair, or the second half. -/
def coded (read : List Char) (half : Option Nat) (value : Nat) : Option Lexing :=
  match half with
  | none =>
    if 0xD800 ≤ value ∧ value ≤ 0xDBFF then some (.pair read value false)
    else if 0xDC00 ≤ value ∧ value ≤ 0xDFFF then none
    else some (.quoted (Char.ofNat value :: read))
  | some high =>
    if 0xDC00 ≤ value ∧ value ≤ 0xDFFF then
      some (.quoted (Char.ofNat (0x10000 + (high - 0xD800) * 0x400 + (value - 0xDC00)) :: read))
    else none

def step (l : Lexer) (c : Char) : Option Lexer :=
  match l.lexing with
  | .between => l.start c
  | .word read =>
    if c.isAlpha then some { l with lexing := .word (c :: read) }
    else l.close.bind (·.start c)
  | .numeral read =>
    if inNumeral c then some { l with lexing := .numeral (c :: read) }
    else l.close.bind (·.start c)
  | .quoted read =>
    if c = '"' then some (l.emit (.text (String.ofList read.reverse)))
    else if c = '\\' then some { l with lexing := .escape read }
    else if c.toNat < 0x20 then none
    else some { l with lexing := .quoted (c :: read) }
  | .escape read =>
    if c = 'u' then some { l with lexing := .code read none 4 0 }
    else (escaped? c).map fun d => { l with lexing := .quoted (d :: read) }
  | .code read half missing value =>
    (hex? c).bind fun d =>
      let value := value * 16 + d
      if missing ≤ 1 then (coded read half value).map fun next => { l with lexing := next }
      else some { l with lexing := .code read half (missing - 1) value }
  | .pair read half slash =>
    if !slash ∧ c = '\\' then some { l with lexing := .pair read half true }
    else if slash ∧ c = 'u' then some { l with lexing := .code read (some half) 4 0 }
    else none

end Lexer

def tokens? (cs : List Char) : Option (List Token) :=
  ((cs.foldlM Lexer.step {}).bind Lexer.close).map fun l => l.tokens.reverse

/-! ### Values -/

/-- An array or object that is not closed yet; members are kept last first. -/
inductive Frame where
  | items (read : List Json)
  | fields (read : List (String × Json)) (name : String)
  deriving Repr

inductive Expect where
  | value
  | valueOrClose
  | nameOrClose
  | name
  | colon
  | separator
  | done (value : Json)
  deriving Repr

/-- The open arrays and objects, innermost first, and what may come next. -/
structure Parser where
  stack : List Frame := []
  expect : Expect := .value
  deriving Repr

namespace Parser

def depthLimit : Nat := 127

def push (p : Parser) (v : Json) : Parser :=
  match p.stack with
  | [] => ⟨[], .done v⟩
  | .items read :: stack => ⟨.items (v :: read) :: stack, .separator⟩
  | .fields read name :: stack => ⟨.fields ((name, v) :: read) "" :: stack, .separator⟩

def openFrame (p : Parser) (frame : Frame) (next : Expect) : Option Parser :=
  if p.stack.length < depthLimit then some ⟨frame :: p.stack, next⟩ else none

def value (p : Parser) : Token → Option Parser
  | .openArr => p.openFrame (.items []) .valueOrClose
  | .openObj => p.openFrame (.fields [] "") .nameOrClose
  | .text s => some (p.push (.str s))
  | .plain v => some (p.push v)
  | _ => none

def closeArr (p : Parser) : Option Parser :=
  match p.stack with
  | .items read :: stack => some ({ p with stack := stack }.push (.arr read.reverse))
  | _ => none

def closeObj (p : Parser) : Option Parser :=
  match p.stack with
  | .fields read _ :: stack => some ({ p with stack := stack }.push (.object read.reverse))
  | _ => none

def setName (p : Parser) (name : String) : Option Parser :=
  match p.stack with
  | .fields read _ :: stack => some ⟨.fields read name :: stack, .colon⟩
  | _ => none

def step (p : Parser) (t : Token) : Option Parser :=
  match p.expect with
  | .value => p.value t
  | .valueOrClose => if t == .closeArr then p.closeArr else p.value t
  | .nameOrClose =>
    match t with
    | .closeObj => p.closeObj
    | .text name => p.setName name
    | _ => none
  | .name =>
    match t with
    | .text name => p.setName name
    | _ => none
  | .colon => if t == .colon then some { p with expect := .value } else none
  | .separator =>
    match t, p.stack with
    | .comma, .items _ :: _ => some { p with expect := .value }
    | .comma, .fields _ _ :: _ => some { p with expect := .name }
    | .closeArr, _ => p.closeArr
    | .closeObj, _ => p.closeObj
    | _, _ => none
  | .done _ => none

def result? (p : Parser) : Option Json :=
  match p.expect with
  | .done v => some v
  | _ => none

end Parser

def parse? (s : String) : Option Json :=
  (tokens? s.toList).bind fun ts => (ts.foldlM Parser.step {}).bind Parser.result?

end FacetSearch.Json
