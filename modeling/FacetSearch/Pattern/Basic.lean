import FacetSearch.Text.Blank
import FacetSearch.Text.Digit
import FacetSearch.Text.Fold
import FacetSearch.Text.Word

/-!
# Patterns

Patterns describe the spellings of parameter names and the form of values. A text is matched one
character at a time: `after c p` is what remains to be matched of `p` once `c` has been read, and
`accepts` says whether nothing more needs to be read.
-/

namespace FacetSearch

namespace Pattern

inductive Member where
  | range (first last : Char)
  | digit
  | word
  | blank
  deriving DecidableEq, Repr

def Member.has (c : Char) : Member → Bool
  | .range first last => first ≤ c && c ≤ last
  | .digit => Text.isDigit c
  | .word => Text.isWord c
  | .blank => Text.isBlank c

/-- A character class. With `anyCase` a character belongs to it if one that differs in case alone
does. -/
structure Class where
  members : List Member
  negated : Bool := false
  anyCase : Bool := false
  deriving DecidableEq, Repr

def Class.has (k : Class) (c : Char) : Bool :=
  k.negated != k.members.any fun m =>
    m.has c || (k.anyCase && match m with
      | .range first last =>
        if first = last then Text.fold first == Text.fold c else (Text.variants c).any m.has
      | _ => (Text.variants c).any m.has)

end Pattern

/-- What a text, or a part of it, has to look like. -/
inductive Pattern where
  | nothing
  | empty
  | atStart
  | atEnd
  | one (chars : Pattern.Class)
  | seq (first second : Pattern)
  | alt (left right : Pattern)
  | many (body : Pattern)
  deriving DecidableEq, Repr

namespace Pattern

def any : Pattern := .one ⟨[], true, false⟩

/-- One after the other, without steps that decide nothing. -/
def andThen : Pattern → Pattern → Pattern
  | .nothing, _ => .nothing
  | _, .nothing => .nothing
  | .empty, q => q
  | p, .empty => p
  | p, q => .seq p q

/-- Either of the two, without choices that decide nothing. -/
def either : Pattern → Pattern → Pattern
  | .nothing, q => q
  | p, .nothing => p
  | p, q => if p = q then p else .alt p q

/-- Whether the pattern is satisfied without reading, at the beginning or the end of the text. -/
def accepts (begin finish : Bool) : Pattern → Bool
  | .nothing => false
  | .empty => true
  | .atStart => begin
  | .atEnd => finish
  | .one _ => false
  | .seq p q => p.accepts begin finish && q.accepts begin finish
  | .alt p q => p.accepts begin finish || q.accepts begin finish
  | .many _ => true

/-- What remains to be matched after `c`, which stands at the beginning of the text or not. -/
def after (begin : Bool) (c : Char) : Pattern → Pattern
  | .one k => if k.has c then .empty else .nothing
  | .seq p q =>
    let rest := (p.after begin c).andThen q
    if p.accepts begin false then rest.either (q.after begin c) else rest
  | .alt p q => (p.after begin c).either (q.after begin c)
  | .many p => (p.after begin c).andThen (.many p)
  | _ => .nothing

def run (p : Pattern) (begin : Bool) : List Char → Bool
  | [] => p.accepts begin true
  | c :: rest => (p.after begin c).run false rest

def occursIn (p : Pattern) (s : String) : Bool :=
  (Pattern.seq (.many any) (.seq p (.many any))).run true s.toList

end Pattern
end FacetSearch
