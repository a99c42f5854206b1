import FacetSearch.Text.Printable

/-!
# Quoted text in reports

A text between quotes as log lines show it: quotes, backslashes and the common controls escaped by a
letter, and what cannot be printed by its code point.
-/

namespace FacetSearch.Text

/-- The hexadecimal digits of a number, put in front of `tail`. -/
def hexOnto (n : Nat) (tail : List Char) : List Char :=
  let d := n % 16
  let c := Char.ofNat (if d < 10 then 0x30 + d else 0x61 + (d - 10))
  if n < 16 then c :: tail else hexOnto (n / 16) (c :: tail)
termination_by n

def escapeShown (c : Char) : List Char :=
  if c = '"' then ['\\', '"']
  else if c = '\\' then ['\\', '\\']
  else if c = '\n' then ['\\', 'n']
  else if c = '\r' then ['\\', 'r']
  else if c = '\t' then ['\\', 't']
  else if c = '\x00' then ['\\', '0']
  else if isPrintable c then [c]
  else '\\' :: 'u' :: '\x7b' :: hexOnto c.toNat ['\x7d']

def quoted (s : String) : String :=
  String.ofList ('"' :: (s.toList.flatMap escapeShown ++ ['"']))

def quotedList (texts : List String) : String :=
  "[" ++ String.intercalate ", " (texts.map quoted) ++ "]"

end FacetSearch.Text
