import FacetSearch.Json.Basic
import FacetSearch.Number.Shortest

/-!
# JSON as compact text

No blanks, fields in the order they have, and of the characters of a text only quotes, backslashes
and controls escaped. A binary number is written with the fewest digits that read back, always with
a fraction or an exponent, so that it reads back as no integer.
-/

namespace FacetSearch.Json

open Number (Binary Digits Format)

def hexDigit (n : Nat) : Char :=
  Char.ofNat (if n < 10 then 0x30 + n else 0x61 + (n - 10))

def escape (c : Char) : List Char :=
  if c = '"' then ['\\', '"']
  else if c = '\\' then ['\\', '\\']
  else if c = '\x08' then ['\\', 'b']
  else if c = '\x0c' then ['\\', 'f']
  else if c = '\n' then ['\\', 'n']
  else if c = '\r' then ['\\', 'r']
  else if c = '\t' then ['\\', 't']
  else if c.toNat < 0x20 then
    ['\\', 'u', '0', '0', hexDigit (c.toNat / 16), hexDigit (c.toNat % 16)]
  else [c]

def quoted (s : String) (tail : List Char) : List Char :=
  '"' :: (s.toList.flatMap escape ++ '"' :: tail)

/-- Whole digits with a point among them or an exponent behind: plain notation for numbers from
`10 ^ -5` up to `10 ^ 16`. -/
def floatDigits (digits : Digits) : List Char :=
  let cs := Number.Decimal.render digits.value
  let point := digits.point
  if (cs.length : Int) ≤ point ∧ point ≤ 16 then
    cs ++ List.replicate (point - cs.length).toNat '0' ++ ['.', '0']
  else if 0 < point ∧ point ≤ 16 then cs.take point.toNat ++ '.' :: cs.drop point.toNat
  else if -5 < point ∧ point ≤ 0 then '0' :: '.' :: List.replicate (-point).toNat '0' ++ cs
  else
    let exponent := point - 1
    let fraction := if cs.length = 1 then [] else '.' :: cs.drop 1
    let sign := if exponent < 0 then ['-'] else []
    cs.take 1 ++ fraction ++ 'e' :: sign ++ Number.Decimal.render exponent.natAbs

def floatText (x : Binary) : List Char :=
  let sign := if x.negative then ['-'] else []
  sign ++
    if x.significand = 0 then ['0', '.', '0'] else floatDigits (Number.shortest Format.double x)

def intText : Int → List Char
  | .ofNat n => Number.Decimal.render n
  | .negSucc n => '-' :: Number.Decimal.render (n + 1)

mutual

/-- The text of a value, put in front of `tail`. -/
def printOnto : Json → List Char → List Char
  | .null, tail => 'n' :: 'u' :: 'l' :: 'l' :: tail
  | .bool true, tail => 't' :: 'r' :: 'u' :: 'e' :: tail
  | .bool false, tail => 'f' :: 'a' :: 'l' :: 's' :: 'e' :: tail
  | .int n, tail => intText n ++ tail
  | .float x, tail => floatText x ++ tail
  | .str s, tail => quoted s tail
  | .arr [], tail => '[' :: ']' :: tail
  | .arr (item :: items), tail => '[' :: printOnto item (printItems items (']' :: tail))
  | .obj [], tail => '\x7b' :: '\x7d' :: tail
  | .obj ((name, value) :: fields), tail =>
    '\x7b' :: quoted name (':' :: printOnto value (printFields fields ('\x7d' :: tail)))

def printItems : List Json → List Char → List Char
  | [], tail => tail
  | item :: items, tail => ',' :: printOnto item (printItems items tail)

def printFields : List (String × Json) → List Char → List Char
  | [], tail => tail
  | (name, value) :: fields, tail =>
    ',' :: quoted name (':' :: printOnto value (printFields fields tail))

end

def text (value : Json) : String :=
  String.ofList (printOnto value [])

end FacetSearch.Json
