import FacetSearch.Pattern.Basic

/-!
# The notation of patterns

Literals, `.`, classes in brackets, `\d`, `\w`, `\s`, groups, `|`, the anchors `^` and `$`, the
repetitions `?`, `*`, `+` and `\x7bn\x7d`, and the options `i` (any case) and `s` (`.` is any
character). A text is read once, with a stack of the groups that are open.
-/

namespace FacetSearch.Pattern

/-- A group that is open: the alternatives before the current one, the parts of the current one,
last first, and the options that hold outside the group. -/
structure Group where
  alternatives : Option Pattern := none
  parts : List Pattern := []
  anyCase : Bool := false
  dotAll : Bool := false
  deriving Repr

inductive Reading where
  | plain
  | escape
  /-- After an opening parenthesis. -/
  | group
  /-- After `(?`, with the options so far. -/
  | options (anyCase dotAll : Bool)
  /-- In a class: a character that may begin a range, and whether the dash of it has been read. -/
  | cls (negated : Bool) (members : List Member) (pending : Option Char) (dash : Bool)
  | clsStart
  | clsEscape (negated : Bool) (members : List Member)
  | count (digits : Nat)
  deriving Repr

/-- The state of reading: open groups, innermost first, and the options that hold. -/
structure Reader where
  groups : List Group := [{}]
  anyCase : Bool := false
  dotAll : Bool := false
  /-- Whether a repetition has just been read, which a question mark may follow. -/
  repeated : Bool := false
  reading : Reading := .plain
  deriving Repr

namespace Group

def sequence (parts : List Pattern) : Pattern :=
  parts.foldl (fun rest p => p.andThen rest) .empty

def close (g : Group) : Pattern :=
  match g.alternatives with
  | some p => .alt p (sequence g.parts)
  | none => sequence g.parts

end Group

namespace Reader

def add (r : Reader) (p : Pattern) : Option Reader :=
  match r.groups with
  | g :: rest => some { r with groups := { g with parts := p :: g.parts } :: rest,
                               repeated := false, reading := .plain }
  | [] => none

def modify (r : Reader) (f : Pattern → Pattern) : Option Reader :=
  match r.groups with
  | g :: rest =>
    match g.parts with
    | p :: parts => some { r with groups := { g with parts := f p :: parts } :: rest,
                                  repeated := true, reading := .plain }
    | [] => none
  | [] => none

def literal (r : Reader) (c : Char) : Option Reader :=
  r.add (.one { members := [.range c c], anyCase := r.anyCase })

def nextAlternative (r : Reader) : Option Reader :=
  match r.groups with
  | g :: rest => some { r with groups := { g with alternatives := some g.close, parts := [] } :: rest,
                               repeated := false }
  | [] => none

def openGroup (r : Reader) (anyCase dotAll : Bool) : Reader :=
  { groups := { anyCase := r.anyCase, dotAll := r.dotAll } :: r.groups,
    anyCase := anyCase, dotAll := dotAll }

def closeGroup (r : Reader) : Option Reader :=
  match r.groups with
  | g :: outer :: rest =>
    { r with groups := outer :: rest, anyCase := g.anyCase, dotAll := g.dotAll }.add g.close
  | _ => none

def named? (c : Char) : Option (Member × Bool) :=
  if c = 'd' then some (.digit, false) else if c = 'D' then some (.digit, true)
  else if c = 'w' then some (.word, false) else if c = 'W' then some (.word, true)
  else if c = 's' then some (.blank, false) else if c = 'S' then some (.blank, true)
  else none

def isPunctuation (c : Char) : Bool :=
  0x20 < c.toNat && c.toNat < 0x7F && !c.isAlphanum

def plain (r : Reader) (c : Char) : Option Reader :=
  if c = '\\' then some { r with reading := .escape }
  else if c = '[' then some { r with reading := .clsStart }
  else if c = '(' then some { r with reading := .group }
  else if c = ')' then r.closeGroup
  else if c = '|' then r.nextAlternative
  else if c = '^' then r.add .atStart
  else if c = '$' then r.add .atEnd
  else if c = '.' then
    r.add (if r.dotAll then any else .one { members := [.range '\n' '\n'], negated := true })
  else if c = '?' then
    if r.repeated then some { r with repeated := false } else r.modify (.alt .empty)
  else if c = '*' then r.modify .many
  else if c = '+' then r.modify fun p => .seq p (.many p)
  else if c = '\x7b' then some { r with reading := .count 0 }
  else r.literal c

def escape (r : Reader) (c : Char) : Option Reader :=
  match named? c with
  | some (m, negated) => r.add (.one { members := [m], negated := negated })
  | none => if isPunctuation c then r.literal c else none

def settle (members : List Member) (pending : Option Char) (dash : Bool) : List Member :=
  let members := if dash then .range '-' '-' :: members else members
  match pending with
  | some c => .range c c :: members
  | none => members

def inClass (r : Reader) (negated : Bool) (members : List Member) (pending : Option Char)
    (dash : Bool) (c : Char) : Option Reader :=
  match pending, dash with
  | some first, true =>
    if first ≤ c then some { r with reading := .cls negated (.range first c :: members) none false }
    else none
  | some _, false =>
    if c = '-' then some { r with reading := .cls negated members pending true }
    else some { r with reading := .cls negated (settle members pending false) (some c) false }
  | none, _ => some { r with reading := .cls negated members (some c) false }

def closeClass (r : Reader) (negated : Bool) (members : List Member) : Option Reader :=
  r.add (.one { members := members, negated := negated, anyCase := r.anyCase })

def step (r : Reader) (c : Char) : Option Reader :=
  match r.reading with
  | .plain => r.plain c
  | .escape => r.escape c
  | .group =>
    if c = '?' then some { r with reading := .options r.anyCase r.dotAll }
    else (r.openGroup r.anyCase r.dotAll).plain c
  | .options anyCase dotAll =>
    if c = ':' then some (r.openGroup anyCase dotAll)
    else if c = ')' then some { r with anyCase := anyCase, dotAll := dotAll, reading := .plain }
    else if c = 'i' then some { r with reading := .options true dotAll }
    else if c = 's' then some { r with reading := .options anyCase true }
    else none
  | .clsStart =>
    if c = '^' then some { r with reading := .cls true [] none false }
    else if c = '\\' then some { r with reading := .clsEscape false [] }
    else r.inClass false [] none false c
  | .cls negated members pending dash =>
    if c = ']' then
      if members = [] ∧ pending = none then r.inClass negated members pending dash c
      else r.closeClass negated (settle members pending dash)
    else if c = '[' then none
    else if c = '\\' then some { r with reading := .clsEscape negated (settle members pending dash) }
    else r.inClass negated members pending dash c
  | .clsEscape negated members =>
    match named? c with
    | some (m, false) => some { r with reading := .cls negated (m :: members) none false }
    | some (_, true) => none
    | none =>
      if isPunctuation c then some { r with reading := .cls negated members (some c) false } else none
  | .count digits =>
    if c = '\x7d' then r.modify fun p => Group.sequence (List.replicate digits p)
    else if c.isDigit then some { r with reading := .count (digits * 10 + (c.toNat - 0x30)) }
    else none

end Reader

def parse? (s : String) : Option Pattern :=
  (s.toList.foldlM Reader.step {}).bind fun r =>
    match r.reading, r.groups with
    | .plain, [g] => some g.close
    | _, _ => none

def wholeAnyCase? (s : String) : Option Pattern :=
  parse? ("(?i)^(?:" ++ s ++ ")$")

end FacetSearch.Pattern
