import Mathlib.Data.List.TakeWhile
import FacetSearch.Proofs.Text.Form
import FacetSearch.Proofs.Text.Parts
import FacetSearch.Url.Parser

/-!
# Extended addresses

A path that is written behind an address becomes the end of its path, if the address has no query and
no fragment that would swallow it and does not end in a mark that the path would change the meaning of.
In the schemes of the web the authority stays that of the address itself.
-/

namespace FacetSearch

open Text (splitWhere)
open Url.Parser

namespace Url

variable {cs slashes : List Char} {scheme : String} {words front : List String} {more : Bool}

/-! ### Segments that stand as they are -/

/-- A text that is read as one segment of a path and needs no escape. -/
structure IsWord (s : String) : Prop where
  filled : s ≠ ""
  free : ∀ c ∈ s.toList, isSlash true c = false
  kept : encoded pathExcluded s.toList = s
  double : isDoubleDot s = false
  single : isSingleDot s = false
  volume : isVolume s = false

-- Characters are gone through in the text, as the whole type would be too large.
instance (s : String) : Decidable (IsWord s) :=
  decidable_of_iff (s ≠ "" ∧ s.toList.all (!isSlash true ·) = true ∧
      encoded pathExcluded s.toList = s ∧ isDoubleDot s = false ∧ isSingleDot s = false ∧
      isVolume s = false)
    ⟨fun ⟨filled, free, kept, double, single, volume⟩ =>
        ⟨filled, by simpa using free, kept, double, single, volume⟩,
      fun h => ⟨h.filled, by simpa using h.free, h.kept, h.double, h.single, h.volume⟩⟩

def written (words : List String) : List Char := words.flatMap fun word => '/' :: word.toList

/-- One or more segments that stand as they are in any path. -/
structure ArePlain (words : List String) : Prop where
  some : words ≠ []
  word : ∀ word ∈ words, IsWord word
  kept : encoded "" (written words) = String.ofList (written words)
  solid : ∀ c ∈ written words, isPadding c = false
  unmarked : '?' ∉ written words ∧ '#' ∉ written words

theorem written_cons (word : String) (words : List String) :
    written (word :: words) = '/' :: (word.toList ++ written words) := rfl

theorem isSlash_slash (special : Bool) : isSlash special '/' = true := rfl

/-- What separates nothing in the schemes of the web separates nothing in any. -/
theorem isSlash_of_special {special : Bool} {c : Char} (h : isSlash true c = false) :
    isSlash special c = false := by
  simp only [isSlash, Bool.or_eq_false_iff, Bool.true_and] at h ⊢
  exact ⟨h.1, by rw [h.2, Bool.and_false]⟩

theorem splitWhere_written (special : Bool) (each : ∀ word ∈ words, IsWord word) :
    ∀ cs : List Char, splitWhere (isSlash special) (cs ++ written words) =
      splitWhere (isSlash special) cs ++ words.map String.toList := by
  induction words with
  | nil =>
    intro cs
    rw [written, List.flatMap_nil, List.append_nil, List.map_nil, List.append_nil]
  | cons word words ih =>
    intro cs
    have own := each word List.mem_cons_self
    rw [written_cons, Text.splitWhere_append_cons (isSlash_slash special),
      ih (fun other ho => each other (List.mem_cons_of_mem word ho)) word.toList,
      Text.splitWhere_of_not fun c hc => isSlash_of_special (own.free c hc), List.map_cons,
      List.singleton_append]

theorem resolveDots_append (file : Bool) (each : ∀ word ∈ words, IsWord word)
    (parts : List String) :
    ∀ done, ∃ front, resolveDots file done (parts ++ words) = front ++ words := by
  have plain : ∀ words : List String, (∀ word ∈ words, IsWord word) →
      ∀ done, resolveDots file done words = done ++ words := by
    intro words each
    induction words with
    | nil =>
      intro done
      rw [resolveDots, List.append_nil]
    | cons word words ih =>
      intro done
      have own := each word List.mem_cons_self
      rw [resolveDots, own.double, own.single, own.volume,
        if_neg Bool.false_ne_true, if_neg Bool.false_ne_true, Bool.and_false,
        if_neg Bool.false_ne_true, ih fun other ho => each other (List.mem_cons_of_mem word ho),
        List.append_assoc, List.singleton_append]
  induction parts with
  | nil => exact fun done => ⟨done, plain words each done⟩
  | cons part parts ih =>
    intro done
    rw [List.cons_append, resolveDots]
    split
    · exact ih _
    · split
      · exact ih _
      · exact ih _

theorem map_encoded (each : ∀ word ∈ words, IsWord word) :
    (words.map String.toList).map (encoded pathExcluded) = words := by
  rw [List.map_map]
  exact (List.map_congr_left fun word hw => (each word hw).kept).trans (List.map_id words)

/-- Words at the end of the parts of a path are its last segments. -/
theorem segments_of_parts (plain : ArePlain words)
    (parts : (splitWhere (isSlash (isSpecial scheme)) cs).map (encoded pathExcluded) = front ++ words) :
    ∃ front, segments scheme cs = front ++ words := by
  obtain ⟨front, resolved⟩ := resolveDots_append (scheme == "file") plain.word front []
  unfold segments
  simp only [parts, resolved]
  split
  · -- Empty segments in front of a file's path go, and the first of the words stays.
    have stays : (front ++ words).dropWhile (· == "") = front.dropWhile (· == "") ++ words := by
      obtain ⟨word, words, rfl⟩ := List.exists_cons_of_ne_nil plain.some
      have filled := (plain.word word List.mem_cons_self).filled
      rw [List.dropWhile_append, List.dropWhile_cons_of_neg (by simpa using filled)]
      split
      · rename_i none_
        rw [List.isEmpty_iff.mp none_, List.nil_append]
      · rfl
    have some : (front.dropWhile (· == "") ++ words).isEmpty = false := by
      rw [List.isEmpty_eq_false_iff]
      exact List.append_ne_nil_of_right_ne_nil _ plain.some
    rw [stays, some]
    exact ⟨_, rfl⟩
  · exact ⟨front, rfl⟩

theorem segments_append (plain : ArePlain words) (scheme : String) (cs : List Char) :
    ∃ front, segments scheme (cs ++ written words) = front ++ words := by
  apply segments_of_parts plain
  rw [splitWhere_written _ plain.word, List.map_append, map_encoded plain.word]

theorem segments_tail (plain : ArePlain words) (scheme : String) :
    ∃ front, segments scheme (written words).tail = front ++ words := by
  refine segments_of_parts plain (?_ : _ = [] ++ words)
  obtain ⟨word, others, rfl⟩ := List.exists_cons_of_ne_nil plain.some
  have rest : ∀ other ∈ others, IsWord other :=
    fun other ho => plain.word other (List.mem_cons_of_mem word ho)
  rw [written_cons, List.tail_cons, splitWhere_written _ rest,
    Text.splitWhere_of_not fun c hc => isSlash_of_special
      ((plain.word word List.mem_cons_self).free c hc), List.singleton_append,
    ← List.map_cons, map_encoded plain.word, List.nil_append]

/-! ### Paths that end in the words -/

/-- Whether the text of a path ends in the words, each behind a slash. -/
def Ends (words : List String) (path : UrlPath) : Prop :=
  written words <:+ path.text.toList

theorem Ends.solid {path : UrlPath} (ends : Ends words path) (plain : ArePlain words) :
    ∀ c ∈ path.text.toList.getLast?, isPadding c = false := by
  obtain ⟨front, whole⟩ := ends
  obtain ⟨word, others, rfl⟩ := List.exists_cons_of_ne_nil plain.some
  intro c hc
  rw [← whole, List.getLast?_append] at hc
  cases final : (written (word :: others)).getLast? with
  | none => cases List.getLast?_eq_none_iff.mp final
  | some d =>
    rw [final] at hc
    exact Option.some.inj hc ▸ plain.solid d (List.mem_of_getLast? final)

theorem toList_text_segments (parts : List String) :
    (UrlPath.segments parts).text.toList = written parts := by
  cases parts with
  | nil => rfl
  | cons part parts =>
    have joined : ∀ (part : String) (parts : List String),
        ['/'].intercalate ((part :: parts).map String.toList) = part.toList ++ written parts := by
      intro part parts
      induction parts generalizing part with
      | nil => simp [written, List.intercalate]
      | cons next parts ih =>
        rw [List.map_cons, List.map_cons, List.intercalate_cons_cons, ← List.map_cons, ih, written_cons,
          List.append_assoc, List.singleton_append]
    change ("/" ++ Text.join "/" (part :: parts)).toList = _
    have slash : ("/" : String).toList = ['/'] := rfl
    rw [String.toList_append, Text.join, slash, String.toList_ofList, written_cons,
      ← joined part parts]
    rfl

theorem ends_segments (front words : List String) : Ends words (.segments (front ++ words)) := by
  rw [Ends, toList_text_segments, written, written, List.flatMap_append]
  exact List.suffix_append _ _

theorem toList_encoded_append (excluded : String) (a b : List Char) :
    (encoded excluded (a ++ b)).toList =
      (encoded excluded a).toList ++ (encoded excluded b).toList := by
  simp only [encoded, String.toList_ofList, Text.Percent.encode, Text.Utf8.bytes_ofList,
    List.flatMap_append]

theorem ends_plain (plain : ArePlain words) (cs : List Char) :
    Ends words (.plain (encoded "" (cs ++ written words))) := by
  rw [Ends, UrlPath.text, toList_encoded_append, plain.kept, String.toList_ofList]
  exact List.suffix_append _ _

theorem ends_pathAfter (plain : ArePlain words) (scheme : String)
    (begun : ∀ c ∈ cs.head?, (!isSlash (isSpecial scheme) c) = false) :
    ∃ front, pathAfter scheme (cs ++ written words) = .segments (front ++ words) := by
  cases cs with
  | nil =>
    obtain ⟨word, others, rfl⟩ := List.exists_cons_of_ne_nil plain.some
    obtain ⟨front, last⟩ := segments_tail plain scheme
    rw [written_cons, List.tail_cons] at last
    rw [List.nil_append, written_cons, pathAfter, isSlash_slash, if_pos rfl, last]
    exact ⟨front, rfl⟩
  | cons c cs =>
    obtain ⟨front, last⟩ := segments_append plain scheme cs
    rw [List.cons_append, pathAfter, if_pos (by simpa using begun c rfl), last]
    exact ⟨front, rfl⟩

/-! ### What stands before the path -/

/-- A text falls apart at the first character that `p` stops at, and there as well with something behind
it that begins with such a character. -/
theorem exists_parts (p : Char → Bool) (cs : List Char) : ∃ first path, cs = first ++ path ∧
    (∀ c ∈ path.head?, p c = false) ∧
    ∀ more : List Char, (∀ c ∈ more.head?, p c = false) →
      (cs ++ more).takeWhile p = first ∧ (cs ++ more).dropWhile p = path ++ more := by
  have free : ∀ c ∈ cs.takeWhile p, p c = true := fun c hc => List.mem_takeWhile_imp hc
  have next : ∀ c ∈ (cs.dropWhile p).head?, p c = false := Text.head?_dropWhile
  have whole : cs.takeWhile p ++ cs.dropWhile p = cs := List.takeWhile_append_dropWhile
  refine ⟨_, _, whole.symm, next, fun more begun => ?_⟩
  generalize cs.takeWhile p = first at *
  generalize cs.dropWhile p = path at *
  have behind : ∀ c ∈ (path ++ more).head?, p c = false := by
    intro c hc
    cases path with
    | nil => exact begun c hc
    | cons d path => exact next c hc
  rw [← whole, List.append_assoc, List.takeWhile_append_of_pos free, List.dropWhile_append_of_pos free,
    Text.dropWhile_eq_self behind]
  refine ⟨?_, rfl⟩
  cases rest : path ++ more with
  | nil => rw [List.takeWhile_nil, List.append_nil]
  | cons c others =>
    rw [rest] at behind
    rw [List.takeWhile_cons_of_neg (by rw [behind c rfl]; exact Bool.false_ne_true), List.append_nil]

/-- Only where the authority is an at sign alone does it matter whether anything follows. -/
theorem authority_congr (other : cs ≠ ['@']) (more' : Bool) :
    Parser.authority scheme more cs = Parser.authority scheme more' cs := by
  unfold Parser.authority
  simp only [other, and_false]

def behind (scheme : String) (cs : List Char) : Except UrlError (Option Authority × UrlPath) :=
  let path := cs.dropWhile (!isSlash (isSpecial scheme) ·)
  (Parser.authority scheme (!path.isEmpty) (cs.takeWhile (!isSlash (isSpecial scheme) ·))).map
    fun a => (some a, pathAfter scheme path)

def freePlace (scheme : String) (cs : List Char) : Except UrlError (Option Authority × UrlPath) :=
  match cs with
  | '/' :: '/' :: rest => behind scheme rest
  | '/' :: rest => .ok (none, .segments (segments scheme rest))
  | _ => .ok (none, .plain (encoded "" cs))

def hostPlace (cs : List Char) : Except UrlError (Authority × UrlPath) :=
  let host := cs.takeWhile (!isSlash true ·)
  if isVolume (String.ofList host) then .ok ({ host := "" }, .segments (segments "file" cs))
  else
    let place (name : String) : Authority × UrlPath :=
      let path := pathAfter "file" (cs.dropWhile (!isSlash true ·))
      match path with
      | .segments (first :: _) => ({ host := if isVolume first then "" else name }, path)
      | _ => ({ host := name }, path)
    if host.isEmpty then .ok (place "")
    else (Host.domain host).map fun name => place (if name = "localhost" then "" else name)

theorem filePlace_cons_cons (c d : Char) (cs : List Char) : filePlace (c :: d :: cs) =
    if (isSlash true c && isSlash true d) = true then hostPlace cs
    else .ok ({ host := "" },
      .segments (segments "file" (if isSlash true c then d :: cs else c :: d :: cs))) := rfl

theorem place_eq (scheme : String) (cs : List Char) : place scheme false cs =
    if scheme = "file" then (filePlace cs).map fun (a, path) => (some a, path)
    else if isSpecial scheme then behind scheme (cs.dropWhile (isSlash (isSpecial scheme)))
    else freePlace scheme cs := by
  unfold place behind
  simp only [Bool.false_or]
  rfl

theorem freePlace_rooted {c : Char} (other : c ≠ '/') : freePlace scheme ('/' :: c :: cs) =
    .ok (none, .segments (segments scheme (c :: cs))) := by
  unfold freePlace
  split
  · rename_i same
    exact absurd (List.cons.inj (List.cons.inj same).2).1 other
  · rename_i same
    rw [(List.cons.inj same).2]
  · rename_i missed
    exact absurd rfl (missed _)

theorem freePlace_plain {c : Char} (other : c ≠ '/') : freePlace scheme (c :: cs) =
    .ok (none, .plain (encoded "" (c :: cs))) := by
  unfold freePlace
  split
  · rename_i same
    exact absurd (List.cons.inj same).1 other
  · rename_i same
    exact absurd (List.cons.inj same).1 other
  · rfl

/-- In the schemes of the web an authority has a host. -/
theorem behind_hostless (special : isSpecial scheme = true) (hostless : cs ∈ [[], ['@']]) :
    behind scheme cs = .error .emptyHost := by
  simp only [List.mem_cons, List.not_mem_nil, or_false] at hostless
  have thrown : ∀ more, Parser.authority scheme more cs = .error .emptyHost := by
    intro more
    unfold Parser.authority
    rw [special]
    rcases hostless with rfl | rfl <;> cases more <;> rfl
  have whole : cs.takeWhile (!isSlash (isSpecial scheme) ·) = cs := by
    rw [special]
    rcases hostless with rfl | rfl <;> rfl
  rw [behind, whole, thrown]
  rfl

section

variable (plain : ArePlain words) (all : ∀ c ∈ slashes, c = '/')
include plain

theorem exists_written : ∃ c rest, written words = '/' :: c :: rest ∧ isSlash true c = false := by
  obtain ⟨word, others, rfl⟩ := List.exists_cons_of_ne_nil plain.some
  have own := plain.word word List.mem_cons_self
  obtain ⟨c, rest, found⟩ := List.exists_cons_of_ne_nil (Text.toList_ne_nil own.filled)
  exact ⟨c, rest ++ written others, by rw [written_cons, found, List.cons_append],
    own.free c (found ▸ List.mem_cons_self)⟩

theorem head?_written : ∀ c ∈ (written words).head?, c = '/' := by
  obtain ⟨d, rest, found, -⟩ := exists_written plain
  intro c hc
  rw [found] at hc
  exact (Option.some.inj hc).symm

include all

theorem behind_append {placed : Option Authority × UrlPath} (apart : cs ++ slashes ≠ ['@'])
    (read : behind scheme (cs ++ slashes) = .ok placed) :
    ∃ front, behind scheme (cs ++ written words) = .ok (placed.1, .segments (front ++ words)) := by
  -- The authority ends at the first slash, or where the words begin.
  obtain ⟨host, path, rfl, next, cut⟩ := exists_parts (!isSlash (isSpecial scheme) ·) cs
  have base := cut slashes fun c hc => by rw [all c (List.mem_of_mem_head? hc)]; rfl
  have extended := cut (written words) fun c hc => by rw [head?_written plain c hc]; rfl
  obtain ⟨front, last⟩ := ends_pathAfter plain scheme next
  unfold behind at read ⊢
  simp only [base.1, base.2] at read
  simp only [extended.1, extended.2, last]
  have same : Parser.authority scheme (!(path ++ written words).isEmpty) host =
      Parser.authority scheme (!(path ++ slashes).isEmpty) host := by
    by_cases sign : host = ['@']
    · have some : (path ++ slashes).isEmpty = false := by
        rw [List.isEmpty_eq_false_iff]
        intro none_
        rw [sign, List.append_assoc, none_, List.append_nil] at apart
        exact apart rfl
      have others : (path ++ written words).isEmpty = false := by
        obtain ⟨c, rest, found, -⟩ := exists_written plain
        rw [List.isEmpty_eq_false_iff, found]
        exact List.append_ne_nil_of_right_ne_nil _ (List.cons_ne_nil _ _)
      rw [some, others]
    · exact authority_congr sign _
  rw [same]
  cases outcome : Parser.authority scheme (!(path ++ slashes).isEmpty) host with
  | error e =>
    rw [outcome] at read
    cases read
  | ok a =>
    rw [outcome] at read
    obtain rfl := Except.ok.inj read
    exact ⟨front, rfl⟩

theorem hostPlace_append {placed : Authority × UrlPath} (read : hostPlace (cs ++ slashes) = .ok placed) :
    ∃ a front, hostPlace (cs ++ written words) = .ok (a, .segments (front ++ words)) := by
  -- A host ends at the first slash, or where the words begin.
  obtain ⟨host, path, rfl, next, cut⟩ := exists_parts (!isSlash true ·) cs
  have base := cut slashes fun c hc => by rw [all c (List.mem_of_mem_head? hc)]; rfl
  have extended := cut (written words) fun c hc => by rw [head?_written plain c hc]; rfl
  obtain ⟨front, last⟩ := ends_pathAfter plain "file" next
  obtain ⟨first, others, whole⟩ := List.exists_cons_of_ne_nil
    (show front ++ words ≠ [] from List.append_ne_nil_of_right_ne_nil _ plain.some)
  unfold hostPlace at read ⊢
  simp only [base.1] at read
  simp only [extended.1, extended.2, last, whole]
  split
  · obtain ⟨front, last⟩ := segments_append plain "file" (host ++ path)
    exact ⟨{ host := "" }, front, by rw [last]⟩
  · rename_i named
    rw [if_neg named] at read
    split
    · exact ⟨_, front, by rw [whole]⟩
    · rename_i filled
      rw [if_neg filled] at read
      cases outcome : Host.domain host with
      | error e =>
        rw [outcome] at read
        cases read
      | ok name => exact ⟨_, front, by rw [whole]; rfl⟩

theorem filePlace_append {placed : Authority × UrlPath} (apart : cs ∉ [['/'], ['\\']])
    (read : filePlace (cs ++ slashes) = .ok placed) :
    ∃ a front, filePlace (cs ++ written words) = .ok (a, .segments (front ++ words)) := by
  obtain ⟨d, rest, found, free⟩ := exists_written plain
  match cs with
  | [] =>
    obtain ⟨front, last⟩ := segments_tail plain "file"
    rw [found, List.tail_cons] at last
    refine ⟨{ host := "" }, front, ?_⟩
    rw [List.nil_append, found, filePlace_cons_cons, isSlash_slash, free, Bool.and_false,
      if_neg Bool.false_ne_true, if_pos rfl, last]
  | [c] =>
    have other : isSlash true c = false := by
      rw [isSlash, Bool.true_and, Bool.or_eq_false_iff, beq_eq_false_iff_ne, beq_eq_false_iff_ne]
      simpa using apart
    obtain ⟨front, last⟩ := segments_append plain "file" [c]
    refine ⟨{ host := "" }, front, ?_⟩
    rw [found] at last ⊢
    rw [List.singleton_append] at last ⊢
    rw [filePlace_cons_cons, other, Bool.false_and, if_neg Bool.false_ne_true,
      if_neg Bool.false_ne_true, last]
  | c :: e :: more =>
    rw [List.cons_append, List.cons_append, filePlace_cons_cons] at read ⊢
    by_cases both : (isSlash true c && isSlash true e) = true
    · rw [if_pos both] at read ⊢
      exact hostPlace_append plain all read
    · rw [if_neg both]
      split
      · obtain ⟨front, last⟩ := segments_append plain "file" (e :: more)
        exact ⟨{ host := "" }, front, by rw [← last]; rfl⟩
      · obtain ⟨front, last⟩ := segments_append plain "file" (c :: e :: more)
        exact ⟨{ host := "" }, front, by rw [← last]; rfl⟩

/-- In the schemes of the web any number of slashes may begin the authority. -/
theorem web_append {placed : Option Authority × UrlPath} (special : isSpecial scheme = true)
    (read : behind scheme ((cs ++ slashes).dropWhile (isSlash true)) = .ok placed) :
    ∃ front, behind scheme ((cs ++ written words).dropWhile (isSlash true)) =
      .ok (placed.1, .segments (front ++ words)) := by
  have shared : ∀ more : List Char, cs.dropWhile (isSlash true) ≠ [] →
      (cs ++ more).dropWhile (isSlash true) = cs.dropWhile (isSlash true) ++ more := by
    intro more some
    rw [List.dropWhile_append, if_neg (by simpa using some)]
  have hosted : (cs ++ slashes).dropWhile (isSlash true) ∉ [[], ['@']] := by
    intro hostless
    rw [behind_hostless special hostless] at read
    cases read
  -- Only an address without a host is slashes alone.
  have some : cs.dropWhile (isSlash true) ≠ [] := by
    intro none_
    refine hosted ?_
    have nothing : slashes.dropWhile (isSlash true) = [] := by
      rw [List.dropWhile_eq_nil_iff]
      intro c hc
      rw [all c hc, isSlash_slash]
    rw [List.dropWhile_append, none_, List.isEmpty_nil, if_pos rfl, nothing]
    exact List.mem_cons_self
  rw [shared _ some] at read hosted ⊢
  exact behind_append plain all (fun same => hosted (same ▸ by simp)) read

theorem freePlace_append {placed : Option Authority × UrlPath} (apart : cs ≠ ['/'])
    (sign : cs ++ slashes ≠ ['/', '/', '@']) (read : freePlace scheme (cs ++ slashes) = .ok placed) :
    ∃ placed', freePlace scheme (cs ++ written words) = .ok placed' ∧ Ends words placed'.2 := by
  match cs with
  | [] =>
    obtain ⟨d, rest, found, free⟩ := exists_written plain
    obtain ⟨front, last⟩ := segments_tail plain scheme
    have other : d ≠ '/' := fun same => by
      rw [same, isSlash_slash] at free
      cases free
    rw [found, List.tail_cons] at last
    rw [List.nil_append, found, freePlace_rooted other, last]
    exact ⟨_, rfl, ends_segments front words⟩
  | [c] =>
    rw [List.singleton_append, freePlace_plain fun same => apart (by rw [same])]
    exact ⟨_, rfl, ends_plain plain [c]⟩
  | c :: e :: more =>
    by_cases first : c = '/'
    · subst first
      by_cases second : e = '/'
      · subst second
        obtain ⟨front, extended⟩ := behind_append plain all
          (fun same => sign (by rw [List.cons_append, List.cons_append, same])) read
        exact ⟨_, extended, ends_segments front words⟩
      · obtain ⟨front, last⟩ := segments_append plain scheme (e :: more)
        rw [List.cons_append] at last
        rw [List.cons_append, List.cons_append, freePlace_rooted second, last]
        exact ⟨_, rfl, ends_segments front words⟩
    · rw [List.cons_append, freePlace_plain first]
      exact ⟨_, rfl, ends_plain plain (c :: e :: more)⟩

theorem place_append {placed : Option Authority × UrlPath} (apart : cs ∉ [['/'], ['\\']])
    (sign : cs ++ slashes ≠ ['/', '/', '@']) (read : place scheme false (cs ++ slashes) = .ok placed) :
    ∃ placed', place scheme false (cs ++ written words) = .ok placed' ∧ Ends words placed'.2 ∧
      (isSpecial scheme = true → scheme ≠ "file" → placed'.1 = placed.1) := by
  rw [place_eq] at read ⊢
  by_cases file : scheme = "file"
  · rw [if_pos file] at read ⊢
    cases outcome : filePlace (cs ++ slashes) with
    | error e =>
      rw [outcome] at read
      cases read
    | ok placed' =>
      obtain ⟨a, front, extended⟩ := filePlace_append plain all apart outcome
      rw [extended]
      exact ⟨_, rfl, ends_segments front words, fun _ other => absurd file other⟩
  · rw [if_neg file] at read ⊢
    by_cases special : isSpecial scheme = true
    · rw [if_pos special, special] at read ⊢
      obtain ⟨front, extended⟩ := web_append plain all special read
      exact ⟨_, extended, ends_segments front words, fun _ _ => rfl⟩
    · rw [if_neg special] at read ⊢
      have rooted : cs ≠ ['/'] := fun same => apart (same ▸ List.mem_cons_self)
      obtain ⟨placed', extended, ends⟩ := freePlace_append plain all rooted sign read
      exact ⟨placed', extended, ends, fun web => absurd web special⟩

end

/-! ### Whole addresses -/

/-- What is read of a text: neither line breaks nor blanks and controls at its ends. -/
def visible (cs : List Char) : List Char := (Text.stripWhere isPadding cs).filter (!isLineBreak ·)

def opening (cs : List Char) : List Char := (cs.dropWhile isPadding).filter (!isLineBreak ·)

/-- A text that a path can be written behind. It does not end in a blank, which would become part of
the host. Behind its scheme there is neither a single slash, which the path's would make the beginning
of an authority, nor an authority of an at sign alone, which nothing may follow. -/
structure Closed (cs : List Char) : Prop where
  solid : ∀ c ∈ (opening cs).getLast?, isPadding c = false
  apart : (opening cs).dropWhile inScheme ∉ [[':', '/'], [':', '\\'], [':', '/', '/', '@']]

theorem all_isSolid_iff (c? : Option Char) :
    c?.all (!isPadding ·) = true ↔ ∀ c ∈ c?, isPadding c = false := by
  cases c? <;> simp

instance (cs : List Char) : Decidable (Closed cs) :=
  decidable_of_iff ((opening cs).getLast?.all (!isPadding ·) = true ∧
      (opening cs).dropWhile inScheme ∉ [[':', '/'], [':', '\\'], [':', '/', '/', '@']])
    ⟨fun ⟨solid, apart⟩ => ⟨(all_isSolid_iff _).mp solid, apart⟩,
      fun h => ⟨(all_isSolid_iff _).mpr h.solid, h.apart⟩⟩

theorem not_isLineBreak {c : Char} (solid : isPadding c = false) : isLineBreak c = false := by
  rw [Bool.eq_false_iff]
  intro broken
  simp only [isLineBreak, Bool.or_eq_true, beq_iff_eq] at broken
  obtain (rfl | rfl) | rfl := broken <;> exact absurd solid (by decide)

theorem filter_stripped {p keep : Char → Bool} (ended : ∀ c ∈ (cs.filter keep).getLast?, p c = false) :
    (cs.reverse.dropWhile p).reverse.filter keep = cs.filter keep := by
  have whole : (cs.reverse.dropWhile p).reverse.filter keep ++
      (cs.reverse.takeWhile p).reverse.filter keep = cs.filter keep := by
    rw [← List.filter_append, ← List.reverse_append, List.takeWhile_append_dropWhile, List.reverse_reverse]
  cases final : ((cs.reverse.takeWhile p).reverse.filter keep).getLast? with
  | none => rw [← whole, List.getLast?_eq_none_iff.mp final, List.append_nil]
  | some c =>
    have stays := ended c (by rw [← whole, List.getLast?_append, final]; rfl)
    have member := List.mem_reverse.mp (List.mem_filter.mp (List.mem_of_getLast? final)).1
    rw [List.mem_takeWhile_imp member] at stays
    cases stays

theorem dropWhile_append_of_solid {more : List Char} (solid : ∀ c ∈ more, isPadding c = false) :
    (cs ++ more).dropWhile isPadding = cs.dropWhile isPadding ++ more := by
  have begun : more.dropWhile isPadding = more :=
    Text.dropWhile_eq_self fun c hc => solid c (List.mem_of_mem_head? hc)
  rw [List.dropWhile_append, begun]
  split
  · rename_i none_
    rw [List.isEmpty_iff.mp none_, List.nil_append]
  · rfl

theorem visible_append {more : List Char} (closed : ∀ c ∈ (opening cs).getLast?, isPadding c = false)
    (solid : ∀ c ∈ more, isPadding c = false) : visible (cs ++ more) = opening cs ++ more := by
  have kept : more.filter (!isLineBreak ·) = more := by
    rw [List.filter_eq_self]
    intro c hc
    rw [not_isLineBreak (solid c hc), Bool.not_false]
  have shown : (cs.dropWhile isPadding ++ more).filter (!isLineBreak ·) = opening cs ++ more := by
    rw [List.filter_append, kept, opening]
  have ended : ∀ c ∈ (opening cs ++ more).getLast?, isPadding c = false := by
    cases final : more.getLast? with
    | none =>
      rw [List.getLast?_eq_none_iff.mp final, List.append_nil]
      exact closed
    | some c =>
      rw [List.getLast?_append, final]
      exact fun d hd => Option.some.inj hd ▸ solid c (List.mem_of_getLast? final)
  rw [visible, Text.stripWhere, dropWhile_append_of_solid solid, filter_stripped (shown ▸ ended), shown]

theorem mem_visible {c : Char} (member : c ∈ cs) (solid : isPadding c = false) : c ∈ visible cs := by
  have stays : ∀ cs : List Char, c ∈ cs → c ∈ cs.dropWhile isPadding := by
    intro cs member
    rw [← List.takeWhile_append_dropWhile (p := isPadding) (l := cs), List.mem_append] at member
    exact member.resolve_left fun padding => by
      rw [List.mem_takeWhile_imp padding] at solid
      cases solid
  rw [visible, List.mem_filter, Text.stripWhere, List.mem_reverse]
  exact ⟨stays _ (List.mem_reverse.mpr (stays _ member)), by rw [not_isLineBreak solid, Bool.not_false]⟩

theorem dropWhile_of_scheme? {rest : List Char} (read : scheme? cs = some (scheme, rest)) :
    cs.dropWhile inScheme = ':' :: rest := by
  unfold scheme? at read
  split at read
  · rename_i c name rest' _ found
    split at read
    · rw [found, (Prod.mk.inj (Option.some.inj read)).2]
    · cases read
  · cases read

/-- The scheme of a text is found as well where slashes, or anything behind a slash, follow. -/
theorem scheme?_extend (all : ∀ c ∈ slashes, c = '/') {rest : List Char}
    (read : scheme? (cs ++ slashes) = some (scheme, rest)) : ∃ rest', rest = rest' ++ slashes ∧
      cs.dropWhile inScheme = ':' :: rest' ∧
      ∀ more : List Char, (∀ c ∈ more.head?, c = '/') →
        scheme? (cs ++ more) = some (scheme, rest' ++ more) := by
  obtain ⟨name, path, rfl, next, cut⟩ := exists_parts inScheme cs
  have slash : ∀ more : List Char, (∀ c ∈ more.head?, c = '/') → ∀ c ∈ more.head?, inScheme c = false :=
    fun more begun c hc => begun c hc ▸ rfl
  have shared : ∀ c ∈ slashes.head?, c = '/' := fun c hc => all c (List.mem_of_mem_head? hc)
  have base := cut slashes (slash _ shared)
  have colon := dropWhile_of_scheme? read
  rw [base.2] at colon
  cases path with
  | nil =>
    rw [List.nil_append] at colon
    have wrong := shared ':' (by rw [colon]; rfl)
    exact absurd wrong (by decide)
  | cons c path =>
    obtain ⟨rfl, rfl⟩ := List.cons.inj colon
    have own := cut [] (fun c hc => by cases hc)
    rw [List.append_nil, List.append_nil] at own
    refine ⟨path, rfl, own.2, fun more begun => ?_⟩
    have extended := cut more (slash more begun)
    unfold scheme? at read ⊢
    rw [base.1, base.2] at read
    rw [extended.1, extended.2]
    cases name with
    | nil => cases read
    | cons d name =>
      simp only [List.cons_append] at read ⊢
      split at read
      · rename_i letter
        rw [if_pos letter, (Prod.mk.inj (Option.some.inj read)).1]
      · cases read

theorem cutOff_of_not_mem {mark : Char} (absent : mark ∉ cs) : cutOff mark cs = (cs, none) := by
  rw [cutOff, Text.cutAt_eq_none_iff.mpr absent]

theorem not_mem_of_cutOff {mark : Char} (whole : (cutOff mark cs).2 = none) :
    mark ∉ cs ∧ (cutOff mark cs).1 = cs := by
  unfold cutOff at whole ⊢
  split at whole
  · cases whole
  · rename_i absent
    exact ⟨Text.cutAt_eq_none_iff.mp absent, rfl⟩

theorem parse_unmarked {s : String} {rest : List Char}
    (read : scheme? (visible s.toList) = some (scheme, rest)) (query : '?' ∉ rest)
    (fragment : '#' ∉ rest) : Url.parse s =
      (place scheme false rest).map fun (authority, path) => { scheme, authority, path } := by
  unfold Url.parse
  rw [← visible]
  simp only [read, cutOff_of_not_mem query, cutOff_of_not_mem fragment, Option.isSome_none,
    Bool.or_false]
  cases place scheme false rest with
  | error e => rfl
  | ok placed => rfl

theorem exists_scheme_of_parse {s : String} {u : Url} (read : Url.parse s = .ok u) :
    ∃ scheme rest, scheme? (visible s.toList) = some (scheme, rest) := by
  unfold Url.parse at read
  rw [← visible] at read
  simp only at read
  split at read
  · cases read
  · rename_i scheme rest found
    exact ⟨scheme, rest, found⟩

theorem exists_place_of_parse {s : String} {u : Url} {rest : List Char}
    (found : scheme? (visible s.toList) = some (scheme, rest)) (query : '?' ∉ rest) (fragment : '#' ∉ rest)
    (read : Url.parse s = .ok u) :
    ∃ placed, place scheme false rest = .ok placed ∧ u = ⟨scheme, placed.1, placed.2, none, none⟩ := by
  rw [parse_unmarked found query fragment] at read
  cases outcome : place scheme false rest with
  | error e =>
    rw [outcome] at read
    cases read
  | ok placed =>
    rw [outcome] at read
    exact ⟨placed, rfl, (Except.ok.inj read).symm⟩

/-- Marks of a query or fragment are found wherever they stand in an address. -/
theorem unmarked_of_parse {s : String} {u : Url} (read : Url.parse s = .ok u)
    (query : u.query = none) (fragment : u.fragment = none) : '?' ∉ s.toList ∧ '#' ∉ s.toList := by
  unfold Url.parse at read
  rw [← visible] at read
  simp only at read
  split at read
  · cases read
  · rename_i scheme rest found
    have behind : ∀ mark, isPadding mark = false → inScheme mark = false → mark ≠ ':' → mark ∉ rest →
        mark ∉ s.toList := by
      intro mark solid free other absent member
      have seen := mem_visible member solid
      rw [← List.takeWhile_append_dropWhile (p := inScheme) (l := visible s.toList),
        dropWhile_of_scheme? found, List.mem_append, List.mem_cons] at seen
      rcases seen with seen | seen | seen
      · rw [List.mem_takeWhile_imp seen] at free
        cases free
      · exact other seen
      · exact absent seen
    cases outcome : place scheme _ (cutOff '?' (cutOff '#' rest).1).1 with
    | error e =>
      rw [outcome] at read
      cases read
    | ok placed =>
      rw [outcome] at read
      obtain rfl := Except.ok.inj read
      obtain ⟨noFragment, same⟩ := not_mem_of_cutOff (Option.map_eq_none_iff.mp fragment)
      obtain ⟨noQuery, -⟩ := not_mem_of_cutOff (Option.map_eq_none_iff.mp query)
      rw [same] at noQuery
      exact ⟨behind '?' (by decide) (by decide) (by decide) noQuery,
        behind '#' (by decide) (by decide) (by decide) noFragment⟩

theorem mem_of_opening {rest : List Char} {c : Char}
    (behind : (opening cs).dropWhile inScheme = ':' :: rest) (member : c ∈ rest) : c ∈ cs := by
  have seen : c ∈ opening cs :=
    (List.dropWhile_suffix inScheme).subset (behind ▸ List.mem_cons_of_mem ':' member)
  exact (List.dropWhile_suffix isPadding).subset (List.mem_filter.mp seen).1

theorem ne_sign_append (all : ∀ c ∈ slashes, c = '/') (apart : cs ≠ ['/', '/', '@']) :
    cs ++ slashes ≠ ['/', '/', '@'] := by
  intro whole
  cases final : slashes.getLast? with
  | none =>
    rw [List.getLast?_eq_none_iff.mp final, List.append_nil] at whole
    exact apart whole
  | some c =>
    have last : some c = some '@' := by
      rw [← show (cs ++ slashes).getLast? = some '@' from whole ▸ rfl, List.getLast?_append, final]
      rfl
    rw [all c (List.mem_of_getLast? final)] at last
    exact absurd last (by decide)

/-- A path behind an address, in place of its slashes, is the end of the path of another address. In
the schemes of the web that is at the same authority. -/
theorem parse_extended (plain : ArePlain words) (all : ∀ c ∈ slashes, c = '/') {s extended : String}
    {base : Url} (closed : Closed cs) (unmarked : '?' ∉ cs ∧ '#' ∉ cs)
    (shown : s.toList = cs ++ slashes) (further : extended.toList = cs ++ written words)
    (read : Url.parse s = .ok base) :
    ∃ u, Url.parse extended = .ok u ∧ u.scheme = base.scheme ∧ Ends words u.path ∧ u.query = none ∧
      u.fragment = none ∧
      (isSpecial base.scheme = true → base.scheme ≠ "file" → u.authority = base.authority) := by
  have visible_s : visible s.toList = opening cs ++ slashes := by
    rw [shown, visible_append closed.solid fun c hc => all c hc ▸ rfl]
  have visible_extended : visible extended.toList = opening cs ++ written words := by
    rw [further, visible_append closed.solid plain.solid]
  obtain ⟨scheme, rest, found⟩ := exists_scheme_of_parse read
  obtain ⟨rest, rfl, behind, extends_⟩ := scheme?_extend all (visible_s ▸ found)
  have found' := extends_ (written words) (head?_written plain)
  rw [← visible_extended] at found'
  -- No query and no fragment begins in what is read, before or behind.
  have absent : ∀ mark, mark ∉ cs → mark ∉ rest :=
    fun mark absent member => absent (mem_of_opening behind member)
  have slash : ∀ mark, mark ≠ '/' → mark ∉ slashes := fun mark other member => other (all mark member)
  obtain ⟨placed, outcome, rfl⟩ := exists_place_of_parse found
    (List.not_mem_append (absent _ unmarked.1) (slash _ (by decide)))
    (List.not_mem_append (absent _ unmarked.2) (slash _ (by decide))) read
  have apart := closed.apart
  simp only [behind, List.mem_cons, List.cons.injEq, true_and, List.not_mem_nil, or_false, not_or]
    at apart
  obtain ⟨rooted, backslash, sign⟩ := apart
  obtain ⟨placed', extended', last, same⟩ := place_append plain all
    (by simp [rooted, backslash]) (ne_sign_append all sign) outcome
  rw [parse_unmarked found' (List.not_mem_append (absent _ unmarked.1) plain.unmarked.1)
    (List.not_mem_append (absent _ unmarked.2) plain.unmarked.2), extended']
  exact ⟨_, rfl, rfl, last, rfl, rfl, same⟩

end Url

end FacetSearch
