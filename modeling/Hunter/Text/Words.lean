import Mathlib
import Hunter.Text.Chars

/-!
Words, sentences and replaced matches of a text, as the standard library of the
program has them. Letters are compared with those of ASCII only, so the small letter
of a character matters where it is one of them.
-/

namespace Chars

/-- `str.isspace`. -/
def isSpace (c : Char) : Bool :=
  let code := c.toNat
  (9 ≤ code && code ≤ 13) || (28 ≤ code && code ≤ 32) || code == 0x85 || code == 0xa0 ||
    code == 0x1680 || (0x2000 ≤ code && code ≤ 0x200a) || code == 0x2028 || code == 0x2029 ||
    code == 0x202f || code == 0x205f || code == 0x3000

/-- `str.strip`. -/
def strip (chars : List Char) : List Char :=
  ((chars.dropWhile isSpace).reverse.dropWhile isSpace).reverse

theorem strip_ne_nil_of_mem {chars : List Char} {c : Char} (member : c ∈ chars)
    (visible : isSpace c = false) : strip chars ≠ [] := by
  intro empty
  rw [strip, List.reverse_eq_nil_iff, List.dropWhile_eq_nil_iff] at empty
  rw [← List.takeWhile_append_dropWhile (p := isSpace) (l := chars), List.mem_append] at member
  have space : isSpace c = true := by
    rcases member with front | rest
    · exact List.mem_takeWhile_imp front
    · exact empty c (List.mem_reverse.mpr rest)
  rw [space] at visible
  cases visible

theorem strip_of_visible {chars : List Char} (visible : ∀ c ∈ chars, isSpace c = false) :
    strip chars = chars := by
  have kept : ∀ others : List Char, (∀ c ∈ others, isSpace c = false) →
      others.dropWhile isSpace = others := by
    intro others all
    cases others with
    | nil => rfl
    | cons c rest => exact List.dropWhile_cons_of_neg (by simp [all c List.mem_cons_self])
  rw [strip, kept chars visible, kept chars.reverse fun c member =>
    visible c (List.mem_reverse.mp member), List.reverse_reverse]

/-- The word that is being read comes first. -/
def wordsFrom : List Char → List Char → List (List Char)
  | [], [] => []
  | word, [] => [word]
  | word, c :: chars =>
      if isSpace c then
        if word = [] then wordsFrom [] chars else word :: wordsFrom [] chars
      else wordsFrom (word ++ [c]) chars

/-- `str.split`. -/
def words (chars : List Char) : List (List Char) := wordsFrom [] chars

/-- `" ".join(text.split())`. -/
def respaced (chars : List Char) : List Char := [' '].intercalate (words chars)

/-- The small letter of a character, and of the two others that have one of ASCII. -/
def lowerChar (c : Char) : List Char :=
  if c = Char.ofNat 0x130 then ['i', Char.ofNat 0x307]
  else if c = Char.ofNat 0x212a then ['k']
  else [c.toLower]

/-- `str.lower`, up to characters that are not of ASCII. -/
def lower (chars : List Char) : List Char := chars.flatMap lowerChar

/-- What comes before and after a text for the first time. -/
def cutAt (word : List Char) : List Char → Option (List Char × List Char)
  | [] => if word = [] then some ([], []) else none
  | c :: chars =>
      if word.isPrefixOf (c :: chars) then some ([], (c :: chars).drop word.length)
      else (cutAt word chars).map fun parts => (c :: parts.1, parts.2)

/-- What follows a text that comes first. -/
def dropPrefix (word chars : List Char) : Option (List Char) :=
  if word.isPrefixOf chars then some (chars.drop word.length) else none

/-- `re.sub`: a match at the head gives what stands in its place and what follows it.
A match is not empty, so as many rounds as there are characters are enough. -/
def substitute (match_ : List Char → Option (List Char × List Char)) :
    Nat → List Char → List Char
  | 0, chars => chars
  | _ + 1, [] => []
  | rounds + 1, c :: chars =>
      match match_ (c :: chars) with
      | some (replacement, rest) => replacement ++ substitute match_ rounds rest
      | none => c :: substitute match_ rounds chars

def replaced (match_ : List Char → Option (List Char × List Char)) (chars : List Char) :
    List Char :=
  substitute match_ chars.length chars

/-- What comes before the first space after the end of a sentence. -/
def firstSentence : List Char → List Char
  | [] => []
  | [c] => [c]
  | c :: d :: chars =>
      if (c = '.' ∨ c = '!' ∨ c = '?') ∧ isSpace d = true then [c] else c :: firstSentence (d :: chars)

end Chars
