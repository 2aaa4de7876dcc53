import Hunter.Text.Chars

/-!
Regular expressions by their remainders: matching a prefix of a text leaves one
of several suffixes, and a whole match is one that leaves nothing. Repetition is
bounded, which is all that closed vocabularies of texts need.
-/

inductive Regex where
  | one (accepts : Char → Bool)
  | text (word : String)
  | seq (first second : Regex)
  | alt (first second : Regex)
  | rep (body : Regex) (least most : Nat)

namespace Regex

def stripPrefix : List Char → List Char → Option (List Char)
  | [], chars => some chars
  | c :: word, d :: chars => if c = d then stripPrefix word chars else none
  | _ :: _, [] => none

/-- The remainders of between `least` and `most` repetitions of a step. -/
def repeatRests (step : List Char → List (List Char)) : Nat → Nat → List Char → List (List Char)
  | least, 0, chars => if least = 0 then [chars] else []
  | least, most + 1, chars =>
      (if least = 0 then [chars] else []) ++
        (step chars).flatMap (repeatRests step (least - 1) most)

def rests : Regex → List Char → List (List Char)
  | .one _, [] => []
  | .one accepts, c :: chars => if accepts c then [chars] else []
  | .text word, chars => (stripPrefix word.scalars chars).toList
  | .seq first second, chars => (first.rests chars).flatMap second.rests
  | .alt first second, chars => first.rests chars ++ second.rests chars
  | .rep body least most, chars => repeatRests body.rests least most chars

def fullmatch (regex : Regex) (text : String) : Bool :=
  (regex.rests text.scalars).contains []

def concat : List Regex → Regex
  | [] => .text ""
  | [regex] => regex
  | regex :: others => .seq regex (concat others)

def opt (body : Regex) : Regex := .rep body 0 1

/-- A character class: letters and digits of ASCII and the extra characters. -/
def alphanumeric (extra : List Char) : Regex := .one fun c => c.isAlphanum || extra.contains c

def digit : Regex := .one Char.isDigit

def lowerHex : Regex := .one fun c => c.isDigit || ('a' ≤ c && c ≤ 'f')

/-- Small letters, digits and a hyphen. -/
def lowerWord : Regex := .one fun c => c.isLower || c.isDigit || c == '-'

def printable : Regex := .one fun c => ' ' ≤ c && c ≤ '~'

/-- The texts that match an expression. -/
def Matching (regex : Regex) : Type := { text : String // regex.fullmatch text = true }

instance (regex : Regex) : DecidableEq (Matching regex) :=
  inferInstanceAs (DecidableEq { text : String // regex.fullmatch text = true })

theorem Matching.ext {regex : Regex} {a b : Matching regex} (h : a.val = b.val) : a = b :=
  Subtype.ext h

theorem fullmatch_of_mem {regex : Regex} {text : String} (h : [] ∈ regex.rests text.scalars) :
    regex.fullmatch text = true := by
  simpa [fullmatch] using h

theorem stripPrefix_append (word chars : List Char) :
    stripPrefix word (word ++ chars) = some chars := by
  induction word with
  | nil => rfl
  | cons c word ih => simp [stripPrefix, ih]

theorem mem_rests_text (word : String) (chars : List Char) :
    chars ∈ (Regex.text word).rests (word.scalars ++ chars) := by
  simp [rests, stripPrefix_append]

theorem mem_rests_seq {first second : Regex} {a b c : List Char}
    (left : b ∈ first.rests a) (right : c ∈ second.rests b) : c ∈ (first.seq second).rests a :=
  List.mem_flatMap.mpr ⟨b, left, right⟩

/-- A class matches a run of its characters that is neither too short nor too long. -/
theorem mem_rests_rep_one {accepts : Char → Bool} {least most : Nat} (run chars : List Char)
    (all : run.all accepts = true) (enough : least ≤ run.length) (few : run.length ≤ most) :
    chars ∈ (Regex.rep (.one accepts) least most).rests (run ++ chars) := by
  induction run generalizing least most with
  | nil =>
      have zero : least = 0 := by simpa using enough
      cases most <;> simp [rests, repeatRests, zero]
  | cons c run ih =>
      simp only [List.all_cons, Bool.and_eq_true] at all
      simp only [List.length_cons] at enough few
      cases most with
      | zero => omega
      | succ most =>
          have tail := @ih (least - 1) most all.2 (by omega) (by omega)
          simp only [rests] at tail
          simp [rests, repeatRests, all.1, tail]

theorem fullmatch_iff {regex : Regex} {text : String} :
    regex.fullmatch text = true ↔ [] ∈ regex.rests text.scalars := by
  simp [fullmatch]

theorem eq_append_of_mem_rests_text {word : String} {chars rest : List Char}
    (h : rest ∈ (Regex.text word).rests chars) : chars = word.scalars ++ rest := by
  simp only [rests, Option.mem_toList] at h
  generalize word.scalars = letters at h
  induction letters generalizing chars with
  | nil => simpa [stripPrefix] using h
  | cons c letters ih =>
      cases chars with
      | nil => simp [stripPrefix] at h
      | cons d chars =>
          simp only [stripPrefix] at h
          split at h
          · rename_i same
            rw [ih h, same, List.cons_append]
          · simp at h

theorem mem_rests_seq_iff {first second : Regex} {chars rest : List Char} :
    rest ∈ (first.seq second).rests chars ↔
      ∃ middle ∈ first.rests chars, rest ∈ second.rests middle :=
  List.mem_flatMap

/-- What a class leaves comes after a run of its characters. -/
theorem eq_append_of_mem_rests_rep_one {accepts : Char → Bool} {least most : Nat}
    {chars rest : List Char} (h : rest ∈ (Regex.rep (.one accepts) least most).rests chars) :
    ∃ run, chars = run ++ rest ∧ run.all accepts = true ∧ least ≤ run.length ∧ run.length ≤ most := by
  simp only [rests] at h
  have here {least most : Nat} {chars : List Char}
      (h : rest ∈ (if least = 0 then [chars] else [])) :
      ∃ run, chars = run ++ rest ∧ run.all accepts = true ∧ least ≤ run.length ∧
        run.length ≤ most := by
    split at h
    · refine ⟨[], (List.mem_singleton.mp h).symm, rfl, ?_, Nat.zero_le _⟩
      omega
    · cases h
  induction most generalizing least chars with
  | zero => exact here h
  | succ most ih =>
      simp only [repeatRests, List.mem_append, List.mem_flatMap] at h
      cases h with
      | inl stop => exact here stop
      | inr more =>
          obtain ⟨middle, one, rest_of⟩ := more
          cases chars with
          | nil => simp [rests] at one
          | cons c chars =>
              simp only [rests] at one
              split at one
              · rename_i accepted
                obtain ⟨run, parts, all, enough, few⟩ := ih rest_of
                refine ⟨c :: run, ?_, ?_, ?_, ?_⟩
                · rw [← List.mem_singleton.mp one, parts, List.cons_append]
                · rw [List.all_cons, accepted, all, Bool.and_self]
                · simp only [List.length_cons]
                  omega
                · simp only [List.length_cons]
                  omega
              · cases one

/-- No match is longer than this. -/
def longest : Regex → Nat
  | .one _ => 1
  | .text word => word.scalars.length
  | .seq first second => first.longest + second.longest
  | .alt first second => max first.longest second.longest
  | .rep body _ most => most * body.longest

theorem length_le_of_mem_repeatRests {step : List Char → List (List Char)} {bound : Nat}
    (h : ∀ chars, ∀ rest ∈ step chars, chars.length ≤ bound + rest.length) {least most : Nat}
    {chars rest : List Char} (member : rest ∈ repeatRests step least most chars) :
    chars.length ≤ most * bound + rest.length := by
  have here {least : Nat} {chars : List Char} (h : rest ∈ (if least = 0 then [chars] else [])) :
      chars.length ≤ rest.length := by
    split at h
    · rw [List.mem_singleton.mp h]
    · cases h
  induction most generalizing least chars with
  | zero => exact Nat.le_trans (here member) (Nat.le_add_left _ _)
  | succ most ih =>
      simp only [repeatRests, List.mem_append, List.mem_flatMap] at member
      cases member with
      | inl stop => exact Nat.le_trans (here stop) (Nat.le_add_left _ _)
      | inr more =>
          obtain ⟨middle, one, rest_of⟩ := more
          have first := h chars middle one
          have others := ih rest_of
          rw [Nat.succ_mul]
          omega

theorem length_le_of_mem_rests {regex : Regex} {chars rest : List Char}
    (member : rest ∈ regex.rests chars) : chars.length ≤ regex.longest + rest.length := by
  induction regex generalizing chars rest with
  | one accepts =>
      cases chars with
      | nil => cases member
      | cons c chars =>
          simp only [rests] at member
          split at member
          · rw [List.mem_singleton.mp member, longest, List.length_cons]
            omega
          · cases member
  | text word =>
      rw [eq_append_of_mem_rests_text member, List.length_append, longest]
  | seq first second first_ih second_ih =>
      obtain ⟨middle, left, right⟩ := mem_rests_seq_iff.mp member
      have before := first_ih left
      have after := second_ih right
      rw [longest]
      omega
  | alt first second first_ih second_ih =>
      rw [longest]
      cases List.mem_append.mp member with
      | inl left =>
          have before := first_ih left
          omega
      | inr right =>
          have after := second_ih right
          omega
  | rep body least most ih => exact length_le_of_mem_repeatRests (fun _ _ => ih) member

theorem Matching.length_le {regex : Regex} (m : regex.Matching) :
    m.val.scalars.length ≤ regex.longest :=
  length_le_of_mem_rests (fullmatch_iff.mp m.property)

end Regex
