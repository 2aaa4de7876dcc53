import Mathlib

/-!
The characters of a text, decoded from its UTF-8 bytes by structural recursion.
They are those of `String.toList`, in a form that the kernel can evaluate.
-/

instance lawfulBEq_chars : LawfulBEq (List Char) := inferInstance

namespace Chars

/-- The first number counts the continuation bytes still to come, the second is
the code point read so far. -/
def decodeFrom : Nat → Nat → List UInt8 → List Char
  | _, _, [] => []
  | 0, _, b :: bytes =>
      if b.toNat < 0x80 then Char.ofNat b.toNat :: decodeFrom 0 0 bytes
      else if b.toNat < 0xe0 then decodeFrom 1 (b.toNat % 32) bytes
      else if b.toNat < 0xf0 then decodeFrom 2 (b.toNat % 16) bytes
      else decodeFrom 3 (b.toNat % 8) bytes
  | 1, code, b :: bytes => Char.ofNat (code * 64 + b.toNat % 64) :: decodeFrom 0 0 bytes
  | pending + 2, code, b :: bytes => decodeFrom (pending + 1) (code * 64 + b.toNat % 64) bytes

def decode (bytes : List UInt8) : List Char := decodeFrom 0 0 bytes

def encode (chars : List Char) : List UInt8 := chars.flatMap String.utf8EncodeChar

theorem decode_encodeChar (c : Char) (bytes : List UInt8) :
    decode (String.utf8EncodeChar c ++ bytes) = c :: decode bytes := by
  have scalar : c.val.toNat < 0x110000 := by
    rcases c.valid with h | h
    · exact Nat.lt_trans h (by decide)
    · exact h.2
  have back : Char.ofNat c.val.toNat = c := Char.ofNat_toNat c
  have byte (n : Nat) (h : n < 256) : (UInt8.ofNat n).toNat = n := by
    simpa using h
  simp only [String.utf8EncodeChar, decode]
  generalize c.val.toNat = v at scalar back
  subst back
  split
  · simp only [List.cons_append, List.nil_append, decodeFrom]
    rw [byte _ (by omega), if_pos (by omega)]
  · split
    · simp only [List.cons_append, List.nil_append, decodeFrom]
      rw [byte _ (by omega), byte _ (by omega), if_neg (by omega), if_pos (by omega)]
      congr 2
      omega
    · split
      · simp only [List.cons_append, List.nil_append, decodeFrom]
        rw [byte _ (by omega), byte _ (by omega), byte _ (by omega), if_neg (by omega),
          if_neg (by omega), if_pos (by omega)]
        congr 2
        omega
      · simp only [List.cons_append, List.nil_append, decodeFrom]
        rw [byte _ (by omega), byte _ (by omega), byte _ (by omega), byte _ (by omega),
          if_neg (by omega), if_neg (by omega), if_neg (by omega)]
        congr 2
        omega

theorem decode_encode (chars : List Char) : decode (encode chars) = chars := by
  induction chars with
  | nil => rfl
  | cons c chars ih =>
      rw [encode, List.flatMap_cons, decode_encodeChar]
      exact congrArg (c :: ·) ih

theorem encode_inj {a b : List Char} : encode a = encode b ↔ a = b := by
  refine ⟨fun h => ?_, fun h => congrArg encode h⟩
  rw [← decode_encode a, h, decode_encode]

end Chars

/-- The characters of a text. -/
def String.scalars (s : String) : List Char := Chars.decode s.toByteArray.data.toList

theorem String.scalars_eq_toList (s : String) : s.scalars = s.toList := by
  have bytes : s.toByteArray.data.toList = Chars.encode s.toList := by
    rw [← String.utf8Encode_toList, List.utf8Encode, Chars.encode, List.toList_data_toByteArray]
  rw [String.scalars, bytes, Chars.decode_encode]

theorem String.scalars_ofList (chars : List Char) : (String.ofList chars).scalars = chars := by
  rw [String.scalars_eq_toList, String.toList_ofList]

theorem String.ofList_scalars (s : String) : String.ofList s.scalars = s := by
  rw [String.scalars_eq_toList, String.ofList_toList]

/-- A check of every character of a text, one after another. -/
theorem String.forall_scalars_of_all {P : Char → Prop} [DecidablePred P] {s : String}
    (checked : s.scalars.all (fun c => P c) = true) : ∀ c ∈ s.scalars, P c :=
  fun c inside => of_decide_eq_true (List.all_eq_true.mp checked c inside)

theorem String.scalars_lt {a b : String} : a.scalars < b.scalars ↔ a < b := by
  rw [String.scalars_eq_toList, String.scalars_eq_toList, String.lt_iff_toList_lt]
