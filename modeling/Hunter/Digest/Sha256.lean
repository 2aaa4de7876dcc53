import Hunter.Text.Regex

/-!
SHA-256. Words are natural numbers below 2^32, and the operations on them are
written as the functions of `Nat` that the kernel computes with. The digest is
its text: sixty-four small hexadecimal digits.
-/

namespace Sha256

/-- The eight working variables. -/
structure Working where
  (a b c d e f g h : Nat)
  deriving DecidableEq

def low (x : Nat) : Nat := x.mod 0x100000000

/-- A word beside itself: a rotation is the low half of a shift. -/
def twice (x : Nat) : Nat := x.mul 0x100000001

def xor3 (x y z : Nat) : Nat := (x.xor y).xor z

def rotations (i j k x : Nat) : Nat :=
  low (xor3 ((twice x).shiftRight i) ((twice x).shiftRight j) ((twice x).shiftRight k))

/-- Two rotations and a shift, as in the message schedule. -/
def spread (i j k x : Nat) : Nat :=
  low (xor3 ((twice x).shiftRight i) ((twice x).shiftRight j) (x.shiftRight k))

def choose (x y z : Nat) : Nat := (x.land y).xor ((Nat.xor 0xffffffff x).land z)

def majority (x y z : Nat) : Nat := xor3 (x.land y) (x.land z) (y.land z)

def roundConstants : List Nat :=
  [0x428a2f98, 0x71374491, 0xb5c0fbcf, 0xe9b5dba5, 0x3956c25b, 0x59f111f1, 0x923f82a4, 0xab1c5ed5,
    0xd807aa98, 0x12835b01, 0x243185be, 0x550c7dc3, 0x72be5d74, 0x80deb1fe, 0x9bdc06a7, 0xc19bf174,
    0xe49b69c1, 0xefbe4786, 0x0fc19dc6, 0x240ca1cc, 0x2de92c6f, 0x4a7484aa, 0x5cb0a9dc, 0x76f988da,
    0x983e5152, 0xa831c66d, 0xb00327c8, 0xbf597fc7, 0xc6e00bf3, 0xd5a79147, 0x06ca6351, 0x14292967,
    0x27b70a85, 0x2e1b2138, 0x4d2c6dfc, 0x53380d13, 0x650a7354, 0x766a0abb, 0x81c2c92e, 0x92722c85,
    0xa2bfe8a1, 0xa81a664b, 0xc24b8b70, 0xc76c51a3, 0xd192e819, 0xd6990624, 0xf40e3585, 0x106aa070,
    0x19a4c116, 0x1e376c08, 0x2748774c, 0x34b0bcb5, 0x391c0cb3, 0x4ed8aa4a, 0x5b9cca4f, 0x682e6ff3,
    0x748f82ee, 0x78a5636f, 0x84c87814, 0x8cc70208, 0x90befffa, 0xa4506ceb, 0xbef9a3f7, 0xc67178f2]

def initial : Working :=
  ⟨0x6a09e667, 0xbb67ae85, 0x3c6ef372, 0xa54ff53a, 0x510e527f, 0x9b05688c, 0x1f83d9ab, 0x5be0cd19⟩

/-- The words of the schedule, the newest first. -/
def schedule : Nat → List Nat → List Nat
  | n + 1, w₁ :: w₂ :: w₃ :: w₄ :: w₅ :: w₆ :: w₇ :: w₈ :: w₉ :: w₁₀ :: w₁₁ :: w₁₂ :: w₁₃ ::
      w₁₄ :: w₁₅ :: w₁₆ :: older =>
      let next := low (((spread 17 19 10 w₂).add w₇).add ((spread 7 18 3 w₁₅).add w₁₆))
      schedule n (next :: w₁ :: w₂ :: w₃ :: w₄ :: w₅ :: w₆ :: w₇ :: w₈ :: w₉ :: w₁₀ :: w₁₁ :: w₁₂ ::
        w₁₃ :: w₁₄ :: w₁₅ :: w₁₆ :: older)
  | _, words => words

def rounds : List Nat → List Nat → Working → Working
  | k :: ks, w :: ws, ⟨a, b, c, d, e, f, g, h⟩ =>
      let t₁ := ((h.add (rotations 6 11 25 e)).add ((choose e f g).add k)).add w
      let t₂ := (rotations 2 13 22 a).add (majority a b c)
      rounds ks ws ⟨low (t₁.add t₂), a, b, c, low (d.add t₁), e, f, g⟩
  | _, _, working => working

def compress (s : Working) (block : List Nat) : Working :=
  let t := rounds roundConstants (schedule 48 block.reverse).reverse s
  ⟨low (s.a.add t.a), low (s.b.add t.b), low (s.c.add t.c), low (s.d.add t.d),
    low (s.e.add t.e), low (s.f.add t.f), low (s.g.add t.g), low (s.h.add t.h)⟩

def words : List UInt8 → List Nat
  | a :: b :: c :: d :: bytes =>
      (((a.toNat.mul 256).add b.toNat).mul 65536).add ((c.toNat.mul 256).add d.toNat) :: words bytes
  | _ => []

/-- The last bytes of a message, a one bit, zeros and its whole length in bits. -/
def padding (rest : List UInt8) (total : Nat) : List UInt8 :=
  let zeros : List UInt8 := List.replicate ((119 - rest.length) % 64) 0
  let bits := [56, 48, 40, 32, 24, 16, 8, 0].map fun shift =>
    UInt8.ofNat ((total * 8) >>> shift % 256)
  rest ++ 128 :: (zeros ++ bits)

/-- The padded end of a message is one block or two. -/
def finish (rest : List UInt8) (absorbed : Nat) (working : Working) : Working :=
  let padded := padding rest (absorbed * 64 + rest.length)
  let first := compress working (words (padded.take 64))
  match padded.drop 64 with
  | [] => first
  | second => compress first (words second)

/-- Whole blocks first. A message has fewer blocks than bytes. -/
def absorb : List UInt8 → List UInt8 → Nat → Working → Working
  | [], rest, absorbed, working => finish rest absorbed working
  | _ :: fuel, rest, absorbed, working =>
      match rest.drop 63 with
      | [] => finish rest absorbed working
      | _ :: after => absorb fuel after (absorbed + 1) (compress working (words (rest.take 64)))

def digest (message : List UInt8) : Working := absorb message message 0 initial

/-- The last `width` hexadecimal digits. -/
def hexDigits : Nat → Nat → List Char
  | 0, _ => []
  | width + 1, n => hexDigits width (n / 16) ++ [(n % 16).digitChar]

def hexdigest (message : List UInt8) : String :=
  let d := digest message
  String.ofList ([d.a, d.b, d.c, d.d, d.e, d.f, d.g, d.h].flatMap (hexDigits 8))

example : hexdigest [0x61, 0x62, 0x63] =
    "ba7816bf8f01cfea414140de5dae2223b00361a396177a9cb410ff61f20015ad" := by
  decide

theorem hexDigits_length (width n : Nat) : (hexDigits width n).length = width := by
  induction width generalizing n with
  | zero => rfl
  | succ width ih => simp [hexDigits, ih]

theorem hexDigits_all (width n : Nat) :
    (hexDigits width n).all (fun c => c.isDigit || ('a' ≤ c && c ≤ 'f')) = true := by
  induction width generalizing n with
  | zero => rfl
  | succ width ih =>
      have last : ∀ d < 16, ((Nat.digitChar d).isDigit ||
          ('a' ≤ Nat.digitChar d && Nat.digitChar d ≤ 'f')) = true := by decide
      simp only [hexDigits, List.all_append, ih, List.all_cons, List.all_nil, Bool.and_true,
        Bool.true_and]
      exact last _ (Nat.mod_lt _ (by decide))

theorem hexdigest_fullmatch (message : List UInt8) :
    (Regex.rep Regex.lowerHex 64 64).fullmatch (hexdigest message) = true := by
  apply Regex.fullmatch_of_mem
  simp only [hexdigest, String.scalars_ofList]
  generalize digest message = d
  have length : ([d.a, d.b, d.c, d.d, d.e, d.f, d.g, d.h].flatMap (hexDigits 8)).length = 64 := by
    simp [hexDigits_length]
  have digits : ([d.a, d.b, d.c, d.d, d.e, d.f, d.g, d.h].flatMap (hexDigits 8)).all
      (fun c => c.isDigit || ('a' ≤ c && c ≤ 'f')) = true := by
    simp only [List.flatMap_cons, List.flatMap_nil, List.all_append, hexDigits_all, List.all_nil,
      Bool.and_self]
  have whole := Regex.mem_rests_rep_one _ [] digits (Nat.le_of_eq length.symm) (Nat.le_of_eq length)
  rwa [List.append_nil] at whole

end Sha256
