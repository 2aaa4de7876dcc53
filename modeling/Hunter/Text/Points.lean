import Hunter.Text.Words

/-!
Texts as a running program holds them: code points, among which half of a surrogate pair may stand
alone. A stored text has characters only, and its code points are theirs.
-/

/-- A code point. -/
abbrev Point := Fin 0x110000

instance neZero_points : NeZero 0x110000 := ⟨by decide⟩

abbrev Points := List Point

theorem Char.toNat_lt_points (c : Char) : c.toNat < 0x110000 := by
  rcases c.valid with low | ⟨-, high⟩
  · exact Nat.lt_trans low (by decide)
  · exact high

def Char.point (c : Char) : Point := ⟨c.toNat, c.toNat_lt_points⟩

/-- The code points of a text. -/
def String.points (s : String) : Points := s.scalars.map Char.point

instance coePoints : Coe String Points := ⟨String.points⟩

namespace Point

/-- The first half of a surrogate pair. -/
def high (p : Point) : Bool := 0xD800 ≤ p.val ∧ p.val < 0xDC00

/-- The second half of a surrogate pair. -/
def low (p : Point) : Bool := 0xDC00 ≤ p.val ∧ p.val < 0xE000

theorem pair_lt {first second : Point} (isHigh : first.high = true) (isLow : second.low = true) :
    0x10000 + (first.val - 0xD800) * 0x400 + (second.val - 0xDC00) < 0x110000 := by
  have before := of_decide_eq_true isHigh
  have after := of_decide_eq_true isLow
  omega

/-- What comes before a text: the two halves of a pair are one point. -/
def join (first : Point) : Points → Points
  | [] => [first]
  | second :: rest =>
      if pair : first.high = true ∧ second.low = true then ⟨_, pair_lt pair.1 pair.2⟩ :: rest
      else first :: second :: rest

/-- The character of a point that is no half of a pair. -/
def char? (p : Point) : Option Char :=
  if h : p.val.isValidChar then some (Char.ofNatAux p.val h) else none

def lower (p : Point) : Points :=
  match p.char? with
  | some c => (Chars.lowerChar c).map Char.point
  | none => [p]

end Point

/-- `str.lower`, up to characters that are not of ASCII. -/
def Points.lower (text : Points) : Points := text.flatMap Point.lower

example : Points.lower ("TOOLS" : String) = ("tools" : String) ∧
    Point.join 0xD83D ((0xDE00 : Point) :: "!") = [0x1F600, 33] := by
  decide
