import Hunter.Data.Fallible
import Hunter.Digest.Sha256
import Hunter.Json.Text
import Hunter.Text.Isoformat
import Hunter.Text.Words

/-!
What the stores of the response validator share: the exceptions they raise, the
texts and clock readings they accept, and the identities they derive from the
canonical JSON of a record.
-/

namespace Hunter.ResponseValidator

open Calendar Fallible

inductive Exn where
  | foundationError (message : String)
  | profileError (message : String)
  | profileResolutionError (message : String)
  | allocationError (message : String)
  | persistenceConflict (message : String)
  | persistenceCorruption (message : String)
  | unknownValidationState (value : String)
  | authorizationError (message : String)
  | executionError (message : String)
  | terminalConflict (message : String)
  | terminalCorruption (message : String)
  | correctionConflict (message : String)
  | correctionCorruption (message : String)
  deriving DecidableEq, Repr

abbrev Py : Type → Type := Except Exn

/-- Non-blank text without blanks at its ends. -/
abbrev CanonicalText : Type := { text : String // text ≠ "" ∧ Chars.strip text.scalars = text.scalars }

theorem strip_ne_nil {text : CanonicalText} : Chars.strip text.val.scalars ≠ [] := by
  rw [text.property.2]
  intro empty
  refine text.property.1 ?_
  rw [← String.ofList_scalars text.val, empty]

def requiredText (name value : String) : Py CanonicalText :=
  if h : value ≠ "" ∧ Chars.strip value.scalars = value.scalars then .ok ⟨value, h⟩
  else .error (.foundationError (name ++ " must be non-blank canonical text"))

theorem requiredText_ok {name value : String} {text : CanonicalText} :
    requiredText name value = .ok text ↔ text.val = value := by
  unfold requiredText
  split
  · rw [Except.ok.injEq, Subtype.ext_iff]
    exact eq_comm
  · refine iff_of_false nofun ?_
    rintro rfl
    exact absurd text.property ‹_›

/-- A reading of a clock: `none` is a time without a zone. -/
abbrev ClockReading : Type := Option Moment

def clockNow (now : ClockReading) (context : String) : Py Moment :=
  match now with
  | some moment => .ok moment
  | none => .error (.foundationError (context ++ " trusted clock must be timezone-aware"))

/-- The digest of a canonical text. -/
def sha256 (payload : String) : String := Sha256.hexdigest (Chars.encode payload.scalars)

/-- A namespaced identity over canonical JSON. -/
@[irreducible] def identity (kind : String) (value : Json) : String := kind ++ ":" ++ sha256 value.dumps

theorem identity_ne (kind : String) (value : Json) : identity kind value ≠ "" := by
  intro empty
  have length := congrArg String.length empty
  rw [identity, String.length_append, String.length_append] at length
  have : (":" : String).length = 1 := rfl
  simp only [String.length_empty] at length
  omega

/-- An identity whose digest has been evaluated. -/
theorem identity_text {kind digest : String} {value : Json}
    (evaluated : Sha256.hexdigest (Chars.encode (Json.render value.canon)) = digest) :
    identity kind value = kind ++ ":" ++ digest := by
  rw [identity, sha256, Json.dumps, String.scalars_ofList, evaluated]

theorem hexDigits_visible (width n : Nat) :
    ∀ c ∈ Sha256.hexDigits width n, Chars.isSpace c = false := by
  induction width generalizing n with
  | zero => exact fun _ member => absurd member List.not_mem_nil
  | succ width ih =>
      have last : ∀ d < 16, Chars.isSpace (Nat.digitChar d) = false := by decide
      intro c member
      rcases List.mem_append.mp member with front | back
      · exact ih _ c front
      · rw [List.mem_singleton.mp back]
        exact last _ (Nat.mod_lt _ (by decide))

/-- The identities of a kind without blanks are canonical texts. -/
def identityText (kind : String) (value : Json)
    (visible : ∀ c ∈ kind.scalars, Chars.isSpace c = false) : CanonicalText :=
  ⟨identity kind value, identity_ne kind value, by
    refine Chars.strip_of_visible fun c member => ?_
    rw [identity, sha256, Sha256.hexdigest, String.scalars_eq_toList] at member
    simp only [String.toList_append, String.toList_ofList, List.mem_append, List.mem_flatMap] at member
    rcases member with (front | colon) | ⟨word, -, digit⟩
    · exact visible c (by rwa [String.scalars_eq_toList])
    · rw [show (":" : String).toList = [':'] from rfl, List.mem_singleton] at colon
      rw [colon]
      decide
    · exact hexDigits_visible 8 word c digit⟩

/-- `null` for `None`. -/
def optionalText : Option String → Json
  | some text => .str text
  | none => .null

end Hunter.ResponseValidator
