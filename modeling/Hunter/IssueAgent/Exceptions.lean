import Mathlib

/-!
The exceptions the Issue Agent raises, with their texts. A refusal of the ledger
is one of the `LedgerError` classes; a control job adds its own refusals and the
indefinite observation. The rest are the interpreter's own exceptions, raised by
data of an unexpected shape.
-/

namespace Hunter.IssueAgent

inductive Exn where
  | ledgerError (message : String)
  | ledgerSchemaError (message : String)
  | ledgerCorruptError (message : String)
  | anchorIntegrityError (message : String)
  | ledgerConflictError (message : String)
  | knowledgeLedgerError (message : String)
  | findingRefused (message : String)
  | remediationRefused (code message : String)
  | issueAgentAuthorizationError (message : String)
  | transportIntegrityError (message : String)
  | controlRefused (code message : String)
  | frozen (code message : String)
  | factsUnavailable (message : String)
  | assertionError
  | attributeError
  | indexError
  | keyError (key : String)
  | overflowError
  | stopIteration
  | typeError
  | valueError
  deriving DecidableEq, Repr

abbrev Py : Type → Type := Except Exn

def require (condition : Prop) [Decidable condition] (exn : Exn) : Py Unit :=
  if condition then .ok () else .error exn

theorem require_ok {condition : Prop} [Decidable condition] {exn : Exn} :
    require condition exn = .ok () ↔ condition := by
  unfold require
  split <;> simp_all

theorem require_of {condition : Prop} [Decidable condition] {exn : Exn} (h : condition) :
    require condition exn = .ok () :=
  require_ok.mpr h

/-- The value under a key that must be there. -/
def item {α : Type} (key : String) : Option α → Py α
  | some value => .ok value
  | none => .error (.keyError key)

@[simp] theorem item_some {α : Type} (key : String) (value : α) : item key (some value) = .ok value :=
  rfl

theorem item_ok {α : Type} {key : String} {found : Option α} {value : α} :
    item key found = .ok value ↔ found = some value := by
  cases found <;> simp [item]

@[simp] theorem ok_bind {α β : Type} (value : α) (next : α → Py β) :
    ((.ok value : Py α) >>= next) = next value := rfl

@[simp] theorem map_of_ok {α β : Type} (f : α → β) (value : α) :
    (f <$> (.ok value : Py α)) = .ok (f value) := rfl

@[simp] theorem ok_seq {α β : Type} (f : α → β) (second : Py α) :
    ((.ok f : Py (α → β)) <*> second) = f <$> second := rfl

@[simp] theorem error_seq {α β : Type} (exn : Exn) (second : Py α) :
    ((.error exn : Py (α → β)) <*> second) = .error exn := rfl

@[simp] theorem ok_seqLeft {α β : Type} (value : α) (second : Py β) :
    ((.ok value : Py α) <* second) = (fun _ => value) <$> second := by
  cases second <;> rfl

@[simp] theorem pure_eq_ok {α : Type} (value : α) : (pure value : Py α) = .ok value := rfl

theorem bind_ok {α β : Type} {first : Py α} {next : α → Py β} {result : β} :
    (first >>= next) = .ok result ↔ ∃ value, first = .ok value ∧ next value = .ok result := by
  cases first with
  | error e => simp [bind, Except.bind]
  | ok value => simp [bind, Except.bind]

theorem check_ok {β : Type} {check : Py Unit} {next : Unit → Py β} {result : β} :
    (check >>= next) = .ok result ↔ check = .ok () ∧ next () = .ok result := by
  rw [bind_ok]
  exact ⟨fun ⟨(), holds, rest⟩ => ⟨holds, rest⟩, fun ⟨holds, rest⟩ => ⟨(), holds, rest⟩⟩

theorem map_ok {α β : Type} {f : α → β} {first : Py α} {result : β} :
    f <$> first = .ok result ↔ ∃ value, first = .ok value ∧ f value = result := by
  cases first <;> simp [Functor.map, Except.map]

theorem seq_ok {α β : Type} {first : Py (α → β)} {second : Py α} {result : β} :
    (first <*> second) = .ok result ↔
      ∃ f, first = .ok f ∧ ∃ value, second = .ok value ∧ f value = result := by
  cases first with
  | error exn => simp
  | ok f => simp [map_ok]

theorem seqLeft_ok {α β : Type} {first : Py α} {second : Py β} {result : α} :
    (first <* second) = .ok result ↔ first = .ok result ∧ ∃ value, second = .ok value := by
  cases first with
  | error exn => simp [SeqLeft.seqLeft, Except.bind]
  | ok a => simp [map_ok, and_comm]

/-- `except E as error: raise F(error)`. -/
def reraise {α : Type} (handler : Exn → Exn) : Py α → Py α
  | .ok value => .ok value
  | .error exn => .error (handler exn)

theorem reraise_ok {α : Type} {handler : Exn → Exn} {first : Py α} {value : α} :
    reraise handler first = .ok value ↔ first = .ok value := by
  cases first <;> simp [reraise]

end Hunter.IssueAgent
