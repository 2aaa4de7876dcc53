import Mathlib
import Hunter.IssueAgent.Signing
import Hunter.IssueAgent.Store
import Hunter.Machine.Run
import Hunter.MarketValidation.History

/-!
The branch the signed head of the membership history is published on. A publication reads
the head, reads the anchors below it and appends its own under a lease on the head it was
given; other publications and readers may run between any two of these. The anchors of the
branch advance, and so do those that readers are given.
-/

namespace Hunter.MarketValidation

open Hunter.IssueAgent (Branch Node readFiles readFiles_ok hexPairs)

/-- An Ed25519 key, by the signatures it takes, in hexadecimal digits, over a message. -/
structure PublicKey where
  verify : List Char → List UInt8 → Bool

structure PinnedMembershipTrust where
  repository : String
  anchorPublicKey : PublicKey

/-- The keys of a mapping are exactly these. -/
abbrev HasKeys (fields : List (String × Json)) (names : List String) : Prop :=
  fields.map Prod.fst ⊆ names ∧ names ⊆ fields.map Prod.fst

def anchorDomain : String :=
  "hunter.market-validation.membership-anchor.v1" ++ String.ofList [Char.ofNat 0]

def signedMessage (domain : String) (fields : List (String × Json)) : List UInt8 :=
  Chars.encode (domain.scalars ++ (Json.asciiDumps (.obj fields)).scalars)

def signatureValid (key : PublicKey) (domain : String) (fields : List (String × Json)) :
    Option Json → Bool
  | some (.str signature) =>
      match hexPairs signature.scalars with
      | some digits => key.verify digits (signedMessage domain fields)
      | none => false
  | _ => false

def verifySignedClaim (claim : Json) (key : PublicKey) (domain expectedRepository : String) :
    Py (List (String × Json)) :=
  match claim with
  | .obj fields => do
      Fallible.require (HasKeys fields ["payload", "signature"])
        (.valueError "invalid signed membership claim")
      let fieldsOfPayload ← (match Json.lookup "payload" fields with
        | some (.obj members) => .ok members
        | _ => .error (.valueError "invalid signed membership claim") : Py (List (String × Json)))
      Fallible.require (Json.lookup "repository" fieldsOfPayload = some (.str expectedRepository))
        (.valueError "membership claim repository mismatch")
      Fallible.require (signatureValid key domain fieldsOfPayload (Json.lookup "signature" fields))
        (.valueError "membership signature invalid")
      return fieldsOfPayload
  | _ => .error .typeError

def anchorOfPayload (repository : String) (fields : List (String × Json)) : Py TrustedHistoryAnchor := do
  Fallible.require (HasKeys fields ["repository", "sequence", "digest"])
    (.valueError "invalid anchor payload")
  Fallible.require (Json.lookup "repository" fields = some (.str repository))
    (.valueError "anchor repository mismatch")
  match Json.lookup "sequence" fields, Json.lookup "digest" fields with
  | some (.int sequence), some (.str digest) => do
      Fallible.require (1 ≤ sequence) (.valueError "invalid anchor sequence")
      Fallible.require (digest.scalars.length = 64) (.valueError "invalid anchor digest")
      Fallible.require (hexPairs digest.scalars).isSome
        (.valueError "non-hexadecimal number found in fromhex() arg")
      return ⟨repository, sequence.toNat, digest⟩
  | some (.int sequence), _ => do
      Fallible.require (1 ≤ sequence) (.valueError "invalid anchor sequence")
      .error (.valueError "invalid anchor digest")
  | _, _ => .error (.valueError "invalid anchor sequence")

namespace PinnedMembershipTrust

def verifiedAnchor (trust : PinnedMembershipTrust) (signedAnchor : String) : Py TrustedHistoryAnchor := do
  let claim ← loadContent signedAnchor
  let fields ← verifySignedClaim claim trust.anchorPublicKey anchorDomain trust.repository
  anchorOfPayload trust.repository fields

def verifyAnchor (trust : PinnedMembershipTrust) (signedAnchor : String) : Py TrustedHistoryAnchor :=
  match trust.verifiedAnchor signedAnchor with
  | .ok anchor => .ok anchor
  | .error _ => .error (.valueError "untrusted membership anchor")

end PinnedMembershipTrust

/-- A text is an anchor for anyone whose trust it passes. -/
def Anchors (text : String) (anchor : TrustedHistoryAnchor) : Prop :=
  ∃ trust : PinnedMembershipTrust, trust.verifyAnchor text = .ok anchor

/-- What an anchor says is in its text, whatever key it was verified with. -/
def claimedAnchor (text : String) : Option (Option Json × Option Json × Option Json) := do
  let claim ← Json.loads text
  let payload ← claim.get? "payload"
  return (payload.get? "repository", payload.get? "sequence", payload.get? "digest")

theorem verifySignedClaim_ok {claim : Json} {key : PublicKey} {domain repository : String}
    {fields : List (String × Json)} (h : verifySignedClaim claim key domain repository = .ok fields) :
    claim.get? "payload" = some (.obj fields) := by
  cases claim with
  | obj members =>
      simp only [verifySignedClaim, Fallible.bind_ok] at h
      obtain ⟨_, -, payload, found, _, -, _, -, same⟩ := h
      cases same
      change Json.lookup "payload" members = _
      split at found <;> simp_all
  | _ => cases h

theorem anchorOfPayload_ok {repository : String} {fields : List (String × Json)}
    {anchor : TrustedHistoryAnchor} (h : anchorOfPayload repository fields = .ok anchor) :
    Json.lookup "repository" fields = some (.str anchor.repository) ∧
      Json.lookup "sequence" fields = some (.int anchor.sequence) ∧
      Json.lookup "digest" fields = some (.str anchor.digest) := by
  simp only [anchorOfPayload, Fallible.require_bind_ok] at h
  obtain ⟨-, named, h⟩ := h
  split at h
  · rename_i sequence digest counted digested
    simp only [Fallible.require_bind_ok] at h
    obtain ⟨positive, -, -, same⟩ := h
    cases same
    refine ⟨named, ?_, digested⟩
    rw [counted, Int.toNat_of_nonneg (by omega)]
  · simp only [Fallible.require_bind_ok] at h
    cases h.2
  · cases h

theorem verifyAnchor_claimed {trust : PinnedMembershipTrust} {text : String}
    {anchor : TrustedHistoryAnchor} (h : trust.verifyAnchor text = .ok anchor) :
    claimedAnchor text = some (some (.str anchor.repository), some (.int anchor.sequence),
      some (.str anchor.digest)) := by
  unfold PinnedMembershipTrust.verifyAnchor at h
  split at h
  · rename_i found verified
    cases h
    simp only [PinnedMembershipTrust.verifiedAnchor, Fallible.bind_ok] at verified
    obtain ⟨claim, loaded, fields, claimed, read⟩ := verified
    obtain ⟨repository, sequence, digest⟩ := anchorOfPayload_ok read
    have parsed : Json.loads text = some claim := by
      unfold loadContent at loaded
      split at loaded
      · rename_i data parsed
        cases loaded
        exact parsed
      · cases loaded
    have payload : claim.get? "payload" = some (.obj fields) := verifySignedClaim_ok claimed
    have member : ∀ name, (Json.obj fields).get? name = Json.lookup name fields := fun _ => rfl
    simp only [claimedAnchor, parsed, Option.bind_eq_bind, Option.bind_some, payload, member,
      repository, sequence, digest]
    rfl
  · cases h

theorem Anchors.unique {text : String} {a b : TrustedHistoryAnchor} (ha : Anchors text a)
    (hb : Anchors text b) : a = b := by
  obtain ⟨_, first⟩ := ha
  obtain ⟨_, second⟩ := hb
  have same := (verifyAnchor_claimed first).symm.trans (verifyAnchor_claimed second)
  cases a
  cases b
  simp only [Option.some.injEq, Prod.mk.injEq, Json.str.injEq, Json.int.injEq, Int.ofNat_inj] at same
  obtain ⟨rfl, rfl, rfl⟩ := same
  rfl

/-- What a publication or a read ends with when it does not go through. -/
inductive AnchorExn where
  | own (exn : Exn)
  | ledger (exn : IssueAgent.Exn)
  deriving DecidableEq, Repr

def anchorFile : String := "membership-anchor.json"

def ofLedger {α : Type} : IssueAgent.Py α → Except AnchorExn α
  | .ok value => .ok value
  | .error exn => .error (.ledger exn)

def ofOwn {α : Type} : Py α → Except AnchorExn α
  | .ok value => .ok value
  | .error exn => .error (.own exn)

/-- `.decode("utf-8")`. -/
def decodeText (blob : List UInt8) : Py String :=
  if Chars.encode (Chars.decode blob) = blob then .ok (String.ofList (Chars.decode blob))
  else .error (.valueError "invalid start byte")

def anchorBlob (entries : List (List (String × List UInt8))) : Py (List UInt8) :=
  match entries.getLast? with
  | none => .error (.valueError "external anchor unavailable")
  | some files =>
      match files.lookup anchorFile with
      | some blob => .ok blob
      | none => .error (.keyError anchorFile)

/-- Whether the ruleset a party was given protects the branch is settled by the pin that it
holds. -/
structure GitHubAnchorReader where
  repository : String
  pinVerified : Py Unit

def GitHubAnchorReader.readSignedHead (reader : GitHubAnchorReader) (repository : String)
    (branch : Branch) : Except AnchorExn String := do
  ofOwn (Fallible.require (repository = reader.repository) (.valueError "anchor repository mismatch"))
  ofOwn reader.pinVerified
  let entries ← ofLedger (readFiles branch [anchorFile])
  let text ← ofOwn (do decodeText (← anchorBlob entries))
  ofOwn (Fallible.require (blank text = false) (.valueError "external anchor unavailable"))
  return text

structure MembershipAnchorPublisher where
  repository : String
  trust : PinnedMembershipTrust
  pinVerified : Py Unit

/-- A call of `publish`. A head stands for the commit it names; an empty one names none. -/
structure Publication where
  publisher : MembershipAnchorPublisher
  signedAnchor : String
  expectedHead : Branch
  timestamp : String

namespace Publication

def checkHead (call : Publication) (branch : Branch) : Except AnchorExn Unit := do
  ofOwn (Fallible.require (call.publisher.repository = call.publisher.trust.repository)
    (.valueError "publisher repository mismatch"))
  ofOwn call.publisher.pinVerified
  ofOwn (Fallible.require (call.expectedHead ≠ [] ∧ branch = call.expectedHead)
    (.valueError "protected membership anchor ref missing or stale"))

def checkAdvance (call : Publication) (branch : Branch) : Except AnchorExn TrustedHistoryAnchor := do
  let new ← ofOwn (call.publisher.trust.verifyAnchor call.signedAnchor)
  let entries ← ofLedger (readFiles branch [anchorFile])
  ofOwn (Fallible.require (branch = call.expectedHead ∧ entries ≠ [])
    (.valueError "protected membership anchor changed during read"))
  let old ← ofOwn (do call.publisher.trust.verifyAnchor (← decodeText (← anchorBlob entries)))
  ofOwn (Fallible.require (old.sequence < new.sequence ∧ new.digest ≠ old.digest)
    (.valueError "membership anchor must advance"))
  return new

def node (call : Publication) (new : TrustedHistoryAnchor) : Node where
  files := [(anchorFile, Chars.encode call.signedAnchor.scalars)]
  message := "membership anchor sequence " ++ toString new.sequence
  timestamp := call.timestamp

end Publication

/-- `append_files`. The push moves the branch where it reaches the remote and the lease
holds. What became of it is told by reading the branch back, which may fail. -/
def leasedAppend (branch expectedHead : Branch) (node : Node) (delivered : Bool)
    (readBack : Option String) : Branch × Except AnchorExn Branch :=
  let commit := expectedHead ++ [node]
  if branch = commit then (branch, .ok commit)
  else
    let moved := if delivered ∧ branch = expectedHead then commit else branch
    match readBack with
    | some message => (moved, .error (.ledger (.ledgerError message)))
    | none =>
        if moved = commit then (moved, .ok commit)
        else
          (moved, .error (.ledger
            (.ledgerConflictError "another writer advanced the ledger; re-read and re-decide")))

inductive Stage where
  | called
  | headSeen
  | checked (new : TrustedHistoryAnchor)
  | returned (commit : Branch)
  | raised (exn : AnchorExn)
  deriving DecidableEq

def Stage.ended : Stage → Bool
  | .returned _ | .raised _ => true
  | _ => false

structure AnchorState (ι : Type) where
  branch : Branch
  stage : ι → Stage

/-- A step of one call, the end of a call by a git command that fails before the push, or a
whole read with what it gives. -/
inductive AnchorEvent (ι : Type) where
  | refHead (call : ι)
  | readFiles (call : ι)
  | appendFiles (call : ι) (delivered : Bool) (readBack : Option String)
  | gitFails (call : ι) (message : String)
  | readSignedHead (reader : GitHubAnchorReader) (repository : String)
      (result : Except AnchorExn String)

def AnchorEvent.caller {ι : Type} : AnchorEvent ι → Option ι
  | .refHead call | .readFiles call | .appendFiles call _ _ | .gitFails call _ => some call
  | .readSignedHead _ _ _ => none

section Steps

variable {ι : Type} [DecidableEq ι]

def AnchorState.to (s : AnchorState ι) (call : ι) (stage : Stage) : AnchorState ι :=
  { s with stage := Function.update s.stage call stage }

def settled {α : Type} (next : α → Stage) : Except AnchorExn α → Stage
  | .ok value => next value
  | .error exn => .raised exn

inductive AnchorStep (calls : ι → Publication) :
    AnchorState ι → AnchorEvent ι → AnchorState ι → Prop where
  | refHead {s : AnchorState ι} {i : ι} (at_ : s.stage i = .called) :
      AnchorStep calls s (.refHead i)
        (s.to i (settled (fun _ => .headSeen) ((calls i).checkHead s.branch)))
  | readFiles {s : AnchorState ι} {i : ι} (at_ : s.stage i = .headSeen) :
      AnchorStep calls s (.readFiles i)
        (s.to i (settled .checked ((calls i).checkAdvance s.branch)))
  | appendFiles {s : AnchorState ι} {i : ι} {new : TrustedHistoryAnchor} {delivered : Bool}
      {readBack : Option String} {branch : Branch} {result : Except AnchorExn Branch}
      (at_ : s.stage i = .checked new)
      (done : leasedAppend s.branch (calls i).expectedHead ((calls i).node new) delivered readBack =
        (branch, result)) :
      AnchorStep calls s (.appendFiles i delivered readBack)
        (({ s with branch := branch } : AnchorState ι).to i (settled .returned result))
  | gitFails {s : AnchorState ι} {i : ι} {message : String} (at_ : (s.stage i).ended = false) :
      AnchorStep calls s (.gitFails i message) (s.to i (.raised (.ledger (.ledgerError message))))
  | readSignedHead {s : AnchorState ι} {reader : GitHubAnchorReader} {repository : String}
      {result : Except AnchorExn String}
      (read : reader.readSignedHead repository s.branch = result) :
      AnchorStep calls s (.readSignedHead reader repository result) s

end Steps

/-- The head was not, or is no longer, the one the call was given. -/
def Stale (exn : AnchorExn) : Prop :=
  exn = .own (.valueError "protected membership anchor ref missing or stale") ∨
    exn = .own (.valueError "protected membership anchor changed during read") ∨
    exn = .ledger (.ledgerConflictError "another writer advanced the ledger; re-read and re-decide")

variable {branch expectedHead moved : Branch} {node : Node} {delivered : Bool}
  {readBack : Option String}

theorem leasedAppend_moved {result : Except AnchorExn Branch}
    (done : leasedAppend branch expectedHead node delivered readBack = (moved, result)) :
    moved = branch ∨ branch = expectedHead ∧ moved = expectedHead ++ [node] := by
  unfold leasedAppend at done
  dsimp only at done
  split at done
  · cases done
    exact .inl rfl
  · by_cases lands : delivered = true ∧ branch = expectedHead
    · refine .inr ⟨lands.2, ?_⟩
      rw [if_pos lands] at done
      split at done
      · cases done
        rfl
      · rw [if_pos rfl] at done
        cases done
        rfl
    · refine .inl ?_
      rw [if_neg lands] at done
      repeat' split at done
      all_goals
        cases done
        rfl

theorem leasedAppend_ok {commit : Branch}
    (done : leasedAppend branch expectedHead node delivered readBack = (moved, .ok commit)) :
    commit = expectedHead ++ [node] ∧ moved = commit := by
  unfold leasedAppend at done
  dsimp only at done
  split at done
  · rename_i here
    cases done
    exact ⟨rfl, here⟩
  · generalize (if delivered = true ∧ branch = expectedHead then expectedHead ++ [node] else branch) =
      after at done
    split at done
    · cases done
    · split at done
      · rename_i here
        cases done
        exact ⟨rfl, here⟩
      · cases done

theorem leasedAppend_stale {exn : AnchorExn} (stale : Stale exn)
    (done : leasedAppend branch expectedHead node delivered readBack = (moved, .error exn)) :
    moved = branch := by
  cases leasedAppend_moved done with
  | inl same => exact same
  | inr landed =>
      -- A branch that is read back with the new commit at its head is no reason to raise.
      unfold leasedAppend at done
      dsimp only at done
      split at done
      · cases done
      · generalize (if delivered = true ∧ branch = expectedHead then expectedHead ++ [node]
          else branch) = after at done
        split at done
        · cases done
          simp [Stale] at stale
        · split at done
          · cases done
          · rename_i other
            cases done
            exact absurd landed.2 other

def Carries (node : Node) (anchor : TrustedHistoryAnchor) : Prop :=
  ∃ text : String, node.files = [(anchorFile, Chars.encode text.scalars)] ∧ Anchors text anchor

theorem Carries.unique {a b : TrustedHistoryAnchor} (ha : Carries node a) (hb : Carries node b) :
    a = b := by
  obtain ⟨first, files, valid⟩ := ha
  obtain ⟨second, files', valid'⟩ := hb
  rw [files] at files'
  simp only [List.cons.injEq, Prod.mk.injEq, Chars.encode_inj, true_and, and_true] at files'
  have texts : first = second := by
    rw [← String.ofList_scalars first, files', String.ofList_scalars]
  subst texts
  exact valid.unique valid'

/-- The anchors of the commits, oldest first: each has a greater sequence than those before it
and another digest than the last of them. -/
structure Advancing (branch : Branch) (anchors : List TrustedHistoryAnchor) : Prop where
  carried : List.Forall₂ Carries branch anchors
  increasing : anchors.Pairwise fun a b => a.sequence < b.sequence
  changing : anchors.IsChain fun a b => a.digest ≠ b.digest

theorem forall₂_getLast? {α β : Type} {R : α → β → Prop} {xs : List α} {ys : List β}
    (h : List.Forall₂ R xs ys) {x : α} (last : xs.getLast? = some x) :
    ∃ y, ys.getLast? = some y ∧ R x y := by
  have back := List.forall₂_reverse_iff.mpr h
  rw [List.getLast?_eq_head?_reverse] at last
  rw [List.getLast?_eq_head?_reverse]
  generalize xs.reverse = front at back last
  generalize ys.reverse = others at back
  cases back with
  | nil => cases last
  | cons related _ =>
      cases last
      exact ⟨_, rfl, related⟩

theorem decodeText_encode (text : String) : decodeText (Chars.encode text.scalars) = .ok text := by
  rw [decodeText, Chars.decode_encode, if_pos rfl, String.ofList_scalars]

/-- What is read from a branch is the anchor of its last commit. -/
theorem lastBlob_carries {entries : List (List (String × List UInt8))} {blob : List UInt8}
    {text : String} {anchors : List TrustedHistoryAnchor} (advancing : Advancing branch anchors)
    (read : readFiles branch [anchorFile] = .ok entries) (last : anchorBlob entries = .ok blob)
    (decoded : decodeText blob = .ok text) :
    ∃ node anchor, branch.getLast? = some node ∧ anchors.getLast? = some anchor ∧
      Carries node anchor ∧ Anchors text anchor := by
  rw [readFiles_ok read, anchorBlob, List.getLast?_map] at last
  cases found : branch.getLast? with
  | none => rw [found] at last; cases last
  | some node =>
      obtain ⟨anchor, end_, carries⟩ := forall₂_getLast? advancing.carried found
      obtain ⟨whole, files, valid⟩ := carries
      have member : [(anchorFile, Chars.encode whole.scalars)].lookup anchorFile =
          some (Chars.encode whole.scalars) := List.lookup_cons_self
      rw [found, Option.map_some, files] at last
      simp only [member, Except.ok.injEq] at last
      subst last
      rw [decodeText_encode] at decoded
      cases decoded
      exact ⟨node, anchor, rfl, end_, ⟨_, files, valid⟩, valid⟩

theorem Advancing.le_last {anchors : List TrustedHistoryAnchor} {anchor last : TrustedHistoryAnchor}
    (advancing : Advancing branch anchors) (member : anchor ∈ anchors)
    (ends : anchors.getLast? = some last) : anchor.sequence ≤ last.sequence := by
  obtain ⟨front, rfl⟩ := List.getLast?_eq_some_iff.mp ends
  cases List.mem_append.mp member with
  | inl before =>
      exact Nat.le_of_lt ((List.pairwise_append.mp advancing.increasing).2.2 anchor before last
        (List.mem_singleton_self last))
  | inr here => rw [List.mem_singleton.mp here]

theorem Advancing.snoc {anchors : List TrustedHistoryAnchor} {old new : TrustedHistoryAnchor}
    (advancing : Advancing branch anchors) (last : anchors.getLast? = some old)
    (carries : Carries node new) (later : old.sequence < new.sequence)
    (other : new.digest ≠ old.digest) : Advancing (branch ++ [node]) (anchors ++ [new]) where
  carried := List.rel_append advancing.carried (.cons carries .nil)
  increasing := by
    refine List.pairwise_append.mpr ⟨advancing.increasing, List.pairwise_singleton _ _, ?_⟩
    intro anchor member added self
    rw [List.mem_singleton.mp self]
    exact lt_of_le_of_lt (advancing.le_last member last) later
  changing := by
    refine List.isChain_append.mpr ⟨advancing.changing, List.isChain_singleton new, ?_⟩
    intro anchor ends added self
    rw [last] at ends
    cases ends
    cases self
    exact other.symm

/-- What holds of a new anchor from the check of a call on, until its append. -/
def Publication.Passed (call : Publication) (new : TrustedHistoryAnchor) : Prop :=
  Anchors call.signedAnchor new ∧ ∃ node old, call.expectedHead.getLast? = some node ∧
    Carries node old ∧ old.sequence < new.sequence ∧ new.digest ≠ old.digest

def Publication.Landed (call : Publication) (branch commit : Branch) : Prop :=
  commit <+: branch ∧ ∃ new, Anchors call.signedAnchor new ∧
    commit = call.expectedHead ++ [call.node new]

def Publication.Sound (call : Publication) (branch : Branch) : Stage → Prop
  | .checked new => call.Passed new
  | .returned commit => call.Landed branch commit
  | _ => True

theorem ofOwn_ok {α : Type} {result : Py α} {value : α} : ofOwn result = .ok value ↔ result = .ok value := by
  cases result <;> simp [ofOwn]

theorem ofLedger_ok {α : Type} {result : IssueAgent.Py α} {value : α} :
    ofLedger result = .ok value ↔ result = .ok value := by
  cases result <;> simp [ofLedger]

theorem Publication.checkAdvance_passed {call : Publication} {anchors : List TrustedHistoryAnchor}
    {new : TrustedHistoryAnchor} (advancing : Advancing branch anchors)
    (checked : call.checkAdvance branch = .ok new) : call.Passed new := by
  simp only [Publication.checkAdvance, Fallible.bind_ok, ofOwn_ok, ofLedger_ok] at checked
  obtain ⟨_, verified, entries, read, _, here, old, ⟨blob, last, text, decoded, trusted⟩, _, ahead,
    same⟩ := checked
  cases same
  replace here := Fallible.require_ok.mp here
  replace ahead := Fallible.require_ok.mp ahead
  obtain ⟨node, anchor, ends, -, carries, valid⟩ := lastBlob_carries advancing read last decoded
  have same : anchor = old := valid.unique ⟨_, trusted⟩
  subst same
  rw [here.1] at ends
  exact ⟨⟨_, verified⟩, node, anchor, ends, carries, ahead.1, ahead.2⟩

theorem readSignedHead_anchor {reader : GitHubAnchorReader} {repository text : String}
    {anchors : List TrustedHistoryAnchor} (advancing : Advancing branch anchors)
    (read : reader.readSignedHead repository branch = .ok text) :
    ∃ anchor, anchors.getLast? = some anchor ∧ Anchors text anchor := by
  simp only [GitHubAnchorReader.readSignedHead, Fallible.bind_ok, ofOwn_ok, ofLedger_ok] at read
  obtain ⟨_, -, _, -, entries, files, whole, ⟨blob, last, decoded⟩, _, -, same⟩ := read
  cases same
  obtain ⟨node, anchor, -, ends, -, valid⟩ := lastBlob_carries advancing files last decoded
  exact ⟨anchor, ends, valid⟩

variable {ι : Type} [DecidableEq ι] {calls : ι → Publication} {s t u : AnchorState ι}
  {event : AnchorEvent ι} {labels : List (AnchorEvent ι)}

structure Forward (calls : ι → Publication) (s : AnchorState ι) : Prop where
  advancing : ∃ anchors, Advancing s.branch anchors
  sound : ∀ i, (calls i).Sound s.branch (s.stage i)

theorem Publication.Sound.mono {call : Publication} {stage : Stage}
    (sound : call.Sound branch stage) (grown : branch <+: moved) : call.Sound moved stage := by
  cases stage with
  | returned commit => exact ⟨sound.1.trans grown, sound.2⟩
  | called | headSeen | raised _ => trivial
  | checked new => exact sound

/-- A call moves on, over a branch that grows. -/
theorem Forward.to {i : ι} {stage : Stage} (forward : Forward calls s) (grown : s.branch <+: moved)
    (advancing : ∃ anchors, Advancing moved anchors) (sound : (calls i).Sound moved stage) :
    Forward calls (({ s with branch := moved } : AnchorState ι).to i stage) := by
  refine ⟨advancing, ?_⟩
  intro j
  by_cases same : j = i
  · subst same
    simpa only [AnchorState.to, Function.update_self] using sound
  · simpa only [AnchorState.to, Function.update_of_ne same] using (forward.sound j).mono grown

theorem forward_step (forward : Forward calls s) (step : AnchorStep calls s event t) :
    Forward calls t := by
  have stays := forward.advancing
  cases step with
  | refHead at_ =>
      refine forward.to (List.prefix_refl _) stays ?_
      cases (calls _).checkHead s.branch <;> trivial
  | readFiles at_ =>
      refine forward.to (List.prefix_refl _) stays ?_
      obtain ⟨anchors, advancing⟩ := stays
      cases checked : (calls _).checkAdvance s.branch with
      | ok new => exact Publication.checkAdvance_passed advancing checked
      | error exn => trivial
  | @appendFiles i new delivered readBack moved result at_ done =>
      obtain ⟨anchors, advancing⟩ := stays
      have passed : (calls i).Passed new := by
        have sound := forward.sound i
        rwa [at_] at sound
      obtain ⟨valid, node, old, ends, carries, later, other⟩ := passed
      have landed : ∀ commit, result = .ok commit → (calls i).Landed moved commit := by
        intro commit ok
        subst ok
        obtain ⟨built, here⟩ := leasedAppend_ok done
        exact ⟨here ▸ List.prefix_refl _, new, valid, built⟩
      have sound : (calls i).Sound moved (settled .returned result) := by
        cases result with
        | ok commit => exact landed commit rfl
        | error exn => trivial
      cases leasedAppend_moved done with
      | inl same =>
          subst same
          exact forward.to (List.prefix_refl _) ⟨anchors, advancing⟩ sound
      | inr extended =>
          obtain ⟨here, extended⟩ := extended
          rw [← here] at ends extended
          obtain ⟨last, ends', carries'⟩ := forall₂_getLast? advancing.carried ends
          have same : last = old := carries'.unique carries
          subst same
          refine forward.to (extended ▸ List.prefix_append _ _) ⟨anchors ++ [new], ?_⟩ sound
          rw [extended]
          exact advancing.snoc ends' ⟨_, rfl, valid⟩ later other
  | gitFails at_ => exact forward.to (List.prefix_refl _) stays trivial
  | readSignedHead read => exact forward

theorem branch_grows (step : AnchorStep calls s event t) :
    s.branch <+: t.branch := by
  cases step with
  | refHead _ | readFiles _ | gitFails _ | readSignedHead _ => exact List.prefix_refl _
  | appendFiles _ done =>
      cases leasedAppend_moved done with
      | inl same => exact same ▸ List.prefix_refl _
      | inr extended =>
          rw [extended.2, ← extended.1]
          exact List.prefix_append _ _

theorem ended_stays {i : ι} (ended : (s.stage i).ended = true) (step : AnchorStep calls s event t) :
    t.stage i = s.stage i := by
  have others : ∀ (r : AnchorState ι) (j : ι) (stage : Stage), r.stage = s.stage →
      (s.stage j).ended = false → (r.to j stage).stage i = s.stage i := by
    intro r j stage same going
    have other : i ≠ j := by
      intro here
      subst here
      rw [going] at ended
      cases ended
    simp only [AnchorState.to, Function.update_of_ne other, same]
  cases step with
  | refHead at_ => exact others s _ _ rfl (by rw [at_]; rfl)
  | readFiles at_ => exact others s _ _ rfl (by rw [at_]; rfl)
  | appendFiles at_ _ => exact others _ _ _ rfl (by rw [at_]; rfl)
  | gitFails at_ => exact others s _ _ rfl at_
  | readSignedHead _ => rfl

theorem run_ended_stays {i : ι} (run : Run (AnchorStep calls) s labels t)
    (ended : (s.stage i).ended = true) : t.stage i = s.stage i := by
  refine run.preserves (fun t => t.stage i = s.stage i) ?_ rfl
  intro r event t same step
  rw [ended_stays (by rw [same]; exact ended) step, same]

theorem run_forward (run : Run (AnchorStep calls) s labels t) (forward : Forward calls s) :
    Forward calls t ∧ s.branch <+: t.branch := by
  refine run.preserves (fun t => Forward calls t ∧ s.branch <+: t.branch) ?_
    ⟨forward, List.prefix_refl _⟩
  rintro r event t ⟨forward, grown⟩ step
  exact ⟨forward_step forward step, grown.trans (branch_grows step)⟩

/-- A step of a call that ends on a stale head leaves the branch as it was. -/
theorem stale_unmoved {i : ι} {exn : AnchorExn} (step : AnchorStep calls s event t)
    (own : event.caller = some i) (run : Run (AnchorStep calls) t labels u)
    (raised : u.stage i = .raised exn) (stale : Stale exn) : t.branch = s.branch := by
  cases step with
  | refHead _ | readFiles _ | gitFails _ | readSignedHead _ => rfl
  | @appendFiles j new delivered readBack moved result at_ done =>
      cases own
      have here : (({ s with branch := moved } : AnchorState ι).to i
          (settled .returned result)).stage i = settled .returned result := Function.update_self ..
      have ended : (settled Stage.returned result).ended = true := by cases result <;> rfl
      have last := run_ended_stays run (i := i) (by rw [here]; exact ended)
      rw [here, raised] at last
      cases result with
      | ok commit => cases last
      | error other =>
          cases last
          exact leasedAppend_stale stale done

/-- The last anchor does not go back while the branch grows. -/
theorem Advancing.last_le {anchors others : List TrustedHistoryAnchor} {first last : TrustedHistoryAnchor}
    (advancing : Advancing branch anchors) (later : Advancing moved others) (grown : branch <+: moved)
    (ends : anchors.getLast? = some first) (ends' : others.getLast? = some last) :
    first.sequence ≤ last.sequence := by
  have front : List.Forall₂ Carries branch (others.take branch.length) := by
    have cut := List.forall₂_take branch.length later.carried
    rwa [← List.prefix_iff_eq_take.mp grown] at cut
  have same : anchors = others.take branch.length :=
    List.right_unique_forall₂' (R := Carries) (fun _ _ _ => Carries.unique) advancing.carried front
  refine later.le_last ?_ ends'
  have member := List.mem_of_getLast? ends
  rw [same] at member
  exact List.mem_of_mem_take member

/-- Every call is yet to read the head. -/
def AnchorState.initial (branch : Branch) : AnchorState ι := ⟨branch, fun _ => .called⟩

omit [DecidableEq ι] in
theorem forward_initial {anchor : TrustedHistoryAnchor} (valid : Carries node anchor) :
    Forward calls (AnchorState.initial [node]) where
  advancing := ⟨[anchor], .cons valid .nil, List.pairwise_singleton _ _, .singleton _⟩
  sound := fun _ => trivial

/-- In every run of publications and reads over a branch of one valid anchor: the anchors of the
branch advance, a publication that returns has its anchor there, one that ends on a stale head
has not moved the branch, and what is read later is not behind what was read before. -/
theorem anchor_moves_forward {anchor : TrustedHistoryAnchor} (valid : Carries node anchor)
    (run : Run (AnchorStep calls) (AnchorState.initial [node]) labels s) :
    (∃ anchors, Advancing s.branch anchors) ∧
      (∀ i commit, s.stage i = .returned commit → ∃ new, Anchors (calls i).signedAnchor new ∧
        commit <+: s.branch ∧ (calls i).node new ∈ s.branch) ∧
      (∀ i exn before event after t u, s.stage i = .raised exn → Stale exn →
        labels = before ++ event :: after → event.caller = some i →
        Run (AnchorStep calls) (AnchorState.initial [node]) before t → AnchorStep calls t event u →
        Run (AnchorStep calls) u after s → u.branch = t.branch) ∧
      (∀ before between after reader other repository repository' first second,
        labels = before ++ .readSignedHead reader repository (.ok first) :: between ++
          .readSignedHead other repository' (.ok second) :: after →
        ∃ a b, Anchors first a ∧ Anchors second b ∧ a.sequence ≤ b.sequence) := by
  obtain ⟨forward, -⟩ := run_forward run (forward_initial valid)
  refine ⟨forward.advancing, ?_, ?_, ?_⟩
  · intro i commit returned
    have sound := forward.sound i
    rw [returned] at sound
    obtain ⟨below, new, anchors, built⟩ := sound
    refine ⟨new, anchors, below, below.subset ?_⟩
    rw [built]
    exact List.mem_append_right _ (List.mem_singleton_self _)
  · intro i exn before event after t u raised stale parts own front step back
    exact stale_unmoved step own back raised stale
  · intro before between after reader other repository repository' first second parts
    subst parts
    obtain ⟨t, front, back⟩ := Run.append_inv run
    obtain ⟨r, front, middle⟩ := Run.append_inv front
    obtain ⟨r', read, middle⟩ := Run.cons_inv middle
    obtain ⟨t', read', -⟩ := Run.cons_inv back
    cases read with
    | readSignedHead read =>
        cases read' with
        | readSignedHead read' =>
            obtain ⟨earlier, -⟩ := run_forward front (forward_initial valid)
            obtain ⟨later, grown⟩ := run_forward middle earlier
            obtain ⟨anchors, advancing⟩ := earlier.advancing
            obtain ⟨others, advancing'⟩ := later.advancing
            obtain ⟨a, ends, is⟩ := readSignedHead_anchor advancing read
            obtain ⟨b, ends', is'⟩ := readSignedHead_anchor advancing' read'
            exact ⟨a, b, is, is', advancing.last_le advancing' grown ends ends'⟩

def anchorClaim (sequence : Int) (digest : String) : Json :=
  .obj [("payload", .obj [("digest", .str digest), ("repository", .str "owner/name"),
    ("sequence", .int sequence)]), ("signature", .str "")]

def sampleTrust : PinnedMembershipTrust := ⟨"owner/name", ⟨fun _ _ => true⟩⟩

def firstDigests : String := "aaaaaaaaaaaaaaaaaaaaaaaaaaaaaaaaaaaaaaaaaaaaaaaaaaaaaaaaaaaaaaaa"

def laterDigests : String := "bbbbbbbbbbbbbbbbbbbbbbbbbbbbbbbbbbbbbbbbbbbbbbbbbbbbbbbbbbbbbbbb"

theorem sampleTrust_first : sampleTrust.verifyAnchor (Json.asciiDumps (anchorClaim 1 firstDigests)) =
    .ok ⟨"owner/name", 1, firstDigests⟩ := by
  simp only [PinnedMembershipTrust.verifyAnchor, PinnedMembershipTrust.verifiedAnchor, loadContent,
    Json.loads_asciiDumps]
  decide

theorem sampleTrust_later : sampleTrust.verifyAnchor (Json.asciiDumps (anchorClaim 2 laterDigests)) =
    .ok ⟨"owner/name", 2, laterDigests⟩ := by
  simp only [PinnedMembershipTrust.verifyAnchor, PinnedMembershipTrust.verifiedAnchor, loadContent,
    Json.loads_asciiDumps]
  decide

/-- The files of a further commit are read, and its text. -/
theorem read_snoc {entries : List (List (String × List UInt8))} {text : String}
    (read : readFiles branch [anchorFile] = .ok entries)
    (files : node.files = [(anchorFile, Chars.encode text.scalars)]) :
    readFiles (branch ++ [node]) [anchorFile] = .ok (entries ++ [node.files]) ∧
      anchorBlob (entries ++ [node.files]) = .ok (Chars.encode text.scalars) := by
  have layout : node.files.map Prod.fst = [anchorFile] := by rw [files]; rfl
  have member : node.files.lookup anchorFile = some (Chars.encode text.scalars) := by
    rw [files]
    exact List.lookup_cons_self
  refine ⟨IssueAgent.readFiles_snoc read layout, ?_⟩
  simp only [anchorBlob, List.getLast?_append, List.getLast?_singleton, Option.some_or, member]

def firstNode : Node :=
  ⟨[(anchorFile, Chars.encode (Json.asciiDumps (anchorClaim 1 firstDigests)).scalars)], "", ""⟩

def sampleReader : GitHubAnchorReader := ⟨"owner/name", .ok ()⟩

def samplePublication : Publication :=
  ⟨⟨"owner/name", sampleTrust, .ok ()⟩, Json.asciiDumps (anchorClaim 2 laterDigests), [firstNode], ""⟩

def laterNode : Node := samplePublication.node ⟨"owner/name", 2, laterDigests⟩

theorem firstNode_read :
    readFiles [firstNode] [anchorFile] = .ok [firstNode.files] ∧
      anchorBlob [firstNode.files] =
        .ok (Chars.encode (Json.asciiDumps (anchorClaim 1 firstDigests)).scalars) := by
  have empty : readFiles [] [anchorFile] = .ok [] := rfl
  exact read_snoc empty rfl

theorem laterNode_read :
    readFiles [firstNode, laterNode] [anchorFile] = .ok [firstNode.files, laterNode.files] ∧
      anchorBlob [firstNode.files, laterNode.files] =
        .ok (Chars.encode (Json.asciiDumps (anchorClaim 2 laterDigests)).scalars) :=
  @read_snoc [firstNode] laterNode _ _ firstNode_read.1 rfl

theorem sampleReader_reads {branch : Branch} {entries : List (List (String × List UInt8))} {text : String}
    (read : readFiles branch [anchorFile] = .ok entries)
    (last : anchorBlob entries = .ok (Chars.encode text.scalars)) (shown : blank text = false) :
    sampleReader.readSignedHead "owner/name" branch = .ok text := by
  simp only [GitHubAnchorReader.readSignedHead, sampleReader, Fallible.require_of, ofOwn, read, last,
    ofLedger, Fallible.ok_bind, decodeText_encode, shown]
  rfl

theorem samplePublication_checked :
    samplePublication.checkHead [firstNode] = .ok () ∧
      samplePublication.checkAdvance [firstNode] = .ok ⟨"owner/name", 2, laterDigests⟩ := by
  have current : samplePublication.expectedHead ≠ [] ∧ [firstNode] = samplePublication.expectedHead :=
    ⟨List.cons_ne_nil _ _, rfl⟩
  have whole : [firstNode] = samplePublication.expectedHead ∧ [firstNode.files] ≠ [] :=
    ⟨rfl, List.cons_ne_nil _ _⟩
  have verified : samplePublication.publisher.trust.verifyAnchor samplePublication.signedAnchor =
      .ok ⟨"owner/name", 2, laterDigests⟩ := sampleTrust_later
  have verified' : samplePublication.publisher.trust.verifyAnchor
      (Json.asciiDumps (anchorClaim 1 firstDigests)) = .ok ⟨"owner/name", 1, firstDigests⟩ :=
    sampleTrust_first
  have ahead : 1 < 2 ∧ laterDigests ≠ firstDigests := by decide
  refine ⟨?_, ?_⟩
  · simp only [Publication.checkHead, Fallible.require_of current]
    rfl
  · simp only [Publication.checkAdvance, verified, firstNode_read.1, firstNode_read.2, ofOwn, ofLedger,
      Fallible.ok_bind, Fallible.require_of whole, decodeText_encode, verified',
      Fallible.require_of ahead]
    rfl

theorem leasedAppend_lands (head : Branch) (node : Node) :
    leasedAppend head head node true none = (head ++ [node], .ok (head ++ [node])) := by
  have longer : head ≠ head ++ [node] := by
    intro same
    have lengths := congrArg List.length same
    simp at lengths
  simp only [leasedAppend, if_neg longer, and_self, if_true]

def sampleEvents : List (AnchorEvent Unit) :=
  [.readSignedHead sampleReader "owner/name" (.ok (Json.asciiDumps (anchorClaim 1 firstDigests))),
    .refHead (), .readFiles (), .appendFiles () true none,
    .readSignedHead sampleReader "owner/name" (.ok (Json.asciiDumps (anchorClaim 2 laterDigests)))]

theorem firstNode_carries : Carries firstNode ⟨"owner/name", 1, firstDigests⟩ :=
  ⟨_, rfl, _, sampleTrust_first⟩

theorem sample_publish : ∃ s, Run (AnchorStep fun _ : Unit => samplePublication)
    (AnchorState.initial [firstNode]) sampleEvents s ∧
      s.stage () = .returned [firstNode, laterNode] := by
  have shown : blank (Json.asciiDumps (anchorClaim 1 firstDigests)) = false := by decide +kernel
  have shown' : blank (Json.asciiDumps (anchorClaim 2 laterDigests)) = false := by decide +kernel
  obtain ⟨current, ahead⟩ := samplePublication_checked
  let start : AnchorState Unit := AnchorState.initial [firstNode]
  let pending := start.to () .headSeen
  let passed := pending.to () (.checked ⟨"owner/name", 2, laterDigests⟩)
  let final := ({ passed with branch := [firstNode, laterNode] } : AnchorState Unit).to ()
    (.returned [firstNode, laterNode])
  refine ⟨final, ?_, rfl⟩
  refine Run.cons (t := start) (.readSignedHead (sampleReader_reads firstNode_read.1 firstNode_read.2
    shown)) ?_
  refine Run.cons (t := pending) ?_ (Run.cons (t := passed) ?_ (Run.cons (t := final) ?_
    (Run.cons (t := final) (.readSignedHead (sampleReader_reads laterNode_read.1 laterNode_read.2
      shown')) .nil)))
  · have step : AnchorStep (fun _ : Unit => samplePublication) start _ _ := .refHead (i := ()) rfl
    rwa [show start.branch = [firstNode] from rfl, current] at step
  · have step : AnchorStep (fun _ : Unit => samplePublication) pending _ _ := .readFiles (i := ()) rfl
    rwa [show pending.branch = [firstNode] from rfl, ahead] at step
  · have done : leasedAppend passed.branch samplePublication.expectedHead laterNode true none =
        ([firstNode, laterNode], .ok [firstNode, laterNode]) := leasedAppend_lands [firstNode] laterNode
    have at_ : passed.stage () = .checked ⟨"owner/name", 2, laterDigests⟩ := rfl
    have step : AnchorStep (fun _ : Unit => samplePublication) passed (.appendFiles () true none) _ :=
      .appendFiles at_ done
    exact step

theorem anchor_moves_forward_sample : ∃ a b,
    Anchors (Json.asciiDumps (anchorClaim 1 firstDigests)) a ∧
      Anchors (Json.asciiDumps (anchorClaim 2 laterDigests)) b ∧ a.sequence ≤ b.sequence := by
  obtain ⟨s, run, -⟩ := sample_publish
  obtain ⟨-, -, -, reads⟩ := anchor_moves_forward firstNode_carries run
  exact reads [] [.refHead (), .readFiles (), .appendFiles () true none] [] sampleReader sampleReader
    "owner/name" "owner/name" _ _ rfl

end Hunter.MarketValidation
