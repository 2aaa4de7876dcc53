import Hunter.IssueAgent.Patterns

/-!
Signatures of ledger records. The signature scheme is a parameter: what a ledger
relies on is that a signature made with a private key verifies under its public
key. A signature is over the canonical bytes of a record without its signature,
after the domain of the ledger.
-/

namespace Hunter.IssueAgent

/-- `_unsigned`: a record without its signature. -/
def unsigned : Json → Json
  | .obj fields => .obj (fields.filter fun field => field.1 != "signature")
  | j => j

def signaturePrefix (domain : String) : List UInt8 :=
  Chars.encode (domain.scalars ++ [Char.ofNat 0])

def signedBytes (domain : String) (record : Json) : List UInt8 :=
  signaturePrefix domain ++ canonicalJson (unsigned record)

theorem unsigned_canon (record : Json) : unsigned record.canon = (unsigned record).canon := by
  cases record with
  | obj fields =>
      simp only [unsigned, Json.canon]
      exact congrArg Json.obj (Json.filter_canonFields (fun key => key != "signature") fields)
  | _ => rfl

theorem signedBytes_canon (domain : String) (record : Json) :
    signedBytes domain record.canon = signedBytes domain record := by
  rw [signedBytes, unsigned_canon, canonicalJson_canon, signedBytes]

/-- `str(value)` of a value that is one word. The text of any other value holds a
character that is in no digest. -/
def wordText : Json → Option String
  | .str s => some s
  | .int n => some (toString n)
  | _ => none

def hexSpace (c : Char) : Bool := c == ' ' || ('\t' ≤ c && c ≤ '\r')

/-- The digits `bytes.fromhex` reads, in small letters: two for each byte, with
blanks between the bytes. -/
def hexPairs : List Char → Option (List Char)
  | [] => some []
  | [c] => if hexSpace c then some [] else none
  | c :: d :: rest =>
      if hexSpace c then hexPairs (d :: rest)
      else if (Json.hexValue c).isSome && (Json.hexValue d).isSome then
        (fun digits => c.toLower :: d.toLower :: digits) <$> hexPairs rest
      else none

/-- The signature a text stands for. No other number of bytes verifies. -/
def signatureOfHex (text : String) : Option Signature :=
  (hexPairs text.scalars).bind fun digits =>
    if h : sigPattern.fullmatch (String.ofList digits) = true then some ⟨String.ofList digits, h⟩
    else none

/-- A small hexadecimal digit is no blank and no capital letter. -/
theorem lowerHex_char {c : Char} (h : (c.isDigit || ('a' ≤ c && c ≤ 'f')) = true) :
    hexSpace c = false ∧ (Json.hexValue c).isSome = true ∧ c.toLower = c := by
  have digits : ∀ n < 10, (fun c => hexSpace c = false ∧ (Json.hexValue c).isSome = true ∧
      c.toLower = c) (Char.ofNat (48 + n)) := by decide
  have letters : ∀ n < 6, (fun c => hexSpace c = false ∧ (Json.hexValue c).isSome = true ∧
      c.toLower = c) (Char.ofNat (97 + n)) := by decide
  rw [← Char.ofNat_toNat c] at h ⊢
  simp only [Char.ofNat_toNat, Char.isDigit, Char.le_def, UInt32.le_iff_toNat_le, Bool.or_eq_true,
    Bool.and_eq_true, decide_eq_true_eq, ge_iff_le] at h
  change 48 ≤ c.toNat ∧ c.toNat ≤ 57 ∨ 97 ≤ c.toNat ∧ c.toNat ≤ 102 at h
  cases h with
  | inl digit =>
      have here := digits (c.toNat - 48) (by omega)
      rwa [Nat.add_sub_cancel' digit.1] at here
  | inr letter =>
      have here := letters (c.toNat - 97) (by omega)
      rwa [Nat.add_sub_cancel' letter.1] at here

theorem hexPairs_lowerHex (digits : List Char)
    (all : digits.all (fun c => c.isDigit || ('a' ≤ c && c ≤ 'f')) = true)
    (even : digits.length % 2 = 0) : hexPairs digits = some digits := by
  induction digits using hexPairs.induct with
  | case1 => rfl
  | case2 c | case3 c => simp at even
  | case4 c d rest space =>
      simp only [List.all_cons, Bool.and_eq_true] at all
      simp [(lowerHex_char all.1).1] at space
  | case5 c d rest space values ih =>
      simp only [List.all_cons, Bool.and_eq_true] at all
      have others := ih all.2.2 (by simp only [List.length_cons] at even; omega)
      simp only [hexPairs, space, Bool.false_eq_true, if_false, values, if_true, others,
        (lowerHex_char all.1).2.2, (lowerHex_char all.2.1).2.2]
      rfl
  | case6 c d rest space values =>
      simp only [List.all_cons, Bool.and_eq_true] at all
      simp [(lowerHex_char all.1).2.1, (lowerHex_char all.2.1).2.1] at values

theorem signatureOfHex_val (value : Signature) : signatureOfHex value.val = some value := by
  obtain ⟨run, parts, all, least, most⟩ :=
    Regex.eq_append_of_mem_rests_rep_one (Regex.fullmatch_iff.mp value.property)
  rw [List.append_nil] at parts
  have pairs : hexPairs value.val.scalars = some value.val.scalars := by
    rw [parts]
    exact hexPairs_lowerHex run all (by omega)
  rw [signatureOfHex, pairs, Option.bind_some, String.ofList_scalars]
  exact dif_pos value.property

class Ed25519 where
  PublicKey : Type
  PrivateKey : Type
  publicKey : PrivateKey → PublicKey
  /-- `public_bytes(Encoding.Raw, PublicFormat.Raw)`. -/
  rawBytes : PublicKey → List UInt8
  sign : PrivateKey → List UInt8 → Signature
  verify : PublicKey → Signature → List UInt8 → Bool
  verify_sign (key : PrivateKey) (message : List UInt8) :
    verify (publicKey key) (sign key message) message = true

variable [Ed25519]

open Ed25519 (PublicKey PrivateKey)

def publicKeyId (key : PublicKey) : Sha64 := sha256Hex (Ed25519.rawBytes key)

structure RecordSignature where
  keyId : Sha64
  value : Signature
  deriving DecidableEq

def recordSignature (domain : String) : Validator RecordSignature :=
  object ((fun _ keyId _ value => RecordSignature.mk keyId value) <$>
    Schema.field "alg" (exactText "ed25519") <*> Schema.field "key_id" sha64 <*>
    Schema.field "domain" (exactText domain) <*> Schema.field "value" (pattern sigPattern))

instance (domain : String) : Stable (recordSignature domain) := by
  unfold recordSignature sha64
  infer_instance

def signRecord (record : List (String × Json)) (key : PrivateKey) (domain : String) : Json :=
  let body := record.filter fun field => field.1 != "signature"
  let value := Ed25519.sign key (signedBytes domain (.obj body))
  .obj (body ++ [("signature", .obj [("alg", .str "ed25519"),
    ("key_id", .str (publicKeyId (Ed25519.publicKey key)).val), ("domain", .str domain),
    ("value", .str value.val)])])

/-- The schema of the record has already required a signature of this domain. -/
def verifyRecordSignature (signature : RecordSignature) (record : Json)
    (pinnedKeys : Sha64 → Option PublicKey) (domain : String) : Py Unit :=
  match pinnedKeys signature.keyId with
  | none => .error (.ledgerCorruptError "record signer key is not pinned")
  | some key =>
      require (Ed25519.verify key signature.value (signedBytes domain record) = true)
        (.ledgerCorruptError "record signature does not verify")

theorem unsigned_signRecord (record : List (String × Json)) (key : PrivateKey) (domain : String) :
    unsigned (signRecord record key domain) =
      .obj (record.filter fun field => field.1 != "signature") := by
  simp [unsigned, signRecord]

/-- A record signed with a pinned key verifies, also after it was written and read. -/
theorem verifyRecordSignature_signed (record : List (String × Json)) (key : PrivateKey)
    (domain : String) {pinnedKeys : Sha64 → Option PublicKey}
    (pinned : pinnedKeys (publicKeyId (Ed25519.publicKey key)) = some (Ed25519.publicKey key)) :
    let body := record.filter fun field => field.1 != "signature"
    verifyRecordSignature ⟨publicKeyId (Ed25519.publicKey key),
        Ed25519.sign key (signedBytes domain (.obj body))⟩
      (signRecord record key domain).canon pinnedKeys domain = .ok () := by
  intro body
  have bytes : signedBytes domain (signRecord record key domain).canon =
      signedBytes domain (.obj body) := by
    have twice : body.filter (fun field => field.1 != "signature") = body := by
      simp [body, List.filter_filter]
    rw [signedBytes_canon, signedBytes, unsigned_signRecord, signedBytes, unsigned, twice]
  simp only [verifyRecordSignature, pinned, bytes, Ed25519.verify_sign]
  exact require_of trivial

/-- The pinned key that a text names. -/
def pinnedKey (pinnedKeys : Sha64 → Option PublicKey) (text : String) : Option PublicKey :=
  if h : sha64Pattern.fullmatch text = true then pinnedKeys ⟨text, h⟩ else none

/-- `verify_record_signature` of a record whose signature may be any value. -/
def verifyRawSignature (record : Json) (pinnedKeys : Sha64 → Option PublicKey) (domain : String) :
    Py Unit :=
  match record.get? "signature" with
  | some (.obj signature) => do
      require (Json.lookup "domain" signature = some (.str domain))
        (.ledgerCorruptError "record is signed for another ledger domain")
      match ((Json.lookup "key_id" signature).bind wordText).bind (pinnedKey pinnedKeys) with
      | none => .error (.ledgerCorruptError "record signer key is not pinned")
      | some key =>
          match ((Json.lookup "value" signature).bind wordText).bind signatureOfHex with
          | none => .error (.ledgerCorruptError "record signature does not verify")
          | some value =>
              require (Ed25519.verify key value (signedBytes domain record) = true)
                (.ledgerCorruptError "record signature does not verify")
  | _ => .error (.ledgerCorruptError "record is unsigned")

theorem pinnedKey_val (pinnedKeys : Sha64 → Option PublicKey) (id : Sha64) :
    pinnedKey pinnedKeys id.val = pinnedKeys id :=
  dif_pos id.property

/-- A record signed with a pinned key verifies, whatever its schema. -/
theorem verifyRawSignature_signed (record : List (String × Json)) (key : PrivateKey)
    (domain : String) {pinnedKeys : Sha64 → Option PublicKey}
    (pinned : pinnedKeys (publicKeyId (Ed25519.publicKey key)) = some (Ed25519.publicKey key)) :
    verifyRawSignature (signRecord record key domain).canon pinnedKeys domain = .ok () := by
  let body := record.filter fun field => field.1 != "signature"
  have bytes : signedBytes domain (signRecord record key domain).canon =
      signedBytes domain (.obj body) := by
    have twice : body.filter (fun field => field.1 != "signature") = body := by
      simp [body, List.filter_filter]
    rw [signedBytes_canon, signedBytes, unsigned_signRecord, signedBytes, unsigned, twice]
  have found : (signRecord record key domain).canon.get? "signature" = some (.obj
      (Json.canonFields [("alg", .str "ed25519"),
        ("key_id", .str (publicKeyId (Ed25519.publicKey key)).val), ("domain", .str domain),
        ("value", .str (Ed25519.sign key (signedBytes domain (.obj body))).val)])) := by
    rw [Json.get?_canon, signRecord]
    simp [Json.get?, Json.lookup_append, Json.lookup, Json.canon, body]
  rw [verifyRawSignature, found]
  simp [Json.lookup_canonFields, Json.lookup, Json.canon, require_of, wordText, pinnedKey_val,
    pinned, signatureOfHex_val, bytes, Ed25519.verify_sign]

def checksum (seed : Nat) (message : List UInt8) : Nat :=
  message.foldl (fun sum byte => (257 * sum + byte.toNat) % 2 ^ 512) seed

def hexSignature (n : Nat) : Signature :=
  ⟨String.ofList (Sha256.hexDigits 128 n), by
    apply Regex.fullmatch_of_mem
    rw [String.scalars_ofList, ← List.append_nil (Sha256.hexDigits 128 n)]
    have length := Sha256.hexDigits_length 128 n
    exact Regex.mem_rests_rep_one _ [] (Sha256.hexDigits_all 128 n) (Nat.le_of_eq length.symm)
      (Nat.le_of_eq length)⟩

/-- A signature is a checksum under the seed of its key, which is no secret. -/
@[reducible]
def checksumScheme : Ed25519 where
  PublicKey := Nat
  PrivateKey := Nat
  publicKey seed := seed
  rawBytes seed := [UInt8.ofNat seed]
  sign seed message := hexSignature (checksum seed message)
  verify seed signature message := signature = hexSignature (checksum seed message)
  verify_sign := by simp

end Hunter.IssueAgent
