import Libkrimes.Preauth

/-!
# The pre-authentication data of a request

`TryFrom<Vec<PaData>> for Preauth` (`proto/mod.rs`) is how a KDC reads the PA-DATA of an
AS-REQ.  It keeps two things: the encrypted timestamp (`PA-ENC-TIMESTAMP`), whose value must
decode as an `EncryptedData` of type AES256-CTS-HMAC-SHA1-96, and the cookie (`PA-FX-COOKIE`),
kept as it came.  An item of any other type, registered or not, is skipped, so that a client
may send types this KDC does not know.

The loop is `foldlM` in `Except`: the `?` on a timestamp that does not decode ends it.

The loop fails with the error of the first PA-ENC-TIMESTAMP item that does not decode to an
AES256 `EncryptedData` (`tryFrom_eq_error_iff`), and otherwise returns what the items offer,
`offered`: the timestamp of the last PA-ENC-TIMESTAMP item and the value of the last
PA-FX-COOKIE item (`tryFrom_eq`).  An item of any other type changes nothing, wherever it
stands (`tryFrom_insert_unhandled`, and `tryFrom_spec` for the whole).  The timestamp a client
encodes with `TryInto<KdcEncryptedData>` is the one the KDC reads
(`tryFrom_reads_back_encTimestamp`).
-/

namespace Libkrimes

/-- `Preauth`: the encrypted timestamp and the cookie of a request. -/
structure Preauth where
  encTimestamp : Option EncryptedData
  paFxCookie : Option Bytes
  deriving DecidableEq

namespace Preauth

open PreauthData (isType)

/-- `Preauth::default()`. -/
def default : Preauth := ⟨none, none⟩

/-- `KdcEncryptedData::from_der(..).map_err(|_| KrbError::DerDecodePaData)`, then
`EncryptedData::try_from`. -/
def decodeEncTimestamp (asn1 : Asn1Lib) (value : Bytes) : Except KrbError EncryptedData :=
  match asn1.encryptedDataFromDer value with
  | .ok encData => EncryptedData.tryFrom encData
  | .error _ => .error .derDecodePaData

/-- The body of the loop over the PA-DATA items. -/
def step (asn1 : Asn1Lib) (preauth : Preauth) (paData : Asn1.PaData) :
    Except KrbError Preauth :=
  match PaDataType.tryFrom paData.padataType with
  | none => .ok preauth
  | some .paEncTimestamp => do
    let encTimestamp ← decodeEncTimestamp asn1 paData.padataValue.bytes
    pure { preauth with encTimestamp := some encTimestamp }
  | some .paFxCookie => .ok { preauth with paFxCookie := some paData.padataValue.bytes }
  | some _ => .ok preauth

/-- `TryFrom<Vec<PaData>> for Preauth`. -/
def tryFrom (asn1 : Asn1Lib) (pavec : List Asn1.PaData) : Except KrbError Preauth :=
  pavec.foldlM (step asn1) default

/-! ### What the loop reads -/

/-- A PA-ENC-TIMESTAMP item whose value does not decode as an `EncryptedData`, or decodes to
one whose type is not AES256-CTS-HMAC-SHA1-96. -/
def badEncTimestamp (asn1 : Asn1Lib) (p : Asn1.PaData) : Bool :=
  isType .paEncTimestamp p &&
    match asn1.encryptedDataFromDer p.padataValue.bytes with
    | .ok e => e.etype != EncryptionType.aes256CtsHmacSha196.code
    | .error _ => true

/-- The error a bad PA-ENC-TIMESTAMP item stops the loop with. -/
def encTimestampError (asn1 : Asn1Lib) (p : Asn1.PaData) : KrbError :=
  match asn1.encryptedDataFromDer p.padataValue.bytes with
  | .ok _ => .unsupportedEncryption
  | .error _ => .derDecodePaData

/-- The timestamp an item carries: the key version and ciphertext of its `EncryptedData`. -/
def timestampOf (asn1 : Asn1Lib) (p : Asn1.PaData) : Option EncryptedData :=
  match asn1.encryptedDataFromDer p.padataValue.bytes with
  | .ok e => some (.aes256CtsHmacSha196 e.kvno e.cipher.bytes)
  | .error _ => none

/-- What one item adds to a request's pre-authentication. -/
def absorb (asn1 : Asn1Lib) (d : Preauth) (p : Asn1.PaData) : Preauth where
  encTimestamp := if isType .paEncTimestamp p then timestampOf asn1 p else d.encTimestamp
  paFxCookie := if isType .paFxCookie p then some p.padataValue.bytes else d.paFxCookie

/-- What a list of items offers: the timestamp of the last PA-ENC-TIMESTAMP item and the value
of the last PA-FX-COOKIE item. -/
def offered (asn1 : Asn1Lib) (pavec : List Asn1.PaData) : Preauth where
  encTimestamp := ((pavec.filter (isType .paEncTimestamp)).getLast?).bind (timestampOf asn1)
  paFxCookie := ((pavec.filter (isType .paFxCookie)).getLast?).map (·.padataValue.bytes)

/-- One item of the loop: a bad PA-ENC-TIMESTAMP item stops it with its error, any other item
adds what it carries. -/
theorem step_eq (asn1 : Asn1Lib) (d : Preauth) (p : Asn1.PaData) :
    step asn1 d p = if badEncTimestamp asn1 p then .error (encTimestampError asn1 p)
      else .ok (absorb asn1 d p) := by
  obtain ⟨ty, v⟩ := p
  cases ht : PaDataType.tryFrom ty with
  | none =>
    simp [step, ht, absorb, badEncTimestamp, isType,
      PaDataType.beq_code_of_tryFrom_eq_none ht]
  | some t =>
    rw [PaDataType.tryFrom_eq_some] at ht
    subst ht
    cases t <;> simp [step, absorb, badEncTimestamp, isType]
    unfold decodeEncTimestamp timestampOf encTimestampError
    split <;> simp [EncryptedData.tryFrom_eq, EncryptionType.code, *]
    split_ifs <;> rfl

theorem offered_append (asn1 : Asn1Lib) (l : List Asn1.PaData) (p : Asn1.PaData) :
    offered asn1 (l ++ [p]) = absorb asn1 (offered asn1 l) p := by
  unfold offered absorb
  cases hts : isType .paEncTimestamp p <;> cases hc : isType .paFxCookie p <;>
    simp [List.filter_append, List.getLast?_append, List.filter_cons, hts, hc]

/-- The loop stops at the first bad PA-ENC-TIMESTAMP item with its error; without one it
returns what the items offer. -/
theorem tryFrom_eq (asn1 : Asn1Lib) (pavec : List Asn1.PaData) :
    tryFrom asn1 pavec =
      match pavec.find? (badEncTimestamp asn1) with
      | some p => .error (encTimestampError asn1 p)
      | none => .ok (offered asn1 pavec) := by
  induction pavec using List.reverseRecOn with
  | nil => rfl
  | append_singleton l p ih =>
    rw [tryFrom, List.foldlM_append, ← tryFrom, ih, List.find?_append, List.find?_singleton]
    cases l.find? (badEncTimestamp asn1) with
    | some q => rfl
    | none => by_cases hp : badEncTimestamp asn1 p <;> simp [hp, step_eq, offered_append]

/-- Two timestamps around an item of an unknown type and a cookie: the second timestamp wins. -/
example : tryFrom { encryptedDataFromDer := fun
      | [n] => .ok ⟨18, some n.toUInt32, ⟨[], by decide⟩⟩
      | _ => .error .malformed }
    [⟨2, ⟨[1], by decide⟩⟩, ⟨1, ⟨[], by decide⟩⟩, ⟨133, ⟨[9], by decide⟩⟩, ⟨2, ⟨[2], by decide⟩⟩] =
      .ok ⟨some (.aes256CtsHmacSha196 (some 2) []), some [9]⟩ := rfl

/-- The loop's error is that of its first bad PA-ENC-TIMESTAMP item: `DerDecodePaData` when the
item's value does not decode, `UnsupportedEncryption` when it decodes to another type. -/
theorem tryFrom_eq_error_iff (asn1 : Asn1Lib) (pavec : List Asn1.PaData) (err : KrbError) :
    tryFrom asn1 pavec = .error err ↔
      ∃ pre p post, pavec = pre ++ p :: post ∧ (∀ q ∈ pre, badEncTimestamp asn1 q = false) ∧
        badEncTimestamp asn1 p = true ∧ err = encTimestampError asn1 p := by
  rw [tryFrom_eq]
  constructor
  · cases h : pavec.find? (badEncTimestamp asn1) with
    | none => rintro ⟨⟩
    | some p =>
      rintro ⟨⟩
      obtain ⟨hp, pre, post, rfl, hpre⟩ := List.find?_eq_some.1 h
      exact ⟨pre, p, post, rfl, fun q hq => by simpa using hpre q hq, hp, rfl⟩
  · rintro ⟨pre, p, post, rfl, hpre, hp, rfl⟩
    rw [List.find?_append, List.find?_eq_none.2 (by simpa using hpre), List.find?_cons_of_pos _ hp]
    rfl

theorem badEncTimestamp_iff {asn1 : Asn1Lib} {p : Asn1.PaData} :
    badEncTimestamp asn1 p = true ↔ p.padataType = PaDataType.paEncTimestamp.code ∧
      ∀ e, asn1.encryptedDataFromDer p.padataValue.bytes = .ok e →
        e.etype ≠ EncryptionType.aes256CtsHmacSha196.code := by
  unfold badEncTimestamp isType
  cases asn1.encryptedDataFromDer p.padataValue.bytes <;> simp

theorem badEncTimestamp_eq_false_iff {asn1 : Asn1Lib} {p : Asn1.PaData} :
    badEncTimestamp asn1 p = false ↔ (p.padataType = PaDataType.paEncTimestamp.code →
      ∃ e, asn1.encryptedDataFromDer p.padataValue.bytes = .ok e ∧
        e.etype = EncryptionType.aes256CtsHmacSha196.code) := by
  unfold badEncTimestamp isType
  cases asn1.encryptedDataFromDer p.padataValue.bytes <;> simp

/-- The loop fails exactly when some PA-ENC-TIMESTAMP item is bad. -/
theorem exists_tryFrom_error_iff (asn1 : Asn1Lib) (pavec : List Asn1.PaData) :
    (∃ err, tryFrom asn1 pavec = .error err) ↔ ∃ p ∈ pavec, badEncTimestamp asn1 p = true := by
  rw [tryFrom_eq]
  cases h : pavec.find? (badEncTimestamp asn1) with
  | some p => simpa using ⟨p, List.mem_of_find?_eq_some h, List.find?_some h⟩
  | none => simpa using List.find?_eq_none.1 h

/-- An item of a type other than PA-ENC-TIMESTAMP and PA-FX-COOKIE leaves the state as it is. -/
theorem step_of_unhandled (asn1 : Asn1Lib) (d : Preauth) {q : Asn1.PaData}
    (hts : q.padataType ≠ PaDataType.paEncTimestamp.code)
    (hc : q.padataType ≠ PaDataType.paFxCookie.code) : step asn1 d q = .ok d := by
  have h₁ : isType .paEncTimestamp q = false := by simpa [isType] using hts
  have h₂ : isType .paFxCookie q = false := by simpa [isType] using hc
  simp [step_eq, badEncTimestamp, absorb, h₁, h₂]

theorem tryFrom_insert_unhandled (asn1 : Asn1Lib) (pre post : List Asn1.PaData)
    {q : Asn1.PaData} (hts : q.padataType ≠ PaDataType.paEncTimestamp.code)
    (hc : q.padataType ≠ PaDataType.paFxCookie.code) :
    tryFrom asn1 (pre ++ q :: post) = tryFrom asn1 (pre ++ post) := by
  simp only [tryFrom, List.foldlM_append, List.foldlM_cons, step_of_unhandled asn1 _ hts hc,
    except_ok_bind]

/-- `Preauth::try_from` fails exactly when some PA-ENC-TIMESTAMP item does not decode to an
AES256-CTS-HMAC-SHA1-96 `EncryptedData`; otherwise it keeps the last timestamp and the last
cookie; and an item of any other type, wherever it is inserted, changes nothing. -/
theorem tryFrom_spec (asn1 : Asn1Lib) (pavec : List Asn1.PaData) :
    ((∃ err, tryFrom asn1 pavec = .error err) ↔
        ∃ p ∈ pavec, p.padataType = PaDataType.paEncTimestamp.code ∧
          ∀ e, asn1.encryptedDataFromDer p.padataValue.bytes = .ok e →
            e.etype ≠ EncryptionType.aes256CtsHmacSha196.code) ∧
      ((∀ p ∈ pavec, p.padataType = PaDataType.paEncTimestamp.code →
          ∃ e, asn1.encryptedDataFromDer p.padataValue.bytes = .ok e ∧
            e.etype = EncryptionType.aes256CtsHmacSha196.code) →
        tryFrom asn1 pavec = .ok (offered asn1 pavec)) ∧
      ∀ pre post (q : Asn1.PaData), q.padataType ≠ PaDataType.paEncTimestamp.code →
        q.padataType ≠ PaDataType.paFxCookie.code →
        tryFrom asn1 (pre ++ q :: post) = tryFrom asn1 (pre ++ post) := by
  refine ⟨?_, fun h => ?_, fun pre post _ => tryFrom_insert_unhandled asn1 pre post⟩
  · simpa only [badEncTimestamp_iff] using exists_tryFrom_error_iff asn1 pavec
  · have hn : pavec.find? (badEncTimestamp asn1) = none :=
      List.find?_eq_none.2 fun p hp => by simp [badEncTimestamp_eq_false_iff.2 (h p hp)]
    rw [tryFrom_eq, hn]

/-! ### Reading back a timestamp the library encodes -/

/-- A request whose last PA-ENC-TIMESTAMP item carries the encoding of an `EncryptedData` that
`TryInto<KdcEncryptedData>` built, after timestamp items that decode, is read with that
`EncryptedData` as its timestamp. -/
theorem tryFrom_reads_back_encTimestamp (asn1 : Asn1Lib) (e : EncryptedData)
    {k : Asn1.EncryptedData} (hk : e.tryInto = .ok k) (value : OctetString)
    (hv : asn1.encryptedDataFromDer value.bytes = .ok k) (pre post : List Asn1.PaData)
    (hpre : ∀ p ∈ pre, badEncTimestamp asn1 p = false)
    (hpost : ∀ p ∈ post, p.padataType ≠ PaDataType.paEncTimestamp.code) :
    ∃ r, tryFrom asn1 (pre ++ ⟨PaDataType.paEncTimestamp.code, value⟩ :: post) = .ok r ∧
      r.encTimestamp = some e := by
  obtain ⟨hty, he⟩ := EncryptedData.tryInto_eq_ok hk
  have hpost' : ∀ p ∈ post, isType .paEncTimestamp p = false := fun p hp => by
    simpa [isType] using hpost p hp
  rw [tryFrom_eq, List.find?_eq_none.2]
  · refine ⟨_, rfl, ?_⟩
    simp [offered, List.filter_append, isType, List.filter_eq_nil_iff.2 (by simpa using hpost'),
      timestampOf, hv, he]
  · intro p hp
    simp only [List.mem_append, List.mem_cons] at hp
    rcases hp with hp | rfl | hp
    · simp [hpre p hp]
    · simp [badEncTimestamp, isType, hv, hty]
    · simp [badEncTimestamp, hpost' p hp]

theorem tryFrom_reads_back_encTimestamp_cookie :
    ∃ r, tryFrom { encryptedDataFromDer := fun _ => .ok ⟨18, some 1, ⟨[7], by decide⟩⟩ }
        ([] ++ ⟨PaDataType.paEncTimestamp.code, ⟨[], by decide⟩⟩ :: [⟨133, ⟨[9], by decide⟩⟩]) =
          .ok r ∧ r.encTimestamp = some (.aes256CtsHmacSha196 (some 1) [7]) :=
  tryFrom_reads_back_encTimestamp _ _ (by rfl) _ (by rfl) [] _ (by simp) (by decide)

end Preauth

end Libkrimes
