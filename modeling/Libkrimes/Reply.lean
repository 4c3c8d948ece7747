import Libkrimes.DerivedKey

/-!
# Keys and the encrypted parts of an exchange

`SessionKey::try_from` and `KdcPrimaryKey::try_from` (`proto/mod.rs`) accept a key of
AES256-CTS-HMAC-SHA1-96 of exactly `AES_256_KEY_LEN` bytes (`aes256KeyOfBytes_eq_ok`,
`SessionKey.tryFrom_eq_error`).  `KdcReplyPart::try_from` reads the decrypted part of a
reply: the session key, the server's name in the pair convention, and the times.  It reads a
part exactly when the key is such a key and the server name is one the pair decoder accepts;
its only errors are the key's, and on any other server name it panics
(`KdcReplyPart.tryFrom_ok_iff`).

`EncryptedData::decrypt_enc_kdc_rep` decrypts that part with the user's key (key usage 3);
`DerivedKey::encrypt_pa_enc_timestamp` and `EncryptedData::decrypt_pa_enc_timestamp` encrypt
and decrypt the pre-authentication timestamp (key usage 1).  The cipher is in the crypto
module, which is not part of the source: the parameter `crypto` gives its encryption and
decryption under a key and a key usage.
-/

namespace Libkrimes

/-- The crate's `crypto` module, which is not part of the source: AES256-CTS-HMAC-SHA1-96
encryption and decryption of a message under a key and a key usage. -/
structure Crypto where
  /-- `encrypt_aes256_cts_hmac_sha1_96`. -/
  encrypt : Aes256Key → Bytes → Int → Except KrbError Bytes
  /-- `decrypt_aes256_cts_hmac_sha1_96`. -/
  decrypt : Aes256Key → Bytes → Int → Except KrbError Bytes

/-! ### Keys -/

/-- `[u8; AES_256_KEY_LEN]` copied from a slice, which must have `AES_256_KEY_LEN` bytes. -/
def aes256KeyOfBytes (key : Bytes) : Except KrbError Aes256Key :=
  if h : key.length = aes256KeyLen then .ok ⟨key, h⟩ else .error .invalidEncryptionKey

theorem aes256KeyOfBytes_eq_ok {key : Bytes} {k : Aes256Key} :
    aes256KeyOfBytes key = .ok k ↔ k.bytes = key := by
  unfold aes256KeyOfBytes
  split_ifs with h
  · simp only [Except.ok.injEq, Aes256Key.ext_iff, eq_comm]
  · simp only [false_iff]
    exact fun hk => h (hk ▸ k.len)

/-- `SessionKey::Aes256CtsHmacSha196`. -/
structure SessionKey where
  k : Aes256Key
  deriving DecidableEq

/-- `KdcPrimaryKey::Aes256`. -/
structure KdcPrimaryKey where
  k : Aes256Key
  deriving DecidableEq

/-- `TryFrom<&[u8]> for KdcPrimaryKey`. -/
def KdcPrimaryKey.tryFrom (key : Bytes) : Except KrbError KdcPrimaryKey :=
  KdcPrimaryKey.mk <$> aes256KeyOfBytes key

/-- `TryFrom<KdcEncryptionKey> for SessionKey`. -/
def SessionKey.tryFrom (kdcKey : Asn1.EncryptionKey) : Except KrbError SessionKey :=
  match EncryptionType.tryFrom kdcKey.keyType with
  | some .aes256CtsHmacSha196 => SessionKey.mk <$> aes256KeyOfBytes kdcKey.keyValue.bytes
  | _ => .error .unsupportedEncryption

theorem KdcPrimaryKey.tryFrom_eq_ok {key : Bytes} {pk : KdcPrimaryKey} :
    KdcPrimaryKey.tryFrom key = .ok pk ↔ pk.k.bytes = key := by
  cases pk
  simp [KdcPrimaryKey.tryFrom, except_map_eq_ok, aes256KeyOfBytes_eq_ok]

theorem SessionKey.tryFrom_eq_ok {kdcKey : Asn1.EncryptionKey} {sk : SessionKey} :
    SessionKey.tryFrom kdcKey = .ok sk ↔
      kdcKey.keyType = EncryptionType.aes256CtsHmacSha196.code ∧
        sk.k.bytes = kdcKey.keyValue.bytes := by
  cases sk
  unfold SessionKey.tryFrom
  split
  · next h =>
    simp [except_map_eq_ok, aes256KeyOfBytes_eq_ok, EncryptionType.tryFrom_eq_some.1 h]
  · next h =>
    constructor
    · rintro ⟨⟩
    · exact fun ⟨ht, _⟩ => absurd (EncryptionType.tryFrom_eq_some.2 ht) h

/-- A session key is a key of type 18 and of exactly 32 bytes. -/
theorem SessionKey.exists_tryFrom_ok_iff (kdcKey : Asn1.EncryptionKey) :
    (∃ sk, SessionKey.tryFrom kdcKey = .ok sk) ↔
      kdcKey.keyType = 18 ∧ kdcKey.keyValue.bytes.length = 32 := by
  simp only [SessionKey.tryFrom_eq_ok, EncryptionType.code]
  constructor
  · rintro ⟨⟨k⟩, ht, hk⟩
    exact ⟨ht, hk ▸ k.len⟩
  · rintro ⟨ht, hl⟩
    exact ⟨⟨⟨_, hl⟩⟩, ht, rfl⟩

theorem SessionKey.tryFrom_eq_error {kdcKey : Asn1.EncryptionKey} {e : KrbError} :
    SessionKey.tryFrom kdcKey = .error e ↔
      (kdcKey.keyType ≠ 18 ∧ e = .unsupportedEncryption) ∨
        (kdcKey.keyType = 18 ∧ kdcKey.keyValue.bytes.length ≠ 32 ∧
          e = .invalidEncryptionKey) := by
  unfold SessionKey.tryFrom
  by_cases ht : kdcKey.keyType = 18
  · rw [ht]
    by_cases hl : kdcKey.keyValue.bytes.length = 32 <;>
      simp [EncryptionType.tryFrom, aes256KeyOfBytes, aes256KeyLen, hl, eq_comm]
  · have hn : EncryptionType.tryFrom kdcKey.keyType ≠ some .aes256CtsHmacSha196 :=
      fun h => ht (EncryptionType.tryFrom_eq_some.1 h)
    split
    · contradiction
    · simp [ht, eq_comm]

/-! ### The decrypted part of a reply -/

/-- `KdcReplyPart`: the session key, the nonce, the ticket's flags and times, and the server. -/
structure KdcReplyPart where
  key : SessionKey
  nonce : UInt32
  keyExpiration : Option SystemTime
  flags : UInt32
  authTime : SystemTime
  startTime : Option SystemTime
  endTime : SystemTime
  renewUntil : Option SystemTime
  server : Name

/-- `TryFrom<EncKdcRepPart> for KdcReplyPart`. -/
def KdcReplyPart.tryFrom (part : Asn1.EncKdcRepPart) : Outcome (Except KrbError KdcReplyPart) :=
  match SessionKey.tryFrom part.key with
  | .error e => pure (.error e)
  | .ok key => do
    match ← Name.tryFromPair part.serverName part.serverRealm with
    | .error e => pure (.error e)
    | .ok server =>
      pure (.ok ⟨key, part.nonce, part.keyExpiration.map (·.toSystemTime), part.flags,
        part.authTime.toSystemTime, part.startTime.map (·.toSystemTime),
        part.endTime.toSystemTime, part.renewTill.map (·.toSystemTime), server⟩)

/-- The reply conversion fails only on the key: the pair decoder never returns an error. -/
theorem KdcReplyPart.tryFrom_eq_error {part : Asn1.EncKdcRepPart} {e : KrbError} :
    KdcReplyPart.tryFrom part = .ok (.error e) ↔ SessionKey.tryFrom part.key = .error e := by
  unfold KdcReplyPart.tryFrom
  cases SessionKey.tryFrom part.key with
  | error e' => simp
  | ok sk =>
    have hne := Name.tryFromPair_ne_error part.serverName part.serverRealm e
    cases h : Name.tryFromPair part.serverName part.serverRealm with
    | error p => simp
    | ok r => cases r <;> simp_all

/-- A reply part is read exactly when its key has type 18 (AES256-CTS-HMAC-SHA1-96) and exactly
32 bytes, and its server name has as many components as its type needs.  Otherwise the
conversion fails with `UnsupportedEncryption` on a key of another type, with
`InvalidEncryptionKey` on a key of another length, and panics in `Name::try_from` when the key
is good. -/
theorem KdcReplyPart.tryFrom_ok_iff (part : Asn1.EncKdcRepPart) :
    ((∃ r, KdcReplyPart.tryFrom part = .ok (.ok r)) ↔
      part.key.keyType = 18 ∧ part.key.keyValue.bytes.length = 32 ∧
        ∃ k, Name.pairArity part.serverName.nameType = some k ∧
          k ≤ part.serverName.nameString.length) ∧
    ∀ e, KdcReplyPart.tryFrom part = .ok (.error e) ↔
      (part.key.keyType ≠ 18 ∧ e = .unsupportedEncryption) ∨
        (part.key.keyType = 18 ∧ part.key.keyValue.bytes.length ≠ 32 ∧
          e = .invalidEncryptionKey) := by
  refine ⟨?_, fun e => KdcReplyPart.tryFrom_eq_error.trans SessionKey.tryFrom_eq_error⟩
  rw [← and_assoc, ← SessionKey.exists_tryFrom_ok_iff,
    ← Name.tryFromPair_accepts_iff _ part.serverRealm, ← exists_and_right]
  unfold KdcReplyPart.tryFrom
  cases SessionKey.tryFrom part.key with
  | error e => simp
  | ok sk =>
    have hne := Name.tryFromPair_ne_error part.serverName part.serverRealm
    cases h : Name.tryFromPair part.serverName part.serverRealm with
    | error p => simp
    | ok r => cases r <;> simp_all

namespace EncryptedData

variable (crypto : Crypto) (asn1 : Asn1Lib)

/-- `EncryptedData::decrypt_data`. -/
def decryptData (e : EncryptedData) (baseKey : DerivedKey) (keyUsage : Int) :
    Except KrbError Bytes :=
  match e with
  | .aes256CtsHmacSha196 _ data => crypto.decrypt baseKey.k data keyUsage

/-- `EncryptedData::decrypt_enc_kdc_rep`: key usage 3, the AS-REP's encrypted part (RFC 4120). -/
def decryptEncKdcRep (e : EncryptedData) (baseKey : DerivedKey) :
    Outcome (Except KrbError KdcReplyPart) :=
  match e.decryptData crypto baseKey 3 with
  | .error err => pure (.error err)
  | .ok data =>
    match asn1.encKdcRepPartFromDer data with
    | .error _ => pure (.error .derDecodeEncKdcRepPart)
    | .ok part => KdcReplyPart.tryFrom part

/-- `EncryptedData::decrypt_pa_enc_timestamp`: key usage 1 (RFC 4120 §5.2.7.2).  The
microseconds, if any, are added to the time; the sum cannot overflow a `SystemTime`. -/
def decryptPaEncTimestamp (e : EncryptedData) (baseKey : DerivedKey) :
    Except KrbError SystemTime := do
  let data ← e.decryptData crypto baseKey 1
  let paenctsenc ← match asn1.paEncTsEncFromDer data with
    | .ok p => .ok p
    | .error _ => .error .derDecodePaEncTsEnc
  let stime := paenctsenc.patimestamp.toSystemTime
  let usecs := (paenctsenc.pausec.map fun s => (s.toNat : Int) * 1000).getD 0
  pure ⟨stime.sinceEpoch + usecs⟩

end EncryptedData

/-- `DerivedKey::encrypt_pa_enc_timestamp`: key usage 1 (RFC 4120 §5.2.7.2). -/
def DerivedKey.encryptPaEncTimestamp (crypto : Crypto) (asn1 : Asn1Lib) (key : DerivedKey)
    (paenctsenc : Asn1.PaEncTsEnc) : Except KrbError EncryptedData := do
  let data ← match asn1.paEncTsEncToDer paenctsenc with
    | .ok data => .ok data
    | .error _ => .error .derEncodePaEncTsEnc
  let keyUsage := 1
  (fun data => .aes256CtsHmacSha196 none data) <$> crypto.encrypt key.k data keyUsage

end Libkrimes
