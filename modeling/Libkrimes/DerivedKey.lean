import Libkrimes.Preauth

/-!
# Deriving the user's key

The client's long-term key is derived from the passphrase with the AES256-CTS-HMAC-SHA1-96
string-to-key function, a salt and an iteration count.  The salt and the count come from the
first `ETYPE-INFO2` hint for that type, when the KDC sent one; otherwise the salt is the realm
followed by the user name and the count is RFC 3962's default.  AES `s2kparams` must be
exactly four octets.

The string-to-key function itself is in the crypto module, which is not part of the source;
the spec gives it as a pure, total function, the parameter `derive` of this file.

`DerivedKey::from_encrypted_reply` fails with `PreauthInvalidS2KParams` exactly when the first
AES256 hint has `s2kparams` of a length other than four, and otherwise derives with that hint's
salt and count, or the defaults (`fromEncryptedReply_spec`).  It agrees with `from_etype_info2`
on that hint, or with `new_aes256_cts_hmac_sha1_96` when there is none, and no later hint
affects it.  The negotiation keeps malformed `s2kparams`, so they are reported at key
derivation, and only for the first hint (`negotiated_s2kparams_checked_at_derivation`).

The count is the big-endian value of the four octets, as the code reads it: `00 00 00 00` is
the count 0, although the comment on `EtypeInfo2` and RFC 3962 give it the meaning 2³².
-/

namespace Libkrimes

/-- `AES_256_KEY_LEN`. -/
def aes256KeyLen : Nat := 32

/-- `[u8; AES_256_KEY_LEN]`. -/
@[ext]
structure Aes256Key where
  bytes : Bytes
  len : bytes.length = aes256KeyLen
  deriving DecidableEq

/-- Modelled from the spec: `RFC_PKBDF2_SHA1_ITER`, the standard iteration count of RFC 3962. -/
def rfcPkbdf2Sha1Iter : UInt32 := 4096

/-- Modelled from the spec: `derive_key_aes256_cts_hmac_sha1_96`, the string-to-key function
`derive` (PBKDF2 over the passphrase, then the key correction of RFC 3962), pure and total. -/
def deriveKeyAes256CtsHmacSha196 (derive : Bytes → Bytes → UInt32 → Aes256Key)
    (passphrase salt : Bytes) (iterCount : UInt32) : Except KrbError Aes256Key :=
  .ok (derive passphrase salt iterCount)

/-- `DerivedKey::Aes256CtsHmacSha196`: the key, and the iteration count and salt it was
derived with. -/
structure DerivedKey where
  k : Aes256Key
  i : UInt32
  s : String
  deriving DecidableEq

namespace DerivedKey

variable (derive : Bytes → Bytes → UInt32 → Aes256Key)

/-- `DerivedKey::new_aes256_cts_hmac_sha1_96`. -/
def newAes256CtsHmacSha196 (passphrase salt : String) : Except KrbError DerivedKey :=
  let iterCount := rfcPkbdf2Sha1Iter
  (deriveKeyAes256CtsHmacSha196 derive (asBytes passphrase) (asBytes salt) iterCount).map
    fun k => ⟨k, iterCount, salt⟩

/-- The iteration count in AES `s2kparams`: four octets, big-endian; any other length is
`PreauthInvalidS2KParams`. -/
def s2kIterCount : Bytes → Except KrbError UInt32
  | [b₀, b₁, b₂, b₃] => .ok (u32FromBeBytes b₀ b₁ b₂ b₃)
  | _ => .error .preauthInvalidS2KParams

/-- `DerivedKey::from_encrypted_reply`. -/
def fromEncryptedReply (encryptedData : EncryptedData)
    (paDataEtypeInfo2 : Option (List EtypeInfo2)) (realm username passphrase : String) :
    Except KrbError DerivedKey :=
  match encryptedData with
  | .aes256CtsHmacSha196 .. => do
    let maybeEtypeInfo2 :=
      (paDataEtypeInfo2.getD []).find? (·.etype matches .aes256CtsHmacSha196)
    let (salt, iterCount) ← match maybeEtypeInfo2 with
      | some etypeInfo2 => do
        let iterCount ← match etypeInfo2.s2kparams with
          | some s2kparams => some <$> s2kIterCount s2kparams
          | none => pure none
        pure (etypeInfo2.salt, iterCount)
      | none => pure (none, none)
    let salt := salt.getD (realm ++ username)
    let iterCount := iterCount.getD rfcPkbdf2Sha1Iter
    (deriveKeyAes256CtsHmacSha196 derive (asBytes passphrase) (asBytes salt) iterCount).map
      fun k => ⟨k, iterCount, salt⟩

/-- `DerivedKey::from_etype_info2`. -/
def fromEtypeInfo2 (etypeInfo2 : EtypeInfo2) (realm username passphrase : String) :
    Except KrbError DerivedKey :=
  let salt := etypeInfo2.salt.getD (realm ++ username)
  match etypeInfo2.etype with
  | .aes256CtsHmacSha196 => do
    let iterCount ← match etypeInfo2.s2kparams with
      | some s2kparams => s2kIterCount s2kparams
      | none => pure rfcPkbdf2Sha1Iter
    (deriveKeyAes256CtsHmacSha196 derive (asBytes passphrase) (asBytes salt) iterCount).map
      fun k => ⟨k, iterCount, salt⟩
  | _ => .error .unsupportedEncryption

/-! ### The key the hints prescribe -/

/-- The first hint of type AES256-CTS-HMAC-SHA1-96. -/
def firstAes256 (hints : Option (List EtypeInfo2)) : Option EtypeInfo2 :=
  (hints.getD []).find? (·.etype = .aes256CtsHmacSha196)

/-- The key a hint `h` prescribes: derived from the UTF-8 bytes of the passphrase and of the
salt, which is the hint's or else the realm followed by the user name, with the big-endian
count `b₀·2²⁴ + b₁·2¹⁶ + b₂·2⁸ + b₃` of its four `s2kparams` octets, or RFC 3962's count;
`s2kparams` of any other length are an error. -/
def expectedKey (h : Option EtypeInfo2) (realm username passphrase : String) :
    Except KrbError DerivedKey :=
  let salt := (h.bind (·.salt)).getD (realm ++ username)
  let key (n : UInt32) : DerivedKey :=
    ⟨derive passphrase.toUTF8.toList salt.toUTF8.toList n, n, salt⟩
  match h.bind (·.s2kparams) with
  | some [b₀, b₁, b₂, b₃] =>
    .ok (key (UInt32.ofNat (b₀.toNat * 2 ^ 24 + b₁.toNat * 2 ^ 16 + b₂.toNat * 2 ^ 8 + b₃.toNat)))
  | some _ => .error .preauthInvalidS2KParams
  | none => .ok (key rfcPkbdf2Sha1Iter)

theorem expectedKey_eq_error_iff (h : Option EtypeInfo2) (realm username passphrase : String) :
    expectedKey derive h realm username passphrase = .error .preauthInvalidS2KParams ↔
      ∃ p, h.bind (·.s2kparams) = some p ∧ p.length ≠ 4 := by
  unfold expectedKey
  generalize h.bind (·.s2kparams) = o
  rcases o with _ | ⟨_ | ⟨b₀, _ | ⟨b₁, _ | ⟨b₂, _ | ⟨b₃, _ | ⟨b₄, rest⟩⟩⟩⟩⟩⟩ <;> simp

theorem fromEtypeInfo2_eq {h : EtypeInfo2} (ha : h.etype = .aes256CtsHmacSha196)
    (realm username passphrase : String) :
    fromEtypeInfo2 derive h realm username passphrase =
      expectedKey derive (some h) realm username passphrase := by
  obtain ⟨etype, salt, s2kparams⟩ := h
  subst ha
  rcases s2kparams with _ | ⟨_ | ⟨b₀, _ | ⟨b₁, _ | ⟨b₂, _ | ⟨b₃, _ | ⟨b₄, rest⟩⟩⟩⟩⟩⟩ <;>
  simp [fromEtypeInfo2, expectedKey, s2kIterCount, deriveKeyAes256CtsHmacSha196, Except.map,
    asBytes, u32FromBeBytes_eq]

theorem firstAes256_etype {hints : Option (List EtypeInfo2)} {h : EtypeInfo2}
    (hh : firstAes256 hints = some h) : h.etype = .aes256CtsHmacSha196 := by
  simpa using List.find?_some hh

theorem fromEncryptedReply_eq_expectedKey (e : EncryptedData) (hints : Option (List EtypeInfo2))
    (realm username passphrase : String) :
    fromEncryptedReply derive e hints realm username passphrase =
      expectedKey derive (firstAes256 hints) realm username passphrase := by
  have hf : (hints.getD []).find? (·.etype matches .aes256CtsHmacSha196) = firstAes256 hints := by
    unfold firstAes256
    congr 1
    funext x
    cases x.etype <;> rfl
  obtain ⟨kvno, data⟩ := e
  cases hh : firstAes256 hints with
  | none =>
    simp [fromEncryptedReply, hf, hh, expectedKey, deriveKeyAes256CtsHmacSha196, Except.map,
      asBytes]
  | some h =>
    obtain ⟨etype, salt, s2kparams⟩ := h
    rcases s2kparams with _ | ⟨_ | ⟨b₀, _ | ⟨b₁, _ | ⟨b₂, _ | ⟨b₃, _ | ⟨b₄, rest⟩⟩⟩⟩⟩⟩ <;>
    simp [fromEncryptedReply, expectedKey, hf, hh, s2kIterCount, deriveKeyAes256CtsHmacSha196,
      Except.map, asBytes, u32FromBeBytes_eq]

theorem firstAes256_append {pre post : List EtypeInfo2} {h : EtypeInfo2}
    (hpre : ∀ x ∈ pre, x.etype ≠ .aes256CtsHmacSha196) (hh : h.etype = .aes256CtsHmacSha196) :
    firstAes256 (some (pre ++ h :: post)) = some h := by
  have hn : pre.find? (fun x => decide (x.etype = .aes256CtsHmacSha196)) = none :=
    List.find?_eq_none.2 fun x hx => by simpa using hpre x hx
  simp [firstAes256, List.find?_append, hn, hh]

theorem firstAes256_of_all {l : List EtypeInfo2} (h : ∀ x ∈ l, x.etype = .aes256CtsHmacSha196) :
    firstAes256 (some l) = l.head? := by
  cases l with
  | nil => rfl
  | cons x l => simp [firstAes256, h x (List.mem_cons_self x l)]

/-- `DerivedKey::from_encrypted_reply` fails with `PreauthInvalidS2KParams` exactly when the
first AES256 hint has `s2kparams` of a length other than four; otherwise it derives the key that
hint prescribes.  It agrees with `from_etype_info2` on that hint, or with
`new_aes256_cts_hmac_sha1_96` on the default salt when there is none, and the hints after it
do not matter. -/
theorem fromEncryptedReply_spec (e : EncryptedData) (hints : Option (List EtypeInfo2))
    (realm username passphrase : String) :
    (fromEncryptedReply derive e hints realm username passphrase = .error .preauthInvalidS2KParams ↔
        ∃ p, (firstAes256 hints).bind (·.s2kparams) = some p ∧ p.length ≠ 4) ∧
      fromEncryptedReply derive e hints realm username passphrase =
        expectedKey derive (firstAes256 hints) realm username passphrase ∧
      fromEncryptedReply derive e hints realm username passphrase =
        (match firstAes256 hints with
          | some h => fromEtypeInfo2 derive h realm username passphrase
          | none => newAes256CtsHmacSha196 derive passphrase (realm ++ username)) ∧
      ∀ pre h post post', (∀ x ∈ pre, x.etype ≠ .aes256CtsHmacSha196) →
        h.etype = .aes256CtsHmacSha196 →
        fromEncryptedReply derive e (some (pre ++ h :: post)) realm username passphrase =
          fromEncryptedReply derive e (some (pre ++ h :: post')) realm username passphrase := by
  refine ⟨?_, fromEncryptedReply_eq_expectedKey derive e hints realm username passphrase, ?_, ?_⟩
  · rw [fromEncryptedReply_eq_expectedKey, expectedKey_eq_error_iff]
  · rw [fromEncryptedReply_eq_expectedKey]
    cases hh : firstAes256 hints with
    | none => rfl
    | some h => exact (fromEtypeInfo2_eq derive (firstAes256_etype hh) ..).symm
  · intro pre h post post' hpre hh
    rw [fromEncryptedReply_eq_expectedKey, fromEncryptedReply_eq_expectedKey,
      firstAes256_append hpre hh, firstAes256_append hpre hh]

/-! ### Malformed `s2kparams` in a negotiation -/

/-- The negotiation, by `PreauthData::try_from` or by `KerberosPaRep::try_from`, returns every
AES256 hint with its `s2kparams` as they came; deriving the key from its hints checks the first
hint alone, and fails with `PreauthInvalidS2KParams` exactly when that hint's `s2kparams` are
not four octets. -/
theorem negotiated_s2kparams_checked_at_derivation (asn1 : Asn1Lib) (pavec : List Asn1.PaData)
    (d : PreauthData) (hd : PreauthData.tryFrom asn1 pavec = .ok d) (e : EncryptedData)
    (realm username passphrase : String) :
    KerberosPaRep.tryFrom asn1 pavec = .ok d ∧
    d.etypeInfo2 = pavec.flatMap (PreauthData.itemHints asn1) ∧
      fromEncryptedReply derive e (some d.etypeInfo2) realm username passphrase =
        expectedKey derive d.etypeInfo2.head? realm username passphrase ∧
      (fromEncryptedReply derive e (some d.etypeInfo2) realm username passphrase =
          .error .preauthInvalidS2KParams ↔
        ∃ h p, d.etypeInfo2.head? = some h ∧ h.s2kparams = some p ∧ p.length ≠ 4) := by
  rw [PreauthData.tryFrom_eq_fold] at hd
  refine ⟨hd, ?_⟩
  rw [PreauthData.fold_eq] at hd
  split at hd
  · cases hd
  · cases hd
    have hall : ∀ x ∈ (PreauthData.negotiated asn1 pavec).etypeInfo2,
        x.etype = .aes256CtsHmacSha196 := fun x hx => by
      obtain ⟨p, -, hp⟩ := List.mem_flatMap.1 hx
      exact PreauthData.itemHints_etype hp
    have hk := fromEncryptedReply_eq_expectedKey derive e
      (some (PreauthData.negotiated asn1 pavec).etypeInfo2) realm username passphrase
    rw [firstAes256_of_all hall] at hk
    refine ⟨rfl, hk, ?_⟩
    rw [hk, expectedKey_eq_error_iff]
    simp only [Option.bind_eq_some]
    exact ⟨fun ⟨p, ⟨h, hh, hp⟩, hl⟩ => ⟨h, p, hh, hp, hl⟩,
      fun ⟨h, p, hh, hp, hl⟩ => ⟨p, ⟨h, hh, hp⟩, hl⟩⟩

theorem negotiated_short_s2kparams_rejected :
    PreauthData.tryFrom { etypeInfo2FromDer := fun _ => .ok [⟨18, none, some ⟨[0, 16], by decide⟩⟩] }
        [⟨19, ⟨[], by decide⟩⟩] =
        .ok ⟨false, false, none, [⟨.aes256CtsHmacSha196, none, some [0, 16]⟩]⟩ ∧
      fromEncryptedReply (fun _ _ _ => ⟨List.replicate 32 0, rfl⟩) (.aes256CtsHmacSha196 none [])
        (some [⟨.aes256CtsHmacSha196, none, some [0, 16]⟩]) "EXAMPLE.COM" "alice" "Password123" =
        .error .preauthInvalidS2KParams := by
  refine ⟨?h, ((negotiated_s2kparams_checked_at_derivation _ _ _ _ ?h _ _ _ _).2.2.2).2
    ⟨_, _, rfl, rfl, by decide⟩⟩
  rfl

end DerivedKey

end Libkrimes
