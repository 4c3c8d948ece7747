import Libkrimes.Basic

/-!
# Protocol constants and the library's error type

The enumerations of `crate::asn1::constants` and the error enum of `crate::error` are used by
the code but are not part of the source.  They are modelled from the spec (the numeric codes
are those of the Kerberos registry, RFC 4120 §7.5) with the members the code names;
each `tryFrom` is the enum's `TryFrom` impl, failing on a value the enum does not list.

* `EncryptionType`: only AES256-CTS-HMAC-SHA1-96 (18) is supported; AES128-CTS-HMAC-SHA1-96
  (17) is ranked by `sort_cryptographic_strength`.  Any other registered type is treated by
  every modelled function exactly as an unregistered one (skipped, or `UnsupportedEncryption`).
* `PaDataType`: the four types the PA-DATA loops handle.  Every other type, registered or not,
  is skipped by those loops, so it is left out.
* `KrbMessageType`, `KrbErrorCode`: all the codes of RFC 4120, since a known code and an
  unknown one lead to different errors.
* `KrbError`: the variants the modelled code constructs.
-/

namespace Libkrimes

/-- Modelled from the spec: `EncryptionType`, with the members the code names. -/
inductive EncryptionType where
  | aes128CtsHmacSha196
  | aes256CtsHmacSha196
  | aes128CtsHmacSha256128
  | aes256CtsHmacSha384192
  deriving Repr, DecidableEq

namespace EncryptionType

/-- The registry number of an encryption type. -/
def code : EncryptionType → Int
  | aes128CtsHmacSha196 => 17
  | aes256CtsHmacSha196 => 18
  | aes128CtsHmacSha256128 => 19
  | aes256CtsHmacSha384192 => 20

/-- `EncryptionType::try_from(i32)`. -/
def tryFrom : Int → Option EncryptionType
  | 17 => some aes128CtsHmacSha196
  | 18 => some aes256CtsHmacSha196
  | 19 => some aes128CtsHmacSha256128
  | 20 => some aes256CtsHmacSha384192
  | _ => none

theorem tryFrom_eq_some {n : Int} {e : EncryptionType} : tryFrom n = some e ↔ n = e.code := by
  unfold tryFrom
  split <;> cases e <;> simp_all [code]

end EncryptionType

/-- Modelled from the spec: `PaDataType`, with the members the PA-DATA loops handle. -/
inductive PaDataType where
  | paEncTimestamp
  | paEtypeInfo2
  | paFxCookie
  | paFxFast
  deriving Repr, DecidableEq

namespace PaDataType

/-- The registry number of a pre-authentication data type. -/
def code : PaDataType → UInt32
  | paEncTimestamp => 2
  | paEtypeInfo2 => 19
  | paFxCookie => 133
  | paFxFast => 136

/-- `PaDataType::try_from(u32)`. -/
def tryFrom (n : UInt32) : Option PaDataType :=
  if n = 2 then some paEncTimestamp
  else if n = 19 then some paEtypeInfo2
  else if n = 133 then some paFxCookie
  else if n = 136 then some paFxFast
  else none

theorem tryFrom_eq_some {n : UInt32} {p : PaDataType} : tryFrom n = some p ↔ n = p.code := by
  unfold tryFrom
  cases p <;> split_ifs <;> simp_all [code]

@[simp] theorem tryFrom_code (p : PaDataType) : tryFrom p.code = some p := tryFrom_eq_some.2 rfl

theorem tryFrom_eq_none {n : UInt32} : tryFrom n = none ↔ ∀ p : PaDataType, n ≠ p.code := by
  constructor
  · intro h p hp
    rw [hp, tryFrom_code] at h
    cases h
  · intro h
    cases hn : tryFrom n with
    | none => rfl
    | some p => exact absurd (tryFrom_eq_some.1 hn) (h p)

/-- A number that names no modelled type differs from every code. -/
theorem beq_code_of_tryFrom_eq_none {n : UInt32} (h : tryFrom n = none) (p : PaDataType) :
    (n == p.code) = false :=
  beq_eq_false_iff_ne.2 (tryFrom_eq_none.1 h p)

@[simp] theorem code_beq_code (p q : PaDataType) : (p.code == q.code) = decide (p = q) := by
  cases p <;> cases q <;> rfl

end PaDataType

/-- Modelled from the spec: `KrbMessageType`, the message types of RFC 4120. -/
inductive KrbMessageType where
  | krbAsReq | krbAsRep | krbTgsReq | krbTgsRep | krbApReq | krbApRep
  | krbSafe | krbPriv | krbCred | krbError
  deriving Repr, DecidableEq

namespace KrbMessageType

/-- The message-type number. -/
def code : KrbMessageType → UInt8
  | krbAsReq => 10 | krbAsRep => 11 | krbTgsReq => 12 | krbTgsRep => 13 | krbApReq => 14
  | krbApRep => 15 | krbSafe => 20 | krbPriv => 21 | krbCred => 22 | krbError => 30

/-- `KrbMessageType::try_from(u8)`. -/
def tryFrom (n : UInt8) : Option KrbMessageType :=
  [krbAsReq, krbAsRep, krbTgsReq, krbTgsRep, krbApReq, krbApRep, krbSafe, krbPriv, krbCred,
    krbError].find? (·.code = n)

theorem tryFrom_code (t : KrbMessageType) : tryFrom t.code = some t := by
  cases t <;> rfl

theorem code_tryFrom {n : UInt8} {t : KrbMessageType} (h : tryFrom n = some t) : t.code = n := by
  simpa using List.find?_some h

end KrbMessageType

/-- Modelled from the spec: the error codes of RFC 4120 §7.5.9. -/
def krbErrorCodes : List Int :=
  (List.range 30).map Int.ofNat ++ [31, 32, 33, 34, 35, 36, 37, 38, 39, 40, 41, 42, 44, 45, 46,
    47, 48, 49, 50, 51, 52, 60, 61, 62, 63, 64, 65, 66, 67, 68, 69, 70, 71, 72, 73, 74, 75, 76]

/-- Modelled from the spec: `KrbErrorCode`, the closed enumeration of error codes.  A value is
one of the codes of `krbErrorCodes`. -/
structure KrbErrorCode where
  /-- The numeric error code. -/
  code : Int
  known : code ∈ krbErrorCodes
  deriving DecidableEq

namespace KrbErrorCode

/-- `KDC_ERR_PREAUTH_REQUIRED`. -/
def kdcErrPreauthRequired : KrbErrorCode := ⟨25, by decide⟩

/-- `KrbErrorCode::try_from(i32)`. -/
def tryFrom (n : Int) : Option KrbErrorCode :=
  if h : n ∈ krbErrorCodes then some ⟨n, h⟩ else none

theorem tryFrom_eq_some {n : Int} {c : KrbErrorCode} : tryFrom n = some c ↔ c.code = n := by
  obtain ⟨code, known⟩ := c
  unfold tryFrom
  split
  · simp [eq_comm]
  · simp only [reduceCtorEq, false_iff]
    rintro rfl
    contradiction

end KrbErrorCode

/-- Modelled from the spec: `crate::error::KrbError`, with the variants the code constructs. -/
inductive KrbError where
  | invalidEnumValue (typeName : String) (value : Int)
  | invalidMessageType (found : Int) (expected : Int)
  | missingPaData
  | derDecodePaData
  | derDecodeEtypeInfo2
  | derDecodeEncKdcRepPart
  | derDecodePaEncTsEnc
  | derEncodePaEncTsEnc
  | unsupportedEncryption
  | invalidEncryptionKey
  | preauthInvalidS2KParams
  | nameNotPrincipal
  deriving Repr, DecidableEq

/-- `{:?}` on a `KrbError`, as `#[derive(Debug)]` prints it.  A type name is printed between
quotes; the names the code stores there have no character that `{:?}` escapes. -/
def KrbError.debug : KrbError → String
  | .invalidEnumValue typeName value =>
    "InvalidEnumValue(\"" ++ typeName ++ "\", " ++ toString value ++ ")"
  | .invalidMessageType found expected =>
    "InvalidMessageType(" ++ toString found ++ ", " ++ toString expected ++ ")"
  | .missingPaData => "MissingPaData"
  | .derDecodePaData => "DerDecodePaData"
  | .derDecodeEtypeInfo2 => "DerDecodeEtypeInfo2"
  | .derDecodeEncKdcRepPart => "DerDecodeEncKdcRepPart"
  | .derDecodePaEncTsEnc => "DerDecodePaEncTsEnc"
  | .derEncodePaEncTsEnc => "DerEncodePaEncTsEnc"
  | .unsupportedEncryption => "UnsupportedEncryption"
  | .invalidEncryptionKey => "InvalidEncryptionKey"
  | .preauthInvalidS2KParams => "PreauthInvalidS2KParams"
  | .nameNotPrincipal => "NameNotPrincipal"

instance : RustDebug KrbError := ⟨KrbError.debug⟩

end Libkrimes
