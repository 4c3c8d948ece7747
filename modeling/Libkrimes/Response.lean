import Libkrimes.Preauth

/-!
# Decoding a KDC response

`KerberosResponse::decode` (`proto.rs`) reads the outer application tag of a KDC response and
decodes the body as an AS-REP (tag 11), a TGS-REP (tag 13) or a KRB-ERROR (tag 30).  The
conversions from the wire structures (`KerberosAsRep::try_from`, `KerberosTgsRep::try_from`,
`KerberosErrRep::try_from`) check the protocol version and the message type; a KRB-ERROR whose
code is `KDC_ERR_PREAUTH_REQUIRED` carries the pre-authentication negotiation in its error data
and becomes `PaRep`, a response rather than an error.

The decoder calls the conversions with `expect`, and the conversions reach `todo!()` on a
protocol version other than 5: under each tag, every error of a conversion is a panic of the
decoder, with the tag's message and the error, not an error it returns
(`KerberosResponse.decode_panics_of_conversion_error`); three replies a peer can send show it
(`KerberosResponse.decode_panics_on_malformed_replies`).  Under the KRB-ERROR tag the decoder
returns exactly when the body is a well-formed error of a known code, and for
`KDC_ERR_PREAUTH_REQUIRED` only when its error data is METHOD-DATA whose `ETYPE-INFO2` items
all decode; it then returns `ErrRep(code)`, or `PaRep` with the negotiation those items
describe (`KerberosResponse.decode_krbError_eq_ok_iff`).
-/

namespace Libkrimes

/-- `KerberosAsRep`. -/
structure KerberosAsRep where
  clientRealm : String
  clientName : String
  encPart : EncryptedData
  deriving DecidableEq

/-- `KerberosTgsRep`. -/
structure KerberosTgsRep where
  deriving DecidableEq

/-- `KerberosErrRep`: a final error, or the pre-authentication negotiation. -/
inductive KerberosErrRep where
  | err (code : KrbErrorCode)
  | pa (paRep : KerberosPaRep)
  deriving DecidableEq

/-- `KerberosResponse`. -/
inductive KerberosResponse where
  | asRep (rep : KerberosAsRep)
  | tgsRep (rep : KerberosTgsRep)
  | paRep (rep : KerberosPaRep)
  | errRep (code : KrbErrorCode)
  deriving DecidableEq

/-- `KrbMessageType::try_from(msg_type)`, with the `map_err` of the reply conversions.  The
enum's `type_name` (its path in the crate) is written as its last segment. -/
def msgTypeOf (msgType : UInt8) : Except KrbError KrbMessageType :=
  match KrbMessageType.tryFrom msgType with
  | some t => .ok t
  | none => .error (.invalidEnumValue "KrbMessageType" msgType.toNat)

/-- `TryFrom<KdcRep> for KerberosAsRep`. -/
def KerberosAsRep.tryFrom (asn1 : Asn1Lib) (rep : Asn1.KdcRep) :
    Outcome (Except KrbError KerberosAsRep) :=
  if rep.pvno ≠ 5 then Outcome.todo
  else pure do
    match ← msgTypeOf rep.msgType with
    | .krbAsRep =>
      let encPart ← EncryptedData.tryFrom rep.encPart
      pure ⟨rep.crealm.val, asn1.principalNameToString rep.cname, encPart⟩
    | _ => .error (.invalidMessageType rep.msgType.toNat KrbMessageType.krbAsRep.code.toNat)

/-- `TryFrom<KdcRep> for KerberosTgsRep`. -/
def KerberosTgsRep.tryFrom (rep : Asn1.KdcRep) : Outcome (Except KrbError KerberosTgsRep) :=
  if rep.pvno ≠ 5 then Outcome.todo
  else pure do
    match ← msgTypeOf rep.msgType with
    | .krbTgsRep => pure ⟨⟩
    | _ => .error (.invalidMessageType rep.msgType.toNat KrbMessageType.krbTgsRep.code.toNat)

/-- `TryFrom<KrbError> for KerberosErrRep`: Kerberos encodes state in some error responses,
which this disambiguates. -/
def KerberosErrRep.tryFrom (asn1 : Asn1Lib) (rep : Asn1.KrbError) :
    Outcome (Except KrbError KerberosErrRep) :=
  if rep.pvno ≠ 5 then Outcome.todo
  else pure do
    match ← msgTypeOf rep.msgType with
    | .krbError =>
      let errorCode ← match KrbErrorCode.tryFrom rep.errorCode with
        | some c => .ok c
        | none => .error (.invalidEnumValue "KrbErrorCode" rep.errorCode)
      if errorCode = KrbErrorCode.kdcErrPreauthRequired then
        let edata ← match rep.errorData with
          | some edata => .ok edata
          | none => .error .missingPaData
        let pavec ← match asn1.methodDataFromDer edata.bytes with
          | .ok pavec => .ok pavec
          | .error _ => .error .derDecodePaData
        let paRep ← KerberosPaRep.tryFrom asn1 pavec
        pure (.pa paRep)
      else pure (.err errorCode)
    | _ => .error (.invalidMessageType rep.msgType.toNat KrbMessageType.krbError.code.toNat)

/-- `<KerberosResponse as der::Decode>::decode`. -/
def KerberosResponse.decode (asn1 : Asn1Lib) (bytes : Bytes) :
    Outcome (Except DerError KerberosResponse) :=
  match asn1.decodeTag bytes with
  | .error e => pure (.error e)
  | .ok (tag, rest) =>
    match asn1.decodeLength rest with
    | .error e => pure (.error e)
    | .ok (_, body) =>
      match tag with
      | .application true 11 =>
        match asn1.decodeKdcRep body with
        | .error e => pure (.error e)
        | .ok kdcRep => do
          let asRep ← Outcome.expect "Failed to parse as rep" (← KerberosAsRep.tryFrom asn1 kdcRep)
          pure (.ok (.asRep asRep))
      | .application true 13 =>
        match asn1.decodeKdcRep body with
        | .error e => pure (.error e)
        | .ok kdcRep => do
          let tgsRep ← Outcome.expect "Failed to parse tgs rep" (← KerberosTgsRep.tryFrom kdcRep)
          pure (.ok (.tgsRep tgsRep))
      | .application true 30 =>
        match asn1.decodeKrbError body with
        | .error e => pure (.error e)
        | .ok kdcRep => do
          let errRep ←
            Outcome.expect "Failed to parse err rep" (← KerberosErrRep.tryFrom asn1 kdcRep)
          pure (.ok (match errRep with
            | .pa r => .paRep r
            | .err c => .errRep c))
      | _ => pure (.error (.tagUnexpected none tag))

/-! ### The conversions -/

@[simp] theorem msgTypeOf_code (t : KrbMessageType) : msgTypeOf t.code = .ok t := by
  simp [msgTypeOf, KrbMessageType.tryFrom_code]

theorem msgTypeOf_eq_ok {m : UInt8} {t : KrbMessageType} (h : msgTypeOf m = .ok t) :
    t.code = m := by
  unfold msgTypeOf at h
  split at h
  · cases h
    exact KrbMessageType.code_tryFrom ‹_›
  · cases h

/-- The negotiation of a METHOD-DATA, as `KerberosPaRep::try_from` computes it. -/
theorem KerberosPaRep.tryFrom_eq_ok {asn1 : Asn1Lib} {pavec : List Asn1.PaData}
    {d : KerberosPaRep} :
    KerberosPaRep.tryFrom asn1 pavec = .ok d ↔
      (∀ p ∈ pavec, PreauthData.badEtypeInfo2 asn1 p = false) ∧
        d = PreauthData.negotiated asn1 pavec := by
  rw [KerberosPaRep.tryFrom, PreauthData.fold_eq]
  cases h : pavec.any (PreauthData.badEtypeInfo2 asn1)
  · simp only [List.any_eq_false, Bool.not_eq_true] at h
    simp only [Bool.false_eq_true, if_false, Except.ok.injEq]
    exact ⟨fun e => ⟨h, e.symm⟩, fun ⟨_, e⟩ => e.symm⟩
  · obtain ⟨p, hp, hb⟩ := List.any_eq_true.1 h
    simp only [if_true, reduceCtorEq, false_iff, not_and]
    exact fun hall => absurd (hall p hp) (by simp [hb])

/-- The conversion of a KRB-ERROR returns a reply exactly when the body has protocol version 5,
message type 30 and a known code, and, for `KDC_ERR_PREAUTH_REQUIRED`, error data that decode
as METHOD-DATA whose `ETYPE-INFO2` items all decode; the reply is the final error, or the
negotiation the items describe. -/
theorem KerberosErrRep.tryFrom_eq_ok_iff (asn1 : Asn1Lib) (rep : Asn1.KrbError)
    (x : KerberosErrRep) :
    KerberosErrRep.tryFrom asn1 rep = .ok (.ok x) ↔
      rep.pvno = 5 ∧ rep.msgType = KrbMessageType.krbError.code ∧
      ∃ c, KrbErrorCode.tryFrom rep.errorCode = some c ∧
        (c ≠ KrbErrorCode.kdcErrPreauthRequired ∧ x = .err c ∨
          c = KrbErrorCode.kdcErrPreauthRequired ∧ ∃ edata pavec, rep.errorData = some edata ∧
            asn1.methodDataFromDer edata.bytes = .ok pavec ∧
            (∀ p ∈ pavec, PreauthData.badEtypeInfo2 asn1 p = false) ∧
            x = .pa (PreauthData.negotiated asn1 pavec)) := by
  unfold KerberosErrRep.tryFrom
  by_cases hv : rep.pvno = 5
  swap
  · rw [if_pos hv]
    exact iff_of_false (by simp [Outcome.todo]) fun h => hv h.1
  rw [if_neg (not_not.2 hv), except_pure, Except.ok.injEq]
  by_cases hm : rep.msgType = KrbMessageType.krbError.code
  swap
  · refine iff_of_false ?_ fun h => hm h.2.1
    cases h : msgTypeOf rep.msgType with
    | error e => exact fun h' => by cases h'
    | ok t =>
      rw [except_ok_bind]
      split
      · exact absurd (msgTypeOf_eq_ok h).symm hm
      · exact fun h' => by cases h'
  simp only [hv, hm, msgTypeOf_code, true_and, except_ok_bind]
  cases KrbErrorCode.tryFrom rep.errorCode with
  | none => simp
  | some c =>
    by_cases hp : c = KrbErrorCode.kdcErrPreauthRequired
    swap
    · simp [hp]
      exact eq_comm
    subst hp
    cases rep.errorData with
    | none => simp
    | some edata =>
      cases hd : asn1.methodDataFromDer edata.bytes with
      | error => simp [hd]
      | ok pavec =>
        simp [hd, except_bind_eq_ok, KerberosPaRep.tryFrom_eq_ok]
        constructor
        · rintro ⟨_, ⟨hb, rfl⟩, rfl⟩
          exact ⟨hb, rfl⟩
        · rintro ⟨hb, rfl⟩
          exact ⟨_, ⟨hb, rfl⟩, rfl⟩

/-! ### The decoder -/

namespace KerberosResponse

/-- A DER layer that reads every input as one reply: the given tag, then a body that decodes
as the given KDC-REP or KRB-ERROR.  Its METHOD-DATA decoder accepts the empty sequence
`30 00` alone. -/
def replyLayer (tag : Tag) (rep : Except DerError Asn1.KdcRep)
    (err : Except DerError Asn1.KrbError) : Asn1Lib :=
  { decodeTag := fun b => .ok (tag, b)
    decodeLength := fun b => .ok (b.length, b)
    decodeKdcRep := fun _ => rep
    decodeKrbError := fun _ => err
    methodDataFromDer := fun b => if b = [0x30, 0x00] then .ok [] else .error .malformed }

section Body

variable (asn1 : Asn1Lib) (bytes : Bytes) {rest body : Bytes} {len : Nat}

/-- Under the KRB-ERROR tag the decoder returns a reply exactly when the conversion does, and
the reply is then the conversion's. -/
theorem decode_krbError_eq_ok (hl : asn1.decodeLength rest = .ok (len, body))
    (ht : asn1.decodeTag bytes = .ok (.application true 30, rest)) {err : Asn1.KrbError}
    (he : asn1.decodeKrbError body = .ok err) (r : Except DerError KerberosResponse) :
    decode asn1 bytes = .ok r ↔
      ∃ x, KerberosErrRep.tryFrom asn1 err = .ok (.ok x) ∧
        r = .ok (match x with
          | .pa d => .paRep d
          | .err c => .errRep c) := by
  simp only [decode, ht, hl, he]
  cases KerberosErrRep.tryFrom asn1 err with
  | error p => simp
  | ok x => cases x <;> simp [eq_comm]

/-- A reply under the KRB-ERROR tag whose body decodes is read, and not a panic, exactly when
the body has protocol version 5, message type 30 and a known error code, and, when the code is
`KDC_ERR_PREAUTH_REQUIRED`, error data that decode as METHOD-DATA with no `ETYPE-INFO2` item
that fails to decode.  The reply is then `ErrRep(code)`, or `PaRep` with the negotiation the
METHOD-DATA items describe; it is never an error. -/
theorem decode_krbError_eq_ok_iff (hl : asn1.decodeLength rest = .ok (len, body))
    (ht : asn1.decodeTag bytes = .ok (.application true 30, rest)) {err : Asn1.KrbError}
    (he : asn1.decodeKrbError body = .ok err) (r : Except DerError KerberosResponse) :
    decode asn1 bytes = .ok r ↔
      err.pvno = 5 ∧ err.msgType = KrbMessageType.krbError.code ∧
      ∃ c, KrbErrorCode.tryFrom err.errorCode = some c ∧
        (c ≠ KrbErrorCode.kdcErrPreauthRequired ∧ r = .ok (.errRep c) ∨
          c = KrbErrorCode.kdcErrPreauthRequired ∧ ∃ edata pavec, err.errorData = some edata ∧
            asn1.methodDataFromDer edata.bytes = .ok pavec ∧
            (∀ p ∈ pavec, PreauthData.badEtypeInfo2 asn1 p = false) ∧
            r = .ok (.paRep (PreauthData.negotiated asn1 pavec))) := by
  simp only [decode_krbError_eq_ok asn1 bytes hl ht he, KerberosErrRep.tryFrom_eq_ok_iff]
  constructor
  · rintro ⟨x, ⟨hv, hm, c, hc, ⟨hp, rfl⟩ | ⟨hp, edata, pavec, hed, hd, hb, rfl⟩⟩, rfl⟩
    exacts [⟨hv, hm, c, hc, .inl ⟨hp, rfl⟩⟩,
      ⟨hv, hm, c, hc, .inr ⟨hp, edata, pavec, hed, hd, hb, rfl⟩⟩]
  · rintro ⟨hv, hm, c, hc, ⟨hp, rfl⟩ | ⟨hp, edata, pavec, hed, hd, hb, rfl⟩⟩
    exacts [⟨_, ⟨hv, hm, c, hc, .inl ⟨hp, rfl⟩⟩, rfl⟩,
      ⟨_, ⟨hv, hm, c, hc, .inr ⟨hp, edata, pavec, hed, hd, hb, rfl⟩⟩, rfl⟩]

/-- A `KDC_ERR_PREAUTH_REQUIRED` error whose error data are the empty METHOD-DATA `30 00`. -/
theorem decode_preauthRequired_empty :
    decode (replyLayer (.application true 30) (.error .malformed)
        (.ok ⟨5, 30, 25, some ⟨[0x30, 0x00], by decide⟩⟩)) [] =
      .ok (.ok (.paRep ⟨false, false, none, []⟩)) :=
  (decode_krbError_eq_ok_iff _ [] rfl rfl rfl _).2 ⟨rfl, rfl, KrbErrorCode.kdcErrPreauthRequired,
    by rfl, .inr ⟨rfl, ⟨[0x30, 0x00], by decide⟩, [], rfl, by rfl,
      fun _ h => absurd h (List.not_mem_nil _), rfl⟩⟩

/-- Under each of the three tags, a body that decodes but that its conversion rejects with an
error makes the decoder panic with the tag's message followed by the error. -/
theorem decode_panics_of_conversion_error (hl : asn1.decodeLength rest = .ok (len, body)) :
    (∀ rep e, asn1.decodeTag bytes = .ok (.application true 11, rest) →
      asn1.decodeKdcRep body = .ok rep → KerberosAsRep.tryFrom asn1 rep = .ok (.error e) →
      decode asn1 bytes = .error ⟨"Failed to parse as rep: " ++ RustDebug.debug e⟩) ∧
    (∀ rep e, asn1.decodeTag bytes = .ok (.application true 13, rest) →
      asn1.decodeKdcRep body = .ok rep → KerberosTgsRep.tryFrom rep = .ok (.error e) →
      decode asn1 bytes = .error ⟨"Failed to parse tgs rep: " ++ RustDebug.debug e⟩) ∧
    (∀ err e, asn1.decodeTag bytes = .ok (.application true 30, rest) →
      asn1.decodeKrbError body = .ok err → KerberosErrRep.tryFrom asn1 err = .ok (.error e) →
      decode asn1 bytes = .error ⟨"Failed to parse err rep: " ++ RustDebug.debug e⟩) := by
  refine ⟨?_, ?_, ?_⟩ <;>
  · intro _ _ ht hr hc
    simp [decode, ht, hl, hr, hc]

end Body

/-- Three replies a KDC, or anyone on the path, can send: an AS-REP tag over a TGS-REP body, an
AS-REP of protocol version 4, and a `KDC_ERR_PREAUTH_REQUIRED` error without error data.  The
decoder panics on each. -/
theorem decode_panics_on_malformed_replies :
    decode (replyLayer (.application true 11) (.ok ⟨5, 13, ⟨"EXAMPLE.COM", by decide⟩, ⟨1, []⟩,
        ⟨18, none, ⟨[], by decide⟩⟩⟩) (.error .malformed)) [] =
      .error ⟨"Failed to parse as rep: InvalidMessageType(13, 11)"⟩ ∧
    decode (replyLayer (.application true 11) (.ok ⟨4, 11, ⟨"EXAMPLE.COM", by decide⟩, ⟨1, []⟩,
        ⟨18, none, ⟨[], by decide⟩⟩⟩) (.error .malformed)) [] =
      .error ⟨"not yet implemented"⟩ ∧
    decode (replyLayer (.application true 30) (.error .malformed) (.ok ⟨5, 30, 25, none⟩)) [] =
      .error ⟨"Failed to parse err rep: MissingPaData"⟩ :=
  ⟨rfl, rfl, rfl⟩

end KerberosResponse

end Libkrimes
