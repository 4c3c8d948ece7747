import Libkrimes.Name

/-!
# Encrypted data and tickets

`EncryptedData` is the library's view of an `EncryptedData` whose type it supports
(AES256-CTS-HMAC-SHA1-96 only); a `Ticket` keeps the ticket's version, its service name as a
`Name`, and its encrypted part, which the client never decrypts.

The ticket conversions cross the two name conventions of `Libkrimes.Name`: `Ticket.tryFrom`
decodes the service name in the pair convention (realm from the realm field), while
`Ticket.tryInto` encodes it in the single convention (realm appended to the components).

A ticket built by the library, with IA5 names and a ciphertext that `OctetString` accepts,
survives encoding and decoding unchanged (`tryFrom_tryInto`); with the name round trips of
`Libkrimes.Name` this gives `name_ticket_roundTrip`.  The other way round does not hold:
decoding then encoding a wire ticket keeps everything but its service name, whose components
become those of the single convention, the components read followed by the realm
(`tryInto_tryFrom`), so a host service ticket comes back with one component more
(`ticket_srvHst_reencoded`).
-/

namespace Libkrimes

/-- `EncryptedData` (declared identically in `proto.rs` and `proto/mod.rs`). -/
inductive EncryptedData where
  | aes256CtsHmacSha196 (kvno : Option UInt32) (data : Bytes)
  deriving Repr, DecidableEq

namespace EncryptedData

/-- The ciphertext. -/
def data : EncryptedData → Bytes
  | aes256CtsHmacSha196 _ data => data

/-- `TryFrom<KdcEncryptedData> for EncryptedData`. -/
def tryFrom (encData : Asn1.EncryptedData) : Except KrbError EncryptedData :=
  match EncryptionType.tryFrom encData.etype with
  | none => .error .unsupportedEncryption
  | some .aes256CtsHmacSha196 => .ok (aes256CtsHmacSha196 encData.kvno encData.cipher.bytes)
  | some _ => .error .unsupportedEncryption

/-- `TryInto<KdcEncryptedData> for EncryptedData`. -/
def tryInto : EncryptedData → Except KrbError Asn1.EncryptedData
  | aes256CtsHmacSha196 kvno data =>
    match OctetString.new data with
    | .ok cipher => .ok ⟨EncryptionType.aes256CtsHmacSha196.code, kvno, cipher⟩
    | .error _ => .error .unsupportedEncryption

theorem tryFrom_eq (e : Asn1.EncryptedData) :
    tryFrom e = if e.etype = 18 then .ok (aes256CtsHmacSha196 e.kvno e.cipher.bytes)
      else .error .unsupportedEncryption := by
  split_ifs with h
  · simp [tryFrom, h, EncryptionType.tryFrom]
  · unfold tryFrom
    cases ht : EncryptionType.tryFrom e.etype with
    | none => rfl
    | some t => cases t <;> simp_all [EncryptionType.tryFrom_eq_some, EncryptionType.code]

/-- What `TryInto<KdcEncryptedData>` builds: an AES256 `EncryptedData` with the same key version
and ciphertext. -/
theorem tryInto_eq_ok {d : EncryptedData} {k : Asn1.EncryptedData} (h : d.tryInto = .ok k) :
    k.etype = EncryptionType.aes256CtsHmacSha196.code ∧
      aes256CtsHmacSha196 k.kvno k.cipher.bytes = d := by
  obtain ⟨kvno, data⟩ := d
  simp only [tryInto, OctetString.new] at h
  split_ifs at h
  cases h
  exact ⟨rfl, rfl⟩

/-- An `EncryptedData` that the library accepts is encoded back as it came. -/
theorem tryInto_of_tryFrom {k : Asn1.EncryptedData} {d : EncryptedData} (h : tryFrom k = .ok d) :
    d.tryInto = .ok k := by
  obtain ⟨etype, kvno, cipher⟩ := k
  rw [tryFrom_eq] at h
  split_ifs at h with he
  cases h
  simp only at he
  simp [tryInto, OctetString.new_bytes, he, EncryptionType.code]

theorem tryFrom_tryInto (d : EncryptedData) (h : d.data.length ≤ Length.max) :
    ∃ e, d.tryInto = .ok e ∧ tryFrom e = .ok d := by
  obtain ⟨kvno, data⟩ := d
  simp only [EncryptedData.data] at h
  exact ⟨⟨18, kvno, ⟨data, h⟩⟩, by simp [tryInto, OctetString.new, h]; rfl, by simp [tryFrom_eq]⟩

end EncryptedData

/-- `Ticket`: the version, the service the ticket is for, and the encrypted part. -/
structure Ticket where
  tktVno : Int8
  service : Name
  encPart : EncryptedData
  deriving DecidableEq

namespace Ticket

/-- `TryFrom<Asn1Ticket> for Ticket`. -/
def tryFrom (tkt : Asn1.Ticket) : Outcome (Except KrbError Ticket) := do
  match ← Name.tryFromPair tkt.sname tkt.realm with
  | .error e => pure (.error e)
  | .ok service =>
    pure do
      let encPart ← EncryptedData.tryFrom tkt.encPart
      pure ⟨tkt.tktVno, service, encPart⟩

/-- `TryInto<Asn1Ticket> for Ticket`. -/
def tryInto (t : Ticket) : Outcome (Except KrbError Asn1.Ticket) := do
  match ← t.service.toRealm with
  | .error e => pure (.error e)
  | .ok realm =>
    match ← t.service.toPrincipalName with
    | .error e => pure (.error e)
    | .ok sname =>
      pure do
        let encPart ← t.encPart.tryInto
        pure ⟨t.tktVno, realm, sname, encPart⟩

/-- A ticket with IA5 names and a ciphertext that `OctetString` accepts survives encoding and
decoding unchanged. -/
theorem tryFrom_tryInto (t : Ticket) (hn : t.service.fields.all isIa5 = true)
    (hc : t.encPart.data.length ≤ Length.max) :
    ∃ a, t.tryInto = .ok (.ok a) ∧ tryFrom a = .ok (.ok t) := by
  have h' := List.all_eq_true.1 hn
  have hr : isIa5 t.service.realm = true :=
    h' _ (List.mem_append_right _ (List.mem_singleton_self _))
  obtain ⟨ks, hks, hv⟩ := Name.mapM_kerberosString h'
  obtain ⟨e, he, he'⟩ := EncryptedData.tryFrom_tryInto t.encPart hc
  refine ⟨⟨t.tktVno, ⟨_, hr⟩, ⟨t.service.nameType, ks⟩, e⟩, ?_, ?_⟩
  · rw [tryInto, Name.toRealm, Name.kerberosString_eq hr, Name.toPrincipalName, hks]
    simp [he]
  · have hp := @Name.tryFromPair_of_components t.service ks ⟨_, hr⟩ [t.service.realm] hv rfl
    simp [tryFrom, hp, he']

/-- Decoding a wire ticket and encoding it back keeps its version, realm and encrypted part, but
writes its service name in the single convention: the components the pair decoder read, then the
realm.  The wire ticket comes back exactly when its service name is already written so. -/
theorem tryInto_tryFrom {a : Asn1.Ticket} {t : Ticket} (h : tryFrom a = .ok (.ok t)) :
    ∃ k, Name.pairArity a.sname.nameType = some k ∧
      t.tryInto = .ok (.ok ⟨a.tktVno, a.realm,
        ⟨a.sname.nameType, a.sname.nameString.take k ++ [a.realm]⟩, a.encPart⟩) ∧
      (t.tryInto = .ok (.ok a) ↔ a.sname.nameString = a.sname.nameString.take k ++ [a.realm]) := by
  obtain ⟨vno, realm, ⟨ty, ns⟩, enc⟩ := a
  unfold tryFrom at h
  rcases hn : Name.tryFromPair ⟨ty, ns⟩ realm with _ | _ | service <;>
    rcases he : EncryptedData.tryFrom enc with _ | e <;> simp [hn, he] at h
  subst h
  obtain ⟨hty, hr, k, hk, -, hc⟩ := Name.tryFromPair_eq_ok hn
  have hf : service.fields = (ns.take k ++ [realm]).map (·.val) := by simp [Name.fields, hc, hr]
  have ht : (Ticket.mk vno service e).tryInto =
      .ok (.ok ⟨vno, realm, ⟨ty, ns.take k ++ [realm]⟩, enc⟩) := by
    rw [tryInto, Name.toRealm, hr, Name.kerberosString_eq realm.ia5, Name.toPrincipalName, hf,
      Name.mapM_kerberosString_val]
    simp [EncryptedData.tryInto_of_tryFrom he, hty]
  exact ⟨k, hk, ht, by simp [ht, eq_comm]⟩

theorem tryInto_tryFrom_srvHst :
    tryFrom ⟨5, ⟨"EXAMPLE.COM", by decide⟩,
        ⟨3, [⟨"host", by decide⟩, ⟨"kdc.example.com", by decide⟩]⟩, ⟨18, none, ⟨[], by decide⟩⟩⟩ =
      .ok (.ok ⟨5, .srvHst "host" "kdc.example.com" "EXAMPLE.COM", .aes256CtsHmacSha196 none []⟩) ∧
    ∃ k, Name.pairArity 3 = some k ∧
      tryInto ⟨5, .srvHst "host" "kdc.example.com" "EXAMPLE.COM", .aes256CtsHmacSha196 none []⟩ =
        .ok (.ok ⟨5, ⟨"EXAMPLE.COM", by decide⟩,
          ⟨3, [⟨"host", by decide⟩, ⟨"kdc.example.com", by decide⟩].take k ++
            [⟨"EXAMPLE.COM", by decide⟩]⟩, ⟨18, none, ⟨[], by decide⟩⟩⟩) ∧
      (tryInto ⟨5, .srvHst "host" "kdc.example.com" "EXAMPLE.COM", .aes256CtsHmacSha196 none []⟩ =
          .ok (.ok ⟨5, ⟨"EXAMPLE.COM", by decide⟩,
            ⟨3, [⟨"host", by decide⟩, ⟨"kdc.example.com", by decide⟩]⟩,
            ⟨18, none, ⟨[], by decide⟩⟩⟩) ↔
        [⟨"host", by decide⟩, ⟨"kdc.example.com", by decide⟩] =
          [⟨"host", by decide⟩, ⟨"kdc.example.com", by decide⟩].take k ++
            [(⟨"EXAMPLE.COM", by decide⟩ : Realm)]) := by
  refine ⟨?h, tryInto_tryFrom ?h⟩
  rfl

/-- Each name decoder inverts its own encoder on IA5 names, and a ticket with IA5 names and a
ciphertext that `OctetString` accepts survives encoding and decoding. -/
theorem name_ticket_roundTrip (n : Name) (hn : n.fields.all isIa5 = true) (t : Ticket)
    (ht : t.service.fields.all isIa5 = true) (hc : t.encPart.data.length ≤ Length.max) :
    (∃ p r, n.toPrincipalNameRealm = .ok (.ok (p, r)) ∧ Name.tryFromPair p r = .ok (.ok n)) ∧
      (∃ p, n.toPrincipalName = .ok (.ok p) ∧ Name.tryFromPrincipalName p = .ok (.ok n)) ∧
      ∃ a, t.tryInto = .ok (.ok a) ∧ tryFrom a = .ok (.ok t) :=
  ⟨Name.tryFromPair_toPrincipalNameRealm n hn, Name.tryFromPrincipalName_toPrincipalName n hn,
    tryFrom_tryInto t ht hc⟩

theorem name_ticket_roundTrip_host :
    (Name.srvHst "host" "kdc.example.com" "EXAMPLE.COM").fields.all isIa5 = true ∧
      (∃ p r, (Name.srvHst "host" "kdc.example.com" "EXAMPLE.COM").toPrincipalNameRealm =
          .ok (.ok (p, r)) ∧
        Name.tryFromPair p r = .ok (.ok (.srvHst "host" "kdc.example.com" "EXAMPLE.COM"))) ∧
      (∃ p, (Name.srvHst "host" "kdc.example.com" "EXAMPLE.COM").toPrincipalName = .ok (.ok p) ∧
        Name.tryFromPrincipalName p = .ok (.ok (.srvHst "host" "kdc.example.com" "EXAMPLE.COM"))) ∧
      ∃ a, tryInto ⟨5, .srvInst "krbtgt" "EXAMPLE.COM", .aes256CtsHmacSha196 none [1, 2, 3]⟩ =
          .ok (.ok a) ∧
        tryFrom a = .ok (.ok ⟨5, .srvInst "krbtgt" "EXAMPLE.COM", .aes256CtsHmacSha196 none [1, 2, 3]⟩) :=
  ⟨by decide, name_ticket_roundTrip (.srvHst "host" "kdc.example.com" "EXAMPLE.COM") (by decide)
    ⟨5, .srvInst "krbtgt" "EXAMPLE.COM", .aes256CtsHmacSha196 none [1, 2, 3]⟩ (by decide) (by decide)⟩

/-- A host service ticket `host/kdc.example.com@EXAMPLE.COM` decodes, and encodes back with the
realm added to its service name's components. -/
theorem ticket_srvHst_reencoded :
    tryFrom ⟨5, ⟨"EXAMPLE.COM", by decide⟩,
        ⟨3, [⟨"host", by decide⟩, ⟨"kdc.example.com", by decide⟩]⟩, ⟨18, none, ⟨[], by decide⟩⟩⟩ =
      .ok (.ok ⟨5, .srvHst "host" "kdc.example.com" "EXAMPLE.COM", .aes256CtsHmacSha196 none []⟩) ∧
    tryInto ⟨5, .srvHst "host" "kdc.example.com" "EXAMPLE.COM", .aes256CtsHmacSha196 none []⟩ =
      .ok (.ok ⟨5, ⟨"EXAMPLE.COM", by decide⟩, ⟨3, [⟨"host", by decide⟩,
        ⟨"kdc.example.com", by decide⟩, ⟨"EXAMPLE.COM", by decide⟩]⟩, ⟨18, none, ⟨[], by decide⟩⟩⟩) :=
  ⟨rfl, rfl⟩

/-- A name of type NT-ENTERPRISE (10) reaches `todo!()` in both name decoders, and a ticket
whose service name has no component reaches `unwrap()` on `None`. -/
theorem name_decoders_panic :
    Name.tryFromPair ⟨10, [⟨"alice@EXAMPLE.COM", by decide⟩]⟩ ⟨"EXAMPLE.COM", by decide⟩ =
        Outcome.todo ∧
      Name.tryFromPrincipalName ⟨10, [⟨"alice@EXAMPLE.COM", by decide⟩]⟩ = Outcome.todo ∧
      tryFrom ⟨5, ⟨"EXAMPLE.COM", by decide⟩, ⟨2, []⟩, ⟨18, none, ⟨[], by decide⟩⟩⟩ =
        .error ⟨"called `Option::unwrap()` on a `None` value"⟩ :=
  ⟨rfl, rfl, rfl⟩

end Ticket

end Libkrimes
