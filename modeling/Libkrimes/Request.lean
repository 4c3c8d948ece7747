import Libkrimes.Name

/-!
# Building and encoding an AS-REQ

`KerberosRequest::build_asreq` (`proto.rs`) collects the client and service names and the
three times of an AS-REQ in a builder; `build` draws a nonce and makes the request.
`KerberosAsReq::to_asn` turns the request into the wire `KDC-REQ`, and `KerberosRequest::to_der`
encodes that under its application tag.

`to_asn` returns a `KdcReq`, not a `Result`: it builds each name component with
`Ia5String::new(..).unwrap()` and each time with `KerberosTime::from_system_time(..).expect(..)`.
A name outside the IA5 charset, or a time that `KerberosTime` cannot represent, is therefore a
panic rather than the `der::Error` that `to_der` can return.  The realm is always `EXAMPLE.COM`,
and the service name is `service/EXAMPLE.COM`.  The panics are stated in `Libkrimes.Codec`
(`KerberosTcpCodec.request_encoders_panic`).
-/

namespace Libkrimes

/-- `KerberosAsReqBuilder`. -/
structure KerberosAsReqBuilder where
  clientName : String
  serviceName : String
  «from» : Option SystemTime
  «until» : SystemTime
  renew : Option SystemTime

/-- `KerberosAsReq`. -/
structure KerberosAsReq where
  nonce : UInt32
  clientName : String
  serviceName : String
  «from» : Option SystemTime
  «until» : SystemTime
  renew : Option SystemTime

/-- `KerberosRequest`. -/
inductive KerberosRequest where
  | asReq (req : KerberosAsReq)

/-- `KerberosRequest::build_asreq`. -/
def KerberosRequest.buildAsreq (clientName serviceName : String) («from» : Option SystemTime)
    («until» : SystemTime) (renew : Option SystemTime) : KerberosAsReqBuilder :=
  ⟨clientName, serviceName, «from», «until», renew⟩

/-- `KerberosAsReqBuilder::build`, given the nonce that `thread_rng().gen()` draws. -/
def KerberosAsReqBuilder.build (b : KerberosAsReqBuilder) (nonce : UInt32) : KerberosRequest :=
  .asReq ⟨nonce, b.clientName, b.serviceName, b.«from», b.«until», b.renew⟩

namespace KerberosAsReq

/-- `KerberosTime::from_system_time(t).expect(..)`. -/
def kerberosTime (asn1 : Asn1Lib) (t : SystemTime) : Outcome KerberosTime :=
  Outcome.expect "Failed to build KerberosTime from SystemTime" (asn1.kerberosTimeFromSystemTime t)

/-- `KerberosAsReq::to_asn`, evaluating the fields in the order of the struct literal.
`FlagSet::new(0b0)` accepts the empty flag set, so its `expect` never fires. -/
def toAsn (asn1 : Asn1Lib) (r : KerberosAsReq) : Outcome Asn1.KdcReq := do
  let client ← Name.kerberosString r.clientName
  let realm ← Name.kerberosString "EXAMPLE.COM"
  let service ← Name.kerberosString r.serviceName
  let serviceRealm ← Name.kerberosString "EXAMPLE.COM"
  let «from» ← r.«from».mapM (kerberosTime asn1)
  let till ← kerberosTime asn1 r.«until»
  let rtime ← r.renew.mapM (kerberosTime asn1)
  pure ⟨5, KrbMessageType.krbAsReq.code, none,
    ⟨0, some ⟨1, [client]⟩, realm, some ⟨2, [service, serviceRealm]⟩, «from», till, rtime,
      r.nonce, [EncryptionType.aes256CtsHmacSha196.code]⟩⟩

end KerberosAsReq

/-- `KerberosRequest::to_der`. -/
def KerberosRequest.toDer (asn1 : Asn1Lib) : KerberosRequest → Outcome (Except DerError Bytes)
  | .asReq r => do
    let req ← r.toAsn asn1
    pure (asn1.krbKdcReqToDer (.asReq req))

end Libkrimes
