import Libkrimes.Constants

/-!
# Wire structures and the ASN.1 collaborator

The typed structures of `crate::asn1` (RFC 4120's ASN.1 types), as the code reads and builds
them, and the collaborator that encodes and decodes them.  The DER library is outside the
model: `Asn1Lib` gathers the decoders, the encoder and the conversions the code calls, and
every result about decoding holds for every `Asn1Lib`.

String and octet-string values carry the check their constructor makes (`Ia5String::new`,
`OctetString::new`), so a decoded value always satisfies it.  The wire structures
(`Asn1.PrincipalName`, `Asn1.KdcRep`, `Asn1.KrbError`, `Asn1.KdcReq` and the rest) keep the
fields the code reads or sets.  A `der::Error` prints, in a panic message, as der's derived
`Debug` does (`DerError.debug`).
-/

namespace Libkrimes

/-- der's `Length::MAX`: the largest length a DER value may have. -/
def Length.max : Nat := 0x0FFFFFFF

/-- `der::Tag`, by class. -/
inductive Tag where
  | universal (number : Nat)
  | application (constructed : Bool) (number : Nat)
  | contextSpecific (constructed : Bool) (number : Nat)
  | privateTag (constructed : Bool) (number : Nat)
  deriving Repr, DecidableEq

/-- `der::Error`, by the kinds the model tells apart. -/
inductive DerError where
  | tagUnexpected (expected : Option Tag) (actual : Tag)
  | overflow
  | value (tag : Tag)
  /-- `ErrorKind::DateTime`: a time that a `GeneralizedTime` cannot hold. -/
  | dateTime
  /-- Any other kind of decoding failure. -/
  | malformed
  deriving Repr, DecidableEq

/-- The variant of der's `Tag` for a universal tag number.  The numbers without a variant are
not decoded by der; they print as the number. -/
def Tag.universalName : Nat → String
  | 1 => "Boolean" | 2 => "Integer" | 3 => "BitString" | 4 => "OctetString" | 5 => "Null"
  | 6 => "ObjectIdentifier" | 9 => "Real" | 10 => "Enumerated" | 12 => "Utf8String"
  | 16 => "Sequence" | 17 => "Set" | 18 => "NumericString" | 19 => "PrintableString"
  | 20 => "TeletexString" | 21 => "VideotexString" | 22 => "Ia5String" | 23 => "UtcTime"
  | 24 => "GeneralizedTime" | 26 => "VisibleString" | 30 => "BmpString"
  | n => toString n

/-- The fields of a tag outside the universal class, as der's derived `Debug` prints them. -/
def Tag.classDebug (cls : String) (constructed : Bool) (number : Nat) : String :=
  cls ++ " \x7b constructed: " ++ toString constructed ++ ", number: TagNumber(" ++
    toString number ++ ") \x7d"

/-- `{:?}` on a `der::Tag`. -/
def Tag.debug : Tag → String
  | .universal n => Tag.universalName n
  | .application c n => Tag.classDebug "Application" c n
  | .contextSpecific c n => Tag.classDebug "ContextSpecific" c n
  | .privateTag c n => Tag.classDebug "Private" c n

/-- `{:?}` on a `der::ErrorKind`.  `malformed` stands for der's other kinds and prints as the
generic `Failed`. -/
def DerError.kindDebug : DerError → String
  | .tagUnexpected expected actual =>
    "TagUnexpected \x7b expected: " ++
      (expected.map fun t => "Some(" ++ t.debug ++ ")").getD "None" ++
      ", actual: " ++ actual.debug ++ " \x7d"
  | .overflow => "Overflow"
  | .value tag => "Value \x7b tag: " ++ tag.debug ++ " \x7d"
  | .dateTime => "DateTime"
  | .malformed => "Failed"

/-- `{:?}` on a `der::Error`, as its derived `Debug` prints it.  The model keeps no position:
the errors a panic prints here are made without one. -/
def DerError.debug (e : DerError) : String :=
  "Error \x7b kind: " ++ e.kindDebug ++ ", position: None \x7d"

instance : RustDebug DerError := ⟨DerError.debug⟩

/-- The check of `Ia5String::new`: every byte is ASCII and the length is a DER length. -/
def isIa5 (s : String) : Bool :=
  s.data.all (fun c => c.toNat < 0x80) && decide (s.utf8ByteSize ≤ Length.max)

/-- `der::asn1::Ia5String`. -/
structure Ia5String where
  /-- The characters. -/
  val : String
  ia5 : isIa5 val = true
  deriving DecidableEq

/-- `Ia5String::new`. -/
def Ia5String.new (s : String) : Except DerError Ia5String :=
  if h : isIa5 s then .ok ⟨s, h⟩ else .error (.value (.universal 22))

theorem Ia5String.new_eq_ok {s : String} {a : Ia5String} : Ia5String.new s = .ok a ↔ a.val = s := by
  unfold Ia5String.new
  split
  · constructor
    · rintro ⟨⟩; rfl
    · intro h; cases a; subst h; rfl
  · constructor
    · rintro ⟨⟩
    · intro h; cases a; subst h; contradiction

theorem Ia5String.new_val (a : Ia5String) : Ia5String.new a.val = .ok a :=
  Ia5String.new_eq_ok.2 rfl

/-- `KerberosString(Ia5String)`: the newtype adds nothing to the value. -/
abbrev KerberosString := Ia5String

/-- `Realm`, a `KerberosString`. -/
abbrev Realm := KerberosString

/-- `der::asn1::OctetString`. -/
structure OctetString where
  /-- The octets. -/
  bytes : Bytes
  len_le : bytes.length ≤ Length.max
  deriving DecidableEq

/-- `OctetString::new`. -/
def OctetString.new (b : Bytes) : Except DerError OctetString :=
  if h : b.length ≤ Length.max then .ok ⟨b, h⟩ else .error .overflow

theorem OctetString.new_bytes (o : OctetString) : OctetString.new o.bytes = .ok o := by
  simp [OctetString.new, o.len_le]

/-- `SystemTime`, as an offset in nanoseconds from the Unix epoch. -/
structure SystemTime where
  /-- Nanoseconds since `UNIX_EPOCH` (negative before it). -/
  sinceEpoch : Int
  deriving Repr, DecidableEq

/-- `KerberosTime`, a `GeneralizedTime` in whole seconds. -/
structure KerberosTime where
  /-- Seconds since the Unix epoch. -/
  unixSecs : Nat
  deriving Repr, DecidableEq

/-- `GeneralizedTime::to_system_time`: the time as nanoseconds since the Unix epoch. -/
def KerberosTime.toSystemTime (t : KerberosTime) : SystemTime := ⟨t.unixSecs * 1000000000⟩

namespace Asn1

/-- `PrincipalName`: a name type and the components of the name. -/
structure PrincipalName where
  nameType : Int
  nameString : List KerberosString
  deriving DecidableEq

/-- `EncryptedData`: an encryption type, an optional key version and the ciphertext. -/
structure EncryptedData where
  etype : Int
  kvno : Option UInt32
  cipher : OctetString
  deriving DecidableEq

/-- `PA-DATA`: a pre-authentication type and its opaque value. -/
structure PaData where
  padataType : UInt32
  padataValue : OctetString
  deriving DecidableEq

/-- One entry of an `ETYPE-INFO2` sequence. -/
structure ETypeInfo2Entry where
  etype : Int
  salt : Option KerberosString
  s2kparams : Option OctetString
  deriving DecidableEq

/-- `Ticket`, the content of `TaggedTicket` (the tag adds nothing to the value). -/
structure Ticket where
  tktVno : Int8
  realm : Realm
  sname : PrincipalName
  encPart : EncryptedData
  deriving DecidableEq

/-- `KDC-REP`, with the fields the reply conversions read. -/
structure KdcRep where
  pvno : UInt8
  msgType : UInt8
  crealm : Realm
  cname : PrincipalName
  encPart : EncryptedData

/-- `KRB-ERROR`, with the fields the error conversion reads. -/
structure KrbError where
  pvno : UInt8
  msgType : UInt8
  errorCode : Int
  errorData : Option OctetString

/-- `EncryptionKey`: a key type and the key's bytes. -/
structure EncryptionKey where
  keyType : Int
  keyValue : OctetString

/-- `EncKDCRepPart`, with the fields the reply conversion reads. -/
structure EncKdcRepPart where
  key : EncryptionKey
  nonce : UInt32
  keyExpiration : Option KerberosTime
  flags : UInt32
  authTime : KerberosTime
  startTime : Option KerberosTime
  endTime : KerberosTime
  renewTill : Option KerberosTime
  serverRealm : Realm
  serverName : PrincipalName

/-- `PA-ENC-TS-ENC`: a time, and optionally its microseconds. -/
structure PaEncTsEnc where
  patimestamp : KerberosTime
  pausec : Option UInt32

/-- `KDC-REQ-BODY`, with the fields an AS-REQ sets. -/
structure KdcReqBody where
  kdcOptions : UInt32
  cname : Option PrincipalName
  realm : Realm
  sname : Option PrincipalName
  «from» : Option KerberosTime
  till : KerberosTime
  rtime : Option KerberosTime
  nonce : UInt32
  etype : List Int

/-- `KDC-REQ`. -/
structure KdcReq where
  pvno : UInt8
  msgType : UInt8
  padata : Option (List PaData)
  reqBody : KdcReqBody

/-- `KrbKdcReq`: a `KDC-REQ` under its application tag. -/
inductive KrbKdcReq where
  | asReq (req : KdcReq)
  | tgsReq (req : KdcReq)

end Asn1

/-- The crate's `asn1` module, which is not part of the source: the DER decoders and encoder
the code calls, and two conversions.  A decoder returns what `decode` or `from_der` returns
on the bytes it is given; every field defaults to rejecting its input. -/
structure Asn1Lib where
  /-- `der::Tag::decode`: the next tag, and the bytes after it. -/
  decodeTag : Bytes → Except DerError (Tag × Bytes) := fun _ => .error .malformed
  /-- `der::Length::decode`: the next length, and the bytes after it. -/
  decodeLength : Bytes → Except DerError (Nat × Bytes) := fun _ => .error .malformed
  /-- `KdcRep::decode`. -/
  decodeKdcRep : Bytes → Except DerError Asn1.KdcRep := fun _ => .error .malformed
  /-- `KrbError::decode`. -/
  decodeKrbError : Bytes → Except DerError Asn1.KrbError := fun _ => .error .malformed
  /-- `MethodData::from_der`: a sequence of PA-DATA. -/
  methodDataFromDer : Bytes → Except DerError (List Asn1.PaData) := fun _ => .error .malformed
  /-- `ETypeInfo2::from_der`: a sequence of `ETYPE-INFO2` entries. -/
  etypeInfo2FromDer : Bytes → Except DerError (List Asn1.ETypeInfo2Entry) :=
    fun _ => .error .malformed
  /-- `EncryptedData::from_der`. -/
  encryptedDataFromDer : Bytes → Except DerError Asn1.EncryptedData := fun _ => .error .malformed
  /-- `KrbKdcReq::to_der`. -/
  krbKdcReqToDer : Asn1.KrbKdcReq → Except DerError Bytes := fun _ => .error .malformed
  /-- `KerberosTime::from_system_time`. -/
  kerberosTimeFromSystemTime : SystemTime → Except DerError KerberosTime :=
    fun _ => .error .malformed
  /-- `TaggedEncKdcRepPart::from_der`, under either of its two tags. -/
  encKdcRepPartFromDer : Bytes → Except DerError Asn1.EncKdcRepPart := fun _ => .error .malformed
  /-- `PaEncTsEnc::from_der`. -/
  paEncTsEncFromDer : Bytes → Except DerError Asn1.PaEncTsEnc := fun _ => .error .malformed
  /-- `PaEncTsEnc::to_der`. -/
  paEncTsEncToDer : Asn1.PaEncTsEnc → Except DerError Bytes := fun _ => .error .malformed
  /-- `From<PrincipalName> for String`. -/
  principalNameToString : Asn1.PrincipalName → String := fun _ => ""

end Libkrimes
