import Libkrimes.Request
import Libkrimes.Ticket

/-!
# Record marking on the TCP stream

`KerberosTcpCodec::encode` (`lib.rs`) encodes a request with `to_der`, writes the DER bytes
through an `xdr_codec::record::XdrRecordWriter` over the output buffer, and calls
`flush_eor(false)`, so that no fragment carries the last-fragment bit, which the MIT KDC reads
as part of the length.

The record writer is not part of the source; it is modelled from the `xdr-codec` crate the code
depends on.  It collects the bytes written in a fragment of at most `WRBUF` (64 KiB) bytes; a
chunk that does not fit first sends the fragment collected so far, without the last-fragment bit;
`flush_eor(eor)` sends the fragment, with the bit if `eor` (an empty fragment is not sent without
it); and when the writer is dropped with a fragment still collected, or with its record still
open, it sends the fragment with the bit.

Writing from an empty fragment and flushing sends the data as `recordFragments`: chunks of at
most `bufsz` bytes, each after its length as a big-endian header without the last-fragment bit
(`XdrRecordWriter.flush_write`).  So `encode` leaves the fragments of the DER bytes in the
buffer, followed by the empty fragment `80 00 00 00` with the last-fragment bit, which the
writer sends when it is dropped at the end of `encode`, after the explicit `flush_eor(false)`
(`KerberosTcpCodec.encode_eq`).  A request of more than `WRBUF` bytes is split
(`KerberosTcpCodec.encode_not_single_fragment`), and the fragments of the DER bytes start the
output (`KerberosTcpCodec.encode_writes_record_fragments`).

A reader that follows RFC 1831 reads the DER bytes back from that output as one record
(`readRecord_recordFragments`, `KerberosTcpCodec.encode_readRecord`).  A KDC that reads the
stream with the framing of RFC 4120 (`readKrbTcp`, a length word then the message) reads the
request when it has at most `WRBUF` bytes, only its first `WRBUF` bytes otherwise, and then
rejects the `80 00 00 00` the writer sent on drop (`KerberosTcpCodec.encode_readKrbTcp`).  A
name outside the IA5 charset, or a time the DER layer rejects, is a panic of `to_der` and
`encode`, not an error (`KerberosTcpCodec.request_encoders_panic`).

The codec's `decode` is `todo!()`, and `encode`'s check `buf.len() <= self.max_size` is made on
the empty buffer, so the maximum size bounds nothing.
-/

namespace Libkrimes

/-- `xdr_codec::record::WRBUF`, the size of the writer's fragment buffer. -/
def wrbuf : Nat := 65536

/-- The record-marking fragments of `data` in chunks of `n` bytes, none marked as the record's
last: each chunk after its length as a big-endian `u32`. -/
def recordFragments (n : Nat) (hn : 0 < n) : Bytes → Bytes
  | [] => []
  | b :: bs =>
    be32 (UInt32.ofNat ((b :: bs).take n).length) ++ (b :: bs).take n ++
      recordFragments n hn ((b :: bs).drop n)
termination_by data => data.length
decreasing_by simp only [List.length_drop, List.length_cons]; omega

theorem recordFragments_cons (n : Nat) (hn : 0 < n) (b : UInt8) (bs : Bytes) :
    recordFragments n hn (b :: bs) =
      be32 (UInt32.ofNat ((b :: bs).take n).length) ++ (b :: bs).take n ++
        recordFragments n hn ((b :: bs).drop n) := by
  rw [recordFragments]

/-- A record-marking reader that follows RFC 1831 §10: it reads fragments, each after a
four-byte big-endian header whose high bit marks the record's last fragment and whose low 31
bits give the fragment's length, up to the last one.  It returns the record and the bytes after
it, and nothing if the input ends first. -/
def readRecord : Bytes → Option (Bytes × Bytes)
  | b₀ :: b₁ :: b₂ :: b₃ :: rest =>
    let hdr := (u32FromBeBytes b₀ b₁ b₂ b₃).toNat
    let len := hdr % 0x80000000
    if rest.length < len then none
    else if hdr < 0x80000000 then
      (readRecord (rest.drop len)).map fun (data, after) => (rest.take len ++ data, after)
    else some (rest.take len, rest.drop len)
  | _ => none
termination_by bytes => bytes.length
decreasing_by simp only [List.length_drop, List.length_cons]; omega

/-- Reading back the record fragments of `data`, followed by an empty last fragment, gives
`data`, whatever follows. -/
theorem readRecord_recordFragments (n : Nat) (hn : 0 < n) (hn' : n < 0x80000000)
    (data tail : Bytes) :
    readRecord (recordFragments n hn data ++ [0x80, 0, 0, 0] ++ tail) = some (data, tail) := by
  induction data using recordFragments.induct n hn with
  | case1 =>
    have h : (u32FromBeBytes 0x80 0 0 0).toNat = 0x80000000 := rfl
    simp [recordFragments, readRecord, h]
  | case2 b bs ih =>
    have hlen : ((b :: bs).take n).length < 0x80000000 := by
      simp only [List.length_take]; omega
    have hx : (UInt32.ofNat ((b :: bs).take n).length).toNat = ((b :: bs).take n).length :=
      UInt32.toNat_ofNat_of_lt (show _ < 4294967296 by omega)
    rw [recordFragments_cons]
    simp only [be32, List.cons_append, List.nil_append, List.append_assoc]
    rw [readRecord, u32FromBeBytes_be32]
    simp only [List.append_assoc, List.cons_append, List.nil_append] at ih
    simp only [hx, Nat.mod_eq_of_lt hlen, hlen, if_true, List.length_append, List.take_left,
      List.drop_left, ih, Option.map_some', List.take_append_drop]
    rw [if_neg (by omega)]

/-- `XdrRecordWriter` over `BytesMut::writer()`: the fragment being collected, the maximum
fragment size, whether the last fragment sent ended a record, and the bytes of the buffer
written to.  A fragment never exceeds the maximum size. -/
@[ext]
structure XdrRecordWriter where
  buf : Bytes
  bufsz : Nat
  eor : Bool
  writer : Bytes
  bufsz_pos : 0 < bufsz
  buf_le : buf.length ≤ bufsz

namespace XdrRecordWriter

/-- `XdrRecordWriter::new(w)`: an empty fragment of `WRBUF` bytes over `w`. -/
def new (w : Bytes) : XdrRecordWriter := ⟨[], wrbuf, false, w, by decide, Nat.zero_le _⟩

/-- The record-marking header of a fragment: its length as a `u32`, with the high bit set if
the fragment ends the record. -/
def header (len : Nat) (eor : Bool) : UInt32 :=
  if eor then UInt32.ofNat len ||| (1 : UInt32) <<< 31 else UInt32.ofNat len

/-- `XdrRecordWriter::flush_eor`: send the fragment collected, with the last-fragment bit if
`eor`; without it, an empty fragment is not sent. -/
def flushEor (w : XdrRecordWriter) (eor : Bool) : XdrRecordWriter :=
  if !eor && w.buf.length == 0 then w
  else
    { w with
      buf := []
      eor := eor
      writer := w.writer ++ be32 (header w.buf.length eor) ++ w.buf
      buf_le := Nat.zero_le _ }

/-- `<XdrRecordWriter as Write>::flush`. -/
def flush (w : XdrRecordWriter) : XdrRecordWriter := w.flushEor false

@[simp] theorem flushEor_buf (w : XdrRecordWriter) (eor : Bool) : (w.flushEor eor).buf = [] := by
  unfold flushEor
  split_ifs with h
  · simp only [Bool.and_eq_true, Bool.not_eq_true', beq_iff_eq, List.length_eq_zero] at h
    exact h.2
  · rfl

@[simp] theorem flushEor_bufsz (w : XdrRecordWriter) (eor : Bool) :
    (w.flushEor eor).bufsz = w.bufsz := by
  unfold flushEor; split_ifs <;> rfl

/-- `self.buf.extend(chunk)`. -/
def push (w : XdrRecordWriter) (chunk : Bytes) (h : w.buf.length + chunk.length ≤ w.bufsz) :
    XdrRecordWriter :=
  { w with buf := w.buf ++ chunk, buf_le := by simpa using h }

/-- After a flush, any chunk of at most `bufsz` bytes fits. -/
theorem flush_fits (w : XdrRecordWriter) {chunk : Bytes} (hc : chunk.length ≤ w.bufsz) :
    w.flush.buf.length + chunk.length ≤ w.flush.bufsz := by
  rw [flush, flushEor_buf, flushEor_bufsz, List.length_nil, Nat.zero_add]
  exact hc

/-- One turn of the loop of `write`: a chunk that does not fit in the fragment collected first
flushes it. -/
def pushChunk (w : XdrRecordWriter) (chunk : Bytes) (hc : chunk.length ≤ w.bufsz) :
    XdrRecordWriter :=
  if h : w.bufsz < w.buf.length + chunk.length then
    w.flush.push chunk (flush_fits w hc)
  else w.push chunk (by omega)

/-- `<XdrRecordWriter as Write>::write`, in chunks of at most `bufsz` bytes.  The buffer
written to accepts every write, so the whole input is written, and `write_all` is one call. -/
def write (w : XdrRecordWriter) : Bytes → XdrRecordWriter
  | [] => w
  | b :: bs =>
    (w.pushChunk ((b :: bs).take w.bufsz) (List.length_take_le _ _)).write ((b :: bs).drop w.bufsz)
termination_by data => data.length
decreasing_by
  have := w.bufsz_pos
  simp only [List.length_drop, List.length_cons]
  omega

/-- `<XdrRecordWriter as Drop>::drop`: a fragment still collected, or a record still open, is
sent with the last-fragment bit. -/
def drop (w : XdrRecordWriter) : XdrRecordWriter :=
  if w.buf.length > 0 || !w.eor then w.flushEor true else w

/-! ### Step and run lemmas -/

theorem flushEor_false_of_buf_eq_nil (w : XdrRecordWriter) (h : w.buf = []) :
    w.flushEor false = w := by
  simp [flushEor, h]

@[simp] theorem push_buf (w : XdrRecordWriter) (chunk : Bytes) (h) :
    (w.push chunk h).buf = w.buf ++ chunk := rfl

@[simp] theorem push_bufsz (w : XdrRecordWriter) (chunk : Bytes) (h) :
    (w.push chunk h).bufsz = w.bufsz := rfl

/-- Flushing after a push onto an empty fragment sends the chunk as one fragment without the
last-fragment bit. -/
theorem flush_push (w : XdrRecordWriter) (chunk : Bytes) (h) (hb : w.buf = [])
    (hc : chunk ≠ []) :
    (w.push chunk h).flush =
      { w with
        buf := []
        eor := false
        writer := w.writer ++ be32 (UInt32.ofNat chunk.length) ++ chunk
        buf_le := Nat.zero_le _ } := by
  simp [flush, flushEor, push, hb, hc, header]

/-- A turn of the loop from an empty or a full fragment, with a non-empty chunk, flushes the
fragment and starts a new one with the chunk. -/
theorem pushChunk_eq (w : XdrRecordWriter) (chunk : Bytes) (hc : chunk.length ≤ w.bufsz)
    (hw : w.buf = [] ∨ w.buf.length = w.bufsz) (hne : chunk ≠ []) :
    w.pushChunk chunk hc = w.flush.push chunk (flush_fits w hc) := by
  have hpos : 0 < chunk.length := List.length_pos.2 hne
  unfold pushChunk
  split_ifs with h
  · rfl
  · have hb : w.buf = [] := by rcases hw with hw | hw <;> simp_all
    simp only [flush, flushEor_false_of_buf_eq_nil w hb]

@[simp] theorem flush_buf (w : XdrRecordWriter) : w.flush.buf = [] := flushEor_buf w false

@[simp] theorem flush_bufsz (w : XdrRecordWriter) : w.flush.bufsz = w.bufsz :=
  flushEor_bufsz w false

theorem flush_eor (w : XdrRecordWriter) (he : w.eor = false) : w.flush.eor = false := by
  unfold flush flushEor; split_ifs <;> simp [he]

theorem write_cons (w : XdrRecordWriter) (b : UInt8) (bs : Bytes) :
    w.write (b :: bs) =
      (w.pushChunk ((b :: bs).take w.bufsz) (List.length_take_le _ _)).write
        ((b :: bs).drop w.bufsz) := by
  rw [write]

/-- Writing from an empty or a full fragment of `n` bytes, then flushing, sends the fragment
collected before and then the record fragments of the data. -/
theorem flush_write (n : Nat) (hn : 0 < n) (data : Bytes) :
    ∀ w : XdrRecordWriter, w.bufsz = n → (data ≠ [] → w.buf = [] ∨ w.buf.length = n) →
      w.eor = false →
      (w.write data).flush =
        { w.flush with writer := w.flush.writer ++ recordFragments n hn data } := by
  induction data using recordFragments.induct n hn with
  | case1 => intro w _ _ _; ext <;> simp [write, recordFragments]
  | case2 b bs ih =>
    intro w hwn hw he
    subst hwn
    have hne : (b :: bs).take w.bufsz ≠ [] := by simp [List.take_eq_nil_iff]; omega
    have hfull : (b :: bs).drop w.bufsz ≠ [] → ((b :: bs).take w.bufsz).length = w.bufsz := by
      simp only [ne_eq, List.drop_eq_nil_iff, not_le, List.length_take]; omega
    rw [write_cons, pushChunk_eq _ _ _ (hw (List.cons_ne_nil _ _)) hne,
      ih (w.flush.push _ _) (by simp) (fun h => Or.inr (by simpa using hfull h))
        (by simpa [push] using flush_eor w he),
      flush_push w.flush _ _ (flushEor_buf _ _) hne]
    ext <;> simp [recordFragments_cons, flush_eor w he]

/-- Dropping a writer with no fragment collected and its record open sends the empty last
fragment. -/
theorem drop_writer (w : XdrRecordWriter) (hb : w.buf = []) (he : w.eor = false) :
    w.drop.writer = w.writer ++ [0x80, 0, 0, 0] := by
  simp [drop, flushEor, hb, he]
  rfl

end XdrRecordWriter

/-- `DEFAULT_MAX_SIZE`. -/
def defaultMaxSize : Nat := 32 * 1024

/-- `KerberosTcpCodec`. -/
structure KerberosTcpCodec where
  maxSize : Nat

/-- `std::io::ErrorKind`, with the kind the codec uses. -/
inductive IoErrorKind where
  | invalidInput

/-- `std::io::Error::new(kind, e)` around a DER error. -/
structure IoError where
  kind : IoErrorKind
  error : DerError

namespace KerberosTcpCodec

/-- `<KerberosTcpCodec as Default>::default`. -/
def default : KerberosTcpCodec := ⟨defaultMaxSize⟩

/-- `<KerberosTcpCodec as Decoder>::decode`, which is `todo!()`. -/
def decode (_codec : KerberosTcpCodec) (_buf : Bytes) : Outcome (Option KerberosRequest × Bytes) :=
  Outcome.todo

/-- `<KerberosTcpCodec as Encoder<KerberosRequest>>::encode` on the buffer `buf`: the result,
and the buffer once the record writer has been dropped at the end of the call. -/
def encode (codec : KerberosTcpCodec) (asn1 : Asn1Lib) (msg : KerberosRequest) (buf : Bytes) :
    Outcome (Except IoError Unit × Bytes) := do
  Outcome.debugAssert buf.isEmpty "buf.is_empty()"
  match ← msg.toDer asn1 with
  | .error e => pure (.error ⟨.invalidInput, e⟩, buf)
  | .ok derBytes =>
    Outcome.debugAssert (decide (buf.length ≤ codec.maxSize)) "buf.len() <= self.max_size"
    let w := (XdrRecordWriter.new buf).write derBytes
    let w := w.flushEor false
    pure (.ok (), w.drop.writer)

/-- On an empty buffer, `encode` leaves the record fragments of the DER bytes, in chunks of
`WRBUF` bytes, followed by the empty fragment with the last-fragment bit. -/
theorem encode_eq (codec : KerberosTcpCodec) (asn1 : Asn1Lib) (msg : KerberosRequest) {b : Bytes}
    (h : msg.toDer asn1 = .ok (.ok b)) :
    codec.encode asn1 msg [] =
      .ok (.ok (), recordFragments wrbuf (by decide) b ++ [0x80, 0, 0, 0]) := by
  have hw : ((XdrRecordWriter.new []).write b).flushEor false = _ :=
    XdrRecordWriter.flush_write wrbuf (by decide) b (XdrRecordWriter.new []) rfl
      (fun _ => Or.inl rfl) rfl
  simp only [encode, h, Outcome.debugAssert, List.isEmpty_nil, List.length_nil, Nat.zero_le,
    decide_True, if_true, except_ok_bind, except_pure]
  rw [XdrRecordWriter.drop_writer _ (XdrRecordWriter.flushEor_buf _ _) ?he, hw]
  · rfl
  · rw [hw]; exact XdrRecordWriter.flush_eor _ rfl

theorem encode_of_toDer_error (codec : KerberosTcpCodec) (asn1 : Asn1Lib) (msg : KerberosRequest)
    {e : DerError} (h : msg.toDer asn1 = .ok (.error e)) :
    codec.encode asn1 msg [] = .ok (.error ⟨.invalidInput, e⟩, []) := by
  simp [encode, h, Outcome.debugAssert]

theorem encode_of_toDer_panic (codec : KerberosTcpCodec) (asn1 : Asn1Lib) (msg : KerberosRequest)
    {p : Panic} (h : msg.toDer asn1 = .error p) : codec.encode asn1 msg [] = .error p := by
  simp [encode, h, Outcome.debugAssert]

/-- A DER layer whose encoder returns `der` for every request, and which converts every time. -/
def fixedDer (der : Bytes) : Asn1Lib :=
  { krbKdcReqToDer := fun _ => .ok der
    kerberosTimeFromSystemTime := fun t => .ok ⟨t.sinceEpoch.toNat / 1000000000⟩ }

/-- The DER bytes of a request are not sent as one fragment: beyond `WRBUF` bytes the record
writer splits them, and a request encoded as 65537 bytes starts with a fragment of 65536. -/
theorem encode_not_single_fragment :
    ¬ ∀ (codec : KerberosTcpCodec) (asn1 : Asn1Lib) (r : KerberosRequest) (b : Bytes),
      r.toDer asn1 = .ok (.ok b) → b.length < 0x80000000 →
      codec.encode asn1 r [] = .ok (.ok (), be32 (UInt32.ofNat b.length) ++ b) := by
  intro h
  have hd : ((KerberosRequest.buildAsreq "testuser" "krbtgt" none ⟨0⟩ none).build 0).toDer
      (fixedDer (List.replicate 65537 0)) = .ok (.ok (List.replicate 65537 0)) := rfl
  have he := (h default _ _ _ hd (by rw [List.length_replicate]; decide)).symm.trans
    (encode_eq default _ _ hd)
  simp only [Except.ok.injEq, Prod.mk.injEq, true_and, List.length_replicate] at he
  have hl : ∀ (x : UInt32) (y : Bytes), (be32 x ++ y).take 4 = be32 x :=
    fun x y => List.take_left' (length_be32 x)
  have h4 := congrArg (List.take 4) he
  rw [hl, show List.replicate 65537 (0 : UInt8) = 0 :: List.replicate 65536 0 from rfl,
    recordFragments_cons, List.append_assoc, List.append_assoc, hl, List.length_take,
    List.length_cons, List.length_replicate] at h4
  exact absurd h4 (by decide)

/-- On an empty buffer, `encode` returns `Ok`, and the buffer starts with the record fragments of
the DER bytes: chunks of `WRBUF` bytes, each after its length as a header without the
last-fragment bit.  A request of at most `WRBUF` bytes is one fragment. -/
theorem encode_writes_record_fragments (codec : KerberosTcpCodec) (asn1 : Asn1Lib)
    (r : KerberosRequest) {b : Bytes} (h : r.toDer asn1 = .ok (.ok b)) :
    (∃ rest, codec.encode asn1 r [] = .ok (.ok (), recordFragments wrbuf (by decide) b ++ rest)) ∧
      (b ≠ [] → b.length ≤ wrbuf →
        recordFragments wrbuf (by decide) b = be32 (UInt32.ofNat b.length) ++ b) := by
  refine ⟨⟨_, encode_eq codec asn1 r h⟩, fun hne hle => ?_⟩
  obtain ⟨c, cs, rfl⟩ := List.exists_cons_of_ne_nil hne
  rw [recordFragments_cons, List.take_of_length_le hle, List.drop_of_length_le hle]
  simp [recordFragments]

theorem encode_writes_record_fragments_short :
    (∃ rest, default.encode (fixedDer [0x30, 0])
        ((KerberosRequest.buildAsreq "testuser" "krbtgt" none ⟨0⟩ none).build 0) [] =
      .ok (.ok (), recordFragments wrbuf (by decide) [0x30, 0] ++ rest)) ∧
      ([0x30, 0] ≠ ([] : Bytes) → [0x30, 0].length ≤ wrbuf →
        recordFragments wrbuf (by decide) [0x30, 0] = be32 (UInt32.ofNat 2) ++ [0x30, 0]) :=
  encode_writes_record_fragments default _ _ rfl

/-- What `encode` leaves in an empty buffer is one RFC 1831 record carrying the DER bytes: a
reader that follows the RFC reads them back.  The record ends with the empty fragment
`80 00 00 00`, whose last-fragment bit is set. -/
theorem encode_readRecord (codec : KerberosTcpCodec) (asn1 : Asn1Lib) (r : KerberosRequest)
    {b : Bytes} (h : r.toDer asn1 = .ok (.ok b)) :
    ∃ out, codec.encode asn1 r [] = .ok (.ok (), out) ∧ readRecord out = some (b, []) ∧
      out.drop (out.length - 4) = [0x80, 0, 0, 0] := by
  refine ⟨_, encode_eq codec asn1 r h, ?_, ?_⟩
  · simpa using readRecord_recordFragments wrbuf (by decide) (by decide) b []
  · simp

theorem encode_readRecord_short :
    ∃ out, default.encode (fixedDer [0x30, 0])
        ((KerberosRequest.buildAsreq "testuser" "krbtgt" none ⟨0⟩ none).build 0) [] =
      .ok (.ok (), out) ∧ readRecord out = some ([0x30, 0], []) ∧
      out.drop (out.length - 4) = [0x80, 0, 0, 0] :=
  encode_readRecord default _ _ rfl

/-- A client name outside the IA5 charset makes `to_der` and `encode` panic at `unwrap()`,
whatever the DER layer, with the `Value` error of `Ia5String::new`.  A time before the Unix
epoch makes them panic at `expect()` with a DER layer that rejects it with the `DateTime` error,
as the `GeneralizedTime` of `der` does.  The name and ticket encoders panic on a component
outside the IA5 charset. -/
theorem request_encoders_panic :
    (∀ (asn1 : Asn1Lib) (t : SystemTime) (nonce : UInt32),
      ((KerberosRequest.buildAsreq "jöe" "krbtgt" none t none).build nonce).toDer asn1 =
        .error ⟨"called `Result::unwrap()` on an `Err` value: " ++
          "Error \x7b kind: Value \x7b tag: Ia5String \x7d, position: None \x7d"⟩) ∧
    (∀ (codec : KerberosTcpCodec) (asn1 : Asn1Lib) (t : SystemTime) (nonce : UInt32),
      codec.encode asn1 ((KerberosRequest.buildAsreq "jöe" "krbtgt" none t none).build nonce) [] =
        .error ⟨"called `Result::unwrap()` on an `Err` value: " ++
          "Error \x7b kind: Value \x7b tag: Ia5String \x7d, position: None \x7d"⟩) ∧
    (∀ nonce : UInt32,
      ((KerberosRequest.buildAsreq "testuser" "krbtgt" none ⟨-1⟩ none).build nonce).toDer
          { kerberosTimeFromSystemTime := fun t =>
              if t.sinceEpoch < 0 then .error .dateTime
              else .ok ⟨t.sinceEpoch.toNat / 1000000000⟩ } =
        .error ⟨"Failed to build KerberosTime from SystemTime: " ++
          "Error \x7b kind: DateTime, position: None \x7d"⟩) ∧
    Name.toPrincipalName (.principal "jöe" "EXAMPLE.COM") =
      .error ⟨"called `Result::unwrap()` on an `Err` value: " ++
        "Error \x7b kind: Value \x7b tag: Ia5String \x7d, position: None \x7d"⟩ ∧
    Ticket.tryInto ⟨5, .srvInst "krbtgt" "EXAMPLE.CÖM", .aes256CtsHmacSha196 none []⟩ =
      .error ⟨"called `Result::unwrap()` on an `Err` value: " ++
        "Error \x7b kind: Value \x7b tag: Ia5String \x7d, position: None \x7d"⟩ :=
  ⟨fun _ _ _ => rfl, fun codec asn1 _ _ => encode_of_toDer_panic codec asn1 _ rfl, fun _ => rfl,
    rfl, rfl⟩

end KerberosTcpCodec

end Libkrimes
