import Libkrimes.Ticket

/-!
# Pre-authentication negotiation

When a KDC answers `KDC_ERR_PREAUTH_REQUIRED`, its error data is a sequence of PA-DATA items
from which the client learns what the KDC accepts: FAST, encrypted timestamps, a cookie to
echo back, and `ETYPE-INFO2` hints (salt and string-to-key parameters per encryption type).

`TryFrom<Vec<PaData>> for KerberosPaRep` (`proto.rs`) and `TryFrom<Vec<PaData>> for PreauthData`
(`proto/mod.rs`) run the same loop over the items (`fold`, one `step` per item); the second
then sorts the hints with `sort_cryptographic_strength`.  Both result types have the same four
fields, and one structure models them.

The loop fails with `DerDecodeEtypeInfo2` exactly when some `ETYPE-INFO2` item does not decode,
and otherwise returns `negotiated`: the flags of the items present, the last cookie, and the
AES256-CTS-HMAC-SHA1-96 hints of every `ETYPE-INFO2` item, in wire order (`fold_eq`, from one
`step_eq` per item).  Those hints are all AES256, so the sort leaves them in place
(`sortUnstableBy_hints`), and the two conversions agree (`preauthData_tryFrom_fold`).
-/

namespace Libkrimes

/-- `EtypeInfo2` (declared identically in `proto.rs` and `proto/mod.rs`). -/
structure EtypeInfo2 where
  /-- The type of encryption for the encrypted timestamp. -/
  etype : EncryptionType
  salt : Option String
  /-- For AES, four octets: the iteration count, big-endian. -/
  s2kparams : Option Bytes
  deriving Repr, DecidableEq

/-- `sort_cryptographic_strength`. -/
def sortCryptographicStrength (a b : EtypeInfo2) : Ordering :=
  if a.etype = .aes256CtsHmacSha196 then .gt
  else if b.etype = .aes256CtsHmacSha196 then .lt
  else if a.etype = .aes128CtsHmacSha196 then .gt
  else if b.etype = .aes128CtsHmacSha196 then .lt
  else .eq

/-- Insert `x` into a sorted run kept in reverse (its last element first), moving it left past
every element it is less than: one round of an insertion sort. -/
def insertTail {α : Type} (isLess : α → α → Bool) (x : α) : List α → List α
  | [] => [x]
  | y :: ys => if isLess x y then y :: insertTail isLess x ys else x :: y :: ys

/-- `slice::sort_unstable_by`, as the standard library sorts a short slice: by insertion, with
`is_less a b := compare(a, b) == Less`.  On a slice with no `is_less` pair it returns the slice
unchanged, as the library's sort of a longer slice does. -/
def sortUnstableBy {α : Type} (compare : α → α → Ordering) (v : List α) : List α :=
  (v.foldl (fun acc x => insertTail (fun a b => decide (compare a b = .lt)) x acc) []).reverse

/-- `PreauthData` (`proto/mod.rs`) and `KerberosPaRep` (`proto.rs`). -/
structure PreauthData where
  paFxFast : Bool
  encTimestamp : Bool
  paFxCookie : Option Bytes
  etypeInfo2 : List EtypeInfo2
  deriving Repr, DecidableEq

/-- `KerberosPaRep`: the fields of `PreauthData`. -/
abbrev KerberosPaRep := PreauthData

namespace PreauthData

/-- The body of the loop over an `ETYPE-INFO2` sequence: an entry of type
AES256-CTS-HMAC-SHA1-96 is pushed, any other entry skipped. -/
def pushEtypeInfo2 (etypeInfo2 : List EtypeInfo2) (einfo2 : Asn1.ETypeInfo2Entry) :
    List EtypeInfo2 :=
  match EncryptionType.tryFrom einfo2.etype with
  | some .aes256CtsHmacSha196 =>
    etypeInfo2 ++ [⟨.aes256CtsHmacSha196, einfo2.salt.map (·.val), einfo2.s2kparams.map (·.bytes)⟩]
  | _ => etypeInfo2

/-- The body of the loop over the PA-DATA items. -/
def step (asn1 : Asn1Lib) (acc : PreauthData) (paData : Asn1.PaData) :
    Except KrbError PreauthData :=
  match PaDataType.tryFrom paData.padataType with
  | none => .ok acc
  | some .paEncTimestamp => .ok { acc with encTimestamp := true }
  | some .paEtypeInfo2 =>
    match asn1.etypeInfo2FromDer paData.padataValue.bytes with
    | .error _ => .error .derDecodeEtypeInfo2
    | .ok einfo2Sequence =>
      .ok { acc with etypeInfo2 := einfo2Sequence.foldl pushEtypeInfo2 acc.etypeInfo2 }
  | some .paFxFast => .ok { acc with paFxFast := true }
  | some .paFxCookie => .ok { acc with paFxCookie := some paData.padataValue.bytes }

/-- The loop over the PA-DATA items, from nothing negotiated. -/
def fold (asn1 : Asn1Lib) (pavec : List Asn1.PaData) : Except KrbError PreauthData :=
  pavec.foldlM (step asn1) ⟨false, false, none, []⟩

/-- `TryFrom<Vec<PaData>> for PreauthData`: the loop, then the hints sorted by strength. -/
def tryFrom (asn1 : Asn1Lib) (pavec : List Asn1.PaData) : Except KrbError PreauthData := do
  let d ← fold asn1 pavec
  pure { d with etypeInfo2 := sortUnstableBy sortCryptographicStrength d.etypeInfo2 }

end PreauthData

namespace PreauthData

/-! ### What the loop computes -/

/-- An item of type `t`. -/
def isType (t : PaDataType) (p : Asn1.PaData) : Bool := p.padataType == t.code

/-- The hint an `ETYPE-INFO2` entry gives when its type is AES256-CTS-HMAC-SHA1-96. -/
def aes256Hint (e : Asn1.ETypeInfo2Entry) : Option EtypeInfo2 :=
  if e.etype = 18 then some ⟨.aes256CtsHmacSha196, e.salt.map (·.val), e.s2kparams.map (·.bytes)⟩
  else none

/-- The hints an item carries: the AES256 entries of its sequence, when it is an `ETYPE-INFO2`
item whose value decodes. -/
def itemHints (asn1 : Asn1Lib) (p : Asn1.PaData) : List EtypeInfo2 :=
  if isType .paEtypeInfo2 p then
    match asn1.etypeInfo2FromDer p.padataValue.bytes with
    | .ok s => s.filterMap aes256Hint
    | .error _ => []
  else []

/-- An `ETYPE-INFO2` item whose value does not decode. -/
def badEtypeInfo2 (asn1 : Asn1Lib) (p : Asn1.PaData) : Bool :=
  isType .paEtypeInfo2 p && !(asn1.etypeInfo2FromDer p.padataValue.bytes).toBool

/-- What one item adds to a negotiation. -/
def absorb (asn1 : Asn1Lib) (d : PreauthData) (p : Asn1.PaData) : PreauthData where
  paFxFast := d.paFxFast || isType .paFxFast p
  encTimestamp := d.encTimestamp || isType .paEncTimestamp p
  paFxCookie := if isType .paFxCookie p then some p.padataValue.bytes else d.paFxCookie
  etypeInfo2 := d.etypeInfo2 ++ itemHints asn1 p

/-- The negotiation a list of items describes: FAST and encrypted timestamps if some item
offers them, the value of the last cookie, and the AES256 hints of all `ETYPE-INFO2` items in
wire order. -/
def negotiated (asn1 : Asn1Lib) (pavec : List Asn1.PaData) : PreauthData where
  paFxFast := pavec.any (isType .paFxFast)
  encTimestamp := pavec.any (isType .paEncTimestamp)
  paFxCookie := ((pavec.filter (isType .paFxCookie)).getLast?).map (·.padataValue.bytes)
  etypeInfo2 := pavec.flatMap (itemHints asn1)

theorem pushEtypeInfo2_eq (acc : List EtypeInfo2) (e : Asn1.ETypeInfo2Entry) :
    pushEtypeInfo2 acc e = acc ++ (aes256Hint e).toList := by
  unfold pushEtypeInfo2 aes256Hint
  by_cases h : e.etype = 18
  · simp [h, EncryptionType.tryFrom]
  · cases ht : EncryptionType.tryFrom e.etype with
    | none => simp [h]
    | some t => cases t <;> simp_all [EncryptionType.tryFrom_eq_some, EncryptionType.code]

theorem foldl_pushEtypeInfo2 (s : List Asn1.ETypeInfo2Entry) (acc : List EtypeInfo2) :
    s.foldl pushEtypeInfo2 acc = acc ++ s.filterMap aes256Hint := by
  induction s generalizing acc with
  | nil => simp
  | cons e s ih =>
    rw [List.foldl_cons, ih, pushEtypeInfo2_eq, List.filterMap_cons]
    cases aes256Hint e <;> simp

/-- One item of the loop: an `ETYPE-INFO2` item that does not decode stops it, any other item
adds what it carries. -/
theorem step_eq (asn1 : Asn1Lib) (d : PreauthData) (p : Asn1.PaData) :
    step asn1 d p =
      if badEtypeInfo2 asn1 p then .error .derDecodeEtypeInfo2 else .ok (absorb asn1 d p) := by
  obtain ⟨ty, v⟩ := p
  cases ht : PaDataType.tryFrom ty with
  | none =>
    simp [step, ht, absorb, badEtypeInfo2, itemHints, isType,
      PaDataType.beq_code_of_tryFrom_eq_none ht]
  | some t =>
    rw [PaDataType.tryFrom_eq_some] at ht
    subst ht
    cases t <;> simp [step, absorb, badEtypeInfo2, itemHints, isType]
    split <;> simp_all [foldl_pushEtypeInfo2, Except.toBool]

theorem negotiated_append (asn1 : Asn1Lib) (l : List Asn1.PaData) (p : Asn1.PaData) :
    negotiated asn1 (l ++ [p]) = absorb asn1 (negotiated asn1 l) p := by
  have hc : ((l ++ [p]).filter (isType .paFxCookie)).getLast? =
      if isType .paFxCookie p then some p else (l.filter (isType .paFxCookie)).getLast? := by
    rw [List.filter_append, List.getLast?_append]
    cases h : isType .paFxCookie p <;> simp [h, List.filter_cons]
  simp only [negotiated, absorb, List.any_append, List.any_cons, List.any_nil, Bool.or_false,
    List.flatMap_append, List.flatMap_cons, List.flatMap_nil, List.append_nil, hc]
  split <;> rfl

/-- The loop fails exactly when some `ETYPE-INFO2` item does not decode, and otherwise
returns the negotiation its items describe. -/
theorem fold_eq (asn1 : Asn1Lib) (pavec : List Asn1.PaData) :
    fold asn1 pavec = if pavec.any (badEtypeInfo2 asn1) then .error .derDecodeEtypeInfo2
      else .ok (negotiated asn1 pavec) := by
  induction pavec using List.reverseRecOn with
  | nil => rfl
  | append_singleton l p ih =>
    rw [fold, List.foldlM_append, ← fold, ih]
    by_cases hl : l.any (badEtypeInfo2 asn1) <;> simp [hl, step_eq, negotiated_append]

/-! ### Sorting the hints -/

theorem foldl_insertTail {α : Type} (isLess : α → α → Bool) (l acc : List α)
    (h : ∀ x ∈ l, ∀ y, y ∈ l ∨ y ∈ acc → isLess x y = false) :
    l.foldl (fun acc x => insertTail isLess x acc) acc = l.reverse ++ acc := by
  induction l generalizing acc with
  | nil => rfl
  | cons x l ih =>
    have hx : insertTail isLess x acc = x :: acc := by
      cases acc with
      | nil => rfl
      | cons y ys => simp [insertTail, h x (.head l) y (.inr (.head ys))]
    rw [List.foldl_cons, hx, ih]
    · simp
    · intro a ha b hb
      refine h a (.tail x ha) b ?_
      simp only [List.mem_cons] at hb ⊢
      tauto

/-- A sort leaves in place a list in which no element is less than another. -/
theorem sortUnstableBy_of_not_lt {α : Type} (compare : α → α → Ordering) (v : List α)
    (h : ∀ x ∈ v, ∀ y ∈ v, compare x y ≠ .lt) : sortUnstableBy compare v = v := by
  rw [sortUnstableBy, foldl_insertTail]
  · simp
  · intro x hx y hy
    simpa using h x hx y (by simpa using hy)

theorem itemHints_etype {asn1 : Asn1Lib} {p : Asn1.PaData} {e : EtypeInfo2}
    (h : e ∈ itemHints asn1 p) : e.etype = .aes256CtsHmacSha196 := by
  unfold itemHints at h
  split_ifs at h
  · split at h
    · obtain ⟨a, -, ha⟩ := List.mem_filterMap.1 h
      unfold aes256Hint at ha
      split_ifs at ha
      cases ha
      rfl
    · cases h
  · cases h

/-- The hints of a negotiation are all AES256, which `sort_cryptographic_strength` ranks above
everything, itself included: the sort leaves them in wire order. -/
theorem sortUnstableBy_hints (asn1 : Asn1Lib) (pavec : List Asn1.PaData) :
    sortUnstableBy sortCryptographicStrength (negotiated asn1 pavec).etypeInfo2 =
      (negotiated asn1 pavec).etypeInfo2 := by
  apply sortUnstableBy_of_not_lt
  intro x hx y _
  obtain ⟨p, -, hp⟩ := List.mem_flatMap.1 hx
  simp [sortCryptographicStrength, itemHints_etype hp]

/-- The sort leaves the loop's result unchanged. -/
theorem tryFrom_eq_fold (asn1 : Asn1Lib) (pavec : List Asn1.PaData) :
    tryFrom asn1 pavec = fold asn1 pavec := by
  rw [tryFrom, fold_eq]
  split <;> simp [sortUnstableBy_hints]

end PreauthData

/-- `TryFrom<Vec<PaData>> for KerberosPaRep`: the loop, unsorted. -/
def KerberosPaRep.tryFrom (asn1 : Asn1Lib) (pavec : List Asn1.PaData) :
    Except KrbError KerberosPaRep :=
  PreauthData.fold asn1 pavec

namespace PreauthData

/-- `PreauthData::try_from` fails with `DerDecodeEtypeInfo2` exactly when some `ETYPE-INFO2`
item does not decode, and otherwise returns the negotiation the items describe, whose hints
the sort leaves unchanged; it agrees with `KerberosPaRep::try_from`. -/
theorem preauthData_tryFrom_fold (asn1 : Asn1Lib) (pavec : List Asn1.PaData) :
    tryFrom asn1 pavec = (if pavec.any (badEtypeInfo2 asn1) then .error .derDecodeEtypeInfo2
        else .ok (negotiated asn1 pavec)) ∧
      sortUnstableBy sortCryptographicStrength (negotiated asn1 pavec).etypeInfo2 =
        (negotiated asn1 pavec).etypeInfo2 ∧
      tryFrom asn1 pavec = KerberosPaRep.tryFrom asn1 pavec := by
  have ht := tryFrom_eq_fold asn1 pavec
  exact ⟨ht.trans (fold_eq asn1 pavec), sortUnstableBy_hints asn1 pavec, ht⟩

/-- The negotiation does not look at `s2kparams`: a hint whose iteration count is two octets
long is returned as it came. -/
theorem preauthData_keeps_malformed_s2kparams :
    ¬ ∀ (asn1 : Asn1Lib) (pavec : List Asn1.PaData) (d : PreauthData),
      tryFrom asn1 pavec = .ok d → ∀ h ∈ d.etypeInfo2, ∀ p, h.s2kparams = some p → p.length = 4 := by
  intro H
  have := H { etypeInfo2FromDer := fun _ => .ok [⟨18, none, some ⟨[0, 16], by decide⟩⟩] }
    [⟨19, ⟨[], by decide⟩⟩] ⟨false, false, none, [⟨.aes256CtsHmacSha196, none, some [0, 16]⟩]⟩
    (by rfl) _ (List.mem_singleton_self _) [0, 16] rfl
  exact absurd this (by decide)

end PreauthData

end Libkrimes
