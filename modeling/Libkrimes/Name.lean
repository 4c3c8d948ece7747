import Libkrimes.Asn1

/-!
# Principal names

`Name` is the library's view of a Kerberos principal name: a user principal, a service
instance or a service on a host, each with its realm.  On the wire a name is a
`PrincipalName` (a name type and a list of components) and, in most messages, a separate
`Realm`.  The code converts between the two in two conventions:

* the *pair* convention (`TryInto<(PrincipalName, Realm)>` and `TryFrom<(PrincipalName, Realm)>`):
  the realm travels in the realm field, the components are the name's own (`[name]`,
  `[service]`, `[service, host]`);
* the *single* convention (`TryInto<PrincipalName>` and `TryFrom<PrincipalName>`): the realm
  is appended to the components.

The encoders are `Name.toPrincipalNameRealm` and `Name.toPrincipalName` (with
`Name.toRealm`), the decoders `Name.tryFromPair` and `Name.tryFromPrincipalName`.  They build
`Ia5String`s with `unwrap`, and read components with `get(i).unwrap()`; a name type other
than 1, 2 or 3 reaches `todo!()`.

Each decoder inverts its own encoder on names whose strings are IA5 strings
(`tryFromPair_toPrincipalNameRealm`, `tryFromPrincipalName_toPrincipalName`).  The pair decoder
never returns an error (`tryFromPair_ne_error`): it returns a name exactly when the name type is
1, 2 or 3 and the list is long enough for it, and panics otherwise (`tryFromPair_accepts_iff`).
In the other direction, decoding a wire name and encoding it back keeps its type, its realm and
the components the decoder reads, and drops the rest (`toPrincipalNameRealm_tryFromPair`).  So a
decoded service-instance name is realm `R`'s ticket-granting service exactly when its first
component is `krbtgt` and its realm field is `R` (`isServiceKrbtgt_tryFromPair`), whatever
follows that component.
-/

namespace Libkrimes

/-- `Name`: the three forms of principal name. -/
inductive Name where
  | principal (name realm : String)
  | srvInst (service realm : String)
  | srvHst (service host realm : String)
  deriving Repr, DecidableEq

namespace Name

/-- `Name::service_krbtgt`. -/
def serviceKrbtgt (realm : String) : Name := srvInst "krbtgt" realm

/-- `Name::is_service_krbtgt`. -/
def isServiceKrbtgt (n : Name) (checkRealm : String) : Bool :=
  match n with
  | srvInst service realm => service == "krbtgt" && checkRealm == realm
  | _ => false

/-- `Name::principal_name`. -/
def principalName : Name → Except KrbError (String × String)
  | principal name realm => .ok (name, realm)
  | _ => .error .nameNotPrincipal

/-- The wire name type of each form. -/
def nameType : Name → Int
  | principal .. => 1
  | srvInst .. => 2
  | srvHst .. => 3

/-- The realm of a name. -/
def realm : Name → String
  | principal _ realm | srvInst _ realm | srvHst _ _ realm => realm

/-- The components of a name without its realm. -/
def components : Name → List String
  | principal name _ => [name]
  | srvInst service _ => [service]
  | srvHst service host _ => [service, host]

/-- Every string of a name, the realm last. -/
def fields (n : Name) : List String := n.components ++ [n.realm]

/-! ### Encoders -/

/-- `KerberosString(Ia5String::new(s).unwrap())`. -/
def kerberosString (s : String) : Outcome KerberosString := Outcome.unwrapOk (Ia5String.new s)

/-- `TryInto<Realm> for &Name`. -/
def toRealm (n : Name) : Outcome (Except KrbError Realm) := do
  let realm ← kerberosString n.realm
  pure (.ok realm)

/-- `TryInto<PrincipalName> for &Name`: the realm is the last component. -/
def toPrincipalName (n : Name) : Outcome (Except KrbError Asn1.PrincipalName) := do
  let nameString ← n.fields.mapM kerberosString
  pure (.ok ⟨n.nameType, nameString⟩)

/-- `TryInto<(PrincipalName, Realm)> for &Name`: the realm is in the realm field. -/
def toPrincipalNameRealm (n : Name) : Outcome (Except KrbError (Asn1.PrincipalName × Realm)) := do
  let nameString ← n.components.mapM kerberosString
  let realm ← kerberosString n.realm
  pure (.ok (⟨n.nameType, nameString⟩, realm))

/-! ### Decoders -/

/-- `name_string.get(i).unwrap().into()`. -/
def component (nameString : List KerberosString) (i : Nat) : Outcome String :=
  (·.val) <$> Outcome.unwrap nameString[i]?

/-- `TryFrom<PrincipalName> for Name`: the realm is the last component. -/
def tryFromPrincipalName (princ : Asn1.PrincipalName) : Outcome (Except KrbError Name) :=
  match princ.nameType with
  | 1 => do
    let name ← component princ.nameString 0
    let realm ← component princ.nameString 1
    pure (.ok (principal name realm))
  | 2 => do
    let service ← component princ.nameString 0
    let realm ← component princ.nameString 1
    pure (.ok (srvInst service realm))
  | 3 => do
    let service ← component princ.nameString 0
    let host ← component princ.nameString 1
    let realm ← component princ.nameString 2
    pure (.ok (srvHst service host realm))
  | _ => Outcome.todo

/-- `TryFrom<(PrincipalName, Realm)> for Name`: the realm is the realm field. -/
def tryFromPair (princ : Asn1.PrincipalName) (realm : Realm) : Outcome (Except KrbError Name) :=
  let realm := realm.val
  match princ.nameType with
  | 1 => do
    let name ← component princ.nameString 0
    pure (.ok (principal name realm))
  | 2 => do
    let service ← component princ.nameString 0
    pure (.ok (srvInst service realm))
  | 3 => do
    let service ← component princ.nameString 0
    let host ← component princ.nameString 1
    pure (.ok (srvHst service host realm))
  | _ => Outcome.todo

/-! ### Lemmas -/

theorem kerberosString_eq {s : String} (h : isIa5 s = true) :
    kerberosString s = .ok ⟨s, h⟩ := by
  simp [kerberosString, Ia5String.new, h, Outcome.unwrapOk]

theorem kerberosString_eq_ok {s : String} {k : KerberosString} :
    kerberosString s = .ok k ↔ k.val = s := by
  rw [kerberosString, Outcome.unwrapOk_eq_ok, Ia5String.new_eq_ok]

/-- A string outside the IA5 charset panics, with the `Value` error of `Ia5String::new`. -/
theorem kerberosString_panics {s : String} (h : isIa5 s = false) :
    kerberosString s = .error ⟨"called `Result::unwrap()` on an `Err` value: " ++
      "Error \x7b kind: Value \x7b tag: Ia5String \x7d, position: None \x7d"⟩ := by
  simp [kerberosString, Ia5String.new, h, Outcome.unwrapOk]
  rfl

/-- Encoding a list of IA5 strings succeeds, and keeps every string. -/
theorem mapM_kerberosString {l : List String} (h : ∀ s ∈ l, isIa5 s = true) :
    ∃ ks, l.mapM kerberosString = .ok ks ∧ ks.map (·.val) = l := by
  induction l with
  | nil => exact ⟨[], rfl, rfl⟩
  | cons s l ih =>
    obtain ⟨ks, hks, hv⟩ := ih fun t ht => h t (List.mem_cons_of_mem s ht)
    refine ⟨⟨s, h s (List.mem_cons_self s l)⟩ :: ks, ?_, by simp [hv]⟩
    rw [List.mapM_cons, kerberosString_eq (h s (List.mem_cons_self s l)), hks]
    rfl

theorem component_eq_ok {ks : List KerberosString} {i : Nat} {s : String} :
    component ks i = .ok s ↔ (ks.map (·.val))[i]? = some s := by
  unfold component
  rw [List.getElem?_map]
  cases ks[i]? <;> simp [Outcome.unwrap]

/-! ### Round trips -/

/-- Decoding a list that starts with a name's own components, in the pair convention, gives the
name back: the decoder reads no further. -/
theorem tryFromPair_of_components {n : Name} {ks : List KerberosString} {r : Realm}
    {rest : List String} (hks : ks.map (·.val) = n.components ++ rest) (hr : r.val = n.realm) :
    tryFromPair ⟨n.nameType, ks⟩ r = .ok (.ok n) := by
  have hc : ∀ i s, n.components[i]? = some s → component ks i = .ok s := fun i s h =>
    component_eq_ok.2 (hks ▸ (List.getElem?_append_left (List.getElem?_eq_some.1 h).1).trans h)
  cases n with
  | principal name realm => simp [tryFromPair, nameType, hc 0 name rfl, hr, Name.realm]
  | srvInst service realm => simp [tryFromPair, nameType, hc 0 service rfl, hr, Name.realm]
  | srvHst service host realm =>
    simp [tryFromPair, nameType, hc 0 service rfl, hc 1 host rfl, hr, Name.realm]

/-- Decoding a name's strings in the single convention gives the name back. -/
theorem tryFromPrincipalName_of_fields {n : Name} {ks : List KerberosString}
    (hks : ks.map (·.val) = n.fields) : tryFromPrincipalName ⟨n.nameType, ks⟩ = .ok (.ok n) := by
  have hc : ∀ i s, n.fields[i]? = some s → component ks i = .ok s :=
    fun i s h => component_eq_ok.2 (hks ▸ h)
  cases n with
  | principal name realm =>
    simp [tryFromPrincipalName, nameType, hc 0 name rfl, hc 1 realm rfl]
  | srvInst service realm =>
    simp [tryFromPrincipalName, nameType, hc 0 service rfl, hc 1 realm rfl]
  | srvHst service host realm =>
    simp [tryFromPrincipalName, nameType, hc 0 service rfl, hc 1 host rfl, hc 2 realm rfl]

/-- The pair decoder inverts the pair encoder on names whose strings are IA5 strings. -/
theorem tryFromPair_toPrincipalNameRealm (n : Name) (h : n.fields.all isIa5 = true) :
    ∃ p r, n.toPrincipalNameRealm = .ok (.ok (p, r)) ∧ tryFromPair p r = .ok (.ok n) := by
  have h' := List.all_eq_true.1 h
  obtain ⟨ks, hks, hv⟩ := mapM_kerberosString fun s hs => h' s (List.mem_append_left _ hs)
  have hr : isIa5 n.realm = true := h' _ (List.mem_append_right _ (List.mem_singleton_self _))
  exact ⟨_, ⟨n.realm, hr⟩, by rw [toPrincipalNameRealm, hks, kerberosString_eq hr]; rfl,
    tryFromPair_of_components (hv.trans (List.append_nil _).symm) rfl⟩

/-- The single decoder inverts the single encoder on names whose strings are IA5 strings. -/
theorem tryFromPrincipalName_toPrincipalName (n : Name) (h : n.fields.all isIa5 = true) :
    ∃ p, n.toPrincipalName = .ok (.ok p) ∧ tryFromPrincipalName p = .ok (.ok n) := by
  obtain ⟨ks, hks, hv⟩ := mapM_kerberosString (List.all_eq_true.1 h)
  exact ⟨_, by rw [toPrincipalName, hks]; rfl, tryFromPrincipalName_of_fields hv⟩

/-! ### What the pair decoder accepts -/

/-- The number of components the pair decoder reads, for the name types it knows. -/
def pairArity : Int → Option Nat
  | 1 => some 1
  | 2 => some 1
  | 3 => some 2
  | _ => none

theorem component_of_lt {ks : List KerberosString} {i : Nat} (h : i < ks.length) :
    component ks i = .ok ks[i].val := by
  simp [component, h, Outcome.unwrap]

theorem component_of_le {ks : List KerberosString} {i : Nat} (h : ks.length ≤ i) :
    component ks i = .error ⟨"called `Option::unwrap()` on a `None` value"⟩ := by
  simp [component, List.getElem?_eq_none h, Outcome.unwrap]

/-- The pair decoder never returns an error: it returns a name or panics. -/
theorem tryFromPair_ne_error (p : Asn1.PrincipalName) (r : Realm) (e : KrbError) :
    tryFromPair p r ≠ .ok (.error e) := by
  unfold tryFromPair
  split
  all_goals
    simp only [component]
    cases p.nameString[0]? <;> try cases p.nameString[1]?
  all_goals simp [Outcome.unwrap, Outcome.todo, Except.map]

/-- The pair decoder returns a name exactly when it knows the name type and the list has the
components it reads. -/
theorem tryFromPair_accepts_iff (p : Asn1.PrincipalName) (r : Realm) :
    (∃ n, tryFromPair p r = .ok (.ok n)) ↔
      ∃ k, pairArity p.nameType = some k ∧ k ≤ p.nameString.length := by
  obtain ⟨t, ns⟩ := p
  unfold tryFromPair pairArity
  rcases ns with _ | ⟨a, _ | ⟨b, rest⟩⟩ <;> split <;> simp [component, Outcome.unwrap, Outcome.todo]

/-! ### Decoding then encoding -/

/-- Encoding the strings of a list of `KerberosString`s gives the list back. -/
theorem mapM_kerberosString_val (ks : List KerberosString) :
    (ks.map (·.val)).mapM kerberosString = .ok ks := by
  induction ks with
  | nil => rfl
  | cons k ks ih => rw [List.map_cons, List.mapM_cons, kerberosString_eq k.ia5, ih]; rfl

/-- What the pair decoder returns: a name of the wire type, whose realm is the realm field and
whose components are the first components of the list, as many as the type reads. -/
theorem tryFromPair_eq_ok {p : Asn1.PrincipalName} {r : Realm} {n : Name}
    (h : tryFromPair p r = .ok (.ok n)) :
    n.nameType = p.nameType ∧ n.realm = r.val ∧ ∃ k, pairArity p.nameType = some k ∧
      k ≤ p.nameString.length ∧ n.components = (p.nameString.take k).map (·.val) := by
  obtain ⟨t, ns⟩ := p
  unfold tryFromPair at h
  split at h <;> rcases ns with _ | ⟨a, _ | ⟨b, rest⟩⟩ <;>
    simp [component, Outcome.unwrap, Outcome.todo] at h <;>
    simp_all [← h, nameType, Name.realm, components, pairArity]

/-- Decoding a wire name in the pair convention and encoding the name back keeps the name type,
the realm and the components the decoder reads, and drops the others: the wire name comes back
exactly when it has as many components as its type reads. -/
theorem toPrincipalNameRealm_tryFromPair {p : Asn1.PrincipalName} {r : Realm} {n : Name}
    (h : tryFromPair p r = .ok (.ok n)) :
    ∃ k, pairArity p.nameType = some k ∧
      n.toPrincipalNameRealm = .ok (.ok (⟨p.nameType, p.nameString.take k⟩, r)) ∧
      (n.toPrincipalNameRealm = .ok (.ok (p, r)) ↔ p.nameString.length = k) := by
  obtain ⟨ht, hr, k, hk, hle, hc⟩ := tryFromPair_eq_ok h
  have he : n.toPrincipalNameRealm = .ok (.ok (⟨p.nameType, p.nameString.take k⟩, r)) := by
    rw [toPrincipalNameRealm, hc, mapM_kerberosString_val, hr, kerberosString_eq r.ia5, ht]
    rfl
  refine ⟨k, hk, he, ?_⟩
  obtain ⟨t, ns⟩ := p
  simp only at hle
  simp [he, List.take_eq_self_iff]
  omega

theorem toPrincipalNameRealm_tryFromPair_krbtgt :
    tryFromPair ⟨2, [⟨"krbtgt", by decide⟩, ⟨"EXAMPLE.COM", by decide⟩]⟩
        ⟨"EXAMPLE.COM", by decide⟩ = .ok (.ok (srvInst "krbtgt" "EXAMPLE.COM")) ∧
      ∃ k, pairArity 2 = some k ∧
        (srvInst "krbtgt" "EXAMPLE.COM").toPrincipalNameRealm =
          .ok (.ok (⟨2, [⟨"krbtgt", by decide⟩, ⟨"EXAMPLE.COM", by decide⟩].take k⟩,
            ⟨"EXAMPLE.COM", by decide⟩)) ∧
        ((srvInst "krbtgt" "EXAMPLE.COM").toPrincipalNameRealm =
            .ok (.ok (⟨2, [⟨"krbtgt", by decide⟩, ⟨"EXAMPLE.COM", by decide⟩]⟩,
              ⟨"EXAMPLE.COM", by decide⟩)) ↔ 2 = k) := by
  refine ⟨?h, toPrincipalNameRealm_tryFromPair ?h⟩
  rfl

/-- A service-instance name decodes from its first component and the realm field alone. -/
theorem tryFromPair_srvInst {ns : List KerberosString} {w : Realm} {n : Name}
    (h : tryFromPair ⟨2, ns⟩ w = .ok (.ok n)) :
    ∃ k rest, ns = k :: rest ∧ n = srvInst k.val w.val := by
  cases ns with
  | nil => simp [tryFromPair, component_of_le] at h
  | cons k rest =>
    simp [tryFromPair, component_of_lt] at h
    exact ⟨k, rest, rfl, h.symm⟩

/-- A decoded service-instance name is realm `R`'s ticket-granting service exactly when its
first component is `krbtgt` and the realm field is `R`; later components are not read. -/
theorem isServiceKrbtgt_tryFromPair {ns : List KerberosString} {w : Realm} {n : Name}
    (h : tryFromPair ⟨2, ns⟩ w = .ok (.ok n)) (R : String) :
    (∃ k rest, ns = k :: rest ∧ n = srvInst k.val w.val) ∧
      (n.isServiceKrbtgt R = true ↔ ns.head?.map (·.val) = some "krbtgt" ∧ w.val = R) := by
  obtain ⟨k, rest, rfl, rfl⟩ := tryFromPair_srvInst h
  exact ⟨⟨k, rest, rfl, rfl⟩, by simp [isServiceKrbtgt, @eq_comm _ R]⟩

/-- The cross-realm name `krbtgt/OTHER.COM@EXAMPLE.COM` is recognised as `EXAMPLE.COM`'s
ticket-granting service. -/
theorem isServiceKrbtgt_crossRealm :
    tryFromPair ⟨2, [⟨"krbtgt", by decide⟩, ⟨"OTHER.COM", by decide⟩]⟩ ⟨"EXAMPLE.COM", by decide⟩ =
        .ok (.ok (srvInst "krbtgt" "EXAMPLE.COM")) ∧
      (srvInst "krbtgt" "EXAMPLE.COM").isServiceKrbtgt "EXAMPLE.COM" = true := by
  refine ⟨?h, (isServiceKrbtgt_tryFromPair ?h "EXAMPLE.COM").2.2 ⟨rfl, rfl⟩⟩
  rfl

/-- The one-component name `krbtgt@EXAMPLE.COM` is recognised as `EXAMPLE.COM`'s
ticket-granting service, though its list is not `[krbtgt, EXAMPLE.COM]`. -/
theorem krbtgt_one_component_recognised :
    ¬ ∀ (ns : List KerberosString) (w : Realm) (R : String) (n : Name),
      tryFromPair ⟨2, ns⟩ w = .ok (.ok n) →
        (n.isServiceKrbtgt R = true ↔ ns.map (·.val) = ["krbtgt", R] ∧ w.val = R) := by
  intro h
  have := h [⟨"krbtgt", by decide⟩] ⟨"EXAMPLE.COM", by decide⟩ "EXAMPLE.COM"
    (srvInst "krbtgt" "EXAMPLE.COM") (by rfl)
  exact absurd this (by decide)

end Name

end Libkrimes
