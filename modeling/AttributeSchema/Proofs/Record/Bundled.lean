import AttributeSchema.Proofs.Record.RoundTrip
import AttributeSchema.Record.Bundled
/-!
# The bundled records survive their holders

What is left of a bundled record after its holder has been filled and written onto any other one.
-/

namespace AttributeSchema

namespace Record

/-- Filling a holder from a record and writing it onto the target reports nothing and gives the result. -/
def Restores (r : Record) (x target result : r.shape.Native) : Prop :=
  ∃ h, r.encode (some x) = some h ∧ r.shape.decodeInto h target = (result, [])

theorem restores_restored {r : Record} {x : r.shape.Native} (h : r.shape.Carries x)
    (target : r.shape.Native) : r.Restores x target (r.shape.restored x target) :=
  ⟨r.shape.encode x, rfl, Shape.decodeInto_encode h target⟩

end Record

namespace Bundled

open Text

/-! ## What is not restored as it was -/

/-- The certificates of a secured connection, as the bytes of a file. -/
def caPem : tlsConfig.shape.Native → List UInt8
  | (_, _, caPem, _, _, _, ()) => caPem

def withCaPem (bytes : List UInt8) : tlsConfig.shape.Native → tlsConfig.shape.Native
  | (address, caFile, _, certFile, keyFile, skipVerify, ()) =>
    (address, caFile, bytes, certFile, keyFile, skipVerify, ())

/-- A secured connection whose certificates are the bytes of the text that they are read as. -/
def readable (tls : tlsConfig.shape.Native) : tlsConfig.shape.Native :=
  withCaPem (Utf8.encode (Utf8.decodeLossy (caPem tls))) tls

/-- A client's configuration with a readable secured connection. The target keeps its credentials if
there are no others, and always keeps the wait index, which has no attribute. -/
def configOnto : config.shape.Native → config.shape.Native → config.shape.Native
  | (address, scheme, pathPrefix, datacenter, waitTime, token, namespaceName, partition, httpAuth, tls,
      headers, _, ()),
    (_, _, _, _, _, _, _, _, oldAuth, _, _, waitIndex, ()) =>
    (address, scheme, pathPrefix, datacenter, waitTime, token, namespaceName, partition,
      httpAuth.or oldAuth, readable tls, headers, waitIndex, ())

def createTime : aclToken.shape.Native → Timestamp
  | (_, _, _, _, _, createTime, _) => createTime

/-- A token created at the time that its text spells. The target keeps the modify index, which has no
attribute. -/
def aclTokenOnto : aclToken.shape.Native → aclToken.shape.Native → aclToken.shape.Native
  | (accessorId, secretId, description, isLocal, expirationTtl, createTime, createIndex, policies,
      serviceIdentities, _, ()),
    (_, _, _, _, _, _, _, _, _, modifyIndex, ()) =>
    (accessorId, secretId, description, isLocal, expirationTtl, createTime.spelled, createIndex, policies,
      serviceIdentities, modifyIndex, ())

/-! ## The records -/

theorem restored_httpBasicAuth (x target : httpBasicAuth.shape.Native) :
    httpBasicAuth.shape.restored x target = x := rfl

theorem restored_tlsConfig (x target : tlsConfig.shape.Native) :
    tlsConfig.shape.restored x target = readable x := rfl

theorem restored_config (x target : config.shape.Native) :
    config.shape.restored x target = configOnto x target := by
  obtain ⟨_, _, _, _, _, _, _, _, auth, _, _, _, _⟩ := x
  have hauth (old : httpBasicAuth.shape.Native) :
      auth.map (fun v => httpBasicAuth.shape.restored v old) = auth := by
    simp only [restored_httpBasicAuth, Option.map_id']
  change (_, _, _, _, _, _, _, _, Option.or (auth.map fun v => httpBasicAuth.shape.restored v _) _,
    _, _, _, _) = _
  rw [hauth]
  rfl

theorem restored_aclToken (x target : aclToken.shape.Native) :
    aclToken.shape.restored x target = aclTokenOnto x target := by
  obtain ⟨_, _, _, _, _, _, _, policies, identities, _, _⟩ := x
  have hpolicies : policies.map (fun v => aclTokenPolicyLink.shape.restored v
      aclTokenPolicyLink.shape.initial) = policies := List.map_id' policies
  have hidentities : identities.map (fun v => aclServiceIdentity.shape.restored v
      aclServiceIdentity.shape.initial) = identities := List.map_id' identities
  change (_, _, _, _, _, _, _, policies.map (fun v => aclTokenPolicyLink.shape.restored v
    aclTokenPolicyLink.shape.initial), identities.map (fun v => aclServiceIdentity.shape.restored v
    aclServiceIdentity.shape.initial), _, _) = _
  rw [hpolicies, hidentities]
  rfl

theorem carries_httpBasicAuth (x : httpBasicAuth.shape.Native) : httpBasicAuth.shape.Carries x :=
  ⟨trivial, trivial, trivial⟩

theorem carries_tlsConfig (x : tlsConfig.shape.Native) : tlsConfig.shape.Carries x :=
  ⟨trivial, trivial, trivial, trivial, trivial, trivial, trivial⟩

theorem carries_config (x : config.shape.Native) : config.shape.Carries x :=
  ⟨trivial, trivial, trivial, trivial, trivial, trivial, trivial, trivial,
    fun auth _ => carries_httpBasicAuth auth, carries_tlsConfig _, trivial, trivial⟩

theorem carries_aclTokenPolicyLink (x : aclTokenPolicyLink.shape.Native) :
    aclTokenPolicyLink.shape.Carries x :=
  ⟨trivial, trivial, trivial⟩

theorem carries_aclServiceIdentity (x : aclServiceIdentity.shape.Native) :
    aclServiceIdentity.shape.Carries x :=
  ⟨trivial, trivial, trivial⟩

theorem carries_aclToken {x : aclToken.shape.Native} (hlow : 0 ≤ (createTime x).year)
    (hhigh : (createTime x).year ≤ 9999) : aclToken.shape.Carries x :=
  ⟨trivial, trivial, trivial, trivial, trivial, ⟨hlow, hhigh⟩, trivial,
    fun policy _ => carries_aclTokenPolicyLink policy,
    fun identity _ => carries_aclServiceIdentity identity, trivial⟩

theorem caPem_readable (tls : tlsConfig.shape.Native) :
    caPem (readable tls) = Utf8.encode (Utf8.decodeLossy (caPem tls)) := rfl

theorem readable_eq_iff {tls : tlsConfig.shape.Native} :
    readable tls = tls ↔ ∃ s, Utf8.encode s = caPem tls := by
  rw [← Utf8.encode_decodeLossy_eq_iff, ← caPem_readable]
  constructor
  · intro h
    rw [h]
  · intro h
    rw [caPem_readable] at h
    rw [readable, h]
    rfl

theorem createTime_aclTokenOnto (x target : aclToken.shape.Native) :
    createTime (aclTokenOnto x target) = (createTime x).spelled := rfl

/-- Every bundled record comes back from its holder, whatever record the holder is written onto, up to
three things. Certificates of a secured connection must encode a text for that. The time at which a token
was created must have a year of four digits, and a leap second comes back exactly if it ends a minute. -/
theorem restores_bundled (token held : aclToken.shape.Native) :
    (∀ x target, providerConfig.Restores x target x) ∧
    (∀ x target, httpBasicAuth.Restores x target x) ∧
    (∀ x target, tlsConfig.Restores x target (readable x)) ∧
    (∀ x, readable x = x ↔ ∃ s, Utf8.encode s = caPem x) ∧
    (∀ x target, config.Restores x target (configOnto x target)) ∧
    (∀ x target, aclTokenPolicyLink.Restores x target x) ∧
    (∀ x target, aclServiceIdentity.Restores x target x) ∧
    (0 ≤ (createTime token).year → (createTime token).year ≤ 9999 →
      aclToken.Restores token held (aclTokenOnto token held)) ∧
    (createTime (aclTokenOnto token held) = createTime token ↔
      (createTime token).nanoseconds < 1_000_000_000 ∨ (createTime token).seconds % 60 = 59) := by
  refine ⟨fun x target => ?_, fun x target => ?_, fun x target => ?_, fun x => readable_eq_iff,
    fun x target => ?_, fun x target => ?_, fun x target => ?_, fun hlow hhigh => ?_, ?_⟩
  · have hcarries : providerConfig.shape.Carries x := ⟨trivial, trivial, trivial, trivial⟩
    exact Record.restores_restored hcarries target
  · exact Record.restores_restored (carries_httpBasicAuth x) target
  · rw [← restored_tlsConfig]
    exact Record.restores_restored (carries_tlsConfig x) target
  · rw [← restored_config]
    exact Record.restores_restored (carries_config x) target
  · exact Record.restores_restored (carries_aclTokenPolicyLink x) target
  · exact Record.restores_restored (carries_aclServiceIdentity x) target
  · rw [← restored_aclToken]
    exact Record.restores_restored (carries_aclToken hlow hhigh) held
  · rw [createTime_aclTokenOnto]
    exact Timestamp.spelled_eq_iff

def tokenCreatedAt (t : Timestamp) : aclToken.shape.Native :=
  ("a", "s", "", true, ⟨90_000_000_000, by decide⟩, t, ⟨7, by decide, by decide⟩, [("p", "n", ())],
    [("web", ["dc1", "dc2"], ())], ⟨9, by decide, by decide⟩, ())

def leapSecondToken : aclToken.shape.Native := tokenCreatedAt .endOf2016

theorem restores_leapSecondToken :
    (0 ≤ (createTime leapSecondToken).year ∧ (createTime leapSecondToken).year ≤ 9999) ∧
      aclToken.Restores leapSecondToken aclToken.shape.initial
        (aclTokenOnto leapSecondToken aclToken.shape.initial) :=
  ⟨by decide, (restores_bundled leapSecondToken aclToken.shape.initial).2.2.2.2.2.2.2.1 (by decide)
    (by decide)⟩

/-- A leap second inside a minute comes back as the second after it. -/
theorem inside_minute_not_restored :
    (0 ≤ (createTime (tokenCreatedAt .insideMinute)).year ∧
      (createTime (tokenCreatedAt .insideMinute)).year ≤ 9999) ∧
    ∃ result, aclToken.Restores (tokenCreatedAt .insideMinute) aclToken.shape.initial result ∧
      createTime result = ⟨1, 500_000_000, by decide, by decide, by decide⟩ ∧
      createTime result ≠ createTime (tokenCreatedAt .insideMinute) := by
  have hyear : 0 ≤ (createTime (tokenCreatedAt .insideMinute)).year ∧
      (createTime (tokenCreatedAt .insideMinute)).year ≤ 9999 := by decide
  refine ⟨hyear, _, Record.restores_restored (carries_aclToken hyear.1 hyear.2) _, ?_, ?_⟩
  · decide
  · decide

end Bundled

end AttributeSchema
