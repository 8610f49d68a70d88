import NodeKeys.TransportKeys
import NodeKeys.Proofs.Base64Url.Characters
import NodeKeys.Proofs.Entropy

/-!
# Transport keys

A private key is accepted exactly if its text holds thirty-two bytes, and the public key is that of these bytes,
in every world.  A builder without a private key behaves as if it had been given the text of the random bytes.
-/

namespace NodeKeys

open Run

variable {σ : Type}

namespace TransportKeys

theorem decode_of_publicKeyOf {privateKey publicKey : String} {world : World σ}
    (accepted : (publicKeyOf privateKey world).value = .ok publicKey) :
    ∃ bytes : List UInt8, Base64Url.decode privateKey = .ok bytes ∧ bytes.length = keyLength := by
  unfold publicKeyOf at accepted
  cases read : Base64Url.decodeExact keyLength privateKey with
  | error error =>
    rw [read] at accepted
    cases accepted
  | ok content => exact ⟨content.1, Base64Url.decode_of_decodeExact read, content.2⟩

theorem publicKeyOf_of_decode {text : String} {bytes : List UInt8} (read : Base64Url.decode text = .ok bytes)
    (sized : bytes.length = keyLength) :
    (publicKeyOf text : Run σ (Except KeygenError String)) =
      pure (.ok (Base64Url.encode (Curve25519.publicKey bytes))) := by
  rw [publicKeyOf, Base64Url.decodeExact_of_decode read sized]

/-- The public key does not depend on the world. -/
theorem value_publicKeyOf (privateKey : String) (world other : World σ) :
    (publicKeyOf privateKey world).value = (publicKeyOf privateKey other).value := by
  unfold publicKeyOf
  cases Base64Url.decodeExact keyLength privateKey <;> rfl

theorem value_publicKeyOf_eq_ok_iff (privateKey publicKey : String) (world : World σ) :
    (publicKeyOf privateKey world).value = .ok publicKey ↔
      ∃ bytes : List UInt8, Base64Url.decode privateKey = .ok bytes ∧ bytes.length = keyLength ∧
        publicKey = Base64Url.encode (Curve25519.publicKey bytes) := by
  constructor
  · intro accepted
    rcases decode_of_publicKeyOf accepted with ⟨bytes, read, sized⟩
    rw [publicKeyOf_of_decode read sized] at accepted
    cases accepted
    exact ⟨bytes, read, sized, rfl⟩
  · rintro ⟨bytes, read, sized, rfl⟩
    rw [publicKeyOf_of_decode read sized, pure_apply]

/-- A generated key pair holds the random bytes, and its private key is accepted as that of its public key. -/
theorem generate_of_bytes {entropy : Entropy} {drawn : Seed} (given : entropy.bytes = .ok drawn)
    (world : World σ) :
    ∃ keys, (generate entropy world).value = .ok keys ∧ keys.privateKey = drawn.text ∧
      keys.publicKey = Base64Url.encode (Curve25519.publicKey drawn.bytes) ∧
      ∀ other : World σ, (publicKeyOf keys.privateKey other).value = .ok keys.publicKey := by
  have read := Base64Url.decode_encode drawn.bytes
  refine ⟨⟨drawn.text, Base64Url.encode (Curve25519.publicKey drawn.bytes)⟩, ?_, rfl, rfl, fun other => ?_⟩
  · unfold generate
    rw [Entropy.draw_of_bytes given]
    rfl
  · exact congrArg Ending.value (congrFun (publicKeyOf_of_decode read drawn.length_bytes) other)

theorem generate_of_error {entropy : Entropy} {reason : String} (undrawn : entropy.bytes = .error reason) :
    (generate entropy : Run σ _) =
      pure (.error (.environment ("secure random source failed: " ++ reason))) := by
  unfold generate
  rw [Entropy.draw_of_error undrawn]

end TransportKeys

namespace TransportKeyBuilder

/-- A key pair is the private key that was set, or random bytes, with the public key beside it. -/
theorem value_keyPair (builder : TransportKeyBuilder) (entropy : Entropy) (world : World σ) :
    (builder.keyPair entropy world).value =
      (entropy.textOr builder.privateKey).bind fun privateKey =>
        (TransportKeys.publicKeyOf privateKey world).value.map fun publicKey => ⟨privateKey, publicKey⟩ := by
  unfold keyPair
  cases builder.privateKey with
  | none =>
    cases asked : entropy.bytes with
    | error reason =>
      rw [Entropy.textOr, Entropy.draw_of_error asked]
      simp only [TransportKeys.generate_of_error asked, pure_apply, Except.map, Except.bind]
    | ok drawn =>
      rcases TransportKeys.generate_of_bytes asked world with ⟨keys, made, privateKey, _, accepted⟩
      have used := Entropy.textOr_none_eq_ok_iff.mpr ⟨drawn, asked, privateKey.symm⟩
      simp only [used, made, Except.bind, accepted, Except.map]
  | some privateKey =>
    simp only [Entropy.textOr, Except.bind, bind_apply]
    cases (TransportKeys.publicKeyOf privateKey world).value with
    | error error => simp only [pure_apply, Except.map]
    | ok publicKey => simp only [pure_apply, Except.map]

theorem value_keyPair_eq_ok_iff (builder : TransportKeyBuilder) (entropy : Entropy) (world : World σ)
    (keys : TransportKeys) :
    (builder.keyPair entropy world).value = .ok keys ↔
      entropy.textOr builder.privateKey = .ok keys.privateKey ∧
      ∃ bytes : List UInt8, Base64Url.decode keys.privateKey = .ok bytes ∧
        bytes.length = TransportKeys.keyLength ∧
        keys.publicKey = Base64Url.encode (Curve25519.publicKey bytes) := by
  have accepts := TransportKeys.value_publicKeyOf_eq_ok_iff keys.privateKey keys.publicKey world
  rw [value_keyPair, ← accepts]
  constructor
  · intro given
    rcases bind_eq_ok given with ⟨privateKey, used, paired⟩
    rcases map_eq_ok paired with ⟨publicKey, accepted, rfl⟩
    exact ⟨used, accepted⟩
  · rintro ⟨used, accepted⟩
    simp only [used, Except.bind, accepted, Except.map]

end TransportKeyBuilder
end NodeKeys
