import NodeKeys.Proofs.Base64Url.OnePass
import NodeKeys.Proofs.TransportKeys

/-!
# Key pairs and their private halves

A key pair can be rebuilt from the text of its private key, because this text holds the bytes that were drawn,
unchanged: the bits that a scalar needs fixed are fixed on the way to the public key and nowhere else.  A builder
keeps the last private key that it was given and forgets the others.  From then on its two answers are one
computation: the key pair is the public key with the given text beside it.
-/

namespace NodeKeys

open Base64Url Run

variable {σ : Type}

theorem Seed.length_text (seed : Seed) : seed.text.length = 43 := by
  rw [text, length_encode, seed.length_bytes]
  rfl

namespace TransportKeyBuilder

/-- A new builder after these private keys were set, one after the other. -/
def configured (privateKeys : List String) : TransportKeyBuilder :=
  privateKeys.foldl withPrivateKey {}

theorem configured_append_singleton (earlier : List String) (last : String) :
    configured (earlier ++ [last]) = ⟨some last⟩ := by
  rw [configured, List.foldl_append]
  rfl

/-- With a private key set, the key pair is the public key with the text of the private key beside it. -/
theorem keyPair_of_some (privateKey : String) (entropy : Entropy) :
    (keyPair ⟨some privateKey⟩ entropy : Run σ (Except KeygenError TransportKeys)) =
      Except.map (TransportKeys.mk privateKey) <$> publicKey ⟨some privateKey⟩ := by
  rw [map_eq_pure_bind]
  refine congrArg (TransportKeys.publicKeyOf privateKey >>= ·) (funext fun found => ?_)
  cases found <;> rfl

theorem keyPair_agrees_with_publicKey (privateKey : String) (entropy : Entropy) (world other : World σ) :
    (∃ error, (publicKey ⟨some privateKey⟩ world).value = .error error ∧
      (keyPair ⟨some privateKey⟩ entropy other).value = .error error) ∨
    ∃ found, (publicKey ⟨some privateKey⟩ world).value = .ok found ∧
      (keyPair ⟨some privateKey⟩ entropy other).value = .ok ⟨privateKey, found⟩ := by
  have same : (publicKey ⟨some privateKey⟩ other).value = (publicKey ⟨some privateKey⟩ world).value :=
    TransportKeys.value_publicKeyOf privateKey other world
  rw [keyPair_of_some, map_apply, same]
  cases (publicKey ⟨some privateKey⟩ world).value with
  | error error => exact Or.inl ⟨error, rfl, rfl⟩
  | ok found => exact Or.inr ⟨found, rfl, rfl⟩

end TransportKeyBuilder

open TransportKeys TransportKeyBuilder

/-- If random bytes can be drawn, a generated key pair holds them, in two texts of forty-three URL-safe characters, and
its private half alone gives it back, as a public key and as a whole; if they cannot, there is an error and nothing
else.  Of the private keys that a builder is given, only the last one counts, for both of its answers and for all they
do: they fail with the same error, or the key pair is this text as it stands and the public key.  Texts of the same
thirty-two bytes have the same public key. -/
theorem key_pairs_are_rebuilt_from_private_keys :
    (∀ entropy, ∀ world : World σ,
      (∀ drawn, entropy.bytes = .ok drawn → ∃ keys, (TransportKeys.generate entropy world).value = .ok keys ∧
        decode keys.privateKey = .ok drawn.bytes ∧
        (keys.privateKey.length = 43 ∧ UrlSafe keys.privateKey) ∧
        (keys.publicKey.length = 43 ∧ UrlSafe keys.publicKey) ∧
        ∀ other : World σ,
          (publicKeyOf keys.privateKey other).value = .ok keys.publicKey ∧
          ∀ random, ((configured [keys.privateKey]).keyPair random other).value = .ok keys) ∧
      ∀ reason, entropy.bytes = .error reason → TransportKeys.generate entropy world =
        ⟨.error (.environment ("secure random source failed: " ++ reason)), world, []⟩) ∧
    (∀ earlier last,
      let builder := configured (earlier ++ [last])
      (builder.publicKey : Run σ _) = (configured [last]).publicKey ∧
      (∀ random fresh, (builder.keyPair random : Run σ _) = (configured [last]).keyPair fresh) ∧
      ∀ random, ∀ world other : World σ,
        (∃ error, (builder.publicKey world).value = .error error ∧
          (builder.keyPair random other).value = .error error) ∨
        ∃ publicKey, (builder.publicKey world).value = .ok publicKey ∧
          (builder.keyPair random other).value = .ok ⟨last, publicKey⟩) ∧
    ∀ first second bytes, decode first = .ok bytes → decode second = .ok bytes → bytes.length = 32 →
      ∃ publicKey, ∀ world other : World σ, (publicKeyOf first world).value = .ok publicKey ∧
        (publicKeyOf second other).value = .ok publicKey := by
  refine ⟨fun entropy world => ⟨?generated, ?undrawn⟩, ?lastOne, ?sameBytes⟩
  case generated =>
    intro drawn given
    rcases generate_of_bytes given world with ⟨keys, made, drawnText, derivedText, rebuilt⟩
    have publicLength := length_encode (Curve25519.publicKey drawn.bytes)
    rw [Curve25519.length_publicKey, ← derivedText] at publicLength
    refine ⟨keys, made, ?decoded, ⟨?privateLength, ?privateSafe⟩, ⟨publicLength, ?publicSafe⟩,
      fun other => ⟨rebuilt other, fun random => ?_⟩⟩
    case decoded => rw [drawnText]; exact decode_encode drawn.bytes
    case privateLength => rw [drawnText]; exact drawn.length_text
    case privateSafe => rw [drawnText]; exact urlSafe_encode _
    case publicSafe => rw [derivedText]; exact urlSafe_encode _
    have found : (publicKey ⟨some keys.privateKey⟩ other).value = .ok keys.publicKey := rebuilt other
    change (keyPair ⟨some keys.privateKey⟩ random other).value = _
    rw [keyPair_of_some, map_apply, found]
    rfl
  case undrawn =>
    intro reason undrawn
    rw [generate_of_error undrawn, pure_apply]
  case lastOne =>
    intro earlier last builder
    have remembered : builder = ⟨some last⟩ := configured_append_singleton earlier last
    rw [remembered]
    refine ⟨rfl, fun random fresh => ?_, keyPair_agrees_with_publicKey last⟩
    exact (keyPair_of_some last random).trans (keyPair_of_some last fresh).symm
  case sameBytes =>
    intro first second bytes readFirst readSecond sized
    have accepted {text : String} (read : decode text = .ok bytes) (world : World σ) :
        (publicKeyOf text world).value = .ok (encode (Curve25519.publicKey bytes)) :=
      (value_publicKeyOf_eq_ok_iff text _ world).mpr ⟨bytes, read, sized, rfl⟩
    exact ⟨_, fun world other => ⟨accepted readFirst world, accepted readSecond other⟩⟩

end NodeKeys
