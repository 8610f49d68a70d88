import NodeKeys.Proofs.Builtin
import NodeKeys.Proofs.Generation.Stages
import NodeKeys.Proofs.TransportKeys

/-!
# The spelling of returned keys

Of the two texts of a key pair, the one for the public half is always written here, so it is URL-safe.  The other
one is the caller's own, if there is one, and it is passed on as it was given.  Hence it is URL-safe exactly if it
was: nobody takes away an `=` or respells a symbol of the other alphabet, though both are read.
-/

namespace NodeKeys

open Base64Url

variable {σ : Type}

/-- The text, if there is one, has none of the characters that are read and never written. -/
def Base64Url.SpelledStrictly (given? : Option String) : Prop :=
  ∀ text ∈ given?, '=' ∉ text.toList ∧ '+' ∉ text.toList ∧ '/' ∉ text.toList

theorem Entropy.urlSafe_textOr_iff {entropy : Entropy} {given? : Option String} {text : String}
    {bytes : List UInt8} (used : entropy.textOr given? = .ok text) (read : decode text = .ok bytes) :
    UrlSafe text ↔ SpelledStrictly given? := by
  cases given? with
  | none =>
    rcases textOr_none_eq_ok_iff.mp used with ⟨drawn, _, rfl⟩
    constructor
    · intro _ text impossible
      cases impossible
    · intro _
      exact urlSafe_encode drawn.bytes
  | some given =>
    cases used
    have decided := urlSafe_iff_of_decode read
    constructor
    · intro safe other same
      cases same
      exact decided.mp safe
    · intro strict
      exact decided.mpr (strict _ rfl)

section Keys

variable {generator : Generator} {text? : Option String} {entropy : Entropy} {loaders : Loaders σ}
  {world : World σ} {keys : SigningKeys}

theorem Generator.texts_of_generate
    (given : (generator.generate text? entropy loaders world).value.1 = .ok keys) :
    entropy.textOr text? = .ok keys.seed ∧ (∃ seed, Seed.ofText keys.seed = .ok seed) ∧
      ∃ publicKey, keys.verify = encode publicKey := by
  rcases (generator.value_generate_eq_ok_iff text? entropy loaders world keys).mp given with
    ⟨seedText, derivation, publicKey, ⟨seed, handle, requested, _, _⟩, _, rfl⟩
  rcases requestedSeed_eq_ok_iff.mp requested with ⟨_, used, readable⟩
  exact ⟨used, ⟨seed, readable⟩, publicKey, rfl⟩

theorem Generator.key_texts_of_generate
    (given : (generator.generate text? entropy loaders world).value.1 = .ok keys) :
    UrlSafe keys.verify ∧ entropy.textOr text? = .ok keys.seed ∧
      (UrlSafe keys.seed ↔ SpelledStrictly text?) := by
  rcases texts_of_generate given with ⟨used, ⟨seed, readable⟩, publicKey, written⟩
  rw [written]
  exact ⟨urlSafe_encode publicKey, used, Entropy.urlSafe_textOr_iff used (Seed.decode_of_ofText readable)⟩

end Keys

theorem TransportKeyBuilder.key_texts_of_keyPair {builder : TransportKeyBuilder} {entropy : Entropy}
    {world : World σ} {keys : TransportKeys} (given : (builder.keyPair entropy world).value = .ok keys) :
    UrlSafe keys.publicKey ∧ entropy.textOr builder.privateKey = .ok keys.privateKey ∧
      (UrlSafe keys.privateKey ↔ SpelledStrictly builder.privateKey) := by
  rcases (builder.value_keyPair_eq_ok_iff entropy world keys).mp given with ⟨used, bytes, read, _, written⟩
  rw [written]
  exact ⟨urlSafe_encode _, used, Entropy.urlSafe_textOr_iff used read⟩

/-- The verification key and the public key are URL-safe, whatever was given.  The seed and the private key are
URL-safe if they were made here; if they were given, they come back unchanged, so they are URL-safe if and only if
they had no `=`, `+` or `/`. -/
theorem returned_texts_are_url_safe_unless_given_otherwise :
    (∀ generator text? entropy loaders, ∀ world : World σ, ∀ keys,
      (Generator.generate generator text? entropy loaders world).value.1 = .ok keys →
      UrlSafe keys.verify ∧ entropy.textOr text? = .ok keys.seed ∧
        (UrlSafe keys.seed ↔ SpelledStrictly text?)) ∧
    ∀ builder entropy, ∀ world : World σ, ∀ keys,
      (TransportKeyBuilder.keyPair builder entropy world).value = .ok keys →
      UrlSafe keys.publicKey ∧ entropy.textOr builder.privateKey = .ok keys.privateKey ∧
        (UrlSafe keys.privateKey ↔ SpelledStrictly builder.privateKey) := by
  constructor
  · intro generator text? entropy loaders world keys given
    exact Generator.key_texts_of_generate given
  · intro builder entropy world keys given
    exact TransportKeyBuilder.key_texts_of_keyPair given

/-- Nothing is given, and a seed and a private key are made. -/
theorem returned_texts_are_url_safe_unless_given_otherwise_fresh :
    let random : Seed := ⟨List.replicate 32 7, rfl⟩
    let entropy : Entropy := .giving random
    let loaders : Loaders Unit := fun _ => Builtin.loader fun state => (random, state)
    let signing := SigningKeys.seeded random.text (Builtin.verificationKey random)
    let transport : TransportKeys := ⟨random.text, encode (Curve25519.publicKey random.bytes)⟩
    ((Generator.generate {} none entropy loaders ⟨(), 0⟩).value.1 = .ok signing ∧
      UrlSafe signing.verify ∧ UrlSafe signing.seed) ∧
    (TransportKeyBuilder.keyPair {} entropy (⟨(), 0⟩ : World Unit)).value = .ok transport ∧
      UrlSafe transport.publicKey ∧ UrlSafe transport.privateKey := by
  intro random entropy loaders signing transport
  have nothing : SpelledStrictly none := fun _ impossible => nomatch impossible
  have builtin : Builtin.IsBuiltin (fun state => (random, state)) (loaders .processWide) :=
    Builtin.isBuiltin_loader _
  have requested : requestedSeed none entropy = .ok (random, random.text) := rfl
  have generated := (Builtin.generate_of_isBuiltin {} builtin requested ⟨(), 0⟩).1
  have paired : (TransportKeyBuilder.keyPair {} entropy (⟨(), 0⟩ : World Unit)).value = .ok transport := rfl
  rcases returned_texts_are_url_safe_unless_given_otherwise.1 _ _ _ _ _ _ generated with ⟨safeVerify, _, seed⟩
  rcases returned_texts_are_url_safe_unless_given_otherwise.2 _ _ _ _ paired with ⟨safePublic, _, privateKey⟩
  exact ⟨⟨generated, safeVerify, seed.mpr nothing⟩, paired, safePublic, privateKey.mpr nothing⟩

/-- A text with an `=` at its end comes back with it, as a seed and as a private key. -/
theorem padded_text_is_returned :
    let padded := "AAAAAAAAAAAAAAAAAAAAAAAAAAAAAAAAAAAAAAAAAAA="
    let random : Seed := ⟨List.replicate 32 7, rfl⟩
    let entropy : Entropy := .giving random
    let loaders : Loaders Unit := fun _ => Builtin.loader fun state => (random, state)
    (∃ keys, (Generator.generate {} (some padded) entropy loaders ⟨(), 0⟩).value.1 = .ok keys ∧
      keys.seed = padded) ∧
    (∃ keys, (TransportKeyBuilder.keyPair ⟨some padded⟩ entropy (⟨(), 0⟩ : World Unit)).value = .ok keys ∧
      keys.privateKey = padded) ∧
    ¬ UrlSafe padded := by
  intro padded random entropy loaders
  have spells : Spells padded (List.replicate 43 0) 1 :=
    ⟨⟨padded.toList.take 43, by decide, by decide⟩, by decide, by decide, by decide, by decide⟩
  have read := decode_of_spells spells
  have sized : (joined (List.replicate 43 0)).length = 32 := length_joined _
  have available : entropy.probe = .ok () := rfl
  have requested := requestedSeed_some available (Seed.ofText_of_decode read sized)
  have builtin : Builtin.IsBuiltin (fun state => (random, state)) (loaders .processWide) :=
    Builtin.isBuiltin_loader _
  have generated := (Builtin.generate_of_isBuiltin {} builtin requested ⟨(), 0⟩).1
  have paired := (TransportKeyBuilder.value_keyPair_eq_ok_iff ⟨some padded⟩ entropy (⟨(), 0⟩ : World Unit)
    ⟨padded, _⟩).mpr ⟨rfl, _, read, sized, rfl⟩
  have hasPad : '=' ∈ padded.toList := by decide
  exact ⟨⟨_, generated, rfl⟩, ⟨_, paired, rfl⟩, fun safe => absurd (safe '=' hasPad) (by decide)⟩

end NodeKeys
