import NodeKeys.Curve25519
import NodeKeys.Entropy
import NodeKeys.Run

/-!
# X25519 transport keys

Private and public keys travel as key text like seeds do.  A private key is kept as it was drawn or given;
only its use as a scalar fixes some of its bits.  Whatever is wrong with the text of a private key, the
caller sees one and the same error, and the reason goes to the log.
-/

namespace NodeKeys

variable {σ : Type}

/-- A key pair as key texts. -/
structure TransportKeys where
  privateKey : String
  publicKey : String
  deriving DecidableEq, Repr

namespace TransportKeys

def keyLength : Nat := 32

def diagnostic (keys : TransportKeys) : String :=
  Diagnostic.record "X25519Keys"
    [("private_key", Diagnostic.quoted keys.privateKey),
     ("public_key", Diagnostic.quoted keys.publicKey)]

def publicKeyOf (privateKey : String) : Run σ (Except KeygenError String) :=
  match Base64Url.decodeExact keyLength privateKey with
  | .error error => do
    Run.log (.privateKeyRejected error)
    return .error (.invalidKey "invalid private key")
  | .ok ⟨bytes, _⟩ => return .ok (Base64Url.encode (Curve25519.publicKey bytes))

def generate (entropy : Entropy) : Run σ (Except KeygenError TransportKeys) :=
  match entropy.draw with
  | .error error => return .error error
  | .ok drawn => do
    let publicKey := Curve25519.publicKey drawn.bytes
    Run.log (.transportKeyGenerated (fingerprint publicKey))
    return .ok ⟨Base64Url.encode drawn.bytes, Base64Url.encode publicKey⟩

end TransportKeys

/-- A request for transport keys. -/
structure TransportKeyBuilder where
  privateKey : Option String := none
  deriving DecidableEq, Repr

namespace TransportKeyBuilder

def withPrivateKey (_ : TransportKeyBuilder) (privateKey : String) : TransportKeyBuilder :=
  ⟨some privateKey⟩

def publicKey (builder : TransportKeyBuilder) : Run σ (Except KeygenError String) :=
  match builder.privateKey with
  | none => return .error (.invalidKey "private key not set")
  | some privateKey => TransportKeys.publicKeyOf privateKey

/-- The key pair of the private key that was set, or a fresh one. -/
def keyPair (builder : TransportKeyBuilder) (entropy : Entropy) :
    Run σ (Except KeygenError TransportKeys) :=
  match builder.privateKey with
  | none => TransportKeys.generate entropy
  | some privateKey => do
    match ← TransportKeys.publicKeyOf privateKey with
    | .error error => return .error error
    | .ok publicKey => return .ok ⟨privateKey, publicKey⟩

end TransportKeyBuilder
end NodeKeys
