import NodeKeys.Hash.Sha256
import NodeKeys.Hex

/-!
# Fingerprints of public material

Log lines name a public key by a short digest, never by its bytes.
-/

namespace NodeKeys

/-- `#` and the first twelve digits of the SHA-256 digest. -/
def fingerprint (material : List UInt8) : String :=
  "#" ++ Hex.ofBytes ((Hash.Sha256.digest material).take 6)

end NodeKeys
