import NodeKeys.Seed

/-!
# Random bytes of the system

Seeds and private keys that nobody gave are drawn from the system's source of random bytes, which may be out of order.
A request sees that source as it is when the request is carried out.
-/

namespace NodeKeys

/-- What the system answers when it is asked for random bytes. -/
structure Entropy where
  /-- The answer to a request for a single byte. -/
  probe : Except String Unit
  /-- The answer to a request for as many bytes as a seed has. -/
  bytes : Except String Seed

namespace Entropy

/-- A source in working order that gives these bytes. -/
def giving (seed : Seed) : Entropy :=
  ⟨.ok (), .ok seed⟩

/-- Fail at once if there is no randomness to be had. -/
def ensure (entropy : Entropy) : Except KeygenError Unit :=
  entropy.probe.mapError fun reason => .environment ("no secure random source: " ++ reason)

def draw (entropy : Entropy) : Except KeygenError Seed :=
  entropy.bytes.mapError fun reason => .environment ("secure random source failed: " ++ reason)

end Entropy
end NodeKeys
