import NodeKeys.Proofs.Base64Url.RoundTrip
import NodeKeys.Proofs.Fallible
import NodeKeys.Entropy

/-!
# Seeds that are given and seeds that are drawn

A key pair is made from a text that was given, or else from random bytes.  `Entropy.textOr` is the text that counts in
either case, so that what is proved of given texts is also about drawn ones: the text of random bytes reads back as
these bytes.
-/

namespace NodeKeys

/-- The text of a seed reads back as that seed. -/
theorem Seed.ofText_text (seed : Seed) : Seed.ofText seed.text = .ok seed := by
  have read : Base64Url.decodeExact seedLength seed.text = .ok ⟨seed.bytes, seed.length_bytes⟩ := by
    simp only [Base64Url.decodeExact, Seed.text, Base64Url.decode_encode, seed.length_bytes, dif_pos]
  rw [ofText, read]

namespace Entropy

/-- The text that was given, or else that of random bytes. -/
def textOr (entropy : Entropy) : Option String → Except KeygenError String
  | some text => .ok text
  | none => entropy.draw.map Seed.text

variable {entropy : Entropy}

theorem ensure_of_probe (available : entropy.probe = .ok ()) : entropy.ensure = .ok () := by
  rw [ensure, available]
  rfl

theorem ensure_of_unavailable {reason : String} (unavailable : entropy.probe = .error reason) :
    entropy.ensure = .error (.environment ("no secure random source: " ++ reason)) := by
  rw [ensure, unavailable]
  rfl

theorem draw_of_bytes {drawn : Seed} (given : entropy.bytes = .ok drawn) : entropy.draw = .ok drawn := by
  rw [draw, given]
  rfl

theorem draw_of_error {reason : String} (undrawn : entropy.bytes = .error reason) :
    entropy.draw = .error (.environment ("secure random source failed: " ++ reason)) := by
  rw [draw, undrawn]
  rfl

theorem draw_eq_ok_iff {drawn : Seed} : entropy.draw = .ok drawn ↔ entropy.bytes = .ok drawn :=
  ⟨mapError_eq_ok, draw_of_bytes⟩

theorem textOr_none_eq_ok_iff {text : String} :
    entropy.textOr none = .ok text ↔ ∃ drawn, entropy.bytes = .ok drawn ∧ drawn.text = text := by
  constructor
  · intro texts
    rcases map_eq_ok texts with ⟨drawn, given, written⟩
    exact ⟨drawn, draw_eq_ok_iff.mp given, written⟩
  · rintro ⟨drawn, given, rfl⟩
    rw [textOr, draw_of_bytes given]
    rfl

end Entropy
end NodeKeys
