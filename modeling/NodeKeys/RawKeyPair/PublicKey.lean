import NodeKeys.Error
import NodeKeys.RawKeyPair.Basic

/-!
# The public half of a key pair

Four matchers recognize one shape each.  The last of them looks into the field `keypair` and tries all
four there, so the search follows a chain of such fields as deep as it goes.

`publicKey?` says this by recursion on the value; `publicKey?_eq_findSome?` states that it is the same as
trying the table of matchers in order.
-/

namespace NodeKeys
namespace RawKeyPair

/-- Fields that may hold the public key, most preferred first. -/
def publicKeyFields : List String :=
  ["publicKey", "public_key", "public", "verify", "verificationKey", "verification_key", "pk"]

/-- The field that wraps a whole key pair. -/
def nestedField : String := "keypair"

/-- The value itself is the key. -/
def bareBytes (raw : RawKeyPair) : Option (List UInt8) :=
  raw.asBytes?

/-- The first of the known fields that holds bytes.  A field that holds something else is passed over. -/
def namedField (raw : RawKeyPair) : Option (List UInt8) :=
  publicKeyFields.findSome? fun name => (raw.field? name).bind asBytes?

def firstListBytes : RawKeyPair → Option (List UInt8)
  | list items => items.findSome? asBytes?
  | _ => none

mutual

/-- The public key of a value, if one of the matchers finds it. -/
def publicKey? : RawKeyPair → Option (List UInt8)
  | bytes content => some content
  | object fields => (namedField (object fields)).or (nestedPublicKey? fields)
  | list items => firstListBytes (list items)
  | text _ => none
  | null => none
termination_by structural raw => raw

def nestedPublicKey? : List (String × RawKeyPair) → Option (List UInt8)
  | [] => none
  | (name, value) :: rest =>
    if nestedField = name then publicKey? value else nestedPublicKey? rest
termination_by structural fields => fields

end

def nestedKeyPair (raw : RawKeyPair) : Option (List UInt8) :=
  (raw.field? nestedField).bind publicKey?

/-- The matchers in the order in which they are tried, each with its name. -/
def matchers : List (String × (RawKeyPair → Option (List UInt8))) :=
  [("bare bytes", bareBytes), ("named field", namedField), ("list element", firstListBytes),
   ("nested keypair", nestedKeyPair)]

theorem nestedPublicKey?_eq_bind (fields : List (String × RawKeyPair)) :
    nestedPublicKey? fields = (Table.find? nestedField fields).bind publicKey? := by
  induction fields with
  | nil => rfl
  | cons field rest ih =>
    obtain ⟨name, value⟩ := field
    by_cases same : nestedField = name <;> simp [nestedPublicKey?, Table.find?, same, ih]

private theorem findSome?_matchers (raw : RawKeyPair) :
    (matchers.findSome? fun matcher => matcher.2 raw) =
      (bareBytes raw).or ((namedField raw).or ((firstListBytes raw).or (nestedKeyPair raw))) := by
  cases bare : bareBytes raw <;> cases named : namedField raw <;>
    cases listed : firstListBytes raw <;> cases nested : nestedKeyPair raw <;>
    simp [matchers, List.findSome?, bare, named, listed, nested]

/-- Searching by recursion is trying the matchers in order. -/
theorem publicKey?_eq_findSome? (raw : RawKeyPair) :
    raw.publicKey? = matchers.findSome? fun matcher => matcher.2 raw := by
  rw [findSome?_matchers]
  cases raw with
  | bytes content => rfl
  | object fields =>
    simp [publicKey?, bareBytes, asBytes?, firstListBytes, nestedKeyPair, field?,
      nestedPublicKey?_eq_bind]
  | list items =>
    have unnamed : namedField (list items) = none := by
      simp [namedField, field?, publicKeyFields, List.findSome?]
    simp [publicKey?, bareBytes, asBytes?, nestedKeyPair, field?, unnamed]
  | text content =>
    simp [publicKey?, bareBytes, asBytes?, namedField, field?, firstListBytes, nestedKeyPair,
      publicKeyFields, List.findSome?]
  | null =>
    simp [publicKey?, bareBytes, asBytes?, namedField, field?, firstListBytes, nestedKeyPair,
      publicKeyFields, List.findSome?]

/-- The public key of a value.  The error names the shape of the whole value. -/
def extractPublicKey (raw : RawKeyPair) : Except KeygenError (List UInt8) :=
  match raw.publicKey? with
  | some key => .ok key
  | none => .error (.publicKeyExtraction s!"unrecognized {raw.kind} result")

end RawKeyPair
end NodeKeys
