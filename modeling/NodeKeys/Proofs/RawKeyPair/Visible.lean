import NodeKeys.RawKeyPair.PublicKey

/-!
# What can be seen of a key pair

The search for the public half follows a chain of `keypair` fields.  In a record on this chain it reads the
fields that may hold a public key, and in a sequence the items up to the first byte string.  Everything else,
private halves above all, is only there.

`visible` blanks out what is never read and keeps the names of fields and the length of sequences.  The
statements below say that nothing is lost by it: whether the key pair counts as empty, of what kind it
is, and which public half is found in it, can all be told from what is visible.
-/

namespace NodeKeys
namespace RawKeyPair

/-- The items of a sequence, of which those after the first byte string are blanked out. -/
def visibleItems : List RawKeyPair → List RawKeyPair
  | [] => []
  | bytes content :: rest => bytes content :: rest.map fun _ => null
  | item :: rest => item :: visibleItems rest

mutual

/-- The key pair without what the search for its public half never reads. -/
def visible : RawKeyPair → RawKeyPair
  | bytes content => bytes content
  | object fields => object (visibleFields fields)
  | list items => list (visibleItems items)
  | text content => text content
  | null => null
termination_by structural raw => raw

/-- The fields of a record, of which all are blanked out but the wrapped key pair, which is treated alike, and
those that may hold a public key. -/
def visibleFields : List (String × RawKeyPair) → List (String × RawKeyPair)
  | [] => []
  | (name, value) :: rest =>
    (name, if name = nestedField then visible value
      else if name ∈ publicKeyFields then value else null) :: visibleFields rest
termination_by structural fields => fields

end

/-! ## Shapes -/

theorem isEmpty_visible (raw : RawKeyPair) : raw.visible.isEmpty = raw.isEmpty := by
  cases raw with
  | object fields => cases fields <;> rfl
  | list items =>
    cases items with
    | nil => rfl
    | cons item rest => cases item <;> rfl
  | _ => rfl

theorem kind_visible (raw : RawKeyPair) : raw.visible.kind = raw.kind := by
  cases raw <;> rfl

/-! ## Public halves -/

/-- A field that may hold a public key is as it was. -/
theorem find?_visibleFields {name : String} (listed : name ∈ publicKeyFields)
    (fields : List (String × RawKeyPair)) :
    Table.find? name (visibleFields fields) = Table.find? name fields := by
  have unwrapped : name ≠ nestedField := by
    rintro rfl
    revert listed
    decide
  induction fields with
  | nil => rfl
  | cons field rest inductionHypothesis =>
    rcases field with ⟨other, value⟩
    by_cases same : name = other
    · subst same
      simp only [visibleFields, Table.find?, if_pos, if_neg unwrapped, listed]
    · simp only [visibleFields, Table.find?, if_neg same, inductionHypothesis]

private theorem findSome?_congr {names : List String} {first second : String → Option (List UInt8)}
    (agree : ∀ name ∈ names, first name = second name) :
    names.findSome? first = names.findSome? second := by
  induction names with
  | nil => rfl
  | cons name rest inductionHypothesis =>
    rcases List.forall_mem_cons.mp agree with ⟨here, onward⟩
    rw [List.findSome?_cons, List.findSome?_cons, here, inductionHypothesis onward]

theorem namedField_visible (fields : List (String × RawKeyPair)) :
    namedField (object (visibleFields fields)) = namedField (object fields) := by
  refine findSome?_congr fun name listed => ?_
  simp only [field?, find?_visibleFields listed]

theorem firstListBytes_visible (items : List RawKeyPair) :
    firstListBytes (list (visibleItems items)) = firstListBytes (list items) := by
  simp only [firstListBytes]
  induction items with
  | nil => rfl
  | cons item rest inductionHypothesis =>
    cases item with
    | bytes content => rfl
    | _ => exact inductionHypothesis

mutual

theorem publicKey?_visible (raw : RawKeyPair) : raw.visible.publicKey? = raw.publicKey? := by
  cases raw with
  | object fields =>
    simp only [visible, publicKey?, namedField_visible, nestedPublicKey?_visible fields]
  | list items => simp only [visible, publicKey?, firstListBytes_visible]
  | _ => rfl
termination_by structural raw

theorem nestedPublicKey?_visible (fields : List (String × RawKeyPair)) :
    nestedPublicKey? (visibleFields fields) = nestedPublicKey? fields := by
  cases fields with
  | nil => rfl
  | cons field rest =>
    rcases field with ⟨name, value⟩
    by_cases wrapped : nestedField = name
    · simp only [visibleFields, nestedPublicKey?, if_pos wrapped, if_pos wrapped.symm,
        publicKey?_visible value]
    · simp only [visibleFields, nestedPublicKey?, if_neg wrapped, nestedPublicKey?_visible rest]
termination_by structural fields

end

/-- The public half of a key pair, and the error if there is none, can be told from what is visible. -/
theorem extractPublicKey_visible (raw : RawKeyPair) :
    raw.visible.extractPublicKey = raw.extractPublicKey := by
  rw [extractPublicKey, publicKey?_visible, kind_visible, extractPublicKey]

end RawKeyPair
end NodeKeys
