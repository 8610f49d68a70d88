import NodeKeys.RawKeyPair.PublicKey

/-!
# Where a public half is found

`Yields` says it without a search: a byte string is a public half itself; a record has it in the first of the
known fields that holds bytes; a sequence has it in its first byte string; and a record in which no known field
holds bytes has the public half of the key pair that it wraps.  Nothing is said of its content, which may be
empty.
-/

namespace NodeKeys
namespace RawKeyPair

/-- The first public half along the chain of wrapped key pairs. -/
inductive Yields : RawKeyPair → List UInt8 → Prop
  | bare (content : List UInt8) : Yields (bytes content) content
  | named {fields : List (String × RawKeyPair)} {before after : List String} {name : String}
      {content : List UInt8} (order : publicKeyFields = before ++ name :: after)
      (held : Table.find? name fields = some (bytes content))
      (passed : ∀ other ∈ before, (Table.find? other fields).bind asBytes? = none) :
      Yields (object fields) content
  | listed {items before after : List RawKeyPair} {content : List UInt8}
      (order : items = before ++ bytes content :: after)
      (passed : ∀ item ∈ before, item.asBytes? = none) : Yields (list items) content
  | wrapped {fields : List (String × RawKeyPair)} {inner : RawKeyPair} {content : List UInt8}
      (passed : ∀ name ∈ publicKeyFields, (Table.find? name fields).bind asBytes? = none)
      (held : Table.find? nestedField fields = some inner) (yields : Yields inner content) :
      Yields (object fields) content

/-! ## The matchers -/

theorem asBytes?_eq_some_iff (raw : RawKeyPair) (content : List UInt8) :
    raw.asBytes? = some content ↔ raw = bytes content := by
  cases raw <;> simp [asBytes?]

theorem namedField_eq_some_iff (fields : List (String × RawKeyPair)) (content : List UInt8) :
    namedField (object fields) = some content ↔
      ∃ before name after, publicKeyFields = before ++ name :: after ∧
        Table.find? name fields = some (bytes content) ∧
        ∀ other ∈ before, (Table.find? other fields).bind asBytes? = none := by
  have held (name : String) : (Table.find? name fields).bind asBytes? = some content ↔
      Table.find? name fields = some (bytes content) := by
    simp only [Option.bind_eq_some_iff, asBytes?_eq_some_iff, exists_eq_right]
  simp only [namedField, field?, List.findSome?_eq_some_iff, held]

theorem namedField_eq_none_iff (fields : List (String × RawKeyPair)) :
    namedField (object fields) = none ↔
      ∀ name ∈ publicKeyFields, (Table.find? name fields).bind asBytes? = none :=
  List.findSome?_eq_none_iff

theorem firstListBytes_eq_some_iff (items : List RawKeyPair) (content : List UInt8) :
    firstListBytes (list items) = some content ↔
      ∃ before after, items = before ++ bytes content :: after ∧ ∀ item ∈ before, item.asBytes? = none := by
  simp only [firstListBytes, List.findSome?_eq_some_iff, asBytes?_eq_some_iff]
  constructor
  · rintro ⟨before, item, after, order, rfl, passed⟩
    exact ⟨before, after, order, passed⟩
  · rintro ⟨before, after, order, passed⟩
    exact ⟨before, bytes content, after, order, rfl, passed⟩

/-! ## The whole search -/

mutual

theorem yields_of_publicKey? {raw : RawKeyPair} {content : List UInt8}
    (found : raw.publicKey? = some content) : raw.Yields content := by
  cases raw with
  | bytes own =>
    cases found
    exact .bare content
  | object fields =>
    rw [publicKey?] at found
    cases named : namedField (object fields) with
    | some key =>
      rw [named] at found
      cases found
      rcases (namedField_eq_some_iff fields content).mp named with ⟨before, name, after, order, held, passed⟩
      exact .named order held passed
    | none =>
      rw [named] at found
      rcases yields_of_nestedPublicKey? found with ⟨inner, held, yields⟩
      exact .wrapped ((namedField_eq_none_iff fields).mp named) held yields
  | list items =>
    rcases (firstListBytes_eq_some_iff items content).mp found with ⟨before, after, order, passed⟩
    exact .listed order passed
  | text own => cases found
  | null => cases found
termination_by structural raw

theorem yields_of_nestedPublicKey? {fields : List (String × RawKeyPair)} {content : List UInt8}
    (found : nestedPublicKey? fields = some content) :
    ∃ inner, Table.find? nestedField fields = some inner ∧ inner.Yields content := by
  cases fields with
  | nil => cases found
  | cons field rest =>
    rcases field with ⟨name, value⟩
    rw [nestedPublicKey?] at found
    rw [Table.find?]
    by_cases same : nestedField = name
    · rw [if_pos same] at found ⊢
      exact ⟨value, rfl, yields_of_publicKey? found⟩
    · rw [if_neg same] at found ⊢
      exact yields_of_nestedPublicKey? found
termination_by structural fields

end

theorem publicKey?_of_yields {raw : RawKeyPair} {content : List UInt8} (yields : raw.Yields content) :
    raw.publicKey? = some content := by
  induction yields with
  | bare content => rfl
  | @named fields before after name content order held passed =>
    have found := (namedField_eq_some_iff fields content).mpr ⟨before, name, after, order, held, passed⟩
    rw [publicKey?, found, Option.some_or]
  | @listed items before after content order passed =>
    exact (firstListBytes_eq_some_iff items content).mpr ⟨before, after, order, passed⟩
  | @wrapped fields inner content passed held _ inductionHypothesis =>
    rw [publicKey?, (namedField_eq_none_iff fields).mpr passed, Option.none_or, nestedPublicKey?_eq_bind, held]
    exact inductionHypothesis

/-- What is extracted is what the key pair yields. -/
theorem extractPublicKey_eq_ok_iff (raw : RawKeyPair) (content : List UInt8) :
    raw.extractPublicKey = .ok content ↔ raw.Yields content := by
  unfold extractPublicKey
  constructor
  · intro extracted
    cases found : raw.publicKey? with
    | none =>
      rw [found] at extracted
      cases extracted
    | some key =>
      rw [found] at extracted
      cases extracted
      exact yields_of_publicKey? found
  · intro yields
    rw [publicKey?_of_yields yields]

theorem extractPublicKey_of_not_yields {raw : RawKeyPair} (nowhere : ∀ content, ¬ raw.Yields content) :
    raw.extractPublicKey = .error (.publicKeyExtraction s!"unrecognized {raw.kind} result") := by
  unfold extractPublicKey
  cases found : raw.publicKey? with
  | none => rfl
  | some content => exact absurd (yields_of_publicKey? found) (nowhere content)

end RawKeyPair
end NodeKeys
