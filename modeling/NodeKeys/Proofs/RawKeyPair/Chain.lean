import NodeKeys.Proofs.RawKeyPair.Search

/-!
# The chain of wrapped key pairs

A record may wrap a key pair in one of its fields, and that key pair may be such a record again.  The values
that are met on the way down are numbered by their depth, and each of them is judged by itself: whether a
public key stands directly in it, and which one counts if there are several.

The search for a public key is a walk down this chain.  It ends at the first value in which a key stands, and
looks at nothing below it.
-/

namespace NodeKeys
namespace RawKeyPair

/-- The value at a depth: the key pair itself, and below each record the value in the field that wraps a key
pair.  There is none below a value that is no record or lacks the field. -/
def wrapped? (raw : RawKeyPair) : (depth : Nat) → Option RawKeyPair
  | 0 => some raw
  | depth + 1 => (raw.wrapped? depth).bind (field? nestedField)

/-- A public key stands directly in the value. -/
def HasKey : RawKeyPair → Prop
  | bytes _ => True
  | list items => ∃ content, bytes content ∈ items
  | object fields => ∃ name ∈ publicKeyFields, ∃ content, Table.find? name fields = some (bytes content)
  | text _ => False
  | null => False

/-- The public key that stands directly in the value.  Of several in a sequence the first one counts, and of
several in a record the one under the most preferred name. -/
inductive Holds : RawKeyPair → List UInt8 → Prop
  | bare (key : List UInt8) : Holds (bytes key) key
  | listed {before after : List RawKeyPair} {key : List UInt8}
      (passed : ∀ item ∈ before, ∀ content, item ≠ bytes content) :
      Holds (list (before ++ bytes key :: after)) key
  | named {fields : List (String × RawKeyPair)} {before after : List String} {name : String}
      {key : List UInt8} (order : publicKeyFields = before ++ name :: after)
      (held : Table.find? name fields = some (bytes key))
      (passed : ∀ other ∈ before, ∀ content, Table.find? other fields ≠ some (bytes content)) :
      Holds (object fields) key

/-- The key that is nearest to the top of the chain: some value holds it, and no key stands above that value. -/
def HoldsNearest (raw : RawKeyPair) (key : List UInt8) : Prop :=
  ∃ depth level, raw.wrapped? depth = some level ∧ level.Holds key ∧
    ∀ less < depth, ∀ above, raw.wrapped? less = some above → ¬ above.HasKey

/-! ## One value of the chain -/

theorem asBytes?_eq_none_iff (raw : RawKeyPair) :
    raw.asBytes? = none ↔ ∀ content, raw ≠ bytes content := by
  simp only [Option.eq_none_iff_forall_ne_some, ne_eq, asBytes?_eq_some_iff]

theorem bind_asBytes?_eq_none_iff (value : Option RawKeyPair) :
    value.bind asBytes? = none ↔ ∀ content, value ≠ some (bytes content) := by
  cases value with
  | none => simp
  | some raw => simp [asBytes?_eq_none_iff]

theorem hasKey_of_holds {raw : RawKeyPair} {key : List UInt8} (holds : raw.Holds key) : raw.HasKey := by
  cases holds with
  | bare => trivial
  | listed => exact ⟨key, List.mem_append_right _ List.mem_cons_self⟩
  | @named fields before after name _ order held =>
    refine ⟨name, ?_, key, held⟩
    rw [order]
    exact List.mem_append_right _ List.mem_cons_self

theorem yields_of_holds {raw : RawKeyPair} {key : List UInt8} (holds : raw.Holds key) :
    raw.Yields key := by
  cases holds with
  | bare => exact .bare key
  | listed passed =>
    apply Yields.listed rfl
    intro item member
    exact (asBytes?_eq_none_iff item).mpr (passed item member)
  | named order held passed =>
    apply Yields.named order held
    intro other member
    exact (bind_asBytes?_eq_none_iff _).mpr (passed other member)

/-- A value in which a key stands holds one of them before all others. -/
theorem exists_holds_of_hasKey {raw : RawKeyPair} (has : raw.HasKey) : ∃ key, raw.Holds key := by
  cases raw with
  | bytes content => exact ⟨content, .bare content⟩
  | list items =>
    rcases has with ⟨content, member⟩
    cases found : firstListBytes (list items) with
    | none =>
      have absent := List.findSome?_eq_none_iff.mp found (bytes content) member
      cases absent
    | some key =>
      rcases (firstListBytes_eq_some_iff items key).mp found with ⟨before, after, rfl, passed⟩
      refine ⟨key, .listed ?_⟩
      intro item earlier
      exact (asBytes?_eq_none_iff item).mp (passed item earlier)
  | object fields =>
    rcases has with ⟨name, listed, content, held⟩
    cases found : namedField (object fields) with
    | none =>
      have absent := (namedField_eq_none_iff fields).mp found name listed
      rw [held] at absent
      cases absent
    | some key =>
      rcases (namedField_eq_some_iff fields key).mp found with ⟨before, name, after, order, held, passed⟩
      refine ⟨key, .named order held ?_⟩
      intro other earlier
      exact (bind_asBytes?_eq_none_iff _).mp (passed other earlier)
  | text => cases has
  | null => cases has

/-- A record in which no key stands is looked into. -/
theorem yields_of_field {raw inner : RawKeyPair} {key : List UInt8} (without : ¬ raw.HasKey)
    (held : raw.field? nestedField = some inner) (yields : inner.Yields key) : raw.Yields key := by
  cases raw with
  | object fields =>
    refine Yields.wrapped ?_ held yields
    intro name listed
    apply (bind_asBytes?_eq_none_iff _).mpr
    intro content stands
    exact without ⟨name, listed, content, stands⟩
  | _ => cases held

/-! ## The way down -/

/-- The chain of a key pair goes on as the chain of the one that it wraps. -/
theorem wrapped?_succ (raw : RawKeyPair) (depth : Nat) :
    raw.wrapped? (depth + 1) = (raw.field? nestedField).bind fun inner => inner.wrapped? depth := by
  induction depth with
  | zero =>
    show raw.field? nestedField = (raw.field? nestedField).bind some
    exact (Option.bind_fun_some _).symm
  | succ depth inductionHypothesis =>
    rw [wrapped?, inductionHypothesis, Option.bind_assoc]
    rfl

/-- If no key stands above it, a value on the chain decides. -/
theorem yields_of_wrapped {raw level : RawKeyPair} {depth : Nat} {key : List UInt8}
    (reached : raw.wrapped? depth = some level)
    (without : ∀ less < depth, ∀ above, raw.wrapped? less = some above → ¬ above.HasKey)
    (yields : level.Yields key) : raw.Yields key := by
  induction depth generalizing raw with
  | zero =>
    cases reached
    exact yields
  | succ depth inductionHypothesis =>
    rw [wrapped?_succ] at reached
    rcases Option.bind_eq_some_iff.mp reached with ⟨inner, held, reachedBelow⟩
    -- No key stands at the top, so the search goes down, and the depths below are one less from there.
    apply yields_of_field (without 0 (Nat.succ_pos depth) raw rfl) held
    apply inductionHypothesis reachedBelow
    intro less smaller above reachedAbove
    apply without (less + 1) (Nat.succ_lt_succ smaller) above
    rw [wrapped?_succ, held]
    exact reachedAbove

/-- Nothing is above the top of the chain. -/
theorem Holds.nearest {raw : RawKeyPair} {key : List UInt8} (holds : raw.Holds key) : raw.HoldsNearest key :=
  ⟨0, raw, rfl, holds, fun less smaller => absurd smaller (Nat.not_lt_zero less)⟩

theorem holdsNearest_of_yields {raw : RawKeyPair} {key : List UInt8} (yields : raw.Yields key) :
    raw.HoldsNearest key := by
  induction yields with
  | bare content => exact (Holds.bare content).nearest
  | named order held passed =>
    apply Holds.nearest
    apply Holds.named order held
    intro other earlier
    exact (bind_asBytes?_eq_none_iff _).mp (passed other earlier)
  | listed order passed =>
    subst order
    apply Holds.nearest
    apply Holds.listed
    intro item earlier
    exact (asBytes?_eq_none_iff item).mp (passed item earlier)
  | @wrapped fields inner key passed held _ inductionHypothesis =>
    rcases inductionHypothesis with ⟨depth, level, reached, holds, without⟩
    have onward (below : Nat) : (object fields).wrapped? (below + 1) = inner.wrapped? below := by
      rw [wrapped?_succ, field?, held, Option.bind_some]
    refine ⟨depth + 1, level, (onward depth).trans reached, holds, ?_⟩
    intro less smaller above reachedAbove
    cases less with
    | zero =>
      cases reachedAbove
      rintro ⟨name, listed, content, stands⟩
      exact (bind_asBytes?_eq_none_iff _).mp (passed name listed) content stands
    | succ less =>
      rw [onward] at reachedAbove
      exact without less (Nat.lt_of_succ_lt_succ smaller) above reachedAbove

/-- As soon as a key stands anywhere on the chain, some key is found. -/
theorem exists_yields_of_wrapped {raw level : RawKeyPair} {depth : Nat}
    (reached : raw.wrapped? depth = some level) (has : level.HasKey) : ∃ key, raw.Yields key := by
  induction depth generalizing raw with
  | zero =>
    cases reached
    rcases exists_holds_of_hasKey has with ⟨key, holds⟩
    exact ⟨key, yields_of_holds holds⟩
  | succ depth inductionHypothesis =>
    by_cases top : raw.HasKey
    · rcases exists_holds_of_hasKey top with ⟨key, holds⟩
      exact ⟨key, yields_of_holds holds⟩
    · rw [wrapped?_succ] at reached
      rcases Option.bind_eq_some_iff.mp reached with ⟨inner, held, reachedBelow⟩
      rcases inductionHypothesis reachedBelow with ⟨key, yields⟩
      exact ⟨key, yields_of_field top held yields⟩

/-- Extraction walks down the chain.  It gives a key if and only if one stands directly in some value of the
chain, and that key is the one that the first such value holds.  If there is no such value, the error names
the shape of the outermost value. -/
theorem nearest_key_is_extracted (raw : RawKeyPair) :
    ((∃ key, raw.extractPublicKey = .ok key) ↔
      ∃ depth level, raw.wrapped? depth = some level ∧ level.HasKey) ∧
    (∀ key, raw.extractPublicKey = .ok key ↔ raw.HoldsNearest key) ∧
    ((∀ depth level, raw.wrapped? depth = some level → ¬ level.HasKey) →
      raw.extractPublicKey = .error (.publicKeyExtraction s!"unrecognized {raw.kind} result")) := by
  have found (key : List UInt8) : raw.extractPublicKey = .ok key ↔ raw.HoldsNearest key := by
    rw [extractPublicKey_eq_ok_iff]
    constructor
    · exact holdsNearest_of_yields
    · rintro ⟨depth, level, reached, holds, without⟩
      exact yields_of_wrapped reached without (yields_of_holds holds)
  refine ⟨?some, found, ?nowhere⟩
  case some =>
    constructor
    · rintro ⟨key, extracted⟩
      rcases (found key).mp extracted with ⟨depth, level, reached, holds, _⟩
      exact ⟨depth, level, reached, hasKey_of_holds holds⟩
    · rintro ⟨depth, level, reached, has⟩
      rcases exists_yields_of_wrapped reached has with ⟨key, yields⟩
      exact ⟨key, (extractPublicKey_eq_ok_iff raw key).mpr yields⟩
  case nowhere =>
    intro nowhere
    apply extractPublicKey_of_not_yields
    intro key yields
    rcases holdsNearest_of_yields yields with ⟨depth, level, reached, holds, _⟩
    exact nowhere depth level reached (hasKey_of_holds holds)

/-- A text under a preferred name does not hide the bytes under another one, and a key pair that is wrapped
next to them is not looked into. -/
example :
    extractPublicKey (object [("keypair", object [("keypair", bytes [1]), ("publicKey", text "none"),
      ("verify", bytes [2])]), ("seed", bytes [3])]) = .ok [2] := rfl

end RawKeyPair
end NodeKeys
