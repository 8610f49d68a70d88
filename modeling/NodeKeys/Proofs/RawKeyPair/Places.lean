import Mathlib.Data.List.Forall2
import NodeKeys.RawKeyPair.Basic

/-!
# Places in a key pair

A record and a sequence have parts: the values of the fields in the order of the table, and the items.  All other
values have none.  A place leads from the outside to a value inside: it is the number of a part, then the number of
a part of that part, and so on.

Two key pairs are compared place by place.  That some relation holds everywhere says that the same places exist in
both, and that the two values at each of them are related.  It is enough to look at the outside and, in turn, at the
parts.
-/

namespace NodeKeys
namespace RawKeyPair

/-- The values that a record or a sequence is made of. -/
def parts : RawKeyPair → List RawKeyPair
  | object fields => fields.map Prod.snd
  | list items => items
  | bytes _ | text _ | null => []

/-- The value at a place, if there is one. -/
def at? : RawKeyPair → (place : List Nat) → Option RawKeyPair
  | raw, [] => some raw
  | raw, number :: inside => raw.parts[number]?.bind fun part => part.at? inside

/-- The same places exist in both key pairs, and at each place the two values are related. -/
def Everywhere (related : RawKeyPair → RawKeyPair → Prop) (first second : RawKeyPair) : Prop :=
  ∀ place, Option.Rel related (first.at? place) (second.at? place)

/-- Entries are known from their names and their values. -/
theorem entries_ext {α : Type} {entries others : List (String × α)}
    (names : entries.map Prod.fst = others.map Prod.fst) (values : entries.map Prod.snd = others.map Prod.snd) :
    entries = others := by
  rw [List.zip_of_prod names values]
  exact (List.zip_of_prod rfl rfl).symm

/-! ## Induction on parts -/

section Induction

variable {property : RawKeyPair → Prop}

mutual

/-- What is inherited from the parts of a value holds of all values. -/
theorem induction_on_parts (inherited : ∀ raw, (∀ part ∈ raw.parts, property part) → property raw)
    (raw : RawKeyPair) : property raw := by
  cases raw with
  | object fields => exact inherited _ (fields_induction inherited fields)
  | list items => exact inherited _ (items_induction inherited items)
  | bytes | text | null => exact inherited _ fun _ impossible => nomatch impossible
termination_by structural raw

private theorem fields_induction (inherited : ∀ raw, (∀ part ∈ raw.parts, property part) → property raw)
    (fields : List (String × RawKeyPair)) : ∀ part ∈ fields.map Prod.snd, property part := by
  cases fields with
  | nil => exact fun _ impossible => nomatch impossible
  | cons field rest =>
    rcases field with ⟨name, value⟩
    exact List.forall_mem_cons.mpr ⟨induction_on_parts inherited value, fields_induction inherited rest⟩
termination_by structural fields

private theorem items_induction (inherited : ∀ raw, (∀ part ∈ raw.parts, property part) → property raw)
    (items : List RawKeyPair) : ∀ part ∈ items, property part := by
  cases items with
  | nil => exact fun _ impossible => nomatch impossible
  | cons item rest =>
    exact List.forall_mem_cons.mpr ⟨induction_on_parts inherited item, items_induction inherited rest⟩
termination_by structural items

end

end Induction

/-! ## Relations that hold everywhere -/

variable {related : RawKeyPair → RawKeyPair → Prop} {first second : RawKeyPair}

theorem Everywhere.outside (everywhere : Everywhere related first second) : related first second := by
  cases everywhere [] with
  | some outside => exact outside

/-- Two lists are related item by item if the same numbers exist in both, with related items. -/
theorem forall₂_iff_getElem? {α β : Type} {agree : α → β → Prop} {values : List α} {others : List β} :
    List.Forall₂ agree values others ↔
      ∀ number : Nat, Option.Rel agree values[number]? others[number]? := by
  constructor
  · intro same
    induction same with
    | nil => exact fun _ => .none
    | cons here _ inductionHypothesis =>
      intro number
      cases number with
      | zero => exact .some here
      | succ number => exact inductionHypothesis number
  · intro same
    induction values generalizing others with
    | nil =>
      cases others with
      | nil => exact .nil
      | cons => cases same 0
    | cons value remaining inductionHypothesis =>
      cases others with
      | nil => cases same 0
      | cons other rest =>
        have onward : List.Forall₂ agree remaining rest :=
          inductionHypothesis fun number => same (number + 1)
        cases same 0 with
        | some here => exact .cons here onward

theorem Everywhere.inside (everywhere : Everywhere related first second) :
    List.Forall₂ (Everywhere related) first.parts second.parts := by
  apply forall₂_iff_getElem?.mpr
  intro number
  have below (place : List Nat) := everywhere (number :: place)
  simp only [at?] at below
  cases part : first.parts[number]? with
  | none =>
    cases other : second.parts[number]? with
    | none => exact .none
    | some _ =>
      have outside := below []
      rw [part, other] at outside
      cases outside
  | some _ =>
    cases other : second.parts[number]? with
    | none =>
      have outside := below []
      rw [part, other] at outside
      cases outside
    | some _ =>
      rw [part, other] at below
      exact .some below

/-- A relation holds everywhere if it holds outside and everywhere in the parts. -/
theorem everywhere_iff : Everywhere related first second ↔
    related first second ∧ List.Forall₂ (Everywhere related) first.parts second.parts := by
  constructor
  · exact fun everywhere => ⟨everywhere.outside, everywhere.inside⟩
  · rintro ⟨outside, inside⟩ place
    cases place with
    | nil => exact .some outside
    | cons number below =>
      simp only [at?]
      have parts := forall₂_iff_getElem?.mp inside number
      generalize first.parts[number]? = part at parts ⊢
      generalize second.parts[number]? = other at parts ⊢
      cases parts with
      | none => exact .none
      | some everywhere => exact everywhere below

end RawKeyPair
end NodeKeys
