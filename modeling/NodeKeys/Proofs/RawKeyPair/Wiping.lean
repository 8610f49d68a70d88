import NodeKeys.Proofs.RawKeyPair.Places
import NodeKeys.RawKeyPair.PublicKey
import NodeKeys.RawKeyPair.Wipe

/-!
# What wiping leaves of a key pair

Wiping takes the content of every byte string and of every text, at any depth, and nothing else: what is found at a
place is of the same kind as before, a record has the same names, and a sequence is as long.  There is only one key
pair of which this can be said, so wiping is described completely, and wiping twice is wiping once.

The search for a public half looks at names and kinds before it takes any bytes.  It ends where it ended before, with
no bytes, or finds nothing as before.
-/

namespace NodeKeys
namespace RawKeyPair

/-- The second value is what the first one is without its content, as far as it can be told from the outside. -/
inductive Emptied : RawKeyPair → RawKeyPair → Prop
  | bytes (content : List UInt8) : Emptied (bytes content) (bytes [])
  | text (content : String) : Emptied (text content) (text "")
  | object {fields others : List (String × RawKeyPair)}
      (names : others.map Prod.fst = fields.map Prod.fst) : Emptied (object fields) (object others)
  | list {items others : List RawKeyPair} (length : others.length = items.length) :
      Emptied (list items) (list others)
  | null : Emptied null null

/-! ## Place by place -/

theorem wipeFields_eq_map (fields : List (String × RawKeyPair)) :
    wipeFields fields = fields.map fun field => (field.1, field.2.wipe) := by
  induction fields with
  | nil => rfl
  | cons field rest inductionHypothesis =>
    rw [wipeFields, inductionHypothesis]
    rfl

theorem wipeItems_eq_map (items : List RawKeyPair) : wipeItems items = items.map wipe := by
  induction items with
  | nil => rfl
  | cons item rest inductionHypothesis =>
    rw [wipeItems, inductionHypothesis]
    rfl

theorem parts_wipe (raw : RawKeyPair) : raw.wipe.parts = raw.parts.map wipe := by
  cases raw with
  | object fields =>
    rw [wipe, wipeFields_eq_map, parts, parts, List.map_map, List.map_map]
    rfl
  | list items => exact wipeItems_eq_map items
  | bytes | text | null => rfl

theorem at?_wipe (raw : RawKeyPair) (place : List Nat) : raw.wipe.at? place = (raw.at? place).map wipe := by
  induction place generalizing raw with
  | nil => rfl
  | cons number inside inductionHypothesis =>
    rw [at?, at?, parts_wipe, List.getElem?_map, Option.bind_map, Option.map_bind]
    exact congrArg _ (funext fun part => inductionHypothesis part)

theorem emptied_wipe (raw : RawKeyPair) : Emptied raw raw.wipe := by
  cases raw with
  | bytes content => exact .bytes content
  | text content => exact .text content
  | object fields =>
    refine .object ?_
    rw [wipeFields_eq_map, List.map_map]
    rfl
  | list items =>
    refine .list ?_
    rw [wipeItems_eq_map, List.length_map]
  | null => exact .null

theorem everywhere_emptied_wipe (raw : RawKeyPair) : Everywhere Emptied raw raw.wipe := by
  intro place
  rw [at?_wipe]
  cases raw.at? place with
  | none => exact .none
  | some inner => exact .some (emptied_wipe inner)

/-! ## Nothing else is left -/

theorem eq_of_emptied {raw first second : RawKeyPair} (emptied : Emptied raw first)
    (alsoEmptied : Emptied raw second) (parts : first.parts = second.parts) : first = second := by
  cases emptied with
  | bytes | text | null =>
    cases alsoEmptied
    rfl
  | object names =>
    cases alsoEmptied with
    | object namesAgain => exact congrArg object (entries_ext (names.trans namesAgain.symm) parts)
  | list =>
    cases alsoEmptied with
    | list => exact congrArg list parts

/-- Where it is known of each value what is left of it, it is known of a list. -/
theorem eq_map_wipe_of_forall₂ {values others : List RawKeyPair}
    (known : ∀ value ∈ values, ∀ other, Everywhere Emptied value other → other = value.wipe)
    (emptied : List.Forall₂ (Everywhere Emptied) values others) : others = values.map wipe := by
  induction emptied with
  | nil => rfl
  | cons here _ inductionHypothesis =>
    rcases List.forall_mem_cons.mp known with ⟨knownHere, knownOnward⟩
    rw [List.map_cons, knownHere _ here, inductionHypothesis knownOnward]

theorem eq_wipe_of_emptied (raw : RawKeyPair) :
    ∀ other, Everywhere Emptied raw other → other = raw.wipe := by
  induction raw using induction_on_parts with
  | inherited raw known =>
    intro other emptied
    rcases everywhere_iff.mp emptied with ⟨outside, inside⟩
    refine eq_of_emptied outside (emptied_wipe raw) ?_
    rw [parts_wipe]
    exact eq_map_wipe_of_forall₂ known inside

theorem everywhere_emptied_iff (raw other : RawKeyPair) : Everywhere Emptied raw other ↔ other = raw.wipe := by
  constructor
  · exact eq_wipe_of_emptied raw other
  · rintro rfl
    exact everywhere_emptied_wipe raw

/-- What has been emptied has no content to lose. -/
theorem Emptied.again {raw other : RawKeyPair} (emptied : Emptied raw other) : Emptied other other := by
  cases emptied with
  | bytes => exact .bytes []
  | text => exact .text ""
  | object => exact .object rfl
  | list => exact .list rfl
  | null => exact .null

theorem wipe_wipe (raw : RawKeyPair) : raw.wipe.wipe = raw.wipe := by
  have unchanged : Everywhere Emptied raw.wipe raw.wipe := by
    intro place
    have emptied := everywhere_emptied_wipe raw place
    generalize raw.at? place = before at emptied
    generalize raw.wipe.at? place = after at emptied ⊢
    cases emptied with
    | none => exact .none
    | some emptied => exact .some emptied.again
  exact (eq_wipe_of_emptied raw.wipe raw.wipe unchanged).symm

/-! ## The search for the public half -/

theorem asBytes?_wipe (raw : RawKeyPair) : raw.wipe.asBytes? = raw.asBytes?.map fun _ => [] := by
  cases raw <;> rfl

theorem field?_wipe (name : String) (raw : RawKeyPair) : raw.wipe.field? name = (raw.field? name).map wipe := by
  cases raw with
  | object fields => rw [wipe, field?, wipeFields_eq_map, field?, Table.find?_map]
  | bytes | list | text | null => rfl

theorem namedField_wipe (raw : RawKeyPair) : namedField raw.wipe = (namedField raw).map fun _ => [] := by
  unfold namedField
  rw [List.map_findSome?]
  refine congrArg (publicKeyFields.findSome? ·) (funext fun name => ?_)
  rw [field?_wipe, Option.bind_map, Function.comp, Option.map_bind]
  exact congrArg _ (funext asBytes?_wipe)

theorem firstListBytes_wipe (raw : RawKeyPair) : firstListBytes raw.wipe = (firstListBytes raw).map fun _ => [] := by
  cases raw with
  | list items =>
    rw [wipe, firstListBytes, wipeItems_eq_map, firstListBytes, List.findSome?_map, List.map_findSome?]
    exact congrArg (items.findSome? ·) (funext asBytes?_wipe)
  | bytes | object | text | null => rfl

theorem publicKey?_wipe (raw : RawKeyPair) : raw.wipe.publicKey? = raw.publicKey?.map fun _ => [] := by
  induction raw using induction_on_parts with
  | inherited raw known =>
    cases raw with
    | object fields =>
      have wrapped : nestedPublicKey? (wipeFields fields) = (nestedPublicKey? fields).map fun _ => [] := by
        rw [nestedPublicKey?_eq_bind, nestedPublicKey?_eq_bind, wipeFields_eq_map, Table.find?_map]
        cases found : Table.find? nestedField fields with
        | none => rfl
        | some inner => exact known inner (List.mem_map_of_mem (Table.mem_of_find? found))
      have named := namedField_wipe (object fields)
      rw [wipe] at named ⊢
      rw [publicKey?, named, wrapped, publicKey?, Option.map_or]
    | list items => exact firstListBytes_wipe (list items)
    | bytes | text | null => rfl

theorem nestedKeyPair_wipe (raw : RawKeyPair) : nestedKeyPair raw.wipe = (nestedKeyPair raw).map fun _ => [] := by
  unfold nestedKeyPair
  rw [field?_wipe, Option.bind_map, Option.map_bind]
  exact congrArg _ (funext publicKey?_wipe)

theorem kind_wipe (raw : RawKeyPair) : raw.wipe.kind = raw.kind := by
  cases raw <;> rfl

/-- Wiping empties every byte string and every text, wherever it stands, and keeps everything else, and there is no
other key pair of which this holds.  Wiping once more changes nothing.  Each matcher, and the extraction of the public
half as a whole, comes to an empty key where it came to a key, and fails as it failed where it did not. -/
theorem wiping_takes_contents_only (raw : RawKeyPair) :
    (∀ wiped, Everywhere Emptied raw wiped ↔ wiped = raw.wipe) ∧
    raw.wipe.wipe = raw.wipe ∧
    (matchers.map fun matcher => (matcher.1, matcher.2 raw.wipe)) =
      (matchers.map fun matcher => (matcher.1, (matcher.2 raw).map fun _ => [])) ∧
    raw.wipe.extractPublicKey = raw.extractPublicKey.map fun _ => [] := by
  refine ⟨everywhere_emptied_iff raw, wipe_wipe raw, ?matchers, ?extraction⟩
  case matchers =>
    have bare : bareBytes raw.wipe = (bareBytes raw).map fun _ => [] := asBytes?_wipe raw
    simp only [matchers, List.map_cons, List.map_nil, bare, namedField_wipe, firstListBytes_wipe, nestedKeyPair_wipe]
  case extraction =>
    rw [extractPublicKey, extractPublicKey, publicKey?_wipe, kind_wipe]
    cases raw.publicKey? <;> rfl

end RawKeyPair
end NodeKeys
