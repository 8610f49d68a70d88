import NodeKeys.Derivation
import NodeKeys.Proofs.Diagnostic
import NodeKeys.Proofs.RawKeyPair.Places

/-!
# What a diagnostic shows of a key pair

Two key pairs have the same shape if, place by place, they hold values of one kind, records with the same names,
sequences of one length and byte strings of one length.  Nothing is said of the bytes, and nothing at all of a text,
not even how long it is.

The diagnostic of a key pair shows this shape and nothing else: key pairs of one shape have one diagnostic, and key
pairs of different shapes have different ones.  The first half keeps keys out of the log.  The second half says that
the diagnostic is of use, and that this description of it leaves nothing out.
-/

namespace NodeKeys

open Diagnostic

namespace RawKeyPair

/-- The two values look alike from the outside. -/
inductive LooksLike : RawKeyPair → RawKeyPair → Prop
  | bytes {content other : List UInt8} (length : content.length = other.length) :
      LooksLike (bytes content) (bytes other)
  | text (content other : String) : LooksLike (text content) (text other)
  | object {fields others : List (String × RawKeyPair)}
      (names : fields.map Prod.fst = others.map Prod.fst) : LooksLike (object fields) (object others)
  | list {items others : List RawKeyPair} (length : items.length = others.length) :
      LooksLike (list items) (list others)
  | null : LooksLike null null

/-- The values at each place look alike. -/
def SameShape : RawKeyPair → RawKeyPair → Prop :=
  Everywhere LooksLike

/-! ## How a value is written -/

theorem fieldDiagnostics_eq_map (fields : List (String × RawKeyPair)) :
    fieldDiagnostics fields = fields.map fun field => (field.1, field.2.diagnostic) := by
  induction fields with
  | nil => rfl
  | cons field rest inductionHypothesis =>
    rw [fieldDiagnostics, inductionHypothesis]
    rfl

theorem itemDiagnostics_eq_map (items : List RawKeyPair) : itemDiagnostics items = items.map diagnostic := by
  induction items with
  | nil => rfl
  | cons item rest inductionHypothesis =>
    rw [itemDiagnostics, inductionHypothesis]
    rfl

def shown (raw : RawKeyPair) : List Char :=
  raw.diagnostic.toList

def shownField (field : String × RawKeyPair) : List Char :=
  (quoted field.1).toList ++ ([':', ' '] ++ shown field.2)

theorem shown_bytes (content : List UInt8) : shown (bytes content) =
    "Bytes(<".toList ++ (Nat.toDigits 10 content.length ++ [' '] ++ "bytes>)".toList) := by
  rw [shown, diagnostic]
  simp only [String.toList_append, Nat.toString_eq_ofList_toDigits, String.toList_ofList, List.append_assoc]
  rfl

theorem shown_object (fields : List (String × RawKeyPair)) :
    shown (object fields) = ['\x7b'] ++ enclosed '\x7d' (fields.map shownField) := by
  rw [shown, diagnostic, fieldDiagnostics_eq_map, toList_table, List.map_map]
  rfl

theorem shown_list (items : List RawKeyPair) :
    shown (list items) = ['['] ++ enclosed ']' (items.map shown) := by
  rw [shown, diagnostic, itemDiagnostics_eq_map, toList_sequence, List.map_map]
  rfl

theorem shown_text (content : String) : shown (text content) = "Text(***)".toList := by
  rw [shown, diagnostic]

theorem shown_null : shown null = "Null".toList := by
  rw [shown, diagnostic]

/-! ## From the shape to the diagnostic -/

theorem diagnostic_eq_of_looksLike {first second : RawKeyPair} (alike : LooksLike first second)
    (parts : first.parts.map diagnostic = second.parts.map diagnostic) : first.diagnostic = second.diagnostic := by
  cases alike with
  | bytes length => rw [diagnostic, diagnostic, length]
  | text => rfl
  | @object fields others names =>
    have entries : fieldDiagnostics fields = fieldDiagnostics others := by
      rw [fieldDiagnostics_eq_map, fieldDiagnostics_eq_map]
      apply entries_ext
      · rw [List.map_map, List.map_map]
        exact names
      · have values : (fields.map Prod.snd).map diagnostic = (others.map Prod.snd).map diagnostic := parts
        rw [List.map_map, List.map_map] at values ⊢
        exact values
    rw [diagnostic, diagnostic, entries]
  | @list items others =>
    have shown : itemDiagnostics items = itemDiagnostics others := by
      rw [itemDiagnostics_eq_map, itemDiagnostics_eq_map]
      exact parts
    rw [diagnostic, diagnostic, shown]
  | null => rfl

theorem map_diagnostic_of_forall₂ {values others : List RawKeyPair}
    (known : ∀ value ∈ values, ∀ other, SameShape value other → value.diagnostic = other.diagnostic)
    (alike : List.Forall₂ SameShape values others) : values.map diagnostic = others.map diagnostic := by
  induction alike with
  | nil => rfl
  | cons here _ inductionHypothesis =>
    rcases List.forall_mem_cons.mp known with ⟨knownHere, knownOnward⟩
    rw [List.map_cons, List.map_cons, knownHere _ here, inductionHypothesis knownOnward]

theorem diagnostic_eq_of_sameShape (first : RawKeyPair) :
    ∀ second, SameShape first second → first.diagnostic = second.diagnostic := by
  induction first using induction_on_parts with
  | inherited first known =>
    intro second alike
    rcases everywhere_iff.mp alike with ⟨outside, inside⟩
    exact diagnostic_eq_of_looksLike outside (map_diagnostic_of_forall₂ known inside)

/-! ## From the diagnostic to the shape -/

/-- The first letter of the diagnostic. -/
def initial : RawKeyPair → Char
  | bytes _ => 'B'
  | object _ => '\x7b'
  | list _ => '['
  | text _ => 'T'
  | null => 'N'

theorem exists_shown_eq (raw : RawKeyPair) : ∃ remaining, shown raw = raw.initial :: remaining := by
  cases raw with
  | bytes content => exact ⟨_, shown_bytes content⟩
  | object fields => exact ⟨_, shown_object fields⟩
  | list items => exact ⟨_, shown_list items⟩
  | text content => exact ⟨_, shown_text content⟩
  | null => exact ⟨_, shown_null⟩

theorem initial_eq_of_append {first second : RawKeyPair} {rest others : List Char}
    (together : shown first ++ rest = shown second ++ others) : first.initial = second.initial := by
  rcases exists_shown_eq first with ⟨remaining, written⟩
  rcases exists_shown_eq second with ⟨otherRemaining, otherWritten⟩
  rw [written, otherWritten] at together
  exact (List.cons.inj together).1

theorem avoids_shown : Avoids shown ']' := by
  intro raw
  rcases exists_shown_eq raw with ⟨remaining, written⟩
  refine ⟨raw.initial, remaining, written, ?_⟩
  cases raw <;> simp [initial]

theorem avoids_shownField : Avoids shownField '\x7d' := by
  intro field
  have written : shownField field =
      '"' :: (field.1.toList.flatMap escaped ++ ['"'] ++ ([':', ' '] ++ shown field.2)) := by
    rw [shownField, quoted, String.toList_ofList]
    rfl
  exact ⟨'"', _, written, by decide⟩

theorem legible_shownField {name : String} {value : RawKeyPair} (legible : Legible shown SameShape value) :
    Legible shownField (fun field other => field.1 = other.1 ∧ SameShape field.2 other.2) (name, value) := by
  have both := (legible_quoted name).append (legible.behind [':', ' '])
  exact both.congr fun _ => rfl

/-- Records whose fields go by the same names and hold values of the same shape have the same shape. -/
theorem sameShape_object {fields others : List (String × RawKeyPair)}
    (alike : List.Forall₂ (fun field other => field.1 = other.1 ∧ SameShape field.2 other.2) fields others) :
    SameShape (object fields) (object others) := by
  have names : List.Forall₂ Eq (fields.map Prod.fst) (others.map Prod.fst) := by
    rw [List.forall₂_map_left_iff, List.forall₂_map_right_iff]
    exact alike.imp fun _ _ => And.left
  have values : List.Forall₂ SameShape (fields.map Prod.snd) (others.map Prod.snd) := by
    rw [List.forall₂_map_left_iff, List.forall₂_map_right_iff]
    exact alike.imp fun _ _ => And.right
  exact everywhere_iff.mpr ⟨.object (List.forall₂_eq_eq_eq ▸ names), values⟩

/-- The shape of a value can be told from any text that begins with its diagnostic. -/
theorem legible_shown (raw : RawKeyPair) : Legible shown SameShape raw := by
  induction raw using induction_on_parts with
  | inherited raw known =>
    intro other rest others together
    have initials := initial_eq_of_append together
    cases raw with
    | bytes content =>
      cases other with
      | bytes otherContent =>
        have legible : Legible (fun size => "Bytes(<".toList ++ (Nat.toDigits 10 size ++ [' '] ++ "bytes>)".toList)) Eq
            content.length :=
          ((legible_number (by decide) (by decide) (by decide) _).before _).behind _
        rw [shown_bytes, shown_bytes] at together
        rcases legible otherContent.length rest others together with ⟨length, onward⟩
        exact ⟨everywhere_iff.mpr ⟨.bytes length, .nil⟩, onward⟩
      | object | list | text | null => cases initials
    | object fields =>
      cases other with
      | object otherFields =>
        have legible : Legible (fun fields => ['\x7b'] ++ enclosed '\x7d' (fields.map shownField)) _ fields :=
          (legible_enclosed (by decide) avoids_shownField fun field member =>
            legible_shownField (known field.2 (List.mem_map_of_mem member))).behind _
        rw [shown_object, shown_object] at together
        rcases legible otherFields rest others together with ⟨alike, onward⟩
        exact ⟨sameShape_object alike, onward⟩
      | bytes | list | text | null => cases initials
    | list items =>
      cases other with
      | list otherItems =>
        have legible : Legible (fun items => ['['] ++ enclosed ']' (items.map shown)) _ items :=
          (legible_enclosed (by decide) avoids_shown known).behind _
        rw [shown_list, shown_list] at together
        rcases legible otherItems rest others together with ⟨alike, onward⟩
        exact ⟨everywhere_iff.mpr ⟨.list alike.length_eq, alike⟩, onward⟩
      | bytes | object | text | null => cases initials
    | text content =>
      cases other with
      | text otherContent =>
        rw [shown_text, shown_text] at together
        exact ⟨everywhere_iff.mpr ⟨.text content otherContent, .nil⟩, List.append_cancel_left together⟩
      | bytes | object | list | null => cases initials
    | null =>
      cases other with
      | null => exact ⟨everywhere_iff.mpr ⟨.null, .nil⟩, List.append_cancel_left together⟩
      | bytes | object | list | text => cases initials

theorem diagnostic_eq_iff (first second : RawKeyPair) :
    first.diagnostic = second.diagnostic ↔ SameShape first second := by
  constructor
  · intro shownAlike
    have together : shown first ++ [] = shown second ++ [] := by rw [shown, shown, shownAlike]
    exact (legible_shown first second [] [] together).1
  · exact diagnostic_eq_of_sameShape first second

end RawKeyPair

/-! ## Derivations -/

namespace Derivation

open RawKeyPair

theorem toList_diagnostic (derivation : Derivation) :
    derivation.diagnostic.toList =
      "Derivation \x7b raw: ".toList ++ (shown derivation.raw ++ (", factory: ".toList ++
        ((quoted derivation.factory).toList ++
          (", deterministic: ".toList ++ ((bool derivation.deterministic).toList ++ " \x7d".toList))))) := by
  have written : derivation.diagnostic = "Derivation" ++ " \x7b " ++
      ", ".intercalate ["raw" ++ ": " ++ derivation.raw.diagnostic, "factory" ++ ": " ++ quoted derivation.factory,
        "deterministic" ++ ": " ++ bool derivation.deterministic] ++ " \x7d" := rfl
  rw [written]
  simp only [String.toList_append, String.toList_intercalate, List.map_cons, List.map_nil,
    List.intercalate_cons_cons, List.intercalate_singleton, List.append_assoc]
  rfl

/-- The diagnostic of a key pair shows its shape and nothing else.  That of a derivation shows the shape of its key
pair, the name of the factory and whether the factory was given the seed. -/
theorem diagnostic_shows_shape_only :
    (∀ first second : RawKeyPair, first.diagnostic = second.diagnostic ↔ SameShape first second) ∧
    ∀ first second : Derivation, first.diagnostic = second.diagnostic ↔
      SameShape first.raw second.raw ∧ first.factory = second.factory ∧
        first.deterministic = second.deterministic := by
  refine ⟨diagnostic_eq_iff, ?derivations⟩
  case derivations =>
    intro first second
    constructor
    · intro shownAlike
      have legible := ((legible_shown first.raw).append
        (((legible_quoted first.factory).append
          (((legible_bool first.deterministic).before " \x7d".toList).behind ", deterministic: ".toList)).behind
            ", factory: ".toList)).behind "Derivation \x7b raw: ".toList
      have letters := congrArg String.toList shownAlike
      rw [toList_diagnostic, toList_diagnostic] at letters
      exact (legible (second.raw, second.factory, second.deterministic) [] [] (congrArg (· ++ []) letters)).1
    · rintro ⟨shape, factory, deterministic⟩
      rw [diagnostic, diagnostic, (diagnostic_eq_iff first.raw second.raw).mpr shape, factory, deterministic]

end Derivation
end NodeKeys
