import NodeKeys.Proofs.Json.RoundTrip

/-!
# What key records hold

The two forms of a record are objects with exactly its two fields, and no text is an object in two ways.  What is read
from any text depends on the two fields alone: whatever else an object holds, keys count as derived from their seed.
-/

namespace NodeKeys
namespace Json

/-! ## The fields of an object are determined by its text -/

/-- A member is read by passing over each of its parts, so what follows it is determined, too. -/
theorem Member.Holds.unique {one two : Member} {field other : String × List Char} {tail otherTail : List Char}
    (holds : one.Holds field) (alsoHolds : two.Holds other) (ends : Ends tail) (otherEnds : Ends otherTail)
    (same : one.text ++ tail = two.text ++ otherTail) :
    field = other ∧ one.element.after ++ tail = two.element.after ++ otherTail := by
  obtain ⟨name, value⟩ := field
  obtain ⟨otherName, otherValue⟩ := other
  rcases holds with ⟨spelled, written, rfl⟩
  rcases alsoHolds with ⟨otherSpelled, otherWritten, rfl⟩
  have named := congrArg skipBlank same
  rw [Member.text_append, Member.text_append, skipBlank_append one.blankIndent rfl,
    skipBlank_append two.blankIndent rfl] at named
  have texts := congrArg readText (List.cons.inj named).2
  rw [readText_spelled spelled, readText_spelled otherSpelled] at texts
  rcases Prod.mk.inj (Option.some.inj texts) with ⟨sameName, afterName⟩
  have colons := congrArg skipBlank afterName
  rw [skipBlank_append one.blankGap rfl, skipBlank_append two.blankGap rfl] at colons
  have elements := (List.cons.inj colons).2
  have passed := congrArg skip elements
  rw [skip_element written ends, skip_element otherWritten otherEnds] at passed
  have sameRest := Option.some.inj passed
  have values := congrArg skipBlank elements
  rw [Element.text, Element.text, List.append_assoc, List.append_assoc, List.append_assoc, List.append_assoc,
    skipBlank_value one.element.blankBefore written, skipBlank_value two.element.blankBefore otherWritten,
    sameRest] at values
  exact ⟨Prod.ext (String.toList_inj.mp sameName) (List.append_cancel_right values), sameRest⟩

/-- What stands behind the white space after a member tells whether another member follows. -/
theorem next_eq {one two : Member} {symbol other : Char} {rest others : List Char}
    (visible : isBlank symbol = false) (otherVisible : isBlank other = false)
    (same : one.element.after ++ symbol :: rest = two.element.after ++ other :: others) :
    symbol = other ∧ rest = others := by
  have skipped := congrArg skipBlank same
  rw [skipBlank_append one.element.blankAfter visible, skipBlank_append two.element.blankAfter otherVisible] at skipped
  exact List.cons.inj skipped

theorem fields_unique {one two : Member} {members others : List Member} {fields otherFields : List (String × List Char)}
    {rest otherRest : List Char} (hold : List.Forall₂ Member.Holds (one :: members) fields)
    (otherHold : List.Forall₂ Member.Holds (two :: others) otherFields)
    (same : listed Member.text one members ++ '\x7d' :: rest = listed Member.text two others ++ '\x7d' :: otherRest) :
    fields = otherFields := by
  have comma (more : List Char) : Ends (',' :: more) := ends_cons (by decide) more
  have brace (more : List Char) : Ends ('\x7d' :: more) := ends_cons (by decide) more
  induction members generalizing one two others fields otherFields with
  | nil =>
    rcases hold with _ | ⟨holds, ⟨⟩⟩
    rcases otherHold with _ | ⟨otherHolds, otherLater⟩
    rw [listed_nil] at same
    cases others with
    | nil =>
      cases otherLater
      rw [listed_nil] at same
      rw [(holds.unique otherHolds (brace _) (brace _) same).1]
    | cons next others =>
      rw [listed_cons, List.append_assoc, List.cons_append] at same
      cases (next_eq rfl rfl (holds.unique otherHolds (brace _) (comma _) same).2).1
  | cons second members inductionHypothesis =>
    rcases hold with _ | ⟨holds, later⟩
    rcases otherHold with _ | ⟨otherHolds, otherLater⟩
    rw [listed_cons, List.append_assoc, List.cons_append] at same
    cases others with
    | nil =>
      rw [listed_nil] at same
      cases (next_eq rfl rfl (holds.unique otherHolds (comma _) (brace _) same).2).1
    | cons next others =>
      rw [listed_cons, List.append_assoc, List.cons_append] at same
      rcases holds.unique otherHolds (comma _) (comma _) same with ⟨sameField, behind⟩
      rw [sameField, inductionHypothesis later otherLater (next_eq rfl rfl behind).2]

theorem IsObject.unique {fields otherFields : List (String × List Char)} {text : List Char}
    (object : IsObject fields text) (other : IsObject otherFields text) : fields = otherFields := by
  generalize written : text = also at other
  have quote (member : Member) (members : List Member) (rest : List Char) :
      ∃ more, skipBlank (listed Member.text member members ++ rest) = '"' :: more := by
    rw [listed_append, Member.text_append]
    exact ⟨_, skipBlank_append member.blankIndent rfl _⟩
  cases object with
  | empty blank =>
    cases other with
    | empty => rfl
    | @members first others _ _ =>
      rcases quote first others ['\x7d'] with ⟨more, begins⟩
      rw [← (List.cons.inj written).2, skipBlank_append blank rfl] at begins
      cases begins
  | @members one members _ hold =>
    cases other with
    | empty blank =>
      rcases quote one members ['\x7d'] with ⟨more, begins⟩
      rw [(List.cons.inj written).2, skipBlank_append blank rfl] at begins
      cases begins
    | members otherHold => exact fields_unique hold otherHold (List.cons.inj written).2

end Json

/-! ## Keys -/

/-- Exactly the texts of a record are read, and the keys count as derived from their seed. -/
theorem SigningKeys.ofJson_eq_ok {text : String} {keys : SigningKeys} :
    ofJson text = .ok keys ↔
      keys.deterministic = true ∧ Json.IsRecord shape keys.seed keys.verify text.toList := by
  have differ : shape.first ≠ shape.second := by decide
  obtain ⟨seed, verify, deterministic⟩ := keys
  constructor
  · intro read
    rcases bind_eq_ok read with ⟨⟨first, second⟩, record, same⟩
    cases same
    exact ⟨rfl, (Json.readRecord_eq_ok differ).mp record⟩
  · rintro ⟨rfl, record⟩
    rw [ofJson, (Json.readRecord_eq_ok differ).mpr record]
    rfl

/-! Both forms of a record, in one line and on several. -/

section Forms

variable {text : String}

theorem SigningKeys.isObject_form (keys : SigningKeys) (form : text ∈ [keys.toJson, keys.toPrettyJson]) :
    Json.IsObject (shape.fields keys.seed keys.verify) text.toList := by
  rcases List.mem_pair.mp form with rfl | rfl
  · exact Json.isObject_compact shape keys.seed keys.verify
  · exact Json.isObject_pretty shape keys.seed keys.verify

theorem TransportKeys.isObject_form (keys : TransportKeys) (form : text ∈ [keys.toJson, keys.toPrettyJson]) :
    Json.IsObject (shape.fields keys.privateKey keys.publicKey) text.toList := by
  rcases List.mem_pair.mp form with rfl | rfl
  · exact Json.isObject_compact shape keys.privateKey keys.publicKey
  · exact Json.isObject_pretty shape keys.privateKey keys.publicKey

end Forms

/-- Keys read back from both forms of their record, which hold the two fields and nothing else.  Whatever else a text
holds, the keys that are read from it count as derived from their seed, so writing and reading keeps them. -/
theorem key_records_read_back :
    (∀ keys : SigningKeys, ∀ text ∈ [keys.toJson, keys.toPrettyJson],
      SigningKeys.ofJson text = .ok { keys with deterministic := true } ∧
        ∀ fields, Json.IsObject fields text.toList ↔
          fields = [("seed", Json.quoted keys.seed.toList), ("verify", Json.quoted keys.verify.toList)]) ∧
      (∀ keys : TransportKeys, ∀ text ∈ [keys.toJson, keys.toPrettyJson], TransportKeys.ofJson text = .ok keys) ∧
      (∀ (text : String) (keys : SigningKeys), SigningKeys.ofJson text = .ok keys ↔
        keys.deterministic = true ∧ Json.IsRecord SigningKeys.shape keys.seed keys.verify text.toList) ∧
      ∀ (text : String) (keys : SigningKeys), SigningKeys.ofJson text = .ok keys →
        ∀ again ∈ [keys.toJson, keys.toPrettyJson], SigningKeys.ofJson again = .ok keys := by
  refine ⟨fun keys text form => ⟨?back, fun fields => ?fields⟩, fun keys text form => ?transport,
    fun _ _ => SigningKeys.ofJson_eq_ok, fun text keys read again form => ?again⟩
  case back => exact keys.ofJson_of_isObject (keys.isObject_form form)
  case fields =>
    have object := keys.isObject_form form
    constructor
    · intro other
      exact other.unique object
    · rintro rfl
      exact object
  case transport => exact keys.ofJson_of_isObject (keys.isObject_form form)
  case again =>
    have derived : { keys with deterministic := true } = keys := by
      rw [← (SigningKeys.ofJson_eq_ok.mp read).1]
    rw [keys.ofJson_of_isObject (keys.isObject_form form), derived]

/-- A record among unknown fields, one of which claims otherwise about the keys. -/
def crowdedRecord : String :=
  "\x7b\"deterministic\": false, \"verify\": \"v\\u00e9\", \"more\": [1, \x7b\x7d], \"seed\": \"s\"\x7d"

theorem unknown_fields_are_not_kept :
    SigningKeys.ofJson crowdedRecord = .ok ⟨"s", "vé", true⟩ ∧
      SigningKeys.ofJson (SigningKeys.toJson ⟨"s", "vé", true⟩) = .ok ⟨"s", "vé", true⟩ ∧
      SigningKeys.ofJson (SigningKeys.toPrettyJson ⟨"\"\x00\n", "𝄞", false⟩) = .ok ⟨"\"\x00\n", "𝄞", true⟩ := by
  rcases key_records_read_back with ⟨written, _, _, again⟩
  have read : SigningKeys.ofJson crowdedRecord = .ok ⟨"s", "vé", true⟩ := by decide +kernel
  exact ⟨read, again _ _ read _ List.mem_cons_self,
    (written ⟨"\"\x00\n", "𝄞", false⟩ _ (List.mem_cons_of_mem _ List.mem_cons_self)).1⟩

end NodeKeys
