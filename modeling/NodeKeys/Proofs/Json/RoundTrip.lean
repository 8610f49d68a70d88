import NodeKeys.Proofs.Json.Records

/-!
# Key records read back

Both forms of a record are objects with its two fields, whatever their texts are, so they are read back.  The two forms
differ in white space only.
-/

namespace NodeKeys
namespace Json

variable {shape : RecordShape}

/-- The value of a member, after its name. -/
def valuePart (gap : List Char) (value : String) (rest : List Char) : List Char :=
  ':' :: gap ++ (quoted value.toList ++ rest)

/-- An object with two members, after its brace, with this white space before each member, before each value and at
the end. -/
def laidOut (shape : RecordShape) (indent gap close : List Char) (first second : String) : List Char :=
  indent ++ (quoted shape.first.toList ++ valuePart gap first
    (',' :: indent ++ (quoted shape.second.toList ++ valuePart gap second (close ++ ['\x7d']))))

theorem laidOut_eq_append (indent gap close : List Char) (first second : String) :
    ∃ inside, laidOut shape indent gap close first second = inside ++ ['\x7d'] := by
  refine ⟨indent ++ (quoted shape.first.toList ++ valuePart gap first
    (',' :: indent ++ (quoted shape.second.toList ++ valuePart gap second close))), ?_⟩
  simp only [laidOut, valuePart, List.append_assoc, List.cons_append]

theorem compact_eq (shape : RecordShape) (first second : String) :
    compact shape first second = String.ofList ('\x7b' :: laidOut shape [] [] [] first second) := by
  simp only [compact, laidOut, valuePart, member, List.append_assoc, List.cons_append, List.nil_append]

theorem pretty_eq (shape : RecordShape) (first second : String) :
    pretty shape first second =
      String.ofList ('\x7b' :: laidOut shape ['\n', ' ', ' '] [' '] ['\n'] first second) := by
  have opening : "\x7b\n  ".toList = ['\x7b', '\n', ' ', ' '] := rfl
  have between : ",\n  ".toList = [',', '\n', ' ', ' '] := rfl
  have closing : "\n\x7d".toList = ['\n', '\x7d'] := rfl
  unfold pretty
  simp only [laidOut, valuePart, member, opening, between, closing, List.append_assoc, List.cons_append,
    List.nil_append]

/-- A record on several lines begins and ends with the braces of an object. -/
theorem toList_pretty (first second : String) :
    ∃ inside, (pretty shape first second).toList = '\x7b' :: inside ++ ['\x7d'] := by
  rcases laidOut_eq_append ['\n', ' ', ' '] [' '] ['\n'] first second with ⟨inside, closed⟩
  refine ⟨inside, ?_⟩
  rw [pretty_eq, String.toList_ofList, closed]
  rfl

/-- The fields of a record as they are written. -/
def RecordShape.fields (shape : RecordShape) (first second : String) : List (String × List Char) :=
  [(shape.first, quoted first.toList), (shape.second, quoted second.toList)]

theorem isObject_laidOut (shape : RecordShape) {indent gap close : List Char} (blankIndent : indent.all isBlank = true)
    (blankGap : gap.all isBlank = true) (blankClose : close.all isBlank = true) (first second : String) :
    IsObject (shape.fields first second) ('\x7b' :: laidOut shape indent gap close first second) := by
  let value (text : String) (after : List Char) (blankAfter : after.all isBlank = true) : Element :=
    ⟨gap, quoted text.toList, after, blankGap, blankAfter⟩
  let one : Member := ⟨indent, shape.first.toList.flatMap escaped, [], value first [] rfl, blankIndent, rfl⟩
  let two : Member := ⟨indent, shape.second.toList.flatMap escaped, [], value second close blankClose, blankIndent, rfl⟩
  have holdsOne : one.Holds (shape.first, quoted first.toList) :=
    ⟨spells_flatMap_escaped _, (isText_quoted first).isValue, rfl⟩
  have holdsTwo : two.Holds (shape.second, quoted second.toList) :=
    ⟨spells_flatMap_escaped _, (isText_quoted second).isValue, rfl⟩
  have written : laidOut shape indent gap close first second = listed Member.text one [two] ++ ['\x7d'] := by
    simp only [laidOut, valuePart, listed_cons, listed_nil, Member.text, Element.text, one, two, value, quoted,
      List.append_assoc, List.cons_append, List.nil_append]
  rw [written]
  exact .members (.cons holdsOne (.cons holdsTwo .nil))

theorem isObject_compact (shape : RecordShape) (first second : String) :
    IsObject (shape.fields first second) (compact shape first second).toList := by
  rw [compact_eq, String.toList_ofList]
  exact isObject_laidOut shape rfl rfl rfl first second

theorem isObject_pretty (shape : RecordShape) (first second : String) :
    IsObject (shape.fields first second) (pretty shape first second).toList := by
  rw [pretty_eq, String.toList_ofList]
  exact isObject_laidOut shape rfl rfl rfl first second

/-- The fields of a record hold its two texts once. -/
theorem holdsRecord_fields (differ : shape.first ≠ shape.second) (first second : String) :
    HoldsRecord shape first second (shape.fields first second) := by
  constructor
  · exact holdsOnce_cons_self.mpr ⟨isText_quoted first, by simpa using differ⟩
  · rw [RecordShape.fields, holdsOnce_cons_of_ne differ.symm]
    exact holdsOnce_cons_self.mpr ⟨isText_quoted second, List.not_mem_nil⟩

/-- A record is read from an object with its fields. -/
theorem readRecord_of_isObject (differ : shape.first ≠ shape.second) {text first second : String}
    (object : IsObject (shape.fields first second) text.toList) : readRecord shape text = .ok (first, second) := by
  refine readRecord_of_isRecord differ ⟨⟨[], text.toList, [], rfl, rfl⟩, ?_, Or.inl ⟨_, object, ?_⟩⟩
  · rw [Element.text, List.nil_append, List.append_nil]
  · exact holdsRecord_fields differ first second

end Json

/-! ## Keys -/

/-- Signing keys read back, except that they count as derived from their seed. -/
theorem SigningKeys.ofJson_of_isObject {text : String} (keys : SigningKeys)
    (object : Json.IsObject (shape.fields keys.seed keys.verify) text.toList) :
    ofJson text = .ok { keys with deterministic := true } := by
  have differ : shape.first ≠ shape.second := by decide
  rw [ofJson, Json.readRecord_of_isObject differ object]
  rfl

theorem SigningKeys.ofJson_toPrettyJson (keys : SigningKeys) :
    ofJson keys.toPrettyJson = .ok { keys with deterministic := true } :=
  keys.ofJson_of_isObject (Json.isObject_pretty shape keys.seed keys.verify)

theorem TransportKeys.ofJson_of_isObject {text : String} (keys : TransportKeys)
    (object : Json.IsObject (shape.fields keys.privateKey keys.publicKey) text.toList) :
    ofJson text = .ok keys := by
  have differ : shape.first ≠ shape.second := by decide
  rw [ofJson, Json.readRecord_of_isObject differ object]
  rfl

theorem TransportKeys.ofJson_toPrettyJson (keys : TransportKeys) : ofJson keys.toPrettyJson = .ok keys :=
  keys.ofJson_of_isObject (Json.isObject_pretty shape keys.privateKey keys.publicKey)

end NodeKeys
