import NodeKeys.Generator
import NodeKeys.Json.Skip
import NodeKeys.Mismatch
import NodeKeys.TransportKeys

/-!
# Key records in JSON

A key record is an object with two text fields.  It is written with the fields in a fixed order, in one line
or indented.  It is read with the fields in any order and among unknown fields, or as an array of the two
texts.  The text is read from left to right, and the first fault ends it.
-/

namespace NodeKeys
namespace Json

/-- Why a text is no key record. -/
inductive ReadError where
  /-- The text is no JSON. -/
  | malformed
  /-- A value of the wrong kind. -/
  | invalidType (mismatch : Mismatch)
  /-- An object without one of the fields. -/
  | missingField (name : String)
  /-- An object with a field twice. -/
  | duplicateField (name : String)
  /-- An array that is too short. -/
  | invalidLength (length : Nat) (expected : String)
  deriving DecidableEq, Repr

/-- The error in words; there are none for a text that is no JSON. -/
def ReadError.message? : ReadError → Option String
  | malformed => none
  | invalidType mismatch => some mismatch.message
  | missingField name => some s!"missing field `{name}`"
  | duplicateField name => some s!"duplicate field `{name}`"
  | invalidLength length expected => some s!"invalid length {length}, expected {expected}"

/-- The name of a kind of record and of its two fields. -/
structure RecordShape where
  name : String
  first : String
  second : String
  deriving DecidableEq, Repr

namespace RecordShape

/-- What a whole record is called in errors. -/
def expectation (shape : RecordShape) : String :=
  "struct " ++ shape.name

/-- What the array form is called in errors. -/
def arrayExpectation (shape : RecordShape) : String :=
  s!"struct {shape.name} with 2 elements"

end RecordShape

/-- What a function that cannot say why it failed has read. -/
def wellFormed {α : Type} (result : Option α) : Except ReadError α :=
  match result with
  | some value => .ok value
  | none => .error .malformed

/-- The error of a value of the wrong kind.  It is read as far as its kind takes: a sequence or map by its
first character, everything else as a whole. -/
def wrongType (expected : String) (input : List Char) : ReadError :=
  let reject (result : Option Found) : ReadError :=
    match result with
    | some found => .invalidType ⟨found, expected⟩
    | none => .malformed
  match input with
  | 'n' :: rest => reject ((skipWord "ull" rest).map fun _ => .null)
  | 't' :: rest => reject ((skipWord "rue" rest).map fun _ => .bool true)
  | 'f' :: rest => reject ((skipWord "alse" rest).map fun _ => .bool false)
  | '"' :: rest => reject ((readText rest).map fun read => .text (String.ofList read.1))
  | '[' :: _ => .invalidType ⟨.sequence, expected⟩
  | '\x7b' :: _ => .invalidType ⟨.map, expected⟩
  | _ => reject (((Number.span? input).bind fun read => Number.ofWritten? read.1).map Number.found)

def readString (input : List Char) : Except ReadError (String × List Char) :=
  match skipBlank input with
  | '"' :: rest => do
    let (text, after) ← wellFormed (readText rest)
    return (String.ofList text, after)
  | other => .error (wrongType "a string" other)

def readColon (input : List Char) : Except ReadError (List Char) :=
  match skipBlank input with
  | ':' :: rest => .ok rest
  | _ => .error .malformed

/-- The fields of a record that have been read. -/
structure Fields where
  first : Option String := none
  second : Option String := none

/-- The record, if it is complete. -/
def Fields.complete (shape : RecordShape) (fields : Fields) : Except ReadError (String × String) :=
  match fields.first, fields.second with
  | some first, some second => .ok (first, second)
  | none, _ => .error (.missingField shape.first)
  | some _, none => .error (.missingField shape.second)

/-- Read the member whose name has just been read. -/
def readMember (shape : RecordShape) (fields : Fields) (name : String) (input : List Char) :
    Except ReadError (Fields × List Char) :=
  if name = shape.first then
    if fields.first.isSome then .error (.duplicateField shape.first)
    else do
      let (value, rest) ← readString (← readColon input)
      return ({ fields with first := some value }, rest)
  else if name = shape.second then
    if fields.second.isSome then .error (.duplicateField shape.second)
    else do
      let (value, rest) ← readString (← readColon input)
      return ({ fields with second := some value }, rest)
  else do
    let rest ← wellFormed (skip (← readColon input))
    return (fields, rest)

/-- Read a member from the quotation mark of its name on, then the members after it.  The bound on the number
of members is met by the length of the input. -/
def readMembers (shape : RecordShape) :
    (bound : Nat) → Fields → List Char → Except ReadError ((String × String) × List Char)
  | 0, _, _ => .error .malformed
  | bound + 1, fields, input =>
    match skipBlank input with
    | '"' :: rest => do
      let (name, afterName) ← wellFormed (readText rest)
      let (known, afterMember) ← readMember shape fields (String.ofList name) afterName
      match skipBlank afterMember with
      | '\x7d' :: after => do
        let record ← known.complete shape
        return (record, after)
      | ',' :: more => readMembers shape bound known more
      | _ => .error .malformed
    | _ => .error .malformed

def readObject (shape : RecordShape) (input : List Char) :
    Except ReadError ((String × String) × List Char) :=
  match skipBlank input with
  | '\x7d' :: after => do
    let record ← ({} : Fields).complete shape
    return (record, after)
  | other => readMembers shape (other.length + 1) {} other

def readArray (shape : RecordShape) (input : List Char) :
    Except ReadError ((String × String) × List Char) :=
  match skipBlank input with
  | ']' :: _ => .error (.invalidLength 0 shape.arrayExpectation)
  | [] => .error .malformed
  | items => do
    let (first, afterFirst) ← readString items
    match skipBlank afterFirst with
    | ']' :: _ => .error (.invalidLength 1 shape.arrayExpectation)
    | ',' :: more =>
      match skipBlank more with
      | ']' :: _ | [] => .error .malformed
      | next => do
        let (second, afterSecond) ← readString next
        match skipBlank afterSecond with
        | ']' :: after => return ((first, second), after)
        | _ => .error .malformed
    | _ => .error .malformed

/-- Read a text that is a record from its first to its last character. -/
def readRecord (shape : RecordShape) (text : String) : Except ReadError (String × String) := do
  let (record, rest) ← match skipBlank text.toList with
    | [] => .error .malformed
    | '\x7b' :: input => readObject shape input
    | '[' :: input => readArray shape input
    | other => .error (wrongType shape.expectation other)
  if (skipBlank rest).isEmpty then return record else .error .malformed

def member (name value : String) (separator : List Char) : List Char :=
  quoted name.toList ++ separator ++ quoted value.toList

def compact (shape : RecordShape) (first second : String) : String :=
  String.ofList ('\x7b' :: member shape.first first [':'] ++ ','
    :: member shape.second second [':'] ++ ['\x7d'])

/-- Write a record with each field on a line of its own. -/
def pretty (shape : RecordShape) (first second : String) : String :=
  String.ofList ("\x7b\n  ".toList ++ member shape.first first [':', ' '] ++ ",\n  ".toList
    ++ member shape.second second [':', ' '] ++ "\n\x7d".toList)

end Json

namespace SigningKeys

/-- The record of signing keys.  How they were made is not part of it. -/
def shape : Json.RecordShape := ⟨"Mldsa65Keys", "seed", "verify"⟩

/-- Read keys; they count as derived from their seed. -/
def ofJson (text : String) : Except Json.ReadError SigningKeys := do
  let (seed, verify) ← Json.readRecord shape text
  return ⟨seed, verify, true⟩

def toJson (keys : SigningKeys) : String :=
  Json.compact shape keys.seed keys.verify

def toPrettyJson (keys : SigningKeys) : String :=
  Json.pretty shape keys.seed keys.verify

end SigningKeys

namespace TransportKeys

/-- The record of transport keys. -/
def shape : Json.RecordShape := ⟨"X25519Keys", "private_key", "public_key"⟩

/-- Read keys. -/
def ofJson (text : String) : Except Json.ReadError TransportKeys := do
  let (privateKey, publicKey) ← Json.readRecord shape text
  return ⟨privateKey, publicKey⟩

def toJson (keys : TransportKeys) : String :=
  Json.compact shape keys.privateKey keys.publicKey

def toPrettyJson (keys : TransportKeys) : String :=
  Json.pretty shape keys.privateKey keys.publicKey

end TransportKeys
end NodeKeys
