import NodeKeys.Diagnostic
import NodeKeys.Table

/-!
# Key pairs as an implementation returns them

Implementations do not agree on the shape of a key pair: some return the bytes of the public key, some a
record of fields, some a sequence, some wrap the key pair once more.  A `RawKeyPair` is any such value.

Its diagnostic shows the shape and the lengths of byte strings, and neither bytes nor text.
-/

namespace NodeKeys

/-- A value of any shape, made of byte strings and texts. -/
inductive RawKeyPair where
  | bytes (content : List UInt8)
  /-- Named fields, in the order of a table. -/
  | object (fields : List (String × RawKeyPair))
  | list (items : List RawKeyPair)
  | text (content : String)
  | null
  deriving BEq, Inhabited

namespace RawKeyPair

/-- A record of fields; of two fields with one name, the later one counts. -/
def ofFields (fields : List (String × RawKeyPair)) : RawKeyPair :=
  object (Table.ofEntries fields)

def asBytes? : RawKeyPair → Option (List UInt8)
  | bytes content => some content
  | _ => none

def field? (name : String) : RawKeyPair → Option RawKeyPair
  | object fields => Table.find? name fields
  | _ => none

/-- Whether the value is nothing, or a byte string, record or sequence without content.  Only the outermost
shape counts: a record of empty fields is not empty. -/
def isEmpty : RawKeyPair → Bool
  | null => true
  | bytes content => content.isEmpty
  | object fields => fields.isEmpty
  | list items => items.isEmpty
  | text _ => false

/-- The shape in one word. -/
def kind : RawKeyPair → String
  | bytes _ => "bytes"
  | object _ => "object"
  | list _ => "list"
  | text _ => "text"
  | null => "null"

mutual

/-- The shape of the value, without any content. -/
def diagnostic : RawKeyPair → String
  | bytes content => s!"Bytes(<{content.length} bytes>)"
  | object fields => Diagnostic.table (fieldDiagnostics fields)
  | list items => Diagnostic.sequence (itemDiagnostics items)
  | text _ => "Text(***)"
  | null => "Null"
termination_by structural raw => raw

def fieldDiagnostics : List (String × RawKeyPair) → List (String × String)
  | [] => []
  | (name, value) :: rest => (name, value.diagnostic) :: fieldDiagnostics rest
termination_by structural fields => fields

def itemDiagnostics : List RawKeyPair → List String
  | [] => []
  | item :: rest => item.diagnostic :: itemDiagnostics rest
termination_by structural items => items

end

end RawKeyPair
end NodeKeys
