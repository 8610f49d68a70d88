import NodeKeys.RawKeyPair.Basic

/-!
# Wiping a key pair

Every byte string and every text is emptied in place.  The shape stays: names of fields, lengths of
sequences and the kind of every value.
-/

namespace NodeKeys
namespace RawKeyPair

mutual

/-- The value after its contents are erased. -/
def wipe : RawKeyPair → RawKeyPair
  | bytes _ => bytes []
  | object fields => object (wipeFields fields)
  | list items => list (wipeItems items)
  | text _ => text ""
  | null => null
termination_by structural raw => raw

def wipeFields : List (String × RawKeyPair) → List (String × RawKeyPair)
  | [] => []
  | (name, value) :: rest => (name, value.wipe) :: wipeFields rest
termination_by structural fields => fields

def wipeItems : List RawKeyPair → List RawKeyPair
  | [] => []
  | item :: rest => item.wipe :: wipeItems rest
termination_by structural items => items

end

end RawKeyPair
end NodeKeys
