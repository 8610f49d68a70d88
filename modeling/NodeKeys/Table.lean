/-!
# Tables with text keys

A table is a list of entries in ascending order of their keys, where text is compared character by
character; this is also the order of its UTF-8 bytes.  A key that is inserted again takes the new value.
-/

namespace NodeKeys
namespace Table

/-- Insert a value, in place of an earlier one with the same key. -/
def insert {α : Type} (key : String) (value : α) : List (String × α) → List (String × α)
  | [] => [(key, value)]
  | (known, old) :: rest =>
    if key = known then (key, value) :: rest
    else if key < known then (key, value) :: (known, old) :: rest
    else (known, old) :: insert key value rest

def ofEntries {α : Type} (entries : List (String × α)) : List (String × α) :=
  entries.foldl (fun table (key, value) => insert key value table) []

def find? {α : Type} (key : String) : List (String × α) → Option α
  | [] => none
  | (known, value) :: rest => if key = known then some value else find? key rest

theorem find?_insert_self {α : Type} (key : String) (value : α) (table : List (String × α)) :
    find? key (insert key value table) = some value := by
  induction table with
  | nil => simp [insert, find?]
  | cons entry rest known =>
    obtain ⟨name, old⟩ := entry
    unfold insert
    split
    · simp [find?]
    · rename_i differs
      split
      · simp [find?]
      · simpa [find?, differs] using known

theorem find?_insert_of_ne {α : Type} {key other : String} (differs : other ≠ key) (value : α)
    (table : List (String × α)) : find? other (insert key value table) = find? other table := by
  induction table with
  | nil => simp [insert, find?, differs]
  | cons entry rest known =>
    obtain ⟨name, old⟩ := entry
    unfold insert
    split
    · rename_i same
      subst same
      simp [find?, differs]
    · split
      · simp [find?, differs]
      · simp [find?, known]

theorem mem_of_find? {α : Type} {key : String} {value : α} {table : List (String × α)}
    (found : find? key table = some value) : (key, value) ∈ table := by
  induction table with
  | nil => cases found
  | cons entry rest onward =>
    obtain ⟨name, first⟩ := entry
    rw [find?] at found
    split at found
    · next same =>
      cases found
      rw [same]
      exact List.mem_cons_self
    · exact List.mem_cons_of_mem _ (onward found)

/-- Looking a key up in a table of which every value was changed alike. -/
theorem find?_map {α β : Type} (change : α → β) (key : String) (table : List (String × α)) :
    find? key (table.map fun entry => (entry.1, change entry.2)) = (find? key table).map change := by
  induction table with
  | nil => rfl
  | cons entry rest known =>
    obtain ⟨name, value⟩ := entry
    by_cases same : key = name <;> simp [find?, same, known]

/-- Removing keys is looking the others up as before. -/
theorem find?_filter {α : Type} (keep : String → Bool) (key : String) (table : List (String × α)) :
    find? key (table.filter fun entry => keep entry.1) =
      if keep key then find? key table else none := by
  induction table with
  | nil => simp [find?]
  | cons entry rest known =>
    obtain ⟨name, value⟩ := entry
    by_cases same : key = name
    · subst same
      by_cases kept : keep key <;> simp_all [find?]
    · by_cases kept : keep name <;> simp [find?, same, kept, known]

end Table
end NodeKeys
