import Mathlib.Data.List.Induction
import Mathlib.Data.String.Basic
import NodeKeys.Table

/-!
# What a table holds after a sequence of insertions

The names of a table ascend, so it holds each of them once, and what can be looked up in a table determines the
whole of it.  After any sequence of insertions a name has the value of its last entry.
-/

namespace NodeKeys
namespace Table

variable {α : Type}

/-- The names ascend. -/
def Ascending (table : List (String × α)) : Prop :=
  (table.map Prod.fst).Pairwise (· < ·)

theorem ascending_cons {name : String} {value : α} {rest : List (String × α)} :
    Ascending ((name, value) :: rest) ↔ (∀ other ∈ rest.map Prod.fst, name < other) ∧ Ascending rest :=
  List.pairwise_cons

theorem mem_names_insert {key name : String} {value : α} {table : List (String × α)} :
    name ∈ (insert key value table).map Prod.fst ↔ name = key ∨ name ∈ table.map Prod.fst := by
  induction table with
  | nil => exact List.mem_cons
  | cons entry rest inductionHypothesis =>
    obtain ⟨known, old⟩ := entry
    unfold insert
    split
    · next same => rw [same, List.map_cons, List.map_cons, List.mem_cons, ← or_assoc, or_self]
    · split
      · exact List.mem_cons
      · rw [List.map_cons, List.map_cons, List.mem_cons, List.mem_cons, inductionHypothesis, or_left_comm]

theorem ascending_insert {table : List (String × α)} (ascending : Ascending table) (key : String) (value : α) :
    Ascending (insert key value table) := by
  induction table with
  | nil => exact List.pairwise_singleton _ _
  | cons entry rest inductionHypothesis =>
    obtain ⟨known, old⟩ := entry
    rcases ascending_cons.mp ascending with ⟨first, later⟩
    unfold insert
    split
    · next same => exact ascending_cons.mpr ⟨same ▸ first, later⟩
    · next differs =>
      split
      · next earlier =>
        refine ascending_cons.mpr ⟨fun other member => ?_, ascending⟩
        rcases List.mem_cons.mp member with rfl | behind
        · exact earlier
        · exact lt_trans earlier (first other behind)
      · next notEarlier =>
        refine ascending_cons.mpr ⟨fun other member => ?_, inductionHypothesis later⟩
        rcases mem_names_insert.mp member with rfl | behind
        · exact lt_of_le_of_ne (not_lt.mp notEarlier) (Ne.symm differs)
        · exact first other behind

theorem find?_eq_none {key : String} {table : List (String × α)} (absent : key ∉ table.map Prod.fst) :
    find? key table = none :=
  match found : find? key table with
  | none => rfl
  | some _ => absurd (List.mem_map_of_mem (mem_of_find? found)) absent

theorem find?_of_lt {key : String} {table : List (String × α)}
    (before : ∀ name ∈ table.map Prod.fst, key < name) : find? key table = none :=
  find?_eq_none fun member => lt_irrefl key (before key member)

/-- Tables in which every name has the same value are the same. -/
theorem eq_of_find? {first second : List (String × α)} (ascending : Ascending first) (ascends : Ascending second)
    (same : ∀ key, find? key first = find? key second) : first = second := by
  induction first generalizing second with
  | nil =>
    cases second with
    | nil => rfl
    | cons entry rest =>
      have found := same entry.1
      simp [find?] at found
  | cons entry rest inductionHypothesis =>
    obtain ⟨name, value⟩ := entry
    cases second with
    | nil =>
      have found := same name
      simp [find?] at found
    | cons other others =>
      obtain ⟨otherName, otherValue⟩ := other
      rcases ascending_cons.mp ascending with ⟨least, later⟩
      rcases ascending_cons.mp ascends with ⟨otherLeast, otherLater⟩
      have sameName : name = otherName := by
        rcases lt_trichotomy name otherName with smaller | equal | greater
        · have found := same name
          rw [find?, if_pos rfl, find?, if_neg smaller.ne,
            find?_of_lt fun known member => lt_trans smaller (otherLeast known member)] at found
          cases found
        · exact equal
        · have found := same otherName
          rw [find?, if_neg greater.ne,
            find?_of_lt fun known member => lt_trans greater (least known member), find?, if_pos rfl] at found
          cases found
      subst sameName
      have sameValue : value = otherValue := by simpa [find?] using same name
      have sameRest : rest = others := by
        refine inductionHypothesis later otherLater fun key => ?_
        by_cases here : key = name
        · rw [here, find?_of_lt least, find?_of_lt otherLeast]
        · simpa [find?, here] using same key
      rw [sameValue, sameRest]

/-- Two insertions under different names can be made in either order. -/
theorem insert_comm {key other : String} (differs : key ≠ other) (value otherValue : α)
    {table : List (String × α)} (ascending : Ascending table) :
    insert other otherValue (insert key value table) = insert key value (insert other otherValue table) := by
  refine eq_of_find? (ascending_insert (ascending_insert ascending _ _) _ _)
    (ascending_insert (ascending_insert ascending _ _) _ _) fun name => ?_
  by_cases first : name = key
  · subst first
    rw [find?_insert_of_ne differs, find?_insert_self, find?_insert_self]
  · rw [find?_insert_of_ne first]
    by_cases second : name = other
    · rw [second, find?_insert_self, find?_insert_self]
    · rw [find?_insert_of_ne second, find?_insert_of_ne second, find?_insert_of_ne first]

/-! ## Sequences of insertions -/

/-- The last of these entries under a name has this value. -/
def LastUnder (name : String) (value : α) (entries : List (String × α)) : Prop :=
  ∃ before after, entries = before ++ (name, value) :: after ∧ name ∉ after.map Prod.fst

theorem not_lastUnder_nil {name : String} {value : α} : ¬LastUnder name value [] := by
  rintro ⟨before, after, split, _⟩
  exact List.append_ne_nil_of_right_ne_nil before (List.cons_ne_nil _ after) split.symm

theorem lastUnder_concat_self {name : String} {value item : α} {entries : List (String × α)} :
    LastUnder name value (entries ++ [(name, item)]) ↔ item = value := by
  constructor
  · rintro ⟨before, after, split, absent⟩
    rcases after.eq_nil_or_concat with rfl | ⟨between, last, rfl⟩
    · exact congrArg Prod.snd (List.append_singleton_inj.mp split).2
    · rw [List.concat_eq_append, ← List.cons_append, ← List.append_assoc] at split
      have sameLast := (List.append_singleton_inj.mp split).2
      refine absurd ?_ absent
      simp [← sameLast]
  · rintro rfl
    exact ⟨entries, [], rfl, List.not_mem_nil⟩

theorem lastUnder_concat_of_ne {name key : String} (differs : name ≠ key) {value item : α}
    {entries : List (String × α)} :
    LastUnder name value (entries ++ [(key, item)]) ↔ LastUnder name value entries := by
  constructor
  · rintro ⟨before, after, split, absent⟩
    rcases after.eq_nil_or_concat with rfl | ⟨between, last, rfl⟩
    · exact absurd (congrArg Prod.fst (List.append_singleton_inj.mp split).2).symm differs
    · rw [List.concat_eq_append, ← List.cons_append, ← List.append_assoc] at split
      refine ⟨before, between, (List.append_singleton_inj.mp split).1, fun member => absent ?_⟩
      simp [List.mem_map.mp member]
  · rintro ⟨before, after, rfl, absent⟩
    refine ⟨before, after ++ [(key, item)], by rw [List.append_assoc, List.cons_append], ?_⟩
    simpa [differs] using absent

theorem ofEntries_concat (entries : List (String × α)) (key : String) (value : α) :
    ofEntries (entries ++ [(key, value)]) = insert key value (ofEntries entries) :=
  List.foldl_append

theorem ascending_ofEntries (entries : List (String × α)) : Ascending (ofEntries entries) := by
  induction entries using List.reverseRecOn with
  | nil => exact .nil
  | append_singleton entries entry inductionHypothesis =>
    rw [ofEntries_concat]
    exact ascending_insert inductionHypothesis _ _

/-- A name has the value of its last entry. -/
theorem find?_ofEntries {name : String} {value : α} {entries : List (String × α)} :
    find? name (ofEntries entries) = some value ↔ LastUnder name value entries := by
  induction entries using List.reverseRecOn with
  | nil => exact iff_of_false nofun not_lastUnder_nil
  | append_singleton entries entry inductionHypothesis =>
    obtain ⟨key, item⟩ := entry
    rw [ofEntries_concat]
    by_cases same : name = key
    · rw [same, find?_insert_self, lastUnder_concat_self, Option.some.injEq]
    · rw [find?_insert_of_ne same, lastUnder_concat_of_ne same, inductionHypothesis]

theorem mem_names_ofEntries {name : String} {entries : List (String × α)} :
    name ∈ (ofEntries entries).map Prod.fst ↔ name ∈ entries.map Prod.fst := by
  induction entries using List.reverseRecOn with
  | nil => rfl
  | append_singleton entries entry inductionHypothesis =>
    rw [ofEntries_concat, mem_names_insert, inductionHypothesis, List.map_append, List.mem_append, or_comm]
    simp

theorem ofEntries_swap {first second : String × α} (differs : first.1 ≠ second.1)
    (before after : List (String × α)) :
    ofEntries (before ++ second :: first :: after) = ofEntries (before ++ first :: second :: after) := by
  obtain ⟨key, value⟩ := first
  obtain ⟨other, item⟩ := second
  have swapped := insert_comm differs value item (ascending_ofEntries before)
  simp only [ofEntries, List.foldl_append, List.foldl_cons] at swapped ⊢
  rw [swapped]

end Table
end NodeKeys
