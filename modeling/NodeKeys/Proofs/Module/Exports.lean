import NodeKeys.Proofs.Derivation
import NodeKeys.Proofs.Table
import NodeKeys.Proofs.Utf8.Order

/-!
# What a module exports, and which factories are found in it

A module is filled by one insertion after the other.  Under each name it exports what was inserted there last, and
the sort of that decides how it can be reached: a module takes the place of a factory and hides it.  The candidates
are the exported factories under the listed names, so only the last insertions under these names can change them.
-/

namespace NodeKeys

variable {σ : Type}

namespace Module

def add (module : Module σ) : String × Export σ → Module σ
  | (key, .factory factory) => module.withFactory key factory
  | (key, .module nested) => module.withModule key nested

def assemble (name : String) (insertions : List (String × Export σ)) : Module σ :=
  insertions.foldl add (empty name)

theorem add_eq (module : Module σ) (insertion : String × Export σ) :
    module.add insertion = module.insert insertion.1 insertion.2 := by
  rcases insertion with ⟨key, factory | nested⟩ <;> rfl

theorem assemble_eq (name : String) (insertions : List (String × Export σ)) :
    assemble name insertions = mk name (Table.ofEntries insertions) := by
  induction insertions using List.reverseRecOn with
  | nil => rfl
  | append_singleton insertions insertion inductionHypothesis =>
    obtain ⟨key, item⟩ := insertion
    unfold assemble at inductionHypothesis ⊢
    rw [List.foldl_append, inductionHypothesis, List.foldl_cons, List.foldl_nil, add_eq, Table.ofEntries_concat]
    rfl

theorem get?_assemble {name key : String} {item : Export σ} {insertions : List (String × Export σ)} :
    (assemble name insertions).get? key = some item ↔ Table.LastUnder key item insertions := by
  rw [assemble_eq]
  exact Table.find?_ofEntries

theorem factory?_or_submodule? (module : Module σ) (key : String) :
    module.factory? key = none ∨ module.submodule? key = none := by
  unfold factory? submodule?
  rcases module.get? key with _ | exported | nested
  · exact Or.inl rfl
  · exact Or.inr rfl
  · exact Or.inl rfl

theorem mem_exportNames_assemble {name key : String} {insertions : List (String × Export σ)} :
    key ∈ (assemble name insertions).exportNames ↔ key ∈ insertions.map Prod.fst := by
  rw [assemble_eq]
  exact Table.mem_names_ofEntries

theorem exportNames_assemble_order (name : String) (insertions : List (String × Export σ)) :
    (assemble name insertions).exportNames.Pairwise fun earlier later => Utf8.bytes earlier < Utf8.bytes later := by
  rw [assemble_eq]
  exact (Table.ascending_ofEntries insertions).imp (Utf8.bytes_lt_iff _ _).mpr

theorem isEmpty_iff_exportNames (module : Module σ) : module.isEmpty = true ↔ module.exportNames = [] := by
  unfold isEmpty exportNames
  rw [List.isEmpty_iff, List.map_eq_nil_iff]

theorem isEmpty_assemble {name : String} {insertions : List (String × Export σ)} :
    (assemble name insertions).isEmpty = true ↔ insertions = [] := by
  rw [isEmpty_iff_exportNames, List.eq_nil_iff_forall_not_mem, ← List.map_eq_nil_iff (f := Prod.fst),
    List.eq_nil_iff_forall_not_mem]
  exact forall_congr' fun key => not_congr mem_exportNames_assemble

/-- Under every name the last insertion is exported, and nothing else. -/
structure Exporting (insertions : List (String × Export σ)) (module : Module σ) : Prop where
  /-- It is found as a factory if it is one. -/
  factory (key : String) (factory : Factory σ) :
    module.factory? key = some factory ↔ Table.LastUnder key (.factory factory) insertions
  /-- It is found as a module if it is one. -/
  submodule (key : String) (nested : Module σ) :
    module.submodule? key = some nested ↔ Table.LastUnder key (.module nested) insertions
  /-- It is never found as both. -/
  notBoth (key : String) : module.factory? key = none ∨ module.submodule? key = none
  /-- The names come in the order of their bytes, so none of them comes twice. -/
  order : module.exportNames.Pairwise fun earlier later => Utf8.bytes earlier < Utf8.bytes later
  /-- They are the names of the insertions. -/
  names (key : String) : key ∈ module.exportNames ↔ key ∈ insertions.map Prod.fst
  /-- Only without insertions nothing is exported. -/
  empty : module.isEmpty = true ↔ insertions = []

theorem exporting_assemble (name : String) (insertions : List (String × Export σ)) :
    Exporting insertions (assemble name insertions) where
  factory _ _ := factory?_eq_some.trans get?_assemble
  submodule _ _ := submodule?_eq_some.trans get?_assemble
  notBoth := factory?_or_submodule? _
  order := exportNames_assemble_order name insertions
  names _ := mem_exportNames_assemble
  empty := isEmpty_assemble

end Module

/-! ## Candidates -/

/-- The candidates are the factories that were inserted last under listed names, each once, in the order of the
list. -/
structure Resolved (insertions : List (String × Export σ)) (candidates : List (Candidate σ)) : Prop where
  order : (candidates.map Candidate.name).Sublist factoryPriority
  once : (candidates.map Candidate.name).Nodup
  member (candidate : Candidate σ) : candidate ∈ candidates ↔
    candidate.name ∈ factoryPriority ∧ Table.LastUnder candidate.name (.factory candidate.factory) insertions

theorem candidatesNamed_sublist (names : List String) (handle : Module σ) :
    ((candidatesNamed names handle).map Candidate.name).Sublist names := by
  induction names with
  | nil => exact .slnil
  | cons name names inductionHypothesis =>
    rw [candidatesNamed, List.filterMap_cons]
    rcases handle.factory? name with _ | factory
    · exact inductionHypothesis.cons name
    · exact inductionHypothesis.cons_cons name

theorem candidatesNamed_congr {names : List String} {first second : Module σ}
    (same : ∀ name ∈ names, first.factory? name = second.factory? name) :
    candidatesNamed names first = candidatesNamed names second :=
  List.filterMap_congr fun name listed => congrArg (Option.map (Candidate.mk name)) (same name listed)

theorem resolved_assemble (name : String) (insertions : List (String × Export σ)) :
    Resolved insertions (resolveCandidates (Module.assemble name insertions)) where
  order := candidatesNamed_sublist factoryPriority _
  once := (candidatesNamed_sublist factoryPriority _).nodup (by decide)
  member _ := mem_candidatesNamed.trans
    (and_congr_right' ((Module.exporting_assemble name insertions).factory _ _))

/-- What a module exports after any insertions, and which factories are found in it: neither depends on the order of
insertions under different names, and the candidates depend on nothing but the factories that are last under listed
names. -/
theorem last_insertions_are_exported (name : String) (insertions : List (String × Export σ)) :
    (Module.assemble name insertions).Exporting insertions ∧
      Resolved insertions (resolveCandidates (Module.assemble name insertions)) ∧
      (∀ before first second after, insertions = before ++ first :: second :: after → first.1 ≠ second.1 →
        Module.assemble name (before ++ second :: first :: after) = Module.assemble name insertions) ∧
      ∀ (other : String) (others : List (String × Export σ)),
        (∀ key ∈ factoryPriority, ∀ factory : Factory σ,
          Table.LastUnder key (.factory factory) others ↔ Table.LastUnder key (.factory factory) insertions) →
        resolveCandidates (Module.assemble other others) = resolveCandidates (Module.assemble name insertions) := by
  refine ⟨Module.exporting_assemble name insertions, resolved_assemble name insertions, ?swapped, ?independent⟩
  case swapped =>
    rintro before first second after rfl differs
    rw [Module.assemble_eq, Module.assemble_eq, Table.ofEntries_swap differs]
  case independent =>
    intro other others same
    refine candidatesNamed_congr fun key listed => Option.ext fun factory => ?_
    calc (Module.assemble other others).factory? key = some factory
        ↔ Table.LastUnder key (.factory factory) others :=
          (Module.exporting_assemble other others).factory key factory
      _ ↔ Table.LastUnder key (.factory factory) insertions := same key listed factory
      _ ↔ (Module.assemble name insertions).factory? key = some factory :=
          ((Module.exporting_assemble name insertions).factory key factory).symm

/-! A module hides an earlier factory of the same name, so that of three listed names two are left. -/

/-- A factory that never makes a key pair. -/
def Factory.barren : Factory Unit :=
  .unseeded fun state => (.error ⟨"out of order"⟩, state)

def hidingInsertions : List (String × Export Unit) :=
  [("generate", .factory .barren), ("keygen", .factory .barren), ("keygen", .module (.empty "nested")),
    ("from_seed", .factory .barren)]

/-- The same factories in another order, next to another module and a name that is not listed. -/
def rearrangedInsertions : List (String × Export Unit) :=
  [("from_seed", .factory .barren), ("keygen", .module (.mk "other" [("keygen", .factory .barren)])),
    ("unlisted", .factory .barren), ("generate", .factory .barren)]

theorem hidden_factory_is_no_candidate :
    Module.assemble "first"
        [("generate", .factory .barren), ("keygen", .factory .barren), ("from_seed", .factory .barren),
          ("keygen", .module (.empty "nested"))] = Module.assemble "first" hidingInsertions ∧
      (∀ key ∈ factoryPriority, ∀ factory : Factory Unit,
        Table.LastUnder key (.factory factory) rearrangedInsertions ↔
          Table.LastUnder key (.factory factory) hidingInsertions) ∧
      resolveCandidates (Module.assemble "second" rearrangedInsertions) =
        resolveCandidates (Module.assemble "first" hidingInsertions) ∧
      (resolveCandidates (Module.assemble "first" hidingInsertions)).map Candidate.name =
        ["from_seed", "generate"] := by
  rcases last_insertions_are_exported "first" hidingInsertions with ⟨_, _, swapped, independent⟩
  have alike : ∀ key ∈ factoryPriority, ∀ factory : Factory Unit,
      Table.LastUnder key (.factory factory) rearrangedInsertions ↔
        Table.LastUnder key (.factory factory) hidingInsertions := by
    intro key listed factory
    rw [← Table.find?_ofEntries, ← Table.find?_ofEntries]
    simp only [factoryPriority, List.mem_cons, List.not_mem_nil, or_false] at listed
    rcases listed with rfl | rfl | rfl | rfl | rfl | rfl | rfl | rfl | rfl <;>
      simp [rearrangedInsertions, hidingInsertions, Table.ofEntries, Table.find?_insert_self,
        Table.find?_insert_of_ne, Table.find?]
  exact ⟨swapped [_, _] (_, _) (_, _) [] rfl (by decide), alike, independent "second" _ alike, rfl⟩

end NodeKeys
