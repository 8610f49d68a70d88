import NodeKeys.Loader.Attempt

/-!
# Walks through nested modules, and what an access selects

Every access is a walk.  It goes from a module to one that is exported there, again and again, along a path of names.
Either it arrives at exactly one module, or it breaks off at a name that is not exported or is exported as a factory.
Selected is the module at the end, unless nothing is exported there; modules on the way may be as they like.

On its way a walk looks up one name in each module.  What is inserted there under any other name makes no
difference to it, no matter how deep inside and what was exported under that name before.
-/

namespace NodeKeys

variable {σ : Type}

namespace Module

/-! ## Walks -/

/-- The path leads from a module to another one: each name of it is exported as a module, by the module before. -/
inductive Leads : Module σ → List String → Module σ → Prop
  | arrived (module : Module σ) : Leads module [] module
  | onward {module nested reached : Module σ} {name : String} {rest : List String}
      (exported : module.get? name = some (.module nested)) (further : Leads nested rest reached) :
      Leads module (name :: rest) reached

/-- The path leads up to a name that is not exported or is exported as a factory. -/
def BreaksOff (module : Module σ) (path : List String) : Prop :=
  ∃ before name after inner, path = before ++ name :: after ∧ module.Leads before inner ∧
    (inner.get? name = none ∨ ∃ factory, inner.get? name = some (.factory factory))

theorem descend?_cons (module : Module σ) (name : String) (rest : List String) :
    module.descend? (name :: rest) = (module.submodule? name).bind fun nested => nested.descend? rest := by
  rw [submodule?_eq_descend?]
  exact module.descend?_append [name] rest

theorem descend?_eq_some_iff {module reached : Module σ} {path : List String} :
    module.descend? path = some reached ↔ module.Leads path reached := by
  induction path generalizing module with
  | nil =>
    constructor
    · intro found
      cases found
      exact .arrived _
    · intro leads
      cases leads
      rfl
  | cons name rest inductionHypothesis =>
    rw [descend?_cons, Option.bind_eq_some_iff]
    constructor
    · rintro ⟨nested, exported, found⟩
      exact .onward (submodule?_eq_some.mp exported) (inductionHypothesis.mp found)
    · intro leads
      cases leads with
      | onward exported further =>
        exact ⟨_, submodule?_eq_some.mpr exported, inductionHypothesis.mpr further⟩

theorem BreaksOff.cons {module nested : Module σ} {name : String} {rest : List String}
    (breaks : nested.BreaksOff rest) (exported : module.get? name = some (.module nested)) :
    module.BreaksOff (name :: rest) := by
  rcases breaks with ⟨before, stop, after, inner, rfl, leads, blocked⟩
  exact ⟨name :: before, stop, after, inner, rfl, .onward exported leads, blocked⟩

/-- A walk that does not arrive breaks off somewhere. -/
theorem leads_or_breaksOff (module : Module σ) (path : List String) :
    (∃ reached, module.Leads path reached) ∨ module.BreaksOff path := by
  induction path generalizing module with
  | nil => exact Or.inl ⟨module, .arrived module⟩
  | cons name rest inductionHypothesis =>
    cases exported : module.get? name with
    | none => exact Or.inr ⟨[], name, rest, module, rfl, .arrived module, Or.inl exported⟩
    | some item =>
      cases item with
      | factory factory =>
        exact Or.inr ⟨[], name, rest, module, rfl, .arrived module, Or.inr ⟨factory, exported⟩⟩
      | module nested =>
        rcases inductionHypothesis nested with ⟨reached, further⟩ | breaks
        · exact Or.inl ⟨reached, .onward exported further⟩
        · exact Or.inr (breaks.cons exported)

theorem descend?_eq_none_of_breaksOff {module : Module σ} {path : List String} (breaks : module.BreaksOff path) :
    module.descend? path = none := by
  rcases breaks with ⟨before, name, after, inner, rfl, leads, blocked⟩
  have closed : inner.submodule? name = none := by
    rcases blocked with absent | ⟨factory, exported⟩
    · rw [submodule?, absent]
    · rw [submodule?, exported]
  rw [descend?_append, descend?_eq_some_iff.mpr leads, Option.bind_some, descend?_cons, closed]
  rfl

/-! ## Insertions on the way -/

/-- Insert an export in the module to which a path leads.  The modules on the way are replaced by what becomes of
them, and nothing happens if the path breaks off. -/
def insertAt (module : Module σ) (place : List String) (name : String) (item : Export σ) : Module σ :=
  match place with
  | [] => module.insert name item
  | first :: rest =>
    match module.submodule? first with
    | some nested => module.withModule first (nested.insertAt rest name item)
    | none => module

/-- The insertion is made where the path leads. -/
theorem leads_insertAt {module inner : Module σ} {place : List String} (leads : module.Leads place inner)
    (name : String) (item : Export σ) :
    (module.insertAt place name item).Leads place (inner.insert name item) := by
  induction leads with
  | arrived module => exact .arrived _
  | @onward module nested inner first rest exported further inductionHypothesis =>
    rw [insertAt, submodule?_eq_some.mpr exported]
    exact .onward (get?_insert_self _ _ _) inductionHypothesis

/-- A walk that passes the place with another name arrives where it arrived before. -/
theorem descend?_insertAt_of_ne {name next : String} (differs : name ≠ next) (module : Module σ)
    (place rest : List String) (item : Export σ) :
    (module.insertAt place name item).descend? (place ++ next :: rest) =
      module.descend? (place ++ next :: rest) := by
  induction place generalizing module with
  | nil =>
    have same : (module.insert name item).submodule? next = module.submodule? next := by
      rw [submodule?, submodule?, get?_insert_of_ne module differs.symm]
    rw [insertAt, List.nil_append, descend?_cons, descend?_cons, same]
  | cons first place inductionHypothesis =>
    rw [insertAt]
    cases exported : module.submodule? first with
    | none => rfl
    | some nested =>
      have replaced : (module.withModule first (nested.insertAt place name item)).submodule? first =
          some (nested.insertAt place name item) :=
        submodule?_eq_some.mpr (get?_insert_self _ _ _)
      rw [List.cons_append, descend?_cons, replaced, descend?_cons, exported]
      exact inductionHypothesis nested

end Module

namespace Loader

/-! ## Selections -/

theorem exports_ne_nil_iff (module : Module σ) : module.exports ≠ [] ↔ module.isEmpty = false := by
  rw [Module.isEmpty, List.isEmpty_eq_false_iff]

theorem select_eq_some_iff (access : Access) (imported selected : Module σ) :
    access.select imported = some selected ↔
      imported.descend? access.path = some selected ∧ selected.exports ≠ [] := by
  rw [Access.select_eq, Option.filter_eq_some_iff, exports_ne_nil_iff, Bool.not_eq_true']

/-- A selection is the end of a walk, and something is exported there. -/
theorem select_eq_some_iff_leads (access : Access) (imported selected : Module σ) :
    access.select imported = some selected ↔ imported.Leads access.path selected ∧ selected.exports ≠ [] := by
  rw [select_eq_some_iff, Module.descend?_eq_some_iff]

/-- Walks that arrive at the same modules select the same. -/
theorem select_congr {access otherwise : Access} {module other : Module σ}
    (same : ∀ reached, module.Leads access.path reached ↔ other.Leads otherwise.path reached) :
    access.select module = otherwise.select other := by
  apply Option.ext
  intro selected
  rw [select_eq_some_iff_leads, select_eq_some_iff_leads, same]

/-- All kinds of access are nested ones. -/
theorem select_eq_nested (access : Access) (module : Module σ) :
    access.select module = (Access.nested access.path).select module :=
  select_congr fun _ => Iff.rfl

theorem select_append_of_leads {module reached : Module σ} {first : List String}
    (leads : module.Leads first reached) (second : List String) :
    (Access.nested (first ++ second)).select module = (Access.nested second).select reached := by
  rw [Access.select_eq, Access.select_eq, Access.path, Access.path, Module.descend?_append,
    Module.descend?_eq_some_iff.mpr leads, Option.bind_some]

theorem select_append_of_breaksOff {module : Module σ} {first : List String} (breaks : module.BreaksOff first)
    (second : List String) : (Access.nested (first ++ second)).select module = none := by
  rw [Access.select_eq, Access.path, Module.descend?_append, Module.descend?_eq_none_of_breaksOff breaks]
  rfl

theorem select_insertAt_of_ne {access : Access} {place rest : List String} {name next : String}
    (path : access.path = place ++ next :: rest) (differs : name ≠ next) (module : Module σ) (item : Export σ) :
    access.select (module.insertAt place name item) = access.select module := by
  rw [Access.select_eq, Access.select_eq, path, Module.descend?_insertAt_of_ne differs]

/-- Take any module.  A named export, the default export and the module itself are the walks along one name, along
the name of the default export and along no name.  A walk along one path and then another selects what the second
one selects where the first one arrives, and nothing if the first one breaks off; it does one or the other.  What is
selected is the end of the walk and has exports, and nothing but the end of the walk counts.  So something can be
inserted in the module itself or in any other one before the end, under a name that the walk does not look up there,
in the place of another export or not: the selection stays the same. -/
theorem every_access_is_a_walk (module : Module σ) :
    ((∀ name, (Access.named name).select module = (Access.nested [name]).select module) ∧
      Access.default.select module = (Access.nested ["default"]).select module ∧
      Access.asIs.select module = (Access.nested []).select module) ∧
    (∀ first second,
      (∀ reached, module.Leads first reached →
        (Access.nested (first ++ second)).select module = (Access.nested second).select reached) ∧
      (module.BreaksOff first → (Access.nested (first ++ second)).select module = none) ∧
      ((∃ reached, module.Leads first reached) ∨ module.BreaksOff first)) ∧
    (∀ (access : Access) selected,
      access.select module = some selected ↔ module.Leads access.path selected ∧ selected.exports ≠ []) ∧
    (∀ (access otherwise : Access) (other : Module σ),
      (∀ reached, module.Leads access.path reached ↔ other.Leads otherwise.path reached) →
        access.select module = otherwise.select other) ∧
    ∀ place inner, module.Leads place inner → ∀ name item,
      (module.insertAt place name item).Leads place (inner.insert name item) ∧
      ∀ (access : Access) next rest, access.path = place ++ next :: rest → name ≠ next →
        access.select (module.insertAt place name item) = access.select module := by
  refine ⟨⟨?named, ?default, ?asIs⟩, ?walks, ?selections, ?ends, ?insertions⟩
  case named => exact fun name => select_eq_nested (.named name) module
  case default => exact select_eq_nested .default module
  case asIs => exact select_eq_nested .asIs module
  case walks =>
    intro first second
    refine ⟨fun reached leads => ?_, fun breaks => ?_, module.leads_or_breaksOff first⟩
    · exact select_append_of_leads leads second
    · exact select_append_of_breaksOff breaks second
  case selections => exact fun access selected => select_eq_some_iff_leads access module selected
  case ends => exact fun access otherwise other same => select_congr same
  case insertions =>
    intro place inner leads name item
    refine ⟨Module.leads_insertAt leads name item, fun access next rest path differs => ?_⟩
    exact select_insertAt_of_ne path differs module item

/-! A walk of two names.  In the middle of it a factory is replaced by a module without exports. -/

/-- A factory that never makes a key pair. -/
def brokenFactory : Factory Unit :=
  .unseeded fun state => (.error ⟨"out of order"⟩, state)

def innerModule : Module Unit :=
  (Module.empty "inner").withFactory "keygen" brokenFactory

def middleModule : Module Unit :=
  ((Module.empty "middle").withFactory "keygen" brokenFactory).withModule "mldsa65" innerModule

def outerModule : Module Unit :=
  (Module.empty "outer").withModule "default" middleModule

theorem every_access_is_a_walk_replacing :
    (Access.nested ["default", "mldsa65"]).select outerModule = some innerModule ∧
      outerModule.Leads ["default"] middleModule ∧ "keygen" ≠ "mldsa65" ∧
      (outerModule.insertAt ["default"] "keygen" (.module (.empty "hollow"))).Leads ["default"]
        (middleModule.insert "keygen" (.module (.empty "hollow"))) ∧
      (Access.nested ["default", "mldsa65"]).select
          (outerModule.insertAt ["default"] "keygen" (.module (.empty "hollow"))) = some innerModule ∧
      (Access.nested ["default", "keygen"]).select
          (outerModule.insertAt ["default"] "keygen" (.module (.empty "hollow"))) = none := by
  rcases every_access_is_a_walk outerModule with ⟨_, walks, _, _, insertions⟩
  have leads : outerModule.Leads ["default"] middleModule := .onward rfl (.arrived middleModule)
  have differs : "keygen" ≠ "mldsa65" := by decide
  have found : (Access.nested ["default", "mldsa65"]).select outerModule = some innerModule :=
    (walks ["default"] ["mldsa65"]).1 middleModule leads
  rcases insertions ["default"] middleModule leads "keygen" (.module (.empty "hollow")) with ⟨replaced, kept⟩
  have stays := kept (.nested ["default", "mldsa65"]) "mldsa65" [] rfl differs
  exact ⟨found, leads, differs, replaced, stays.trans found, rfl⟩

end Loader
end NodeKeys
