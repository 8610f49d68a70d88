import NodeKeys.Proofs.Diagnostic
import NodeKeys.Proofs.Effects

/-!
# What log lines say

Whoever reads the log sees the level and the wording of a line and nothing else.  Two sorts of line are told
apart by their wording alone: a report of finished ML-DSA-65 keys, and a warning that a factory ignores the
seed.  Some lines carry texts of packages and factories, which can be anything.  All the same no such line
can pass for one of these two sorts, because the foreign text always stands behind a beginning of the
line's own.

The name of a factory stands between quotes.  For a reader to know where the name ends, it must not hold the
quote itself; the names under which factories are tried do not.
-/

namespace NodeKeys

namespace LogLine

/-- The line is a report of finished ML-DSA-65 keys. -/
def ReportsKeys (line : LogLine) : Prop :=
  ∃ rest, line.wording = "Generated ML-DSA-65 key pair" ++ rest

/-- The line says that the factory of this name ignores the seed. -/
def Disclaims (line : LogLine) (factory : String) : Prop :=
  line.wording = "Factory `" ++ factory ++ "` ignores the seed; key pair is not reproducible"

/-- Lines about what did not end a request: loader steps, and factories that gave no key pair. -/
inductive Interim : LogLine → Prop
  | ofStep {line : LogLine} (about : line.ofStep = true) : Interim line
  | skipped {factory : String} (listed : factory ∈ factoryPriority) : Interim (.factorySkipped factory)
  | returnedEmpty {factory : String} (listed : factory ∈ factoryPriority) :
      Interim (.factoryReturnedEmpty factory)
  | failed {factory : String} (listed : factory ∈ factoryPriority) (error : FactoryError) :
      Interim (.factoryFailed factory error)

/-! ## First letters -/

def initial : LogLine → Char
  | stepEmpty _ | stepFailed _ _ | stepUnusable _ => 'L'
  | resolved _ _ | privateKeyRejected _ => 'R'
  | factorySkipped _ => 'S'
  | factoryReturnedEmpty _ | factoryIgnoresSeed _ | factoryFailed _ _ => 'F'
  | generatedFromSeed _ _ | generatedWithoutSeed _ _ | transportKeyGenerated _ => 'G'
  | producedBy _ => 'M'
  | usingConfig _ => 'U'

theorem head?_append {first : String} {letter : Char} (starts : first.toList.head? = some letter)
    (rest : String) : (first ++ rest).toList.head? = some letter := by
  rw [String.toList_append, List.head?_append, starts]
  rfl

theorem head?_wording (line : LogLine) : line.wording.toList.head? = some line.initial := by
  cases line with
  | stepEmpty | stepUnusable | factorySkipped | factoryReturnedEmpty | factoryIgnoresSeed | producedBy
  | transportKeyGenerated => exact head?_append (head?_append rfl _) _
  | stepFailed | factoryFailed => exact head?_append (head?_append (head?_append rfl _) _) _
  | resolved | generatedFromSeed | generatedWithoutSeed =>
    exact head?_append (head?_append (head?_append (head?_append rfl _) _) _) _
  | privateKeyRejected | usingConfig => exact head?_append rfl _

theorem not_reportsKeys_of_initial {line : LogLine} (differs : line.initial ≠ 'G') : ¬line.ReportsKeys := by
  rintro ⟨rest, worded⟩
  have first := line.head?_wording
  rw [worded, head?_append rfl rest] at first
  exact differs (Option.some.inj first).symm

theorem not_disclaims_of_initial {line : LogLine} (differs : line.initial ≠ 'F') (factory : String) :
    ¬line.Disclaims factory := by
  intro disclaims
  have first := line.head?_wording
  rw [disclaims, head?_append (head?_append rfl factory) _] at first
  exact differs (Option.some.inj first).symm

/-! ## Names between quotes -/

theorem quote_not_mem_of_listed {factory : String} (listed : factory ∈ factoryPriority) :
    '\x60' ∉ factory.toList := by
  revert factory
  decide

/-- A line that begins like a disclaimer and goes on differently behind the name is none. -/
theorem not_disclaims_of_wording {line : LogLine} {name other : String} {rest : List Char}
    (worded : line.wording.toList = "Factory `".toList ++ (name.toList ++ '\x60' :: rest))
    (plain : '\x60' ∉ name.toList) (otherPlain : '\x60' ∉ other.toList)
    (differs : rest.take 2 ≠ [' ', 'i']) : ¬line.Disclaims other := by
  intro disclaims
  rw [disclaims, String.append_assoc, String.toList_append, String.toList_append] at worded
  have behind := (Diagnostic.append_mark_inj otherPlain plain (List.append_cancel_left worded)).2
  exact differs (behind ▸ rfl)

/-! ## The lines of a request -/

theorem disclaims_factoryIgnoresSeed (factory : String) : (factoryIgnoresSeed factory).Disclaims factory :=
  rfl

theorem eq_of_disclaims {factory other : String} (disclaims : (factoryIgnoresSeed factory).Disclaims other) :
    other = factory := by
  have worded := congrArg String.toList disclaims.symm
  rw [disclaims_factoryIgnoresSeed factory] at worded
  simp only [String.toList_append] at worded
  exact String.toList_inj.mp (List.append_cancel_left (List.append_cancel_right worded))

theorem initial_of_ofStep {line : LogLine} (about : line.ofStep = true) :
    line.initial ≠ 'G' ∧ line.initial ≠ 'F' := by
  cases line with
  | stepEmpty | stepFailed | stepUnusable | resolved => simp [initial]
  | _ => cases about

theorem Interim.not_reportsKeys {line : LogLine} (interim : line.Interim) : ¬line.ReportsKeys := by
  refine not_reportsKeys_of_initial ?_
  cases interim with
  | ofStep about => exact (initial_of_ofStep about).1
  | skipped | returnedEmpty | failed => simp [initial]

theorem Interim.not_disclaims {line : LogLine} (interim : line.Interim) {factory : String}
    (plain : '\x60' ∉ factory.toList) : ¬line.Disclaims factory := by
  cases interim with
  | ofStep about => exact not_disclaims_of_initial (initial_of_ofStep about).2 factory
  | skipped => exact not_disclaims_of_initial (by simp [initial]) factory
  | @returnedEmpty name listed =>
    have worded : (factoryReturnedEmpty name).wording.toList =
        "Factory `".toList ++ (name.toList ++ '\x60' :: " returned an empty key pair".toList) := by
      show ("Factory `" ++ name ++ "` returned an empty key pair").toList = _
      rw [String.toList_append, String.toList_append, List.append_assoc]
      rfl
    exact not_disclaims_of_wording worded (quote_not_mem_of_listed listed) plain (by decide)
  | @failed name listed error =>
    -- The message may imitate a disclaimer, but it stands behind words that a disclaimer has not.
    have worded : (factoryFailed name error).wording.toList =
        "Factory `".toList ++ (name.toList ++ '\x60' :: (" failed: ".toList ++ error.message.toList)) := by
      show ("Factory `" ++ name ++ "` failed: " ++ error.message).toList = _
      simp only [String.toList_append, List.append_assoc]
      rfl
    exact not_disclaims_of_wording worded (quote_not_mem_of_listed listed) plain (by simp)

theorem initial_generated (algorithm : String) (publicKey : List UInt8) (seedBound : Bool) :
    (generated algorithm publicKey seedBound).initial = 'G' := by
  cases seedBound <;> rfl

/-- The report of finished ML-DSA-65 keys as it stands in the log. -/
def reportText (publicKey : List UInt8) (seedBound : Bool) : String :=
  if seedBound then "INFO Generated ML-DSA-65 key pair (public_key: " ++ fingerprint publicKey ++ ")"
  else
    "WARN Generated ML-DSA-65 key pair without seed binding (public_key: " ++
      fingerprint publicKey ++ ")"

theorem text_generated (publicKey : List UInt8) (seedBound : Bool) :
    (generated "ML-DSA-65" publicKey seedBound).text = reportText publicKey seedBound := by
  cases seedBound with
  | true =>
    show "INFO" ++ " " ++ ("Generated " ++ "ML-DSA-65" ++ " key pair (public_key: " ++
      fingerprint publicKey ++ ")") = _
    simp only [← String.append_assoc]
    rfl
  | false =>
    show "WARN" ++ " " ++ ("Generated " ++ "ML-DSA-65" ++ " key pair without seed binding (public_key: " ++
      fingerprint publicKey ++ ")") = _
    simp only [← String.append_assoc]
    rfl

theorem reportsKeys_generated (publicKey : List UInt8) (seedBound : Bool) :
    (generated "ML-DSA-65" publicKey seedBound).ReportsKeys := by
  cases seedBound with
  | true =>
    refine ⟨" (public_key: " ++ fingerprint publicKey ++ ")", ?_⟩
    show "Generated " ++ "ML-DSA-65" ++ " key pair (public_key: " ++ fingerprint publicKey ++ ")" = _
    simp only [← String.append_assoc]
    rfl
  | false =>
    refine ⟨" without seed binding (public_key: " ++ fingerprint publicKey ++ ")", ?_⟩
    show "Generated " ++ "ML-DSA-65" ++ " key pair without seed binding (public_key: " ++
      fingerprint publicKey ++ ")" = _
    simp only [← String.append_assoc]
    rfl

end LogLine
end NodeKeys
