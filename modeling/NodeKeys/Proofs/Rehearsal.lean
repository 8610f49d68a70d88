/-!
# Rehearsals

The steps of a loader and the candidates of a chain act on the same state, one after the other, and whoever
comes first with something usable ends the matter.  What the others would have done cannot be seen then.

A rehearsal has no end of this kind: everybody acts in the state that the one before has left, whatever came
of it.  It is fixed by those who act and the state they start from, so it says which act is the first with a
usable result before any of the real acts takes place.
-/

namespace NodeKeys

variable {α τ σ : Type}

/-- The acts of all in order, each in the state that the act before it has left. -/
def rehearse (act : α → σ → τ) (left : τ → σ) : List α → σ → List τ
  | [], _ => []
  | actor :: rest, state => act actor state :: rehearse act left rest (left (act actor state))

/-- The state after acts that began in this state. -/
def stateAfter (left : τ → σ) (acts : List τ) (state : σ) : σ :=
  acts.foldl (fun _ act => left act) state

theorem map_rehearse {act : α → σ → τ} {left : τ → σ} {actor : τ → α}
    (named : ∀ item state, actor (act item state) = item) (actors : List α) (state : σ) :
    (rehearse act left actors state).map actor = actors := by
  induction actors generalizing state with
  | nil => rfl
  | cons first rest inductionHypothesis =>
    rw [rehearse, List.map_cons, named, inductionHypothesis]

theorem exists_state_of_mem_rehearse {act : α → σ → τ} {left : τ → σ} {actors : List α} {state : σ}
    {acted : τ} (member : acted ∈ rehearse act left actors state) :
    ∃ actor ∈ actors, ∃ before, acted = act actor before := by
  induction actors generalizing state with
  | nil => cases member
  | cons first rest inductionHypothesis =>
    rcases List.mem_cons.mp member with now | later
    · exact ⟨first, List.mem_cons_self, state, now⟩
    · rcases inductionHypothesis later with ⟨actor, among, before, same⟩
      exact ⟨actor, List.mem_cons_of_mem first among, before, same⟩

theorem rehearse_append (act : α → σ → τ) (left : τ → σ) (first second : List α) (state : σ) :
    rehearse act left (first ++ second) state =
      rehearse act left first state ++
        rehearse act left second (stateAfter left (rehearse act left first state) state) := by
  induction first generalizing state with
  | nil => rfl
  | cons actor rest inductionHypothesis =>
    exact congrArg (act actor state :: ·) (inductionHypothesis (left (act actor state)))

end NodeKeys
