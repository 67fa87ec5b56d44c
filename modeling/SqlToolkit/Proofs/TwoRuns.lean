import SqlToolkit.Proofs.Action

/-!
# Two runs side by side

Two actions *agree* under a relation between states if from related states they end alike: both
return the same, or both fail with the same fault, and what they leave is related again. A sequence
agrees with another one step by step. An action *respects* the relation if it agrees with itself:
what the states do not have in common cannot be told from how it runs.
-/

namespace SqlToolkit.Action

variable {S T α β : Type}

/-- The runs end with the same result or the same fault, and leave related states. -/
structure EndAlike (R : S → S → Prop) (action action' : Action S α) (s s' : S) : Prop where
  outcome : action.outcome s = action'.outcome s'
  after : R (action.after s) (action'.after s')

/-- From related states the two actions end alike. -/
def Agree (R : S → S → Prop) (action action' : Action S α) : Prop :=
  ∀ s s', R s s' → EndAlike R action action' s s'

abbrev Respects (R : S → S → Prop) (action : Action S α) : Prop := Agree R action action

variable {R : S → S → Prop} {action action' : Action S α}

/-! ## Single steps -/

theorem Respects.pure (result : α) : Respects R (Pure.pure result : Action S α) :=
  fun _ _ hs => ⟨rfl, hs⟩

theorem Respects.throw (fault : Fault) : Respects R (throw fault : Action S α) :=
  fun _ _ hs => ⟨rfl, hs⟩

theorem Respects.ofAttempt (result : Attempt α) :
    Respects R (Action.ofAttempt result : Action S α) :=
  fun s s' hs => ⟨by rw [outcome_ofAttempt, outcome_ofAttempt],
    by rw [ofAttempt_after, ofAttempt_after]; exact hs⟩

theorem Agree.modify {change change' : S → S} (h : ∀ s s', R s s' → R (change s) (change' s')) :
    Agree R (modify change : Action S PUnit) (modify change') :=
  fun s s' hs => ⟨rfl, h s s' hs⟩

theorem Agree.attempt (h : Agree R action action') :
    Agree R (Action.attempt action) (Action.attempt action') :=
  fun s s' hs => ⟨by rw [outcome_attempt, outcome_attempt, (h s s' hs).outcome],
    by rw [attempt_after, attempt_after]; exact (h s s' hs).after⟩

theorem Agree.map (f : α → β) (h : Agree R action action') :
    Agree R (f <$> action) (f <$> action') :=
  fun s s' hs => ⟨by rw [outcome_map, outcome_map, (h s s' hs).outcome],
    by rw [after_map, after_map]; exact (h s s' hs).after⟩

/-- Actions that agree on a part of the state agree on the whole. -/
theorem Agree.on {part : Part S T} {U : T → T → Prop} {first second : Action T α}
    (hget : ∀ s s', R s s' → U (part.get s) (part.get s'))
    (hset : ∀ s s' t t', R s s' → U t t' → R (part.set t s) (part.set t' s'))
    (h : Agree U first second) : Agree R (Action.on part first) (Action.on part second) := by
  intro s s' hs
  have hpart := h _ _ (hget s s' hs)
  constructor
  · rw [outcome_on, outcome_on, hpart.outcome]
  · rw [after_on, after_on]
    exact hset s s' _ _ hs hpart.after

/-! ## Sequences -/

/-- One pair of runs at a time: what follows may depend on how the first steps ended. -/
theorem EndAlike.bind {next next' : α → Action S β} {s s' : S} (h : EndAlike R action action' s s')
    (hn : ∀ result, action.outcome s = .ok result → action'.outcome s' = .ok result →
      EndAlike R (next result) (next' result) (action.after s) (action'.after s')) :
    EndAlike R (action >>= next) (action' >>= next') s s' := by
  cases hr : action.outcome s with
  | error fault =>
    have hr' := h.outcome.symm.trans hr
    constructor
    · rw [outcome_bind_error hr, outcome_bind_error hr']
    · rw [after_bind_error hr, after_bind_error hr']
      exact h.after
  | ok result =>
    have hr' := h.outcome.symm.trans hr
    have hrest := hn result hr hr'
    constructor
    · rw [outcome_bind_ok hr, outcome_bind_ok hr', hrest.outcome]
    · rw [after_bind_ok hr, after_bind_ok hr']
      exact hrest.after

theorem Agree.bind {next next' : α → Action S β} (h : Agree R action action')
    (hn : ∀ result, Agree R (next result) (next' result)) :
    Agree R (action >>= next) (action' >>= next') :=
  fun s s' hs => (h s s' hs).bind fun result _ _ => hn result _ _ (h s s' hs).after

/-- What reads the state reads related states in both runs. -/
theorem Agree.get_bind {next next' : S → Action S β}
    (hn : ∀ s s', R s s' → Agree R (next s) (next' s')) :
    Agree R (get >>= next) (get >>= next') :=
  fun s s' hs => by
    have h := hn s s' hs s s' hs
    exact ⟨h.outcome, h.after⟩

end SqlToolkit.Action
