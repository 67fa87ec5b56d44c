import Mathlib.Order.Defs.Unbundled
import SqlToolkit.Action

/-!
# How actions run

`after` and `outcome` say all there is to say about a run, and each way of building an action has
one equation for either. On top of them, `Keeps` is what a run preserves: a relation between some
view of the state before the run and the same view after it, whether the run returned or failed.
Relations that are preorders are kept by a sequence as soon as each of its steps keeps them.
-/

namespace SqlToolkit.Action

variable {S T U α β : Type}

/-! ## Single steps -/

@[simp] theorem after_pure (result : α) (s : S) : (pure result : Action S α).after s = s := rfl

@[simp] theorem outcome_pure (result : α) (s : S) :
    (pure result : Action S α).outcome s = .ok result := rfl

@[simp] theorem after_throw (fault : Fault) (s : S) :
    (throw fault : Action S α).after s = s := rfl

@[simp] theorem outcome_throw (fault : Fault) (s : S) :
    (throw fault : Action S α).outcome s = .error fault := rfl

@[simp] theorem after_get (s : S) : (get : Action S S).after s = s := rfl

@[simp] theorem outcome_get (s : S) : (get : Action S S).outcome s = .ok s := rfl

@[simp] theorem after_modify (change : S → S) (s : S) :
    (modify change : Action S PUnit).after s = change s := rfl

@[simp] theorem outcome_modify (change : S → S) (s : S) :
    (modify change : Action S PUnit).outcome s = .ok ⟨⟩ := rfl

@[simp] theorem outcome_ofAttempt (result : Attempt α) (s : S) :
    (ofAttempt result).outcome s = result := by
  cases result <;> rfl

@[simp] theorem outcome_attempt (action : Action S α) (s : S) :
    (attempt action).outcome s = .ok (action.outcome s) := by
  unfold attempt outcome
  cases h : action s <;> simp only [h]

@[simp] theorem after_on (part : Part S T) (action : Action T α) (s : S) :
    (on part action).after s = part.set (action.after (part.get s)) s := by
  unfold on after
  cases h : action (part.get s) <;> simp only [h]

@[simp] theorem outcome_on (part : Part S T) (action : Action T α) (s : S) :
    (on part action).outcome s = action.outcome (part.get s) := by
  unfold on outcome
  cases h : action (part.get s) <;> simp only [h]

/-- An action on the whole state as a part is the action itself. -/
theorem on_whole (action : Action S α) : on Part.whole action = action := by
  funext s
  unfold on Part.whole
  cases h : action s <;> simp only [id, h]

@[simp] theorem after_map (f : α → β) (action : Action S α) (s : S) :
    (f <$> action).after s = action.after s := by
  simp only [Functor.map, EStateM.map, after]
  cases action s <;> rfl

@[simp] theorem outcome_map (f : α → β) (action : Action S α) (s : S) :
    (f <$> action).outcome s = (action.outcome s).map f := by
  simp only [Functor.map, EStateM.map, outcome]
  cases action s <;> rfl

/-- Two actions that do the same from a state leave the same state. -/
theorem after_congr {action action' : Action S α} {s s' : S} (h : action s = action' s') :
    action.after s = action'.after s' := by
  unfold after
  rw [h]

theorem outcome_congr {action action' : Action S α} {s s' : S} (h : action s = action' s') :
    action.outcome s = action'.outcome s' := by
  unfold outcome
  rw [h]

/-! ## Sequences -/

theorem get_bind (next : S → Action S α) (s : S) : (get >>= next) s = next s s := rfl

theorem outcome_get_bind (next : S → Action S α) (s : S) :
    (get >>= next).outcome s = (next s).outcome s := rfl

theorem after_get_bind (next : S → Action S α) (s : S) :
    (get >>= next).after s = (next s).after s := rfl

theorem ofAttempt_ok_bind (result : α) (next : α → Action S β) :
    ofAttempt (.ok result) >>= next = next result := rfl

theorem after_bind (action : Action S α) (next : α → Action S β) (s : S) :
    (action >>= next).after s = match action.outcome s with
      | .ok result => (next result).after (action.after s)
      | .error _ => action.after s := by
  simp only [bind, EStateM.bind, after, outcome]
  cases action s <;> rfl

theorem outcome_bind (action : Action S α) (next : α → Action S β) (s : S) :
    (action >>= next).outcome s = match action.outcome s with
      | .ok result => (next result).outcome (action.after s)
      | .error fault => .error fault := by
  simp only [bind, EStateM.bind, after, outcome]
  cases action s <;> rfl

theorem after_bind_ok {action : Action S α} {next : α → Action S β} {s : S} {result : α}
    (h : action.outcome s = .ok result) :
    (action >>= next).after s = (next result).after (action.after s) := by
  rw [after_bind, h]

theorem after_bind_error {action : Action S α} {next : α → Action S β} {s : S} {fault : Fault}
    (h : action.outcome s = .error fault) : (action >>= next).after s = action.after s := by
  rw [after_bind, h]

theorem outcome_bind_ok {action : Action S α} {next : α → Action S β} {s : S} {result : α}
    (h : action.outcome s = .ok result) :
    (action >>= next).outcome s = (next result).outcome (action.after s) := by
  rw [outcome_bind, h]

theorem outcome_bind_error {action : Action S α} {next : α → Action S β} {s : S} {fault : Fault}
    (h : action.outcome s = .error fault) : (action >>= next).outcome s = .error fault := by
  rw [outcome_bind, h]

theorem bind_of_ok {action : Action S α} {next : α → Action S β} {s : S} {result : α}
    (h : action.outcome s = .ok result) :
    (action >>= next) s = next result (action.after s) := by
  simp only [bind, EStateM.bind]
  unfold outcome at h
  unfold after
  cases hr : action s with
  | ok given t => rw [hr] at h; cases h; rfl
  | error fault t => rw [hr] at h; cases h

/-- What follows a step counts only for the result and the state that the step gives. -/
theorem bind_congr_at {action : Action S α} {next next' : α → Action S β} {s : S}
    (h : ∀ result, action.outcome s = .ok result →
      next result (action.after s) = next' result (action.after s)) :
    (action >>= next) s = (action >>= next') s := by
  simp only [bind, EStateM.bind]
  unfold outcome after at h
  cases hr : action s with
  | ok result t =>
    rw [hr] at h
    exact h result rfl
  | error fault t => rfl

/-- A sequence on a part of the state is a sequence of actions on that part. -/
theorem on_bind (part : Part S T) (hget : ∀ t s, part.get (part.set t s) = t)
    (hset : ∀ t t' s, part.set t (part.set t' s) = part.set t s) (action : Action T α)
    (next : α → Action T β) :
    on part (action >>= next) = on part action >>= fun result => on part (next result) := by
  funext s
  simp only [on, bind, EStateM.bind]
  cases action (part.get s) with
  | ok result t =>
    dsimp only
    rw [hget]
    cases next result t with
    | ok result t => dsimp only; rw [hset]
    | error fault t => dsimp only; rw [hset]
  | error fault t => rfl

/-- Of attempts one after the other that succeeded, the first one did. -/
theorem of_attempts_ok {attempted : Attempt α} {next : α → Attempt β} {last : β}
    (h : attempted >>= next = .ok last) :
    ∃ result, attempted = .ok result ∧ next result = .ok last := by
  cases attempted with
  | ok result => exact ⟨result, rfl, h⟩
  | error fault => cases h

/-- A sequence that returned went through its first step. -/
theorem of_outcome_bind_ok {action : Action S α} {next : α → Action S β} {s : S} {last : β}
    (h : (action >>= next).outcome s = .ok last) :
    ∃ result, action.outcome s = .ok result ∧
      (next result).outcome (action.after s) = .ok last := by
  rw [outcome_bind] at h
  cases hr : action.outcome s with
  | ok result => rw [hr] at h; exact ⟨result, rfl, h⟩
  | error fault => rw [hr] at h; cases h

/-- A sequence that returned got past an attempt that it began with. -/
theorem of_ofAttempt_bind {attempted : Attempt α} {next : α → Action S β} {s : S} {last : β}
    (h : (ofAttempt attempted >>= next).outcome s = .ok last) :
    ∃ result, attempted = .ok result := by
  obtain ⟨result, hresult, -⟩ := of_outcome_bind_ok h
  exact ⟨result, (outcome_ofAttempt attempted s).symm.trans hresult⟩

/-- A sequence that failed did so in its first step or after it. -/
theorem of_outcome_bind_error {action : Action S α} {next : α → Action S β} {s : S} {fault : Fault}
    (h : (action >>= next).outcome s = .error fault) :
    action.outcome s = .error fault ∨
      ∃ result, action.outcome s = .ok result ∧
        (next result).outcome (action.after s) = .error fault := by
  rw [outcome_bind] at h
  cases hr : action.outcome s with
  | ok result => rw [hr] at h; exact .inr ⟨result, rfl, h⟩
  | error cause => rw [hr] at h; cases h; exact .inl rfl

/-! ## What a run keeps -/

/-- From any state, what is seen of the state before the run is related to what is seen of it
after the run. -/
def Keeps (R : T → T → Prop) (view : S → T) (action : Action S α) : Prop :=
  ∀ s, R (view s) (view (action.after s))

section

variable {R : T → T → Prop} [IsPreorder T R] {view : S → T}

/-- One state at a time: the rest of a sequence may depend on how its first step ended. -/
theorem related_bind {action : Action S α} {next : α → Action S β} {s : S}
    (h : R (view s) (view (action.after s)))
    (hn : ∀ result, action.outcome s = .ok result →
      R (view (action.after s)) (view ((next result).after (action.after s)))) :
    R (view s) (view ((action >>= next).after s)) := by
  cases hr : action.outcome s with
  | error fault => rw [after_bind_error hr]; exact h
  | ok result =>
    rw [after_bind_ok hr]
    exact IsTrans.trans _ _ _ h (hn result hr)

theorem Keeps.bind {action : Action S α} {next : α → Action S β} (h : Keeps R view action)
    (hn : ∀ result, Keeps R view (next result)) : Keeps R view (action >>= next) :=
  fun s => related_bind (h s) fun result _ => hn result (action.after s)

/-- Of a sequence whose rest leaves what is seen, one sees its first step. -/
theorem view_after_bind {action : Action S α} {next : α → Action S β} (view : S → T)
    (hn : ∀ result, Keeps Eq view (next result)) (s : S) :
    view ((action >>= next).after s) = view (action.after s) := by
  rw [after_bind]
  split
  · exact (hn _ _).symm
  · rfl

/-- Leaving the result of an action aside changes nothing of what it does. -/
theorem after_discard (action : Action S α) (s : S) :
    (do let _ ← action : Action S Unit).after s = action.after s :=
  view_after_bind id (fun _ _ => rfl) s

theorem Keeps.pure (result : α) : Keeps R view (Pure.pure result : Action S α) :=
  fun s => refl (view s)

theorem Keeps.throw (fault : Fault) : Keeps R view (throw fault : Action S α) :=
  fun s => refl (view s)

theorem Keeps.get : Keeps R view (get : Action S S) := fun s => refl (view s)

theorem Keeps.ofAttempt (result : Attempt α) : Keeps R view (ofAttempt result : Action S α) :=
  fun s => by rw [ofAttempt_after]; exact refl (view s)

/-- What goes on from an attempt has to deal only with what the attempt can give. -/
theorem Keeps.ofAttempt_bind {attempted : Attempt α} {next : α → Action S β}
    (hn : ∀ result, attempted = .ok result → Keeps R view (next result)) :
    Keeps R view (Action.ofAttempt attempted >>= next) :=
  fun s => related_bind (by rw [ofAttempt_after]; exact refl (view s)) fun result hr => by
    rw [outcome_ofAttempt] at hr
    exact hn result hr ((Action.ofAttempt attempted).after s)

/-- A change of what is not seen. -/
theorem Keeps.modify {change : S → S} (h : ∀ s, view (change s) = view s) :
    Keeps R view (modify change : Action S PUnit) :=
  fun s => by rw [after_modify, h s]; exact refl (view s)

end

variable {R : T → T → Prop} {view : S → T}

theorem Keeps.of_eq [Std.Refl R] {action : Action S α} (h : Keeps Eq view action) :
    Keeps R view action :=
  fun s => by rw [← h s]; exact refl (view s)

theorem Keeps.attempt {action : Action S α} (h : Keeps R view action) :
    Keeps R view (attempt action) :=
  fun s => by rw [attempt_after]; exact h s

/-- A run on a part of the state keeps what is seen of that part. -/
theorem Keeps.on (part : Part U S) (law : ∀ s u, part.get (part.set s u) = s)
    {action : Action S α} (h : Keeps R view action) :
    Keeps R (fun u => view (part.get u)) (on part action) :=
  fun u => by
    show R (view (part.get u)) (view (part.get ((Action.on part action).after u)))
    rw [after_on, law]
    exact h (part.get u)

end SqlToolkit.Action
