import SqlToolkit.Fault

/-!
# Actions

An action runs on a state and ends with a result or a fault. The state is there in both cases: what
an action changed before it failed stays changed.
-/

namespace SqlToolkit

/-- A step that may change a state of type `S` and may fail. -/
abbrev Action (S α : Type) := EStateM Fault S α

/-- A part of a larger state. -/
structure Part (S T : Type) where
  get : S → T
  set : T → S → S

def Part.whole {S : Type} : Part S S := ⟨id, fun s _ => s⟩

def Part.comp {S T U : Type} (outer : Part S T) (inner : Part T U) : Part S U :=
  ⟨fun s => inner.get (outer.get s), fun u s => outer.set (inner.set u (outer.get s)) s⟩

namespace Action

variable {S T α : Type}

def on (part : Part S T) (action : Action T α) : Action S α := fun s =>
  match action (part.get s) with
  | .ok result t => .ok result (part.set t s)
  | .error fault t => .error fault (part.set t s)

/-- Runs an action and turns its fault, if it has one, into a result. -/
def attempt (action : Action S α) : Action S (Attempt α) := fun s =>
  match action s with
  | .ok result t => .ok (.ok result) t
  | .error fault t => .ok (.error fault) t

def ofAttempt (result : Attempt α) : Action S α := fun s =>
  match result with
  | .ok value => .ok value s
  | .error fault => .error fault s

def after (action : Action S α) (s : S) : S :=
  match action s with
  | .ok _ t => t
  | .error _ t => t

def outcome (action : Action S α) (s : S) : Attempt α :=
  match action s with
  | .ok result _ => .ok result
  | .error fault _ => .error fault

def perform (action : Action S α) (s : S) : Attempt α × S := (action.outcome s, action.after s)

@[simp] theorem attempt_after (action : Action S α) (s : S) :
    (attempt action).after s = action.after s := by
  unfold attempt after
  cases h : action s <;> simp only [h]

@[simp] theorem ofAttempt_after (result : Attempt α) (s : S) :
    (ofAttempt result).after s = s := by
  cases result <;> rfl

end Action

end SqlToolkit
