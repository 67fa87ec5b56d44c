import SqlToolkit.Condition

/-!
# What a refused condition leaves

A clause forgets its SQL before it is set, and gets a new one only when every entry was accepted. So
a refused condition leaves a clause without SQL, whichever entry it was refused for.
-/

namespace SqlToolkit.Condition.Clause

variable {clause grown : Clause} {reserved : List String}

theorem sql_of_addKeyed {key text : String} {value : Value}
    (h : clause.addKeyed reserved key value = .ok (text, grown)) : grown.sql = clause.sql := by
  unfold addKeyed at h
  dsimp only at h
  split at h
  · cases h
  · split at h
    · cases h
    · cases h
      rfl

theorem sql_of_addEntry {entry : Entry} {text : String}
    (h : clause.addEntry reserved entry = .ok (text, grown)) : grown.sql = clause.sql := by
  unfold addEntry at h
  split at h
  · exact sql_of_addKeyed h
  · split at h
    · cases h
      rfl
    · cases h
  · exact absurd h Value.refuse_ne_ok

/-- Entries bring placeholders only; the SQL is set when all of them are in. -/
theorem sql_addEntries (entries : List Entry) (clause : Clause) (reserved : List String) :
    (clause.addEntries reserved entries).2.sql = clause.sql := by
  induction entries generalizing clause with
  | nil => rfl
  | cons entry rest ih =>
    unfold addEntries
    split
    · exact ih clause
    · cases h : clause.addEntry reserved entry with
      | error cause => rfl
      | ok added =>
        obtain ⟨text, grown⟩ := added
        exact (ih grown).trans (sql_of_addEntry h)

theorem sql_compileEntries_of_error {entries : List Entry} {fault : Fault}
    (h : (clause.compileEntries reserved entries).1 = .error fault) :
    (clause.compileEntries reserved entries).2.sql = clause.sql := by
  have hs := sql_addEntries entries clause reserved
  unfold compileEntries at h ⊢
  split at h
  · cases h
  · next heq => rw [heq] at hs; exact hs

/-- A refused condition leaves no SQL. -/
theorem sql_set_of_error {condition : Value} {fault : Fault}
    (h : (clause.set condition reserved).1 = .error fault) :
    (clause.set condition reserved).2.sql = "" := by
  unfold set at h ⊢
  split at h
  · cases h
  · cases h
  · exact sql_compileEntries_of_error h
  · split at h
    · exact sql_compileEntries_of_error h
    · rfl
  · split at h
    · exact sql_compileEntries_of_error h
    · rfl
  · rfl

end SqlToolkit.Condition.Clause
