import SqlToolkit.Condition
import SqlToolkit.Proofs.Entries

/-!
# Fresh placeholder names

The names of a clause differ from one another, from those that it remembers and from those that are
reserved, also when a condition is refused half-way. What a clause remembers are the names of the
last clause before it that had any: a condition without names, a text or a refused condition in
between does not make it forget them.
-/

namespace SqlToolkit.Condition

namespace Clause

def names (clause : Clause) : List String := Entries.keys clause.placeholders

/-- No name is used twice, remembered or reserved. -/
structure Fresh (clause : Clause) (reserved : List String) : Prop where
  distinct : clause.names.Nodup
  notRemembered : ∀ name ∈ clause.names, name ∉ clause.remembered
  notReserved : ∀ name ∈ clause.names, name ∉ reserved

variable {clause grown : Clause} {reserved : List String}

theorem fresh_of_no_names (h : clause.placeholders = []) : clause.Fresh reserved := by
  have hnames : clause.names = [] := by rw [names, h]; rfl
  constructor
  · rw [hnames]
    exact List.nodup_nil
  · simp [hnames]
  · simp [hnames]

/-! ## Adding entries -/

theorem not_mem_of_freeName? {base name : String}
    (h : clause.freeName? reserved base = some name) :
    name ∉ clause.names ∧ name ∉ clause.remembered ∧ name ∉ reserved := by
  have hfree := not_takes_freeName h
  simp only [takes, Bool.or_eq_false_iff, List.contains_eq_mem, decide_eq_false_iff_not] at hfree
  exact ⟨hfree.1.1, hfree.1.2, hfree.2⟩

/-- A name that is free can be added. -/
theorem Fresh.add {base name : String} (hclause : clause.Fresh reserved)
    (h : clause.freeName? reserved base = some name) (value : Value) :
    Fresh { clause with placeholders := clause.placeholders ++ [(name, value)] } reserved := by
  obtain ⟨hown, hremembered, hreserved⟩ := not_mem_of_freeName? h
  have hnames : names { clause with placeholders := clause.placeholders ++ [(name, value)] } =
      clause.names ++ [name] := by
    simp [names, Entries.keys]
  constructor
  · rw [hnames]
    refine List.nodup_append.mpr ⟨hclause.distinct, by simp, fun a ha b hb => ?_⟩
    rw [List.mem_singleton.mp hb]
    exact fun heq => hown (heq ▸ ha)
  · intro other hother
    rcases List.mem_append.mp (hnames ▸ hother) with hm | hm
    · exact hclause.notRemembered other hm
    · rw [List.mem_singleton.mp hm]
      exact hremembered
  · intro other hother
    rcases List.mem_append.mp (hnames ▸ hother) with hm | hm
    · exact hclause.notReserved other hm
    · rw [List.mem_singleton.mp hm]
      exact hreserved

theorem Fresh.addKeyed {key text : String} {value : Value} (hclause : clause.Fresh reserved)
    (h : clause.addKeyed reserved key value = .ok (text, grown)) :
    grown.Fresh reserved ∧ grown.remembered = clause.remembered := by
  unfold Clause.addKeyed at h
  dsimp only at h
  split at h
  · cases h
  · split at h
    · cases h
    · next hname =>
      cases h
      exact ⟨hclause.add hname value.formatted, rfl⟩

theorem Fresh.addEntry {entry : Entry} {text : String} (hclause : clause.Fresh reserved)
    (h : clause.addEntry reserved entry = .ok (text, grown)) :
    grown.Fresh reserved ∧ grown.remembered = clause.remembered := by
  unfold Clause.addEntry at h
  split at h
  · exact hclause.addKeyed h
  · split at h
    · cases h
      exact ⟨hclause, rfl⟩
    · cases h
  · exact absurd h Value.refuse_ne_ok

/-- Whether all entries were accepted or not, what they added is fresh. -/
theorem Fresh.addEntries (entries : List Entry) (hclause : clause.Fresh reserved) :
    (clause.addEntries reserved entries).2.Fresh reserved ∧
      (clause.addEntries reserved entries).2.remembered = clause.remembered := by
  induction entries generalizing clause with
  | nil => exact ⟨hclause, rfl⟩
  | cons entry rest ih =>
    unfold Clause.addEntries
    split
    · exact ih hclause
    · cases h : clause.addEntry reserved entry with
      | error cause => exact ⟨hclause, rfl⟩
      | ok added =>
        obtain ⟨text, grown⟩ := added
        obtain ⟨hgrown, hkept⟩ := hclause.addEntry h
        obtain ⟨hfinal, hsame⟩ := ih hgrown
        exact ⟨hfinal, hsame.trans hkept⟩

/-! ## Setting a condition -/

theorem Fresh.of_same {other : Clause} (h : clause.Fresh reserved)
    (hp : other.placeholders = clause.placeholders) (hr : other.remembered = clause.remembered) :
    other.Fresh reserved := by
  have hn : other.names = clause.names := by rw [names, names, hp]
  exact ⟨hn ▸ h.distinct, by rw [hn, hr]; exact h.notRemembered, hn ▸ h.notReserved⟩

theorem Fresh.compileEntries (entries : List Entry) (hclause : clause.Fresh reserved) :
    (clause.compileEntries reserved entries).2.Fresh reserved ∧
      (clause.compileEntries reserved entries).2.remembered = clause.remembered := by
  have hadded := hclause.addEntries entries
  unfold Clause.compileEntries
  split
  · next heq =>
    rw [heq] at hadded
    exact ⟨hadded.1.of_same rfl rfl, hadded.2⟩
  · next heq =>
    rw [heq] at hadded
    exact hadded

/-- A condition that was set, accepted or not, has fresh names. -/
theorem fresh_set (clause : Clause) (condition : Value) (reserved : List String) :
    (clause.set condition reserved).2.Fresh reserved ∧
      (clause.set condition reserved).2.remembered = clause.retire.remembered := by
  have hretired : clause.retire.Fresh reserved := fresh_of_no_names rfl
  unfold set
  dsimp only
  split
  · exact ⟨hretired, rfl⟩
  · split
    · exact ⟨hretired, rfl⟩
    · exact ⟨hretired.of_same rfl rfl, rfl⟩
  · exact hretired.compileEntries _
  · split
    · exact hretired.compileEntries _
    · exact ⟨hretired, rfl⟩
  · split
    · exact hretired.compileEntries _
    · exact ⟨hretired, rfl⟩
  · exact ⟨hretired, rfl⟩

/-! ## One clause that is set again and again -/

/-- What may be done to a clause; a condition may be refused. -/
inductive Change where
  | set (condition : Value) (reserved : List String)
  | reset

def Change.apply : Change → Clause → Clause
  | .set condition reserved, clause => (clause.set condition reserved).2
  | .reset, clause => clause.retire

def changed (clause : Clause) (changes : List Change) : Clause :=
  changes.foldl (fun clause change => change.apply clause) clause

/-- The clauses that the changes go through, the first and the last one included. -/
def history (clause : Clause) : List Change → List Clause
  | [] => [clause]
  | change :: rest => clause :: (change.apply clause).history rest

def latestNames (clauses : List Clause) : List String :=
  ((clauses.map names).reverse.find? fun names => !names.isEmpty).getD []

theorem remembered_apply (change : Change) (clause : Clause) :
    (change.apply clause).remembered = clause.retire.remembered := by
  cases change with
  | set condition reserved => exact (fresh_set clause condition reserved).2
  | reset => rfl

theorem latestNames_append (earlier : List Clause)
    (h : clause.remembered = latestNames earlier) :
    clause.retire.remembered = latestNames (earlier ++ [clause]) := by
  have hnames : clause.names.isEmpty = clause.placeholders.isEmpty := by
    cases hp : clause.placeholders <;> simp [names, hp, Entries.keys]
  unfold latestNames
  rw [List.map_append, List.reverse_append, List.map_singleton, List.reverse_singleton,
    List.singleton_append, List.find?_cons, hnames]
  unfold retire
  dsimp only
  cases hempty : clause.placeholders.isEmpty with
  | true => exact h
  | false => rfl

/-- What a clause would remember is what the last clause with names was called, however many
clauses without names came after it. -/
theorem remembered_changed (clause : Clause) (earlier : List Clause) (changes : List Change)
    (h : clause.remembered = latestNames earlier) :
    (clause.changed changes).retire.remembered =
      latestNames (earlier ++ clause.history changes) := by
  induction changes generalizing clause earlier with
  | nil => exact latestNames_append earlier h
  | cons change rest ih =>
    have hnext : (change.apply clause).remembered = latestNames (earlier ++ [clause]) :=
      (remembered_apply change clause).trans (latestNames_append earlier h)
    have hrest := ih (change.apply clause) (earlier ++ [clause]) hnext
    rwa [List.append_assoc] at hrest

/-- The names of a condition are new, compared with the last names before it. -/
theorem not_mem_latestNames_of_set (changes : List Change) (condition : Value)
    (reserved : List String) :
    ∀ name ∈ (((changed {} changes).set condition reserved).2).names,
      name ∉ latestNames (history {} changes) := by
  obtain ⟨hfresh, hremembered⟩ := fresh_set (changed {} changes) condition reserved
  intro name hname
  have hnot := hfresh.notRemembered name hname
  rwa [hremembered, remembered_changed {} [] changes rfl] at hnot

end Clause

end SqlToolkit.Condition
