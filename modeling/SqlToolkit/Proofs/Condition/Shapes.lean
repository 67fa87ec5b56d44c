import SqlToolkit.Proofs.Condition
import SqlToolkit.Proofs.Condition.Allocation
import SqlToolkit.Proofs.Condition.Conjunction

/-!
# The shapes of a condition

A map, a list of pairs and a tuple of pairs are three ways to write down the same entries, and an
entry with an empty value is as good as none. What is skipped is skipped before its key is looked at
and before a name is given out, so a key that would be refused is not, and no letter is used up.
-/

namespace SqlToolkit

/-- The values with nothing in them. Zero and `false` are not among them. -/
inductive Value.Empty : Value → Prop
  | null : Empty .null
  | text : Empty (.text "")
  | bytes : Empty (.bytes [])
  | list : Empty (.list [])
  | tuple : Empty (.tuple [])
  | set : Empty (.set [])
  | map : Empty (.map [])

theorem Value.isEmpty_iff (value : Value) : value.isEmpty = true ↔ value.Empty := by
  constructor
  · intro h
    unfold isEmpty at h
    split at h
    · exact .null
    · rw [String.isEmpty_iff.mp h]
      exact .text
    · rw [List.isEmpty_iff.mp h]
      exact .bytes
    · rw [List.isEmpty_iff.mp h]
      exact .list
    · rw [List.isEmpty_iff.mp h]
      exact .tuple
    · rw [List.isEmpty_iff.mp h]
      exact .set
    · rw [List.isEmpty_iff.mp h]
      exact .map
    · cases h
  · rintro (_ | _)
    all_goals rfl

instance Value.decidableEmpty : DecidablePred Value.Empty :=
  fun value => decidable_of_iff _ value.isEmpty_iff

namespace Condition

def withoutEmpty (entries : List Entry) : List Entry :=
  entries.filter fun entry => ¬entry.2.Empty

/-- These are the entries that count. -/
theorem withoutEmpty_eq_filled (entries : List Entry) : withoutEmpty entries = filled entries :=
  List.filter_congr fun entry _ => by simp [← Value.isEmpty_iff]

namespace Clause

/-- Neither the texts nor the names depend on the entries that are skipped. -/
theorem addEntries_filled (clause : Clause) (reserved : List String) (entries : List Entry) :
    clause.addEntries reserved (filled entries) = clause.addEntries reserved entries := by
  induction entries generalizing clause with
  | nil => rfl
  | cons entry rest ih =>
    by_cases hempty : entry.2.isEmpty = true
    · rw [filled_cons_of_isEmpty rest hempty, ih, addEntries, if_pos hempty]
    · rw [filled_cons_of_not_isEmpty rest hempty, addEntries, addEntries, if_neg hempty,
        if_neg hempty]
      cases clause.addEntry reserved entry with
      | error cause => rfl
      | ok added => simp only [ih]

theorem compileEntries_filled (clause : Clause) (reserved : List String) (entries : List Entry) :
    clause.compileEntries reserved (filled entries) = clause.compileEntries reserved entries := by
  rw [compileEntries, addEntries_filled, compileEntries]

/-- A key that is neither a text nor a whole number, and that cannot be written either. -/
structure Unwritable (key : Value) : Prop where
  notText : ∀ name, key ≠ .text name
  notNumber : ∀ number, key ≠ .int number
  refused : key.isWritable = false

/-- A condition is refused for a cause that is stated, unless a key cannot even be shown. -/
def Refuses (entries : List Entry) (fault : Fault) : Prop :=
  (∃ cause, fault = .condition cause) ∨
    fault = .badValue ∧ ∃ entry ∈ entries, Unwritable entry.1

theorem refuses_of_addEntry {entry : Entry} {fault : Fault} {clause : Clause}
    {reserved : List String} (h : clause.addEntry reserved entry = .error fault) :
    Refuses [entry] fault := by
  unfold addEntry at h
  split at h
  · unfold addKeyed at h
    dsimp only at h
    split at h
    · cases h
      exact .inl ⟨_, rfl⟩
    · split at h
      · cases h
        exact .inl ⟨_, rfl⟩
      · cases h
  · split at h
    · cases h
    · cases h
      exact .inl ⟨_, rfl⟩
  · next htext hnumber =>
    unfold Value.refuse at h
    split at h
    · cases h
      exact .inl ⟨_, rfl⟩
    · next hwritable =>
      cases h
      have hkey : Unwritable entry.1 := ⟨htext, hnumber, Bool.eq_false_iff.mpr hwritable⟩
      exact .inr ⟨rfl, entry, List.mem_singleton_self _, hkey⟩

theorem Refuses.mono {entries more : List Entry} {fault : Fault} (h : Refuses entries fault)
    (hsubset : entries ⊆ more) : Refuses more fault :=
  h.imp_right fun ⟨hfault, entry, hentry, hwritable⟩ => ⟨hfault, entry, hsubset hentry, hwritable⟩

theorem refuses_of_addEntries {entries : List Entry} {fault : Fault} {clause : Clause}
    {reserved : List String} (h : (clause.addEntries reserved entries).1 = .error fault) :
    Refuses (filled entries) fault := by
  induction entries generalizing clause with
  | nil => cases h
  | cons entry rest ih =>
    by_cases hempty : entry.2.isEmpty = true
    · rw [addEntries, if_pos hempty] at h
      rw [filled_cons_of_isEmpty rest hempty]
      exact ih h
    · rw [addEntries, if_neg hempty] at h
      rw [filled_cons_of_not_isEmpty rest hempty]
      cases hentry : clause.addEntry reserved entry with
      | error cause =>
        rw [hentry] at h
        cases h
        exact (refuses_of_addEntry hentry).mono
          (List.cons_subset.mpr ⟨List.mem_cons_self, List.nil_subset _⟩)
      | ok added =>
        rw [hentry] at h
        cases hrest : (added.2.addEntries reserved rest).1 with
        | error cause =>
          have hcause : cause = fault := by
            simpa [hrest, Except.map] using h
          exact (ih (hcause ▸ hrest)).mono (List.subset_cons_self _ _)
        | ok texts => simp [hrest, Except.map] at h

theorem compileEntries_refuses (clause : Clause) (reserved : List String)
    (entries : List Entry) :
    (clause.compileEntries reserved entries).1 = .ok () ∨
      ∃ fault, (clause.compileEntries reserved entries).1 = .error fault ∧
        Refuses (filled entries) fault := by
  unfold compileEntries
  split
  · exact .inl rfl
  · next fault added h =>
    have hrefused : (clause.addEntries reserved entries).1 = .error fault := congrArg Prod.fst h
    exact .inr ⟨fault, rfl, refuses_of_addEntries hrefused⟩

end Clause

end Condition

end SqlToolkit
