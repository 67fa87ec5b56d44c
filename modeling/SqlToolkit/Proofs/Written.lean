import SqlToolkit.Fault

/-!
# What has to be written

A text that is put together of values can be written if each of them can, and a value with a number
that is too long is refused in the same way wherever it stands. So of an attempt that only writes it
is enough to know what has to be written and what is given then, and neither depends on the order.
-/

namespace SqlToolkit

/-- What an attempt gives, where it can be decided: faults cannot be compared, results can. -/
theorem Attempt.eq_ok_of_toOption {α : Type} {attempt : Attempt α} {result : α}
    (h : attempt.toOption = some result) : attempt = .ok result := by
  cases attempt with
  | ok given => rw [Option.some.inj h]
  | error fault => cases h

theorem Value.entriesWritable_iff {entries : Value.Entries} :
    entriesWritable entries = true ↔
      ∀ entry ∈ entries, entry.1.isWritable = true ∧ entry.2.isWritable = true := by
  induction entries with
  | nil => exact iff_of_true rfl fun _ h => absurd h List.not_mem_nil
  | cons entry rest ih =>
    rw [List.forall_mem_cons, ← ih, entriesWritable, Bool.and_eq_true, Bool.and_eq_true]

/-- What is not given has no number in it. -/
theorem Value.isWritable_of_isUnset {value : Value} (h : value.isUnset = true) :
    value.isWritable = true := by
  cases value with
  | null | text => rfl
  | _ => cases h

/-- The attempt gives a result if something can be written, and fails for want of that if not. -/
structure Writes {α : Type} (attempt : Attempt α) (writable : Prop) (result : α) : Prop where
  written : writable → attempt = .ok result
  refused : ¬writable → attempt = .error .badValue

namespace Writes

variable {α β : Type} {attempt : Attempt α} {result : α} {writable further : Prop}

theorem ok (result : α) : Writes (.ok result) True result :=
  ⟨fun _ => rfl, fun h => absurd trivial h⟩

theorem value (value : Value) (text : Value → String) :
    Writes (value.write text) (value.isWritable = true) (text value) :=
  ⟨fun h => if_pos h, fun h => if_neg h⟩

theorem number (number : Int) :
    Writes (Numeral.write number) (Numeral.isWritable number = true) (toString number) :=
  ⟨fun h => if_pos h, fun h => if_neg h⟩

theorem congr (h : Writes attempt writable result) (hiff : writable ↔ further) :
    Writes attempt further result :=
  ⟨fun hfurther => h.written (hiff.mpr hfurther), fun hnot => h.refused (hnot ∘ hiff.mp)⟩

/-- What is written step by step can be written if every step can. -/
theorem bind (h : Writes attempt writable result) {next : α → Attempt β} {final : β}
    (hnext : Writes (next result) further final) :
    Writes (attempt >>= next) (writable ∧ further) final := by
  by_cases hwritable : writable
  · rw [h.written hwritable]
    exact hnext.congr (and_iff_right hwritable).symm
  · rw [h.refused hwritable]
    exact ⟨fun hboth => absurd hboth.1 hwritable, fun _ => rfl⟩

theorem map (h : Writes attempt writable result) (change : α → β) :
    Writes (attempt.map change) writable (change result) :=
  ⟨fun hwritable => by rw [h.written hwritable]; rfl,
    fun hnot => by rw [h.refused hnot]; rfl⟩

theorem mapM {step : α → Attempt β} {final : α → β} {writable : α → Prop} {items : List α}
    (h : ∀ item ∈ items, Writes (step item) (writable item) (final item)) :
    Writes (items.mapM step) (∀ item ∈ items, writable item) (items.map final) := by
  induction items with
  | nil => exact (ok []).congr (by simp)
  | cons item rest ih =>
    have hrest := ih fun other hother => h other (List.mem_cons_of_mem item hother)
    have hall : Writes (do return (← step item) :: (← rest.mapM step))
        (writable item ∧ (∀ other ∈ rest, writable other) ∧ True) (final item :: rest.map final) :=
      (h item List.mem_cons_self).bind (hrest.bind (ok _))
    rw [List.mapM_cons]
    exact hall.congr (by simp)

/-- What is given was written. -/
theorem eq_ok_iff (h : Writes attempt writable result) {given : α} :
    attempt = .ok given ↔ writable ∧ given = result := by
  by_cases hwritable : writable
  · rw [h.written hwritable, Except.ok.injEq, eq_comm, and_iff_right hwritable]
  · rw [h.refused hwritable]
    exact ⟨nofun, fun hboth => absurd hboth.1 hwritable⟩

end Writes

end SqlToolkit
