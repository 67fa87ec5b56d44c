import SqlToolkit.Proofs.Builder.Sound
import SqlToolkit.Proofs.Statement.ColumnNames
import SqlToolkit.Proofs.Text.Scan

/-!
# Texts that a statement is put together from

The fields and the table of a statement begin where they are written: with a character that is no
blank. The condition is written with its keyword in front or not at all. A builder starts with such
a statement, and no operation leaves another one, whether it returns or fails.
-/

namespace SqlToolkit

open SqlToolkit.Action (Keeps)
open SqlToolkit.Text

/-! ## Trimmed texts -/

/-- The text begins with a character that is no blank. -/
def Text.BeginsSolid (text : String) : Prop :=
  ∃ c more, text.toList = c :: more ∧ isBlank c = false

namespace Condition.Clause

/-- The clause is written with its keyword, or not at all. -/
def IsHeaded (clause : Clause) : Prop :=
  clause.sql = "" ∨ ∃ condition, clause.sql = " WHERE " ++ condition

theorem isHeaded_compileEntries (clause : Clause) (reserved : List String) (entries : List Entry)
    (h : clause.sql = "") : (clause.compileEntries reserved entries).2.IsHeaded := by
  cases hfailed : (clause.compileEntries reserved entries).1 with
  | error fault => exact .inl ((sql_compileEntries_of_error hfailed).trans h)
  | ok =>
    unfold compileEntries at hfailed ⊢
    split
    · show joined _ = "" ∨ _
      unfold joined
      split
      · exact .inl rfl
      · exact .inr ⟨_, rfl⟩
    · next heq =>
      rw [heq] at hfailed
      cases hfailed

theorem isHeaded_set (clause : Clause) (condition : Value) (reserved : List String) :
    (clause.set condition reserved).2.IsHeaded := by
  have hretired : clause.retire.sql = "" := rfl
  unfold set
  dsimp only
  split
  · exact .inl hretired
  · split
    · exact .inl hretired
    · exact .inr ⟨_, rfl⟩
  · exact isHeaded_compileEntries _ _ _ hretired
  · split
    · exact isHeaded_compileEntries _ _ _ hretired
    · exact .inl hretired
  · split
    · exact isHeaded_compileEntries _ _ _ hretired
    · exact .inl hretired
  · exact .inl hretired

end Condition.Clause

namespace Descriptor

/-- The texts of a statement are where a builder puts them together: nothing blank stands before the
fields or the table, and a keyword before the condition. -/
structure Trimmed (descriptor : Descriptor) : Prop where
  fields : BeginsSolid descriptor.fields
  table : descriptor.table.truthy = true → BeginsSolid descriptor.table.display
  clause : descriptor.clause.IsHeaded

def texts (descriptor : Descriptor) : String × Value × Condition.Clause :=
  (descriptor.fields, descriptor.table, descriptor.clause)

theorem Trimmed.of_same {descriptor other : Descriptor} (h : descriptor.Trimmed)
    (hsame : descriptor.texts = other.texts) : other.Trimmed := by
  obtain ⟨hf, ht, hc⟩ := by simpa only [texts, Prod.mk.injEq] using hsame
  exact ⟨hf ▸ h.fields, ht ▸ h.table, hc ▸ h.clause⟩

theorem trimmed_empty : Trimmed {} :=
  ⟨⟨'*', [], rfl, by decide⟩, nofun, .inl rfl⟩

def StaysTrimmed (before after : Descriptor) : Prop := before.Trimmed → after.Trimmed

instance : IsPreorder Descriptor StaysTrimmed where
  refl _ := id
  trans _ _ _ h h' := h' ∘ h

end Descriptor

namespace Builder

open Descriptor (Trimmed StaysTrimmed)

/-- What is left of a text without the blanks around it begins with no blank. -/
theorem beginsSolid_trim {text : String} (h : (trim text).isEmpty = false) :
    BeginsSolid (trim text) := by
  have hstart := (stopsAt_trimChars text.toList).1
  rw [trim, String.isEmpty_eq_false_iff, Ne, ← String.toList_inj, String.toList_ofList] at h
  obtain ⟨c, more, hchars⟩ := List.exists_cons_of_ne_nil h
  rw [hchars] at hstart
  exact ⟨c, more, by rw [trim, String.toList_ofList, hchars], stopsAt_cons.mp hstart⟩

/-- A list of texts without blanks around them begins with no blank either, be it with a comma. -/
theorem beginsSolid_listed {texts : List String}
    (h : (Descriptor.listed (texts.map trim)).isEmpty = false) :
    BeginsSolid (Descriptor.listed (texts.map trim)) := by
  unfold Descriptor.listed at h ⊢
  cases texts with
  | nil => cases h
  | cons text texts =>
    cases texts with
    | nil =>
      rw [List.map_cons, List.map_nil, String.intercalate_singleton] at h ⊢
      exact beginsSolid_trim h
    | cons next texts =>
      rw [List.map_cons, List.map_cons, String.intercalate_cons_cons]
      cases htext : (trim text).isEmpty with
      | true =>
        rw [String.isEmpty_iff.mp htext]
        exact ⟨',', _, by simp [String.toList_append]; rfl, by decide⟩
      | false =>
        obtain ⟨c, more, hchars, hc⟩ := beginsSolid_trim htext
        exact ⟨c, _, by simp [String.toList_append, hchars]; rfl, hc⟩

theorem beginsSolid_fieldList {given : Value} {fields : String} (h : fieldList given = .ok fields) :
    BeginsSolid fields := by
  have hlisted : ∀ items : List Value,
      BeginsSolid (if (Descriptor.listed (items.map fun item => trim item.display)).isEmpty then "*"
        else Descriptor.listed (items.map fun item => trim item.display)) := by
    intro items
    split
    · exact ⟨'*', [], rfl, by decide⟩
    · next hne =>
      have htexts : (items.map fun item => trim item.display) =
          (items.map Value.display).map trim := by
        rw [List.map_map]
        rfl
      rw [htexts] at hne ⊢
      exact beginsSolid_listed (Bool.eq_false_iff.mpr hne)
  have hread : ∀ items : List Value, (do
      let written := Descriptor.listed
        (← items.mapM fun item => item.write fun item => trim item.display)
      return if written.isEmpty then "*" else written : Attempt String) = .ok fields →
      BeginsSolid fields := by
    intro items h
    obtain ⟨written, hwritten, h⟩ := Action.of_attempts_ok h
    cases h
    obtain ⟨-, rfl⟩ := map_of_mapM (fun _ _ hitem => (Value.write_eq_ok.mp hitem).2) hwritten
    exact hlisted items
  unfold fieldList at h
  cases given with
  | text content => exact hread [.text content] h
  | _ =>
    obtain ⟨items, -, h⟩ := Action.of_attempts_ok h
    exact hread items h

theorem beginsSolid_tableExpression {given table : Value} (h : tableExpression given = .ok table)
    (htruthy : table.truthy = true) : BeginsSolid table.display := by
  cases given with
  | text content =>
    cases h
    exact beginsSolid_trim (by simpa [Value.truthy] using htruthy)
  | bytes content =>
    cases h
    exact ⟨'b', _, String.toList_ofList, by decide⟩
  | _ => cases h

variable {σ : Type}

theorem edit_staysTrimmed {change : Descriptor → Descriptor}
    (h : ∀ descriptor, Trimmed descriptor → Trimmed (change descriptor)) :
    Keeps StaysTrimmed Builder.descriptor (edit change : Action (Builder σ) Unit) :=
  fun builder ht => h builder.descriptor ht

theorem staysTrimmed_of_same {α : Type} {action : Action (Builder σ) α}
    (h : Keeps Eq (fun builder : Builder σ => builder.descriptor.texts) action) :
    Keeps StaysTrimmed Builder.descriptor action :=
  fun builder ht => ht.of_same (h builder)

theorem clear_staysTrimmed :
    Keeps StaysTrimmed Builder.descriptor (clear : Action (Builder σ) Unit) :=
  fun _ _ => Descriptor.trimmed_empty

theorem fromTable_staysTrimmed (table : Value) :
    Keeps StaysTrimmed Builder.descriptor (fromTable table : Action (Builder σ) Unit) :=
  Keeps.ofAttempt_bind fun _ he => edit_staysTrimmed fun _ ht =>
    ⟨ht.fields, beginsSolid_tableExpression he, ht.clause⟩

theorem filter_staysTrimmed (condition : Value) :
    Keeps StaysTrimmed Builder.descriptor (filter condition : Action (Builder σ) Unit) := by
  intro builder ht
  cases hv : builder.descriptor.valuePlaceholders with
  | error fault =>
    rw [Action.after, filter_of_unnamed condition hv]
    exact ht
  | ok columns =>
    rw [(filter_of_named condition hv).2]
    exact ⟨ht.fields, ht.table, Condition.Clause.isHeaded_set _ _ _⟩

theorem select_staysTrimmed (fields : Value) :
    Keeps StaysTrimmed Builder.descriptor (select fields : Action (Builder σ) Unit) :=
  clear_staysTrimmed.bind fun _ =>
    Keeps.bind (staysTrimmed_of_same (edit_view fun _ => rfl)) fun _ =>
      Keeps.ofAttempt_bind fun _ he => edit_staysTrimmed fun _ ht =>
        ⟨beginsSolid_fieldList he, ht.table, ht.clause⟩

theorem startWrite_staysTrimmed (kind : QueryKind) (nothing : String → Fault)
    (table values : Value) :
    Keeps StaysTrimmed Builder.descriptor
      (startWrite kind nothing table values : Action (Builder σ) Unit) := by
  refine clear_staysTrimmed.bind fun _ => ?_
  have fills : Keeps StaysTrimmed Builder.descriptor
      (fillWrite kind table values : Action (Builder σ) Unit) :=
    Keeps.bind (staysTrimmed_of_same (edit_view fun _ => rfl)) fun _ =>
      (fromTable_staysTrimmed table).bind fun _ =>
        (Keeps.ofAttempt _).bind fun _ => staysTrimmed_of_same (edit_view fun _ => rfl)
  split
  · exact (Keeps.ofAttempt _).bind fun _ => (Keeps.throw _).bind fun _ => fills
  · exact fills

variable [Connection σ]

theorem Continuation.run_staysTrimmed (operation : Continuation σ) :
    Keeps StaysTrimmed Builder.descriptor operation.run := by
  by_cases htable : ∃ given, operation = .fromTable given
  · obtain ⟨given, rfl⟩ := htable
    exact fromTable_staysTrimmed given
  · exact staysTrimmed_of_same (operation.run_view_of Descriptor.texts
      (fun given h => absurd ⟨given, h⟩ htable) (fun _ _ => rfl) fun _ _ _ _ => rfl)

theorem Operation.run_staysTrimmed (operation : Operation σ) :
    Keeps StaysTrimmed Builder.descriptor operation.run := by
  cases operation with
  | clear => exact clear_staysTrimmed
  | rawQuery sql => exact clear_staysTrimmed.bind fun _ => staysTrimmed_of_same (edit_view fun _ => rfl)
  | select fields => exact select_staysTrimmed fields
  | insert table values =>
    exact (startWrite_staysTrimmed _ _ table values).bind fun _ =>
      Keeps.get.bind fun _ => (Keeps.ofAttempt _).bind fun _ => Keeps.pure _
  | update table values condition =>
    exact (startWrite_staysTrimmed _ _ table values).bind fun _ => filter_staysTrimmed condition
  | delete table condition =>
    exact clear_staysTrimmed.bind fun _ =>
      Keeps.bind (staysTrimmed_of_same (edit_view fun _ => rfl)) fun _ =>
        (fromTable_staysTrimmed table).bind fun _ => filter_staysTrimmed condition
  | filter condition => exact filter_staysTrimmed condition
  | maximum table column =>
    refine Keeps.bind ((Keeps.ofAttempt _).bind fun _ => ?_) fun _ => Keeps.pure _
    exact (select_staysTrimmed _).bind fun _ => (fromTable_staysTrimmed table).bind fun _ =>
      (Keeps.of_eq executeQuery_fading.leavesDescriptor).bind fun _ =>
        (Keeps.of_eq (fetch_silent .num).leavesDescriptor).bind fun _ => Keeps.pure _
  | continued operation => exact operation.run_staysTrimmed

/-- Whatever is done with a builder, its statement is trimmed. -/
theorem performed_trimmed {dialect : Dialect} {client : Client σ} {debug : Value} {lap : Duration}
    {builder : Builder σ} (h : create dialect client debug lap = .ok builder)
    (operations : List (Operation σ)) : (builder.performed operations).descriptor.Trimmed := by
  have hstart : builder.descriptor.Trimmed := by
    rw [descriptor_of_create h]
    exact Descriptor.trimmed_empty
  clear h
  induction operations generalizing builder with
  | nil => exact hstart
  | cons operation rest ih => exact ih (operation.run_staysTrimmed builder hstart)

end Builder

end SqlToolkit
