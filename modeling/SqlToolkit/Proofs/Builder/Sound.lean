import SqlToolkit.Proofs.Builder.Client
import SqlToolkit.Proofs.Builder.Compose
import SqlToolkit.Proofs.Builder.Operation
import SqlToolkit.Proofs.Statement.Interpolation
import SqlToolkit.Proofs.Statement.Limited

/-!
# Statements made of values of the right kinds

SQL and table expressions are texts, settings are maps under distinct names, and values for markers
are given under names and positions. Whatever is composed of such values, accepted or refused, and
whatever is done in between, the statement is *sound*: its SQL is refused with a fault of the
toolkit, unless it shows something that cannot be written, and its values are under names and
positions.
-/

namespace SqlToolkit

open SqlToolkit.Action (Keeps)

/-! ## Kinds of values -/

namespace Value

def IsText (value : Value) : Prop := ∃ content, value = .text content

/-- Nothing, or a map under distinct names. -/
def IsSettings : Value → Prop
  | .map entries => (Entries.keys entries).Nodup ∧ ∀ key ∈ Entries.keys entries, key.IsText
  | settings => settings.truthy = false

/-- If the value is a map, its keys are names and positions. -/
def IsKeyedByMarkers : Value → Prop
  | .map entries => ∀ key ∈ Entries.keys entries, key.isMarkerKey = true
  | _ => True

end Value

namespace Builder

variable {σ : Type}

def Continuation.WellTyped : Continuation σ → Prop
  | .fromTable table => table.IsText
  | .setParameters settings => settings.IsSettings
  | .addPlaceholders placeholders => placeholders.IsKeyedByMarkers
  | _ => True

def Operation.WellTyped : Operation σ → Prop
  | .rawQuery sql => sql.IsText
  | .insert table _ | .update table _ _ | .delete table _ | .maximum table _ => table.IsText
  | .continued operation => operation.WellTyped
  | _ => True

end Builder

namespace Descriptor

/-! ## Values under names -/

theorem isKeyedByMarkers_asPlaceholders (named : List (String × Value)) :
    (Value.map (asPlaceholders named)).IsKeyedByMarkers := by
  intro key hkey
  obtain ⟨⟨name, value⟩, hentry, rfl⟩ := List.mem_map.mp hkey
  obtain ⟨entry, -, hkey⟩ := List.mem_map.mp hentry
  cases hkey
  rfl

/-- Values under names are told apart by the names. -/
theorem merge_asPlaceholders {named : List (String × Value)} (h : (Entries.keys named).Nodup) :
    Entries.merge [] (asPlaceholders named) = asPlaceholders named := by
  have hkeys : Entries.keys (asPlaceholders named) = (Entries.keys named).map Value.text := by
    simp [Entries.keys, asPlaceholders]
  exact Entries.ofList_of_texts hkeys h

/-! ## Sound statements -/

/-- The SQL and the table are texts, the limit can be read, and the values for markers are under
names and positions. -/
structure Sound (descriptor : Descriptor) : Prop where
  rawSql : descriptor.rawSql.IsText
  table : descriptor.table.IsText
  limit : Builder.checkLimit descriptor.parameters.limit = .ok ()
  placeholders : ∀ key ∈ Entries.keys descriptor.placeholders, key.isMarkerKey = true

/-- What soundness is about. -/
def checked (descriptor : Descriptor) : Value × Value × Value × Value.Entries :=
  (descriptor.rawSql, descriptor.table, descriptor.parameters.limit, descriptor.placeholders)

theorem Sound.of_same {descriptor other : Descriptor} (h : descriptor.Sound)
    (hsame : descriptor.checked = other.checked) : other.Sound := by
  obtain ⟨hr, ht, hl, hp⟩ := by simpa only [checked, Prod.mk.injEq] using hsame
  exact ⟨hr ▸ h.rawSql, ht ▸ h.table, hl ▸ h.limit, hp ▸ h.placeholders⟩

theorem sound_empty : Sound {} :=
  ⟨⟨"", rfl⟩, ⟨"", rfl⟩, rfl, fun _ h => by cases h⟩

variable {descriptor : Descriptor} {dialect : Dialect} {fault : Fault}

structure Spellable (descriptor : Descriptor) : Prop where
  columns : ∀ entry ∈ descriptor.values, entry.1.isWritable = true
  groupBy : descriptor.parameters.groupBy.isWritable = true
  orderBy : descriptor.parameters.orderBy.isWritable = true

/-- A refusal comes from the toolkit, unless there is something that cannot be written. -/
def Refuses (descriptor : Descriptor) (fault : Fault) : Prop :=
  fault.isToolkit = true ∨ fault = .badValue ∧ ¬descriptor.Spellable

theorem valuePlaceholders_refuses (h : descriptor.valuePlaceholders = .error fault) :
    descriptor.Refuses fault := by
  obtain ⟨cause, rfl⟩ | ⟨rfl, entry, hentry, hwritable⟩ := parameter_of_error h
  · exact .inl rfl
  · exact .inr ⟨rfl, fun hs => absurd (hs.columns entry hentry) (by rw [hwritable]; decide)⟩

theorem updateSql_refuses (h : descriptor.updateSql = .error fault) : descriptor.Refuses fault := by
  unfold updateSql at h
  cases hm : descriptor.values.mapM (fun entry => do
      return entry.1.display ++ " = :" ++ (← ColumnKey.placeholder entry.1) :
        _ → Attempt String) with
  | ok assignments => rw [hm] at h; cases h
  | error cause =>
    rw [hm] at h
    cases h
    obtain ⟨entry, hentry, he⟩ := exists_of_mapM_error hm
    cases hk : ColumnKey.placeholder entry.1 with
    | ok name => rw [hk] at he; cases he
    | error refused =>
      rw [hk] at he
      cases he
      obtain rfl | ⟨rfl, hwritable⟩ := ColumnKey.parameter_of_error hk
      · exact .inl rfl
      · exact .inr ⟨rfl, fun hs => absurd (hs.columns entry hentry) (by rw [hwritable]; decide)⟩

theorem insertSql_refuses (h : descriptor.insertSql = .error fault) : descriptor.Refuses fault := by
  unfold insertSql at h
  cases hv : descriptor.valuePlaceholders with
  | ok named => rw [hv] at h; cases h
  | error cause => rw [hv] at h; cases h; exact valuePlaceholders_refuses hv

theorem Sound.limitText_returns (h : descriptor.Sound) (dialect : Dialect) :
    ∃ text, descriptor.limitText dialect = .ok text := by
  have hlimit := h.limit
  unfold limitText
  unfold Builder.checkLimit at hlimit
  split
  · exact ⟨_, rfl⟩
  · next hset =>
    rw [if_neg hset] at hlimit
    unfold Dialect.limitClause
    cases hp : Limit.parse descriptor.parameters.limit with
    | ok bounds => exact ⟨_, rfl⟩
    | error cause => rw [hp] at hlimit; cases hlimit

/-- A SELECT is refused only if its grouping or its order cannot be written. -/
theorem Sound.selectSql_refuses (h : descriptor.Sound)
    (hs : descriptor.selectSql dialect = .error fault) : descriptor.Refuses fault := by
  obtain ⟨text, ht⟩ := h.limitText_returns dialect
  rw [selectSql_eq, ht] at hs
  cases htail : descriptor.checkTail with
  | ok _ => rw [htail] at hs; cases hs
  | error cause =>
    rw [htail] at hs
    cases hs
    unfold checkTail at htail
    split at htail
    · cases htail
    · next hwritable =>
      cases htail
      exact .inr ⟨rfl, fun hs => hwritable (by rw [hs.groupBy, hs.orderBy]; rfl)⟩

/-- What a sound statement refuses to give its SQL with. -/
theorem Sound.sql_refuses (h : descriptor.Sound) (hs : descriptor.sql dialect = .error fault) :
    descriptor.Refuses fault := by
  obtain ⟨rawSql, hraw⟩ := h.rawSql
  obtain ⟨table, htable⟩ := h.table
  unfold sql at hs
  rw [hraw] at hs
  split at hs
  · cases hs
  · split at hs
    · cases hs
      exact .inl rfl
    · split at hs
      · exact insertSql_refuses hs
      · exact updateSql_refuses hs
      · unfold deleteSql at hs
        rw [htable] at hs
        cases hs
      · exact h.selectSql_refuses hs

theorem boundPlaceholders_refuses (h : descriptor.boundPlaceholders = .error fault) :
    descriptor.Refuses fault := by
  unfold boundPlaceholders at h
  cases hv : descriptor.valuePlaceholders with
  | ok named => rw [hv] at h; cases h
  | error cause => rw [hv] at h; cases h; exact valuePlaceholders_refuses hv

theorem isMarkerKey_asPlaceholders (named : List (String × Value)) :
    ∀ key ∈ Entries.keys (asPlaceholders named), key.isMarkerKey = true := by
  intro key hkey
  obtain ⟨entry, hentry, rfl⟩ := List.mem_map.mp hkey
  obtain ⟨name, -, rfl⟩ := List.mem_map.mp hentry
  rfl

/-- All values that a statement binds are under names and positions, if those are that it was given
for its markers. -/
theorem boundPlaceholders_keys
    (h : ∀ key ∈ Entries.keys descriptor.placeholders, key.isMarkerKey = true)
    {placeholders : Value.Entries} (hp : descriptor.boundPlaceholders = .ok placeholders) :
    ∀ key ∈ Entries.keys placeholders, key.isMarkerKey = true := by
  unfold boundPlaceholders at hp
  cases hv : descriptor.valuePlaceholders with
  | error cause => rw [hv] at hp; cases hp
  | ok named =>
    rw [hv] at hp
    cases hp
    exact Entries.forall_keys_merge
      (Entries.forall_keys_merge h (isMarkerKey_asPlaceholders _))
      (isMarkerKey_asPlaceholders _)

/-! ## What keeps a statement sound -/

/-- If the statement was sound before it is sound after. -/
def StaysSound (before after : Descriptor) : Prop := before.Sound → after.Sound

instance : IsPreorder Descriptor StaysSound where
  refl _ := id
  trans _ _ _ h h' := h' ∘ h

end Descriptor

theorem Parameters.limit_of_setKey {parameters changed : Parameters} {key value : Value}
    (h : parameters.setKey key value = .ok changed) :
    changed.limit = parameters.limit ∨ key.display = "limit" ∧ changed.limit = value := by
  have h := set_of_setKey h
  unfold set set? at h
  split at h
  · next hset =>
    cases h
    split at hset
    · cases hset; exact .inl rfl
    · cases hset; exact .inl rfl
    · cases hset; exact .inl rfl
    · next hname => cases hset; exact .inr ⟨hname, rfl⟩
    · cases hset
  · cases h

/-- An update sets the limit to one of its values, if it sets it at all. -/
theorem Parameters.limit_of_update (parameters : Parameters) (entries : Value.Entries) :
    (parameters.update entries).2.limit = parameters.limit ∨
      ∃ entry ∈ entries, entry.1.display = "limit" ∧
        (parameters.update entries).2.limit = entry.2 := by
  induction entries generalizing parameters with
  | nil => exact .inl rfl
  | cons entry rest ih =>
    unfold update
    cases hset : parameters.setKey entry.1 entry.2 with
    | error fault => exact .inl rfl
    | ok changed =>
      obtain h | ⟨other, hmem, hname, h⟩ := ih changed
      · obtain hc | ⟨hname, hc⟩ := limit_of_setKey hset
        · exact .inl (h.trans hc)
        · exact .inr ⟨entry, List.mem_cons_self, hname, h.trans hc⟩
      · exact .inr ⟨other, List.mem_cons_of_mem _ hmem, hname, h⟩

namespace Builder

open Descriptor (Sound StaysSound)

variable {σ : Type}

theorem edit_staysSound {change : Descriptor → Descriptor}
    (h : ∀ descriptor, Sound descriptor → Sound (change descriptor)) :
    Keeps StaysSound Builder.descriptor (edit change : Action (Builder σ) Unit) :=
  fun builder hs => h builder.descriptor hs

theorem staysSound_of_same {α : Type} {action : Action (Builder σ) α}
    (h : Keeps Eq (fun builder : Builder σ => builder.descriptor.checked) action) :
    Keeps StaysSound Builder.descriptor action :=
  fun builder hs => hs.of_same (h builder)

theorem clear_staysSound : Keeps StaysSound Builder.descriptor (clear : Action (Builder σ) Unit) :=
  fun _ _ => Descriptor.sound_empty

theorem editParameters_staysSound {change : Parameters → Parameters}
    (h : ∀ parameters : Parameters, checkLimit parameters.limit = .ok () →
      checkLimit (change parameters).limit = .ok ()) :
    Keeps StaysSound Builder.descriptor (editParameters change : Action (Builder σ) Unit) :=
  edit_staysSound fun _ hs => ⟨hs.rawSql, hs.table, h _ hs.limit, hs.placeholders⟩

theorem fromTable_staysSound {table : Value} (h : table.IsText) :
    Keeps StaysSound Builder.descriptor (fromTable table : Action (Builder σ) Unit) := by
  obtain ⟨content, rfl⟩ := h
  refine Keeps.ofAttempt_bind fun expression he => edit_staysSound fun _ hs => ?_
  cases he
  exact ⟨hs.rawSql, ⟨_, rfl⟩, hs.limit, hs.placeholders⟩

theorem filter_staysSound (condition : Value) :
    Keeps StaysSound Builder.descriptor (filter condition : Action (Builder σ) Unit) :=
  staysSound_of_same (filter_view Descriptor.checked (fun _ _ => rfl) condition)

theorem startWrite_staysSound (kind : QueryKind) (nothing : String → Fault) {table : Value}
    (h : table.IsText) (values : Value) :
    Keeps StaysSound Builder.descriptor
      (startWrite kind nothing table values : Action (Builder σ) Unit) := by
  refine clear_staysSound.bind fun _ => ?_
  have fills : Keeps StaysSound Builder.descriptor
      (fillWrite kind table values : Action (Builder σ) Unit) :=
    Keeps.bind (staysSound_of_same (edit_view fun _ => rfl)) fun _ =>
      (fromTable_staysSound h).bind fun _ =>
        (Keeps.ofAttempt _).bind fun _ => staysSound_of_same (edit_view fun _ => rfl)
  split
  · exact (Keeps.ofAttempt _).bind fun _ => (Keeps.throw _).bind fun _ => fills
  · exact fills

theorem select_staysSound (fields : Value) :
    Keeps StaysSound Builder.descriptor (select fields : Action (Builder σ) Unit) :=
  clear_staysSound.bind fun _ =>
    Keeps.bind (staysSound_of_same (edit_view fun _ => rfl)) fun _ =>
      (Keeps.ofAttempt _).bind fun _ => staysSound_of_same (edit_view fun _ => rfl)

theorem setParameters_staysSound {settings : Value} (h : settings.IsSettings) :
    Keeps StaysSound Builder.descriptor (setParameters settings : Action (Builder σ) Unit) := by
  refine Keeps.ofAttempt_bind fun entries he => Keeps.ofAttempt_bind fun _ hchecked => ?_
  have hlimit : ∀ parameters : Parameters, checkLimit parameters.limit = .ok () →
      checkLimit (parameters.update entries).2.limit = .ok () := by
    intro parameters hp
    obtain hl | ⟨⟨key, value⟩, hmem, hname, hl⟩ := parameters.limit_of_update entries
    · rw [hl]
      exact hp
    · -- distinct names: the limit that is set is the one that was looked up and checked
      have hmap : settings = .map entries := by
        cases settings with
        | map given => cases he; rfl
        | _ =>
          unfold settingEntries at he
          dsimp only at he
          rw [if_neg (Bool.not_eq_true _ ▸ h)] at he
          cases he
          cases hmem
      rw [hmap] at h
      obtain ⟨content, rfl⟩ := h.2 key (List.mem_map_of_mem (f := (·.1)) hmem)
      cases hname
      rw [Entries.get?_of_mem_of_sharp (Value.sharp_text "limit") h.1 hmem] at hchecked
      rw [hl]
      exact hchecked
  intro builder hs
  exact (editParameters_staysSound (fun _ _ => hlimit _ hs.limit)).bind
    (fun _ => Keeps.ofAttempt _) builder hs

theorem placeholderEntries_keys {given : Value} (h : given.IsKeyedByMarkers)
    {entries : Value.Entries} (he : placeholderEntries given = .ok entries) :
    ∀ key ∈ Entries.keys entries, key.isMarkerKey = true := by
  unfold placeholderEntries at he
  split at he
  · cases he
    exact fun _ hkey => by cases hkey
  · next given =>
    cases he
    have hkeys : Entries.keys (Value.formattedEntries given) = Entries.keys given := by
      simp [Entries.keys, Value.formattedEntries, Entries.mapValues]
    rw [hkeys]
    exact h
  · cases hi : Rows.items given with
    | error fault => rw [hi] at he; cases he
    | ok values =>
      rw [hi] at he
      cases he
      intro key hkey
      obtain ⟨entry, hentry, rfl⟩ := List.mem_map.mp hkey
      obtain ⟨⟨value, index⟩, -, rfl⟩ := List.mem_map.mp hentry
      rfl

theorem addPlaceholders_staysSound {given : Value} (h : given.IsKeyedByMarkers) :
    Keeps StaysSound Builder.descriptor (addPlaceholders given : Action (Builder σ) Unit) :=
  Keeps.ofAttempt_bind fun _ he => edit_staysSound fun _ hs =>
    ⟨hs.rawSql, hs.table, hs.limit,
      Entries.forall_keys_merge hs.placeholders (placeholderEntries_keys h he)⟩

variable [Connection σ]

theorem Continuation.run_staysSound {operation : Continuation σ} (h : operation.WellTyped) :
    Keeps StaysSound Builder.descriptor operation.run := by
  cases operation with
  | fromTable table => exact fromTable_staysSound h
  | distinct flag | groupBy grouping | orderBy order =>
    exact staysSound_of_same (edit_view fun _ => rfl)
  | limit bounds =>
    exact Keeps.ofAttempt_bind fun _ hchecked => editParameters_staysSound fun _ _ => hchecked
  | setParameters settings => exact setParameters_staysSound h
  | addPlaceholders given => exact addPlaceholders_staysSound h
  | setDebugOnce mode | setDebug mode =>
    exact (Keeps.ofAttempt _).bind fun _ => Keeps.modify fun _ => rfl
  | execute => exact (Keeps.of_eq execute_fading.leavesDescriptor).bind fun _ => Keeps.pure _
  | executeQuery => exact (Keeps.of_eq executeQuery_fading.leavesDescriptor).bind fun _ => Keeps.pure _
  | executeStatement =>
    exact (Keeps.of_eq executeStatement_fading.leavesDescriptor).bind fun _ => Keeps.pure _
  | numRows => exact (Keeps.of_eq numRows_fading.leavesDescriptor).bind fun _ => Keeps.pure _
  | fetch mode => exact (Keeps.of_eq (fetch_silent mode).leavesDescriptor).bind fun _ => Keeps.pure _
  | fetchAll mode =>
    exact (Keeps.of_eq (fetchAll_silent mode).leavesDescriptor).bind fun _ => Keeps.pure _
  | dropResult | forgetEntries => exact Keeps.modify fun _ => rfl
  | onClient action => exact Keeps.of_eq (onClient_leavesDescriptor action)

/-- Whatever a well-typed operation refuses, the statement stays sound. -/
theorem Operation.run_staysSound {operation : Operation σ} (h : operation.WellTyped) :
    Keeps StaysSound Builder.descriptor operation.run := by
  cases operation with
  | clear => exact clear_staysSound
  | rawQuery sql =>
    exact clear_staysSound.bind fun _ => edit_staysSound fun _ hs =>
      ⟨h, hs.table, hs.limit, hs.placeholders⟩
  | select fields => exact select_staysSound fields
  | insert table values =>
    exact (startWrite_staysSound _ _ h values).bind fun _ =>
      Keeps.get.bind fun _ => (Keeps.ofAttempt _).bind fun _ => Keeps.pure _
  | update table values condition =>
    exact (startWrite_staysSound _ _ h values).bind fun _ => filter_staysSound condition
  | delete table condition =>
    exact clear_staysSound.bind fun _ =>
      Keeps.bind (staysSound_of_same (edit_view fun _ => rfl)) fun _ =>
        (fromTable_staysSound h).bind fun _ => filter_staysSound condition
  | filter condition => exact filter_staysSound condition
  | maximum table column =>
    refine Keeps.bind ((Keeps.ofAttempt _).bind fun _ => ?_) fun _ => Keeps.pure _
    exact (select_staysSound _).bind fun _ => (fromTable_staysSound h).bind fun _ =>
      (Keeps.of_eq executeQuery_fading.leavesDescriptor).bind fun _ =>
        (Keeps.of_eq (fetch_silent .num).leavesDescriptor).bind fun _ => Keeps.pure _
  | continued operation => exact Continuation.run_staysSound h

/-- Whatever is done with well-typed values, the statement is sound. -/
theorem performed_sound {dialect : Dialect} {client : Client σ} {debug : Value} {lap : Duration}
    {builder : Builder σ} (h : create dialect client debug lap = .ok builder)
    {operations : List (Operation σ)} (ht : ∀ operation ∈ operations, operation.WellTyped) :
    (builder.performed operations).descriptor.Sound := by
  have hstart : builder.descriptor.Sound := by
    rw [descriptor_of_create h]
    exact Descriptor.sound_empty
  clear h
  induction operations generalizing builder with
  | nil => exact hstart
  | cons operation rest ih =>
    obtain ⟨hfirst, hrest⟩ := List.forall_mem_cons.mp ht
    exact ih hrest (Operation.run_staysSound hfirst builder hstart)

end Builder

end SqlToolkit
