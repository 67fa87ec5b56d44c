import SqlToolkit.Proofs.Builder.ColumnWrite

/-!
# Values that the caller supplies for markers

A value that the caller supplies for a name stays until another one is supplied for that name or
another statement is started. It is what the name is bound to unless the statement generates the
name itself, for its condition or for one of its columns: a generated name takes it over.
-/

namespace SqlToolkit

namespace Builder

open SqlToolkit.Action (Keeps)

variable {σ : Type} {builder : Builder σ}

/-! ## What was supplied -/

def suppliedIn (name : String) : Value → Option Value
  | .map entries => Entries.last? (.text name) entries
  | _ => none

/-- What is supplied for a name once an operation is done, given what was supplied before. A new
statement starts with nothing. -/
def Operation.supplies (name : String) (before : Option Value) : Operation σ → Option Value
  | .continued (.addPlaceholders given) => (suppliedIn name given).or before
  | .continued _ | .filter _ => before
  | .maximum _ column => if column.isWritable then none else before
  | _ => none

/-- The value that was last supplied for a name. -/
def lastSupplied (name : String) (operations : List (Operation σ)) : Option Value :=
  operations.foldl (fun before operation => operation.supplies name before) none

/-- Values in a list are supplied for positions, not for names. -/
theorem last?_numbered (name : String) (values : List Value) :
    Entries.last? (.text name) (numbered values) = none := by
  rw [Entries.last?, Option.map_eq_none_iff, List.find?_eq_none]
  intro entry hentry heq
  obtain ⟨item, -, rfl⟩ := List.mem_map.mp (List.mem_reverse.mp hentry)
  cases Value.beq_text_iff.mp heq

theorem last?_placeholderEntries {name : String} {given : Value} {entries : Value.Entries}
    (h : placeholderEntries given = .ok entries) :
    Entries.last? (.text name) entries = (suppliedIn name given).map Value.formatted := by
  unfold placeholderEntries at h
  split at h
  · cases h
    rfl
  · cases h
    rw [Value.formattedEntries, Entries.last?_mapValues]
    rfl
  · next notNull notMap =>
    have hnone : suppliedIn name given = none := by
      cases given with
      | map entries => exact absurd rfl (notMap entries)
      | _ => rfl
    rw [hnone]
    cases hitems : Rows.items given with
    | error fault => rw [hitems] at h; cases h
    | ok values =>
      rw [hitems] at h
      cases h
      exact last?_numbered name values

theorem suppliedIn_of_refused {name : String} {given : Value} {fault : Fault}
    (h : placeholderEntries given = .error fault) : suppliedIn name given = none := by
  cases given with
  | map entries => cases h
  | _ => rfl

/-- What is added for a name replaces what was there, if it is accepted at all. -/
theorem explicit?_addPlaceholders (name : String) (given : Value) (builder : Builder σ) :
    ((addPlaceholders given).after builder).descriptor.explicit? name =
      ((suppliedIn name given).map Value.formatted).or (builder.descriptor.explicit? name) := by
  unfold addPlaceholders
  cases hgiven : placeholderEntries given with
  | error fault =>
    rw [suppliedIn_of_refused hgiven]
    rfl
  | ok entries =>
    rw [Action.after_bind_ok rfl, after_edit, ← last?_placeholderEntries hgiven]
    exact Entries.get?_merge (Value.sharp_text name) _ _

/-! ## Through a run -/

theorem explicit?_of_none {name : String} (h : builder.descriptor.placeholders = []) :
    builder.descriptor.explicit? name = none := by
  rw [Descriptor.explicit?, h]
  rfl

variable [Connection σ]

/-- What adds no values for markers keeps those there are. -/
theorem Continuation.explicit?_run {name : String} (operation : Continuation σ)
    (h : ∀ given, operation ≠ .addPlaceholders given) (builder : Builder σ) :
    (operation.run.after builder).descriptor.explicit? name =
      builder.descriptor.explicit? name :=
  (operation.run_view (Descriptor.explicit? name) (fun _ _ => rfl) (fun _ _ => rfl)
    (fun given heq => absurd heq (h given)) builder).symm

/-- An operation holds for a name what it supplies for it, or what was held before. -/
theorem Operation.explicit?_run (operation : Operation σ) {name : String} {before : Option Value}
    (h : builder.descriptor.explicit? name = before.map Value.formatted) :
    (operation.run.after builder).descriptor.explicit? name =
      (operation.supplies name before).map Value.formatted := by
  cases operation with
  | clear => rfl
  | rawQuery sql => rfl
  | select fields => exact explicit?_of_none (bare_select fields builder).placeholders
  | insert table values => exact explicit?_of_none (bare_insert table values builder).placeholders
  | update table values condition =>
    exact explicit?_of_none (started_update table values condition builder).placeholders
  | delete table condition =>
    exact explicit?_of_none (started_delete table condition builder).placeholders
  | maximum table column =>
    rw [show (Operation.maximum table column : Operation σ).supplies name before =
      if column.isWritable then none else before from rfl]
    cases hwritable : column.isWritable with
    | true => exact explicit?_of_none (bare_maximum hwritable table builder).placeholders
    | false =>
      rw [after_maximum_of_not_isWritable hwritable]
      exact h
  | filter condition =>
    exact (filter_view (Descriptor.explicit? name) (fun _ _ => rfl) condition
      builder).symm.trans h
  | continued operation =>
    by_cases hadds : ∃ given, operation = .addPlaceholders given
    · obtain ⟨given, rfl⟩ := hadds
      refine (explicit?_addPlaceholders name given builder).trans ?_
      rw [h, supplies, Option.map_or]
    · have hsame : (Operation.continued operation).supplies name before = before := by
        cases operation with
        | addPlaceholders given => exact absurd ⟨given, rfl⟩ hadds
        | _ => rfl
      rw [hsame]
      exact (operation.explicit?_run (fun given heq => hadds ⟨given, heq⟩) builder).trans h

/-- After any run a statement holds for a name what was last supplied for it. -/
theorem explicit?_performed (operations : List (Operation σ)) {name : String}
    (h : builder.descriptor.explicit? name = none) :
    (builder.performed operations).descriptor.explicit? name =
      (lastSupplied name operations).map Value.formatted := by
  have hrun (operations : List (Operation σ)) (builder : Builder σ) (before : Option Value)
      (h : builder.descriptor.explicit? name = before.map Value.formatted) :
      (builder.performed operations).descriptor.explicit? name =
        (operations.foldl (fun before operation => operation.supplies name before) before).map
          Value.formatted := by
    induction operations generalizing builder before with
    | nil => exact h
    | cons operation rest ih => exact ih _ _ (operation.explicit?_run h)
  exact hrun operations builder none h

/-! ## What is bound -/

/-- A consistent statement that renders has names for its column values. -/
theorem named_of_sql {dialect : Dialect} {descriptor : Descriptor} {sql : String}
    (hd : descriptor.Consistent) (h : descriptor.sql dialect = .ok sql) :
    ∃ columns, descriptor.valuePlaceholders = .ok columns := by
  by_cases hnone : descriptor.values = []
  · refine ⟨_, Descriptor.valuePlaceholders_of_accepted ?_⟩
    rw [hnone]
    exact fun entry hentry => nomatch hentry
  · unfold Descriptor.sql at h
    rcases hd.values hnone with hk | hk
    · rw [hk] at h
      dsimp only at h
      split at h
      · cases h
      · unfold Descriptor.insertSql at h
        cases hv : descriptor.valuePlaceholders with
        | error fault => rw [hv] at h; cases h
        | ok columns => exact ⟨columns, rfl⟩
    · rw [hk] at h
      dsimp only at h
      split at h
      · cases h
      · exact ⟨_, Descriptor.valuePlaceholders_of_accepted (Descriptor.accepted_of_updateSql h)⟩

/-- A value that was supplied for a name and not replaced since is what the name is bound to in a
statement that renders, unless the statement generates the name itself: then the generated value is
bound, so that the supplied one is kept exactly if it is the same. -/
theorem supplied_value_kept_iff {dialect : Dialect} {client : Client σ} {debug : Value}
    {lap : Duration} (hcreate : create dialect client debug lap = .ok builder)
    (operations : List (Operation σ)) {sql : String}
    (hsql : (builder.performed operations).sql = .ok sql) {name : String} {value : Value}
    (hsupplied : lastSupplied name operations = some value) :
    ∃ bound, (builder.performed operations).placeholders = .ok bound ∧
      Entries.get? (.text name) bound =
        some (((builder.performed operations).descriptor.generated? name).getD value.formatted) ∧
      (Entries.get? (.text name) bound = some value.formatted ↔
        ∀ other, (builder.performed operations).descriptor.generated? name = some other →
          other = value.formatted) := by
  have hstart := descriptor_of_create hcreate
  have hreached : (builder.performed operations).descriptor.Consistent := by
    refine performed_consistent operations ?_
    rw [hstart]
    exact (Descriptor.bare_of_no_values rfl rfl rfl).consistent
  have hnone : builder.descriptor.explicit? name = none := explicit?_of_none (by rw [hstart])
  have hexplicit := explicit?_performed operations hnone
  rw [hsupplied] at hexplicit
  obtain ⟨columns, hcolumns⟩ := named_of_sql hreached hsql
  obtain ⟨bound, hbound, hget⟩ := Descriptor.get?_boundPlaceholders hcolumns
  have hvalue : Entries.get? (.text name) bound =
      some (((builder.performed operations).descriptor.generated? name).getD value.formatted) := by
    rw [hget, hexplicit, Option.map_some, Option.or_some]
  refine ⟨bound, hbound, hvalue, ?_⟩
  rw [hvalue]
  cases (builder.performed operations).descriptor.generated? name with
  | none => simp
  | some other => simp

/-- A SELECT with a raw fragment, whose marker is given a value twice. -/
def selectAbove (marker : String) (values : List Value) : List (Operation Scripted) :=
  [.select (.text "*"), .continued (.fromTable (.text "t"))] ++
    (values.map fun value => .continued (.addPlaceholders (.map [(.text marker, value)]))) ++
    [.filter (.map [(.int 0, .text ("x > :" ++ marker)), (.text "id", .int 5)])]

theorem supplied_value_kept_selectAbove :
    create .sqlite { connection := {} } (.bool false) {} = .ok onScript ∧
      (onScript.performed (selectAbove "low" [.int 3, .int 4])).sql =
        .ok "SELECT * FROM t WHERE x > :low AND id = :a_id" ∧
      lastSupplied "low" (selectAbove "low" [.int 3, .int 4]) = some (.int 4) ∧
      ∃ bound, (onScript.performed (selectAbove "low" [.int 3, .int 4])).placeholders = .ok bound ∧
        Entries.get? (.text "low") bound = some (.int 4) := by
  have hcreate : create .sqlite { connection := ({} : Scripted) } (.bool false) {} = .ok onScript :=
    rfl
  have hsql : (onScript.performed (selectAbove "low" [.int 3, .int 4])).sql =
      .ok "SELECT * FROM t WHERE x > :low AND id = :a_id" := by rfl
  have hsupplied : lastSupplied "low" (selectAbove "low" [.int 3, .int 4]) = some (.int 4) := by rfl
  obtain ⟨bound, hbound, -, hkept⟩ := supplied_value_kept_iff hcreate _ hsql hsupplied
  refine ⟨hcreate, hsql, hsupplied, bound, hbound, hkept.mpr fun other hother => ?_⟩
  cases hother

/-- The name of the marker is the one that the condition generates: the value that was supplied for
it is replaced by that of the condition. -/
theorem generated_name_replaces_supplied_value :
    (onScript.performed (selectAbove "a_id" [.int 9])).sql =
        .ok "SELECT * FROM t WHERE x > :a_id AND id = :a_id" ∧
      lastSupplied "a_id" (selectAbove "a_id" [.int 9]) = some (.int 9) ∧
      (onScript.performed (selectAbove "a_id" [.int 9])).placeholders =
        .ok [(.text "a_id", .int 5)] :=
  ⟨rfl, rfl, rfl⟩

end Builder

end SqlToolkit
