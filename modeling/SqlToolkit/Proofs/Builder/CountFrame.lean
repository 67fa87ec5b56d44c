import SqlToolkit.Proofs.Builder.RowCount
import SqlToolkit.Proofs.TwoRuns

/-!
# What is counted when the statement has been changed

The statement that was executed last and its values are remembered as they were. What is counted is
looked up in its descriptor, and as long as no new statement was started that is the one that the
setters go on changing. So counting does the same after the setters as before them, exactly if the
counting statement that it makes is the same; and that depends on nothing but whether the rows are
to be distinct.
-/

namespace SqlToolkit

open SqlToolkit.Action (Agree EndAlike Keeps Respects)
open SqlToolkit.Text

/-! ## What is counted -/

/-- Two descriptors with one kind and the same fields have what is counted in common, unless it is a
column, and of its values only the distinct ones once and all of them the other time. -/
theorem Descriptor.countExpression?_congr {descriptor other : Descriptor}
    (hkind : other.kind = descriptor.kind) (hfields : other.fields = descriptor.fields)
    (h : descriptor.kind ≠ .select ∨ descriptor.fields = "*" ∨
      other.parameters.selectDistinct.truthy = descriptor.parameters.selectDistinct.truthy) :
    other.countExpression? = descriptor.countExpression? := by
  unfold countExpression? distinctText
  rw [hkind, hfields]
  cases hk : descriptor.kind with
  | select =>
    rcases h with h | h | h
    · exact absurd hk h
    · rw [h]
      rfl
    · rw [h]
  | _ => rfl

namespace Statement

/-- Whether there is a counting statement does not depend on what is counted. -/
theorem countProbe?_eq_none {sql : String} {expression : Option String}
    (h : countProbe? sql expression = none) (other : Option String) :
    countProbe? sql other = none := by
  rw [countProbe?_eq] at h ⊢
  split
  · rfl
  · next hcounts =>
    rw [if_neg hcounts, Option.map_eq_none_iff] at h
    rw [h]
    rfl

/-- Counting statements tell what they count. -/
theorem countProbe?_ne {sql : String} {expression other : Option String}
    (hsome : countProbe? sql expression ≠ none)
    (hne : ∀ columns, countedText columns expression ≠ countedText columns other) :
    countProbe? sql expression ≠ countProbe? sql other := by
  intro heq
  rw [countProbe?_eq] at heq hsome
  rw [countProbe?_eq] at heq
  split at heq
  · next hprevents => exact hsome (if_pos hprevents)
  · next hcounts =>
    rw [if_neg hcounts] at hsome
    cases hcut : splitSelect? sql.toList with
    | none =>
      rw [hcut] at hsome
      exact hsome rfl
    | some cut =>
      rw [hcut] at heq
      have hchars := congrArg String.toList (Option.some.inj heq)
      simp only [String.toList_append, String.toList_ofList] at hchars
      exact hne cut.1 (List.append_cancel_left (List.append_cancel_right
        (List.append_cancel_right hchars)))

/-- Fields are never counted like their distinct values. -/
theorem countedText_distinct_ne (columns : List Char) (fields : String) :
    countedText columns (some ("DISTINCT " ++ fields)) ≠ countedText columns (some fields) := by
  have hdistinct : countedText columns (some ("DISTINCT " ++ fields)) =
      "DISTINCT ".toList ++ fields.toList := by
    have hne : ("DISTINCT " ++ fields).isEmpty = false := by
      rw [← Bool.not_eq_true, String.isEmpty_iff, ← String.toList_inj, String.toList_append]
      exact List.cons_ne_nil _ _
    rw [countedText, hne, if_neg Bool.false_ne_true, String.toList_append]
  rw [hdistinct, countedText]
  split
  · next hempty =>
    -- a text without blanks at its ends does not end like the word
    rw [String.isEmpty_iff.mp hempty]
    intro heq
    have hend : StopsAt isBlank (trimChars columns).reverse := by
      rw [trimChars, List.reverse_reverse]
      exact stopsAt_dropWhile isBlank _
    rw [← heq] at hend
    exact absurd (stopsAt_cons.mp hend) (by decide)
  · intro heq
    have hlength := congrArg List.length heq
    rw [List.length_append, show "DISTINCT ".toList.length = 9 from rfl] at hlength
    omega

end Statement

namespace Builder

variable {σ : Type} {builder builder' : Builder σ}

/-! ## Builders that differ in the statement being composed -/

/-- The builders have all but the statement being composed in common. -/
def SameBesides (builder builder' : Builder σ) : Prop := builder.besides = builder'.besides

theorem SameBesides.view {T : Type} (h : builder.SameBesides builder') (view : Builder σ → T) :
    view builder.besides = view builder'.besides := congrArg view h

theorem SameBesides.client (h : builder.SameBesides builder') : builder.client = builder'.client :=
  h.view Builder.client

theorem SameBesides.last (h : builder.SameBesides builder') : builder.last = builder'.last :=
  h.view Builder.last

theorem SameBesides.lap (h : builder.SameBesides builder') : builder.lap = builder'.lap :=
  h.view Builder.lap

theorem SameBesides.debugMode (h : builder.SameBesides builder') :
    builder.debugMode = builder'.debugMode :=
  h.view Builder.debugMode

/-- A change that does not look at the statement. -/
theorem modify_respects {change : Builder σ → Builder σ}
    (h : ∀ builder, (change builder).besides = change builder.besides) :
    Respects SameBesides (modify change : Action (Builder σ) PUnit) :=
  Agree.modify fun s s' hs => by
    show (change s).besides = (change s').besides
    rw [h, h, show s.besides = s'.besides from hs]

theorem note_overlooks (event : LogEvent) :
    Respects SameBesides (note event : Action (Builder σ) Unit) :=
  modify_respects fun _ => rfl

theorem capture_overlooks (mode : DebugMode) (sql : String) (placeholders : Value.Entries)
    (entry : DebugEntry) :
    Respects SameBesides (capture mode sql placeholders entry : Action (Builder σ) Unit) := by
  unfold capture
  split
  · refine (Respects.ofAttempt _).bind fun shown =>
      Agree.bind (modify_respects fun _ => rfl) fun _ => ?_
    split
    · split
      · exact Respects.throw _
      · exact note_overlooks _
    · exact Respects.pure _
  · exact Respects.pure _

theorem guarded_overlooks {α : Type} {action : Action (Builder σ) α} (kind : QueryKind)
    (mode : DebugMode) (sql : String) (placeholders : Value.Entries)
    (h : Respects SameBesides action) :
    Respects SameBesides (guarded kind mode sql placeholders action) := by
  refine (Agree.attempt h).bind fun answer => ?_
  split
  · exact Respects.pure _
  · split
    · exact Respects.throw _
    · refine Agree.bind ?_ fun _ => Respects.throw _
      refine (Respects.ofAttempt _).bind fun _ => (note_overlooks _).bind fun _ =>
        Agree.get_bind fun s s' hs => ?_
      dsimp only
      rw [hs.lap]
      exact (capture_overlooks _ _ _ _).bind fun _ => Respects.pure _

variable [Connection σ]

omit [Connection σ] in
theorem onClient_overlooks {α : Type} (action : Action (Client σ) α) :
    Respects SameBesides (onClient action) := by
  intro s s' hs
  constructor
  · rw [outcome_onClient, outcome_onClient, hs.client]
  · rw [after_onClient, after_onClient]
    exact hs.view fun builder => builder.withClient action

theorem countAgain_overlooks (sql : String) (placeholders : Value.Entries) :
    Respects SameBesides (countAgain sql placeholders : Action (Builder σ) Int) := by
  refine Agree.get_bind fun s s' hs => ?_
  rw [hs.client, hs.debugMode]
  exact guarded_overlooks _ _ _ _ ((onClient_overlooks _).bind fun _ =>
    (Respects.ofAttempt _).bind fun _ => Respects.pure _)

theorem runProbe_overlooks (probe : String) (placeholders : Value.Entries) :
    Respects SameBesides (runProbe probe placeholders : Action (Builder σ) Value) := by
  refine (onClient_overlooks _).bind fun statement => Agree.get_bind fun s s' hs => ?_
  rw [hs.client]
  exact Respects.ofAttempt _

/-- Apart from the counting statement, counting does not look at the statement being composed. -/
theorem countRead_endAlike (h : builder.SameBesides builder') {sql : String}
    (hprobe : builder.probe? sql = builder'.probe? sql) (placeholders : Value.Entries) :
    EndAlike SameBesides (countRead sql placeholders) (countRead sql placeholders)
      builder builder' := by
  cases hp : builder'.probe? sql with
  | none =>
    have hends := countAgain_overlooks sql placeholders builder builder' h
    rw [hp] at hprobe
    constructor
    · rw [Action.outcome_congr (countRead_of_no_probe hprobe),
        Action.outcome_congr (countRead_of_no_probe hp), hends.outcome]
    · rw [Action.after_congr (countRead_of_no_probe hprobe),
        Action.after_congr (countRead_of_no_probe hp)]
      exact hends.after
  | some probe =>
    rw [hp] at hprobe
    have hran := runProbe_overlooks probe placeholders builder builder' h
    have hconcluded (answer : Attempt Value) : Agree SameBesides
        (builder.concluded sql probe placeholders answer)
        (builder'.concluded sql probe placeholders answer) := by
      cases answer with
      | ok row =>
        rw [concluded, concluded, h.lap, h.debugMode]
        exact (capture_overlooks _ _ _ _).bind fun _ => Respects.ofAttempt _
      | error fault =>
        rw [concluded, concluded]
        split
        · exact (Respects.throw _).bind fun _ => (note_overlooks _).bind fun _ =>
            countAgain_overlooks _ _
        · exact (note_overlooks _).bind fun _ => countAgain_overlooks _ _
    have hends := hconcluded ((runProbe probe placeholders).outcome builder) _ _ hran.after
    constructor
    · rw [Action.outcome_congr (countRead_of_probe hprobe),
        Action.outcome_congr (countRead_of_probe hp), hends.outcome, hran.outcome]
    · rw [Action.after_congr (countRead_of_probe hprobe),
        Action.after_congr (countRead_of_probe hp), ← hran.outcome]
      exact hends.after

/-! ## Setters -/

/-- Setters change the statement being composed, and leave its kind and its fields. -/
theorem Operation.run_edits {operation : Operation σ} (h : operation.Edits) (builder : Builder σ) :
    builder.SameBesides (operation.run.after builder) ∧
      (operation.run.after builder).descriptor.kind = builder.descriptor.kind ∧
      (operation.run.after builder).descriptor.fields = builder.descriptor.fields := by
  refine ⟨(Operation.run_composing h).leavesBesides builder, ?_⟩
  have hview : Keeps Eq (fun builder : Builder σ =>
      (builder.descriptor.kind, builder.descriptor.fields)) operation.run := by
    cases operation with
    | filter condition => exact filter_view (fun d => (d.kind, d.fields)) (fun _ _ => rfl) condition
    | continued operation =>
      exact operation.run_view (fun d => (d.kind, d.fields)) (fun _ _ => rfl) (fun _ _ => rfl)
        fun _ _ _ _ => rfl
    | _ => exact h.elim
  obtain ⟨hkind, hfields⟩ := Prod.mk.inj (hview builder)
  exact ⟨hkind.symm, hfields.symm⟩

theorem performed_edits {operations : List (Operation σ)}
    (h : ∀ operation ∈ operations, operation.Edits) (builder : Builder σ) :
    builder.SameBesides (builder.performed operations) ∧
      (builder.performed operations).descriptor.kind = builder.descriptor.kind ∧
      (builder.performed operations).descriptor.fields = builder.descriptor.fields := by
  induction operations generalizing builder with
  | nil => exact ⟨rfl, rfl, rfl⟩
  | cons operation rest ih =>
    obtain ⟨hsame, hkind, hfields⟩ := Operation.run_edits (h operation List.mem_cons_self) builder
    obtain ⟨hsame', hkind', hfields'⟩ :=
      ih (fun other ho => h other (List.mem_cons_of_mem _ ho)) (operation.run.after builder)
    exact ⟨hsame.trans hsame', hkind'.trans hkind, hfields'.trans hfields⟩

/-- What is counted of the last statement shows whether the setters asked for distinct rows: it is a
SELECT of some fields, and no new statement was started since. -/
structure ShowsDistinct (builder : Builder σ) : Prop where
  current : builder.last.descriptor = .current
  kind : builder.descriptor.kind = .select
  fields : builder.descriptor.fields ≠ "*"

omit [Connection σ] in
/-- The counting statement is the same if it shows nothing, or nothing changed. -/
theorem probe?_congr (h : builder.SameBesides builder')
    (hkind : builder'.descriptor.kind = builder.descriptor.kind)
    (hfields : builder'.descriptor.fields = builder.descriptor.fields)
    (hshows : builder.ShowsDistinct → builder'.descriptor.parameters.selectDistinct.truthy =
      builder.descriptor.parameters.selectDistinct.truthy) (sql : String) :
    builder'.probe? sql = builder.probe? sql := by
  have hlast := h.last
  unfold probe? lastDescriptor?
  rw [← hlast]
  cases hd : builder.last.descriptor with
  | none => rfl
  | retired descriptor => rfl
  | current =>
    refine congrArg (Statement.countProbe? sql)
      (Descriptor.countExpression?_congr hkind hfields ?_)
    by_cases hselect : builder.descriptor.kind = .select
    · by_cases hall : builder.descriptor.fields = "*"
      · exact .inr (.inl hall)
      · exact .inr (.inr (hshows ⟨hd, hselect, hall⟩))
    · exact .inl hselect

omit [Connection σ] in
/-- Distinct values of the fields are counted by another statement than all values of them. -/
theorem probe?_ne (h : builder.SameBesides builder') (hshows : builder.ShowsDistinct)
    (hkind : builder'.descriptor.kind = builder.descriptor.kind)
    (hfields : builder'.descriptor.fields = builder.descriptor.fields)
    (hchanged : builder'.descriptor.parameters.selectDistinct.truthy ≠
      builder.descriptor.parameters.selectDistinct.truthy) {sql : String}
    (hprobe : builder.probe? sql ≠ none) : builder'.probe? sql ≠ builder.probe? sql := by
  have hstar : (builder.descriptor.fields == "*") = false := beq_eq_false_iff_ne.mpr hshows.fields
  have hcounts (descriptor : Descriptor) (hk : descriptor.kind = builder.descriptor.kind)
      (hf : descriptor.fields = builder.descriptor.fields) :
      descriptor.countExpression? =
        some ((if descriptor.parameters.selectDistinct.truthy then "DISTINCT " else "") ++
          builder.descriptor.fields) := by
    unfold Descriptor.countExpression? Descriptor.distinctText
    rw [hk, hf, hshows.kind, hstar]
    rfl
  have hfirst : builder.probe? sql =
      Statement.countProbe? sql builder.descriptor.countExpression? := by
    rw [probe?, lastDescriptor?, hshows.current]
    rfl
  have hsecond : builder'.probe? sql =
      Statement.countProbe? sql builder'.descriptor.countExpression? := by
    rw [probe?, lastDescriptor?, ← h.last, hshows.current]
    rfl
  have hne (columns : List Char) := Statement.countedText_distinct_ne columns
    builder.descriptor.fields
  rw [hfirst, hcounts _ rfl rfl] at hprobe ⊢
  rw [hsecond, hcounts _ hkind hfields]
  refine (Statement.countProbe?_ne hprobe fun columns => ?_).symm
  cases hb : builder.descriptor.parameters.selectDistinct.truthy <;>
    cases hb' : builder'.descriptor.parameters.selectDistinct.truthy
  · exact absurd (hb'.trans hb.symm) hchanged
  · simpa using (hne columns).symm
  · simpa using hne columns
  · exact absurd (hb'.trans hb.symm) hchanged

/-- **Setters do not show in a count, but for DISTINCT.** After a read, with any setters in between
that start no new statement and execute nothing, the rows are counted by the same statement as
without them exactly if the read has no counting form, or what is counted does not show whether rows
are to be distinct, or the setters left that as it was. Then the same calls are made, they return
the same or fail with the same fault, and everything but the statement being composed is as it would
be without the setters. -/
theorem counted_as_before_iff {operations : List (Operation σ)}
    (hedits : ∀ operation ∈ operations, operation.Edits) {sql : String}
    (hsql : builder.last.sql = some sql) (hread : builder.last.wasRead = true) :
    let left := builder.performed operations
    (left.probe? sql = builder.probe? sql ↔
      builder.probe? sql = none ∨ ¬builder.ShowsDistinct ∨
        left.descriptor.parameters.selectDistinct.truthy =
          builder.descriptor.parameters.selectDistinct.truthy) ∧
    (left.probe? sql = builder.probe? sql →
      numRows.outcome left = numRows.outcome builder ∧
        (numRows.after left).SameBesides (numRows.after builder)) := by
  intro left
  obtain ⟨hsame, hkind, hfields⟩ := performed_edits hedits builder
  refine ⟨⟨fun heq => ?_, fun h => ?_⟩, fun hprobe => ?_⟩
  · by_cases hprobe : builder.probe? sql = none
    · exact .inl hprobe
    · by_cases hshows : builder.ShowsDistinct
      · exact .inr (.inr (not_not.mp fun hchanged =>
          probe?_ne hsame hshows hkind hfields hchanged hprobe heq))
      · exact .inr (.inl hshows)
  · rcases h with hprobe | hshows | hdistinct
    · exact (Statement.countProbe?_eq_none hprobe _).trans hprobe.symm
    · exact probe?_congr hsame hkind hfields (fun h => absurd h hshows) sql
    · exact probe?_congr hsame hkind hfields (fun _ => hdistinct) sql
  · have hsql' : left.last.sql = some sql := hsame.last ▸ hsql
    have hread' : left.last.wasRead = true := hsame.last ▸ hread
    have hends := countRead_endAlike hsame hprobe.symm builder.last.placeholders
    rw [Action.outcome_congr (numRows_of_read hsql hread),
      Action.outcome_congr (numRows_of_read hsql' hread'),
      Action.after_congr (numRows_of_read hsql hread),
      Action.after_congr (numRows_of_read hsql' hread'), ← hsame.last]
    exact ⟨hends.outcome.symm, hends.after.symm⟩

def rearranged : List (Operation Scripted) :=
  [.continued (.orderBy (.text "a")), .continued (.limit (.int 1))]

theorem counted_as_before_iff_rearranged :
    let ready := execute.after (onAnswers withNull [nullRows, nullCount])
    (∀ operation ∈ rearranged, operation.Edits) ∧ ready.last.sql = some nullRows.sql ∧
      ready.last.wasRead = true ∧ numRows.outcome (ready.performed rearranged) = .ok 1 := by
  intro ready
  have hedits : ∀ operation ∈ rearranged, operation.Edits := by
    intro operation ho
    rcases List.mem_cons.mp ho with rfl | ho
    · trivial
    · cases List.mem_singleton.mp ho
      trivial
  obtain ⟨hread, hprobe, hcounts⟩ := hasRead_withNull
  obtain ⟨final, hagain, -⟩ := hcounts nullCount.sql rfl
  obtain ⟨hiff, hsame⟩ :=
    counted_as_before_iff hedits hread.holds.sql hread.holds.wasRead
  obtain ⟨houtcome, -⟩ := hsame (hiff.mpr (.inr (.inr (by decide +kernel))))
  exact ⟨hedits, hread.holds.sql, hread.holds.wasRead,
    houtcome.trans (outcome_numRows_of_sends hread.holds hprobe
      (hread.captures (loggable_nil _)) hagain)⟩

/-- A SELECT that was executed without DISTINCT is counted with it once that is asked for. -/
theorem distinct_shows_in_count :
    let ready := execute.after (onAnswers withNull [nullRows, nullCount])
    let left := ready.performed [.continued (.distinct (.bool true))]
    ready.last.sql = some nullRows.sql ∧ ready.last.wasRead = true ∧
      (numRows.after ready).client.calls = ready.client.calls ++
        [.execute "SELECT COUNT(a) AS row_count FROM t" none, .commit] ∧
      (numRows.after left).client.calls = ready.client.calls ++
        [.execute "SELECT COUNT(DISTINCT a) AS row_count FROM t" none, .commit] := by
  intro ready left
  obtain ⟨hread, hprobe, hcounts⟩ := hasRead_withNull
  have hcalls {s : Builder Scripted} {probe : String} (hlast : s.last = ready.last)
      (hclient : s.client = ready.client) (hprobe : s.probe? nullRows.sql = some probe)
      (hsent : PreparedStatement.request (Connection.parser Scripted) ready.client.paramstyle probe
        [] = .ok (probe, none)) :
      (numRows.after s).client.calls = ready.client.calls ++ [.execute probe none, .commit] := by
    obtain ⟨final, hagain, hfinal⟩ := hcounts probe hsent
    have hnum := numRows_of_read (hlast ▸ hread.holds.sql) (hlast ▸ hread.holds.wasRead)
    rw [hlast, hread.holds.placeholders] at hnum
    rw [Action.after_congr hnum, client_countRead_of_sends hprobe (hclient ▸ hagain), hfinal]
  have hdescriptor : left.lastDescriptor? =
      some { withNull with parameters := { selectDistinct := .bool true } } := rfl
  refine ⟨hread.holds.sql, hread.holds.wasRead, hcalls rfl rfl hprobe rfl, hcalls rfl rfl ?_ rfl⟩
  rw [probe?, hdescriptor]
  decide +kernel

end Builder

end SqlToolkit
