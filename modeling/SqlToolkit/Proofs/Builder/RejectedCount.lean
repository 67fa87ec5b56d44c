import SqlToolkit.Proofs.Builder.RowCount
import SqlToolkit.Proofs.Connection.Acceptance

/-!
# When the counting statement is rejected

A rejected counting statement is to do no harm: the statement itself runs again, and its rows are
counted. That is so on a connection that errors do not abort, and outside a transaction, where the
client rolls the rejected statement back. Within a transaction of the caller's it does not, and if
the error has aborted the transaction, then the statement is rejected, too.
-/

namespace SqlToolkit

open Connection (Accepts Endures TakesReads)

namespace Builder

variable {σ : Type} [Connection σ] {builder : Builder σ} {sql probe : String}
  {placeholders : Value.Entries} {sent : String × Option Arguments}

/-- The last statement was a read, and it would be accepted again. -/
structure Repeats (builder : Builder σ) (sql : String) (sent : String × Option Arguments) :
    Prop where
  statement : builder.last.sql = some sql
  wasRead : builder.last.wasRead = true
  request : PreparedStatement.request (Connection.parser σ) builder.client.paramstyle
    sql builder.last.placeholders =
    .ok sent
  accepts : Accepts builder.client.connection sent.1 sent.2

/-- What counts the last statement only reads, and gives a number if it is accepted. -/
structure ProbesByReading (builder : Builder σ) (reads : String → Option Arguments → Prop)
    (sql : String) : Prop where
  reads : ∀ probe sent, builder.probe? sql = some probe →
    PreparedStatement.request (Connection.parser σ) builder.client.paramstyle
      probe builder.last.placeholders =
      .ok sent → reads sent.1 sent.2
  number : ∀ probe again final, builder.probe? sql = some probe →
    builder.client.Sends probe builder.last.placeholders again final →
      ∃ count, countOf again.firstRow = .ok count

/-- The counting statement leaves the statement itself its chance. It can be sent. If it is
accepted, its values can be captured, if they have to be; and if it is rejected, no transaction of
the caller's is aborted. -/
def Spares (builder : Builder σ) (aborts : Bool) (probe : String) : Prop :=
  ∃ sent,
    PreparedStatement.request (Connection.parser σ) builder.client.paramstyle
      probe builder.last.placeholders =
      .ok sent ∧
    (Accepts builder.client.connection sent.1 sent.2 →
      builder.Captures builder.last.placeholders) ∧
    (¬Accepts builder.client.connection sent.1 sent.2 →
      ¬(builder.client.inTransaction = true ∧ aborts = true))

/-- Counting returns, and what was accepted before is accepted after. -/
def CountsHarmlessly (builder : Builder σ) : Prop :=
  (∃ count, numRows.outcome builder = .ok count) ∧
    ∀ sql values, Accepts builder.client.connection sql values →
      Accepts (numRows.after builder).client.connection sql values

/-! ## Statements that are sent -/

variable {aborts : Bool} {reads : String → Option Arguments → Prop} {clean : σ → Prop}

section Sent

variable (hbackend : TakesReads aborts reads clean) (hreads : reads sent.1 sent.2)
  (hclean : builder.client.inTransaction = false → clean builder.client.connection)
  (hsent : PreparedStatement.request (Connection.parser σ) builder.client.paramstyle
    sql placeholders = .ok sent)

include hbackend hreads hclean hsent

/-- An accepted read is answered, and leaves the connection as good as it was. -/
theorem exists_sends_of_accepts (h : Accepts builder.client.connection sent.1 sent.2) :
    ∃ exchange final, builder.client.Sends sql placeholders exchange final ∧
      Endures clean builder.client.connection final.connection := by
  obtain ⟨⟨answer, hanswer⟩, hendures⟩ := Client.run_of_accepts hbackend hreads hclean h
  exact ⟨⟨sent.1, sent.2, answer⟩, _,
    ⟨hsent, Client.exchanges_singleton_iff.mpr ⟨hanswer, rfl⟩⟩, hendures⟩

/-- Counting again returns if the statement is accepted. -/
theorem countAgain_of_accepts (h : Accepts builder.client.connection sent.1 sent.2) :
    (∃ count, (countAgain sql placeholders).outcome builder = .ok count) ∧
      Endures clean builder.client.connection
        ((countAgain sql placeholders).after builder).client.connection := by
  obtain ⟨exchange, final, hsends, hendures⟩ :=
    exists_sends_of_accepts hbackend hreads hclean hsent h
  obtain ⟨hcount, hclient⟩ := countAgain_of_sends hsends
  exact ⟨⟨_, hcount⟩, hclient ▸ hendures⟩

end Sent

/-- Only what is accepted is answered. -/
theorem accepts_of_sends {exchange : Exchange} {final : Client σ}
    (hsent : PreparedStatement.request (Connection.parser σ) builder.client.paramstyle
      sql placeholders = .ok sent)
    (h : builder.client.Sends sql placeholders exchange final) :
    Accepts builder.client.connection sent.1 sent.2 := by
  have hrun := (Client.exchanges_singleton_iff.mp h.exchanged).1
  rw [Except.ok.inj (hsent.symm.trans h.request)]
  exact Client.accepts_of_run hrun

/-- Counting again returns only if the statement is accepted. -/
theorem accepts_of_countAgain {count : Int}
    (hsent : PreparedStatement.request (Connection.parser σ) builder.client.paramstyle
      sql placeholders = .ok sent)
    (h : (countAgain sql placeholders).outcome builder = .ok count) :
    Accepts builder.client.connection sent.1 sent.2 := by
  obtain ⟨exchange, hsends, -⟩ := sends_of_countAgain h
  exact accepts_of_sends hsent hsends

/-- A counting statement that was sent and rejected is followed by the statement itself. -/
theorem countRead_of_not_accepts (hp : builder.probe? sql = some probe)
    (hsent : PreparedStatement.request (Connection.parser σ) builder.client.paramstyle
      probe placeholders = .ok sent)
    (h : ¬Accepts builder.client.connection sent.1 sent.2) :
    ∃ s : Builder σ, s.client = (Client.run sent.1 sent.2).after builder.client ∧
      s.client.paramstyle = builder.client.paramstyle ∧
      s.client.inTransaction = builder.client.inTransaction ∧
      countRead sql placeholders builder = countAgain sql placeholders s := by
  obtain ⟨statement, hran⟩ := PreparedStatement.outcome_run_of_request hsent
  cases hrun : (Client.run sent.1 sent.2).outcome builder.client with
  | ok answer => exact absurd (Client.accepts_of_run hrun) h
  | error fault =>
    obtain ⟨message, rfl⟩ := Client.run_failsByRefusal sent.1 sent.2 builder.client fault hrun
    rw [hrun] at hran
    obtain ⟨s, hs, hagain⟩ := countRead_of_rejected hp hran rfl
    have hclient := hs.trans (PreparedStatement.after_run_of_request hsent)
    have hdriver : builder.client.driver = s.client.driver :=
      hclient ▸ Client.run_leavesDriver sent.1 sent.2 builder.client
    have hkeeps : builder.client.KeepsTransaction s.client :=
      hclient ▸ Client.run_keepsTransaction sent.1 sent.2 builder.client
    exact ⟨s, hclient, (congrArg Prod.fst hdriver).symm, hkeeps.same, hagain⟩

/-- Once the rejected counting statement has aborted a transaction of the caller's, counting fails
like any other read. -/
theorem countRead_of_aborted {probing : String × Option Arguments}
    (hbackend : TakesReads true reads clean)
    (hsent : PreparedStatement.request (Connection.parser σ) builder.client.paramstyle
      sql placeholders = .ok sent)
    (hreads : reads sent.1 sent.2) (hp : builder.probe? sql = some probe)
    (hprobing : PreparedStatement.request (Connection.parser σ) builder.client.paramstyle
      probe placeholders =
      .ok probing)
    (hprobeReads : reads probing.1 probing.2)
    (h : ¬Accepts builder.client.connection probing.1 probing.2)
    (hopen : builder.client.inTransaction = true) :
    ∃ fault, (countRead sql placeholders).outcome builder = .error fault := by
  obtain ⟨s, hs, hstyle, -, hagain⟩ := countRead_of_not_accepts hp hprobing h
  rw [Action.outcome_congr hagain]
  cases hcount : (countAgain sql placeholders).outcome s with
  | error fault => exact ⟨fault, rfl⟩
  | ok count =>
    have haccepts := accepts_of_countAgain (hstyle ▸ hsent) hcount
    rw [hs] at haccepts
    exact absurd haccepts
      ((Client.run_of_aborted hbackend hprobeReads h hopen rfl).2 _ _ hreads)

/-- It depends on the counting statement as it is sent whether the statement itself is spared. -/
theorem spares_iff
    (h : PreparedStatement.request (Connection.parser σ) builder.client.paramstyle
      probe builder.last.placeholders =
      .ok sent) :
    builder.Spares aborts probe ↔
      (Accepts builder.client.connection sent.1 sent.2 →
        builder.Captures builder.last.placeholders) ∧
      (¬Accepts builder.client.connection sent.1 sent.2 →
        ¬(builder.client.inTransaction = true ∧ aborts = true)) := by
  refine ⟨fun ⟨sent', hsent', hspares⟩ => ?_, fun hspares => ⟨sent, h, hspares⟩⟩
  cases h.symm.trans hsent'
  exact hspares

/-! ## Counting the last read -/

section Last

variable (hlast : builder.Repeats sql sent)

include hlast

theorem countsHarmlessly_iff_countRead :
    builder.CountsHarmlessly ↔
      (∃ count, (countRead sql builder.last.placeholders).outcome builder = .ok count) ∧
        ∀ sql' values, Accepts builder.client.connection sql' values →
          Accepts ((countRead sql builder.last.placeholders).after builder).client.connection
            sql' values := by
  have hread := numRows_of_read hlast.statement hlast.wasRead
  unfold CountsHarmlessly
  rw [Action.outcome_congr hread, Action.after_congr hread]

/-- A counting statement that cannot be sent is not made up for. -/
theorem not_countsHarmlessly_of_unbound {fault : Fault} (hp : builder.probe? sql = some probe)
    (h : PreparedStatement.request (Connection.parser σ) builder.client.paramstyle
      probe builder.last.placeholders =
      .error fault) : ¬builder.CountsHarmlessly := by
  rw [countsHarmlessly_iff_countRead hlast]
  rintro ⟨⟨count, hcount⟩, -⟩
  -- the statement itself was sent with the same values, so one is missing here
  have htoolkit := PreparedStatement.isToolkit_of_request hlast.request h
  cases hcount.symm.trans (countRead_of_unbound hp h htoolkit).1

variable (hbackend : TakesReads aborts reads clean)
  (hclean : builder.client.inTransaction = false → clean builder.client.connection)

include hbackend hclean

/-- A counting statement that is accepted fails only at what is captured of it. -/
theorem countsHarmlessly_iff_of_accepts {probing : String × Option Arguments}
    (hprobes : builder.ProbesByReading reads sql) (hp : builder.probe? sql = some probe)
    (hprobing : PreparedStatement.request (Connection.parser σ) builder.client.paramstyle probe
      builder.last.placeholders = .ok probing)
    (h : Accepts builder.client.connection probing.1 probing.2) :
    builder.CountsHarmlessly ↔ builder.Captures builder.last.placeholders := by
  obtain ⟨exchange, final, hsends, hendures⟩ := exists_sends_of_accepts hbackend
    (hprobes.reads probe probing hp hprobing) hclean hprobing h
  rw [countsHarmlessly_iff_countRead hlast, client_countRead_of_sends hp hsends]
  refine ⟨fun ⟨⟨count, hcount⟩, _⟩ => ?_, fun hcaptures => ⟨?_, hendures.accepts⟩⟩
  · refine Classical.byContradiction fun hfails => ?_
    obtain ⟨fault, hfault⟩ := outcome_countRead_of_not_captures hp hsends hfails
    cases hcount.symm.trans hfault
  · rw [outcome_countRead_of_sends hp hsends hcaptures]
    exact hprobes.number probe exchange final hp hsends

/-- A counting statement that is rejected is made up for, unless that aborts a transaction of the
caller's. -/
theorem countsHarmlessly_iff_of_not_accepts {probing : String × Option Arguments}
    (hreads : reads sent.1 sent.2) (hprobes : builder.ProbesByReading reads sql)
    (hp : builder.probe? sql = some probe)
    (hprobing : PreparedStatement.request (Connection.parser σ) builder.client.paramstyle probe
      builder.last.placeholders = .ok probing)
    (h : ¬Accepts builder.client.connection probing.1 probing.2) :
    builder.CountsHarmlessly ↔ ¬(builder.client.inTransaction = true ∧ aborts = true) := by
  have hprobeReads := hprobes.reads probe probing hp hprobing
  rw [countsHarmlessly_iff_countRead hlast]
  refine ⟨fun ⟨⟨count, hcount⟩, _⟩ ⟨hopen, ha⟩ => ?_, fun hspared => ?_⟩
  · obtain ⟨fault, hfault⟩ := countRead_of_aborted (ha ▸ hbackend) hlast.request hreads hp hprobing
      hprobeReads h hopen
    cases hcount.symm.trans hfault
  · obtain ⟨s, hs, hstyle, hopen, hagain⟩ := countRead_of_not_accepts hp hprobing h
    obtain ⟨-, hendures⟩ := Client.run_of_not_accepts hbackend hprobeReads hclean h hspared
    rw [← hs] at hendures
    have hsent := hlast.request
    rw [← hstyle] at hsent
    obtain ⟨hcount, hstill⟩ := countAgain_of_accepts hbackend hreads
      (fun hclosed => hendures.clean (hclean (hopen ▸ hclosed))) hsent
      (hendures.accepts _ _ hlast.accepts)
    rw [Action.outcome_congr hagain, Action.after_congr hagain]
    exact ⟨hcount, (hendures.trans hstill).accepts⟩

end Last

/-- **When a rejected counting statement does no harm.** The last statement was a read that would be
accepted again; what counts its rows only reads, too, and gives a number if it is accepted; and
outside a transaction nothing waits to be committed. Then counting returns and leaves accepted what
was accepted before, exactly if there is no counting statement or it spares the statement itself:
its markers have values, it is rejected within a transaction of the caller's only if that does not
abort it, and if it is accepted while statements are captured, its values can be shown. -/
theorem countsHarmlessly_iff (hbackend : TakesReads aborts reads clean)
    (hclean : builder.client.inTransaction = false → clean builder.client.connection)
    (hlast : builder.Repeats sql sent) (hreads : reads sent.1 sent.2)
    (hprobes : builder.ProbesByReading reads sql) :
    builder.CountsHarmlessly ↔
      ∀ probe, builder.probe? sql = some probe → builder.Spares aborts probe := by
  cases hp : builder.probe? sql with
  | none =>
    refine iff_of_true ((countsHarmlessly_iff_countRead hlast).mpr ?_) nofun
    obtain ⟨hcount, hendures⟩ :=
      countAgain_of_accepts hbackend hreads hclean hlast.request hlast.accepts
    rw [Action.outcome_congr (countRead_of_no_probe hp),
      Action.after_congr (countRead_of_no_probe hp)]
    exact ⟨hcount, hendures.accepts⟩
  | some probe =>
    simp only [Option.some.injEq, forall_eq']
    cases hprobing : PreparedStatement.request (Connection.parser σ) builder.client.paramstyle probe
        builder.last.placeholders with
    | error fault =>
      refine iff_of_false (not_countsHarmlessly_of_unbound hlast hp hprobing) ?_
      rintro ⟨sent', hsent', -⟩
      cases hprobing.symm.trans hsent'
    | ok probing =>
      rw [spares_iff hprobing]
      by_cases ha : Accepts builder.client.connection probing.1 probing.2
      · rw [countsHarmlessly_iff_of_accepts hlast hbackend hclean hprobes hp hprobing ha]
        exact ⟨fun h => ⟨fun _ => h, fun hn => absurd ha hn⟩, fun h => h.1 ha⟩
      · rw [countsHarmlessly_iff_of_not_accepts hlast hbackend hclean hreads hprobes hp hprobing ha]
        exact ⟨fun h => ⟨fun hy => absurd hy ha, fun _ => h⟩, fun h => h.2 ha⟩

end Builder

/-! ### A connection that rejects counts -/

/-- A connection that knows the answers to some statements and rejects all others. -/
structure Knowing (aborts : Bool) where
  answers : List (String × ResultSet)
  aborted : Bool := false

namespace Knowing

variable {aborts : Bool} {connection : Knowing aborts} {sql : String} {values : Option Arguments}

/-- In an aborted transaction no answer is known. -/
def answer? (connection : Knowing aborts) (sql : String) : Option ResultSet :=
  if connection.aborted then none else connection.answers.lookup sql

def execute (sql : String) (connection : Knowing aborts) :
    Except String ResultSet × Knowing aborts :=
  match connection.answer? sql with
  | some answer => (.ok answer, connection)
  | none => (.error "rejected", { connection with aborted := connection.aborted || aborts })

instance : Connection (Knowing aborts) where
  execute sql _ := execute sql
  commit connection := (.ok (), { connection with aborted := false })
  rollback connection := (.ok (), { connection with aborted := false })
  close := id
  hasOpenWork _ := true

/-- What is known is accepted, unless an error has aborted the transaction. -/
theorem accepts_iff (connection : Knowing aborts) (sql : String) (values : Option Arguments) :
    Accepts connection sql values ↔ (connection.answer? sql).isSome = true := by
  unfold Accepts
  change (∃ answer, (execute sql connection).1 = .ok answer) ↔ _
  unfold execute
  cases connection.answer? sql with
  | none => exact iff_of_false nofun Bool.false_ne_true
  | some answer => exact iff_of_true ⟨_, rfl⟩ rfl

theorem answered_of_accepts (h : Accepts connection sql values) :
    Connection.answered connection (.execute sql values) = connection := by
  obtain ⟨answer, ha⟩ := Option.isSome_iff_exists.mp ((accepts_iff _ _ _).mp h)
  change (execute sql connection).2 = connection
  rw [execute, ha]

theorem answered_of_not_accepts (h : ¬Accepts connection sql values) :
    Connection.answered connection (.execute sql values) =
      { connection with aborted := connection.aborted || aborts } := by
  rw [accepts_iff, Bool.not_eq_true, Option.isSome_eq_false_iff, Option.isNone_iff_eq_none] at h
  change (execute sql connection).2 = _
  rw [execute, h]

/-- Once the transaction of a statement is over, all is as good as before it. -/
theorem endures_settled (connection : Knowing aborts) (sql : String) (values : Option Arguments) :
    Endures (fun _ => True) connection
      { Connection.answered connection (.execute sql values) with aborted := false } where
  accepts sql' values' h := by
    have hanswers : (Connection.answered connection (.execute sql values)).answers =
        connection.answers := by
      by_cases ha : Accepts connection sql values
      · rw [answered_of_accepts ha]
      · rw [answered_of_not_accepts ha]
    rw [accepts_iff, answer?] at h ⊢
    dsimp only
    rw [hanswers]
    split at h
    · cases h
    · exact h
  clean _ := trivial

theorem takesReads :
    TakesReads aborts (fun _ _ => True) (fun _ : Knowing aborts => True) where
  accepted _ h := by
    rw [answered_of_accepts h]
    exact .refl _ _
  committed _ _ _ := ⟨rfl, endures_settled _ _ _⟩
  spared ha _ _ _ _ h := by
    subst ha
    rw [answered_of_not_accepts h, Bool.or_false]
    exact .refl _ _
  aborted ha _ _ _ _ h := by
    subst ha
    refine ⟨rfl, fun sql' values' _ haccepts => ?_⟩
    rw [answered_of_not_accepts h, Bool.or_true, accepts_iff] at haccepts
    cases haccepts
  rolledBack _ _ _ := ⟨rfl, endures_settled _ _ _⟩

end Knowing

namespace Builder

/-- A builder on a connection that knows the rows of a statement, but not how many they are. -/
def onKnowing (aborts inTransaction : Bool) : Builder (Knowing aborts) where
  client := { connection := { answers := [(nullRows.sql, nullRows.answer)] }, inTransaction }
  dialect := .sqlite
  descriptor := withNull

/-- The rows were read, and reading them again would be accepted, but not counting them. -/
theorem repeats_onKnowing (aborts inTransaction : Bool) :
    let ready := execute.after (onKnowing aborts inTransaction)
    ready.Repeats nullRows.sql (nullRows.sql, none) ∧
      ready.client.inTransaction = inTransaction ∧
      ready.probe? nullRows.sql = some nullCount.sql ∧
      PreparedStatement.request (Connection.parser (Knowing aborts)) ready.client.paramstyle
        nullCount.sql ready.last.placeholders = .ok (nullCount.sql, none) ∧
      ¬Accepts ready.client.connection nullCount.sql none := by
  intro ready
  obtain ⟨client, hsends, hstyle, hopen, hconnection⟩ :
      ∃ client, (onKnowing aborts inTransaction).client.Sends nullRows.sql [] nullRows client ∧
        client.paramstyle = .qmark ∧ client.inTransaction = inTransaction ∧
        client.connection = { answers := [(nullRows.sql, nullRows.answer)] } := by
    cases inTransaction <;>
      exact ⟨_, ⟨rfl, .cons rfl (.nil _)⟩, rfl, rfl, rfl⟩
  obtain ⟨-, hready, hread⟩ := execute_of_sends rfl rfl hsends nofun
  rw [show execute.after (onKnowing aborts inTransaction) = ready from rfl] at hready hread
  clear_value ready
  have hprobe : ready.probe? nullRows.sql = some nullCount.sql := by
    rw [hread.probe?_eq]
    change Statement.countProbe? nullRows.sql withNull.countExpression? = some nullCount.sql
    decide +kernel
  have hrequest (sql : String)
      (h : PreparedStatement.request (Connection.parser (Knowing aborts)) .qmark sql [] =
        .ok (sql, none)) :
      PreparedStatement.request (Connection.parser (Knowing aborts)) ready.client.paramstyle sql
        ready.last.placeholders = .ok (sql, none) := by
    rw [hready, hstyle, hread.holds.placeholders]
    exact h
  refine ⟨⟨hread.holds.sql, hread.holds.wasRead, hrequest _ rfl, ?_⟩, hready ▸ hopen, hprobe,
    hrequest _ rfl, ?_⟩
  · rw [hready, hconnection]
    exact ⟨_, rfl⟩
  · rw [hready, hconnection, Knowing.accepts_iff]
    change ¬([(nullRows.sql, nullRows.answer)].lookup nullCount.sql).isSome = true
    decide +kernel

theorem countsHarmlessly_iff_onKnowing :
    let ready := execute.after (onKnowing true false)
    TakesReads true (fun _ _ => True) (fun _ : Knowing true => True) ∧
      (ready.client.inTransaction = false → True) ∧
      ready.Repeats nullRows.sql (nullRows.sql, none) ∧ True ∧
      ready.ProbesByReading (fun _ _ => True) nullRows.sql ∧ ready.CountsHarmlessly := by
  intro ready
  obtain ⟨hrepeats, hopen, hprobe, hrequest, hrejected⟩ := repeats_onKnowing true false
  have hprobes : ready.ProbesByReading (fun _ _ => True) nullRows.sql := by
    refine ⟨fun _ _ _ _ => trivial, fun probe again final hp hsends => ?_⟩
    cases hprobe.symm.trans hp
    exact absurd (accepts_of_sends hrequest hsends) hrejected
  refine ⟨Knowing.takesReads, fun _ => trivial, hrepeats, trivial, hprobes, ?_⟩
  refine (countsHarmlessly_iff Knowing.takesReads (fun _ => trivial) hrepeats trivial
    hprobes).mpr fun probe hp => ?_
  cases hprobe.symm.trans hp
  exact (spares_iff hrequest).mpr ⟨fun h => absurd h hrejected, fun _ ⟨h, _⟩ => by
    cases hopen.symm.trans h⟩

/-- Within a transaction that errors abort, a rejected counting statement is the end of it: counting
fails, though the statement itself would have been accepted. -/
theorem rejected_count_aborts :
    let ready := execute.after (onKnowing true true)
    TakesReads true (fun _ _ => True) (fun _ : Knowing true => True) ∧
      ready.Repeats nullRows.sql (nullRows.sql, none) ∧
      (∃ fault, numRows.outcome ready = .error fault) ∧ ¬ready.CountsHarmlessly := by
  intro ready
  obtain ⟨hrepeats, hopen, hprobe, hrequest, hrejected⟩ := repeats_onKnowing true true
  obtain ⟨fault, hfault⟩ := countRead_of_aborted Knowing.takesReads hrepeats.request trivial hprobe
    hrequest trivial hrejected hopen
  rw [← Action.outcome_congr (numRows_of_read hrepeats.statement hrepeats.wasRead)] at hfault
  refine ⟨Knowing.takesReads, hrepeats, ⟨fault, hfault⟩, fun ⟨⟨count, hcount⟩, _⟩ => ?_⟩
  cases hcount.symm.trans hfault

end Builder

end SqlToolkit
