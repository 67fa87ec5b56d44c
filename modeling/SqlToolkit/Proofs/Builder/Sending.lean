import SqlToolkit.Proofs.Transaction.Frame
import SqlToolkit.Proofs.Transaction.Write

/-!
# When a write is sent

A write reaches the connection exactly if it can be rendered, no debug mode holds it back, and all
its markers have values. Whether it gets a transaction of its own makes no difference to that.
-/

namespace SqlToolkit.Builder

variable {σ : Type} [Connection σ]

/-- There is a statement to send, and no debug mode holds it back. -/
def Sendable (builder : Builder σ) : Prop :=
  ∃ sql placeholders outgoing, builder.rendered = .ok (sql, placeholders) ∧
    builder.holdsBack sql = false ∧ builder.request = .ok outgoing

def SendsStatement (builder : Builder σ) : Prop :=
  ∃ made spelled values, (execute.after builder).client.calls = builder.client.calls ++ made ∧
    Call.execute spelled values ∈ made

variable {builder : Builder σ}

theorem sendsStatement_iff_of_calls {made : List Call}
    (h : (execute.after builder).client.calls = builder.client.calls ++ made) :
    builder.SendsStatement ↔ ∃ spelled values, Call.execute spelled values ∈ made := by
  constructor
  · rintro ⟨made', spelled, values, hc, hm⟩
    rw [List.append_cancel_left (h.symm.trans hc)]
    exact ⟨spelled, values, hm⟩
  · rintro ⟨spelled, values, hm⟩
    exact ⟨made, spelled, values, h, hm⟩

theorem not_sendsStatement_of_same (h : (execute.after builder).client = builder.client) :
    ¬ builder.SendsStatement := by
  have hc : (execute.after builder).client.calls = builder.client.calls ++ [] := by
    rw [h, List.append_nil]
  rw [sendsStatement_iff_of_calls hc]
  rintro ⟨spelled, values, hm⟩
  cases hm

/-- What an own write sends is its request. -/
theorem sendsStatement_of_ownWrite {made : List Call} {given : Attempt ExecutionResult}
    (h : OwnWrite builder made given) :
    (∃ spelled values, Call.execute spelled values ∈ made) ↔
      ∃ outgoing, builder.request = .ok outgoing := by
  cases h with
  | unbound hq =>
    rw [hq]
    constructor
    · rintro ⟨_, _, hm⟩
      cases List.mem_singleton.mp hm
    · rintro ⟨_, h⟩
      cases h
  | rejected hq | undone hq | committed hq | unsettled hq =>
    exact ⟨fun _ => ⟨_, hq⟩, fun _ => ⟨_, _, List.mem_cons_self⟩⟩

theorem client_sendWrite (sql : String) (placeholders : Value.Entries)
    (wantsId rollbackOnly : Bool) (builder : Builder σ) :
    ((sendWrite sql placeholders wantsId rollbackOnly).after builder).client =
      (PreparedStatement.run sql placeholders).after builder.client := by
  unfold sendWrite
  rw [Action.after_bind]
  split
  · rw [Action.after_bind_ok (Action.outcome_get _), Action.after_get, Action.after_pure,
      after_onClient]
    rfl
  · rw [after_onClient]
    rfl

variable {sql : String} {placeholders : Value.Entries}

/-- A write within an open transaction is just run. -/
theorem client_of_unowned (h : builder.rendered = .ok (sql, placeholders))
    (hh : builder.holdsBack sql = false) (ho : builder.ownsTransaction sql = false) :
    (executeStatement.after builder).client =
      (PreparedStatement.run sql placeholders).after builder.client := by
  rw [client_of_sent h hh]
  unfold guardedWrite
  rw [ho, after_scope_unowned, client_sendWrite]

theorem sendsStatement_of_unowned (hw : isRead (Connection.parser σ) builder.descriptor = false)
    (h : builder.rendered = .ok (sql, placeholders)) (hh : builder.holdsBack sql = false)
    (ho : builder.ownsTransaction sql = false) :
    builder.SendsStatement ↔ ∃ outgoing, builder.request = .ok outgoing := by
  have hc : (execute.after builder).client = _ :=
    (congrArg Builder.client (after_execute_of_write hw)).trans (client_of_unowned h hh ho)
  cases hq : builder.request with
  | error fault =>
    have hr := (request_of_rendered h).symm.trans hq
    refine iff_of_false (not_sendsStatement_of_same ?_) ?_
    · rw [hc, Action.after, PreparedStatement.run_of_refused hr]
    · rintro ⟨_, h⟩
      cases h
  | ok outgoing =>
    obtain ⟨spelled, values⟩ := outgoing
    have hr := (request_of_rendered h).symm.trans hq
    obtain ⟨more, hm⟩ := Client.calls_run spelled values builder.client
    refine iff_of_true ⟨.execute spelled values :: more, spelled, values, ?_, List.mem_cons_self⟩
      ⟨_, rfl⟩
    rw [hc, PreparedStatement.after_run_of_request hr, hm]

/-- A write is sent exactly if it can be. -/
theorem write_sendsStatement_iff (hw : isRead (Connection.parser σ) builder.descriptor = false) :
    builder.SendsStatement ↔ builder.Sendable := by
  cases h : builder.rendered with
  | error fault =>
    refine iff_of_false (not_sendsStatement_of_same ?_) ?_
    · rw [after_execute_of_write hw, client_of_refused h]
    · rintro ⟨_, _, _, hr, -⟩
      cases h.symm.trans hr
  | ok written =>
    obtain ⟨sql, placeholders⟩ := written
    cases hh : builder.holdsBack sql with
    | true =>
      refine iff_of_false (not_sendsStatement_of_same ?_) ?_
      · rw [after_execute_of_write hw, client_of_held h hh]
      · rintro ⟨_, _, _, hr, hn, -⟩
        cases h.symm.trans hr
        cases hh.symm.trans hn
    | false =>
      have sendable : builder.Sendable ↔ ∃ outgoing, builder.request = .ok outgoing := by
        constructor
        · rintro ⟨_, _, outgoing, -, -, hq⟩
          exact ⟨outgoing, hq⟩
        · rintro ⟨outgoing, hq⟩
          exact ⟨sql, placeholders, outgoing, h, hh, hq⟩
      rw [sendable]
      cases ho : builder.ownsTransaction sql with
      | true =>
        obtain ⟨made, hc, hown⟩ := executeStatement_ownWrite h ho
        rw [← after_execute_of_write hw] at hc
        rw [sendsStatement_iff_of_calls hc, sendsStatement_of_ownWrite hown]
      | false => exact sendsStatement_of_unowned hw h hh ho

end SqlToolkit.Builder
