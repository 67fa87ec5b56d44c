import SqlToolkit.Proofs.Builder.Execute
import SqlToolkit.Proofs.Session.Layers
import SqlToolkit.Proofs.Transaction.Scope

/-!
# What calls make of a connection

A connection changes by the calls made on it alone. So the calls that a client has recorded since
some moment lead from the connection of that moment to the one it has now, whatever was answered;
this holds of every step of a client, and the layers above pass it on.
-/

namespace SqlToolkit

open SqlToolkit.Action (Keeps)

variable {σ : Type} [Connection σ]

namespace Connection

/-- A connection after a call, however the call was answered. -/
def answered (connection : σ) : Call → σ
  | .execute sql arguments => (execute sql arguments connection).2
  | .commit => (commit connection).2
  | .rollback => (rollback connection).2
  | .close => close connection

def reached (connection : σ) (calls : List Call) : σ := calls.foldl answered connection

theorem reached_append (connection : σ) (first second : List Call) :
    reached connection (first ++ second) = reached (reached connection first) second :=
  List.foldl_append

/-- A connection that does not tell about open work: whatever is called on it, there may be some. -/
def TellsNothing (connection : σ) : Prop :=
  ∀ calls, hasOpenWork (reached connection calls) = true

theorem TellsNothing.reached {connection : σ} (h : TellsNothing connection) (calls : List Call) :
    TellsNothing (Connection.reached connection calls) := by
  intro more
  rw [← reached_append]
  exact h (calls ++ more)

end Connection

open Connection (reached reached_append)

namespace Client

/-- Between two states of a client it made calls of a kind, and its connection is what these calls
made of it. -/
def Makes (kind : σ → List Call → Prop) (before after : Client σ) : Prop :=
  ∃ made, after.calls = before.calls ++ made ∧
    after.connection = reached before.connection made ∧ kind before.connection made

theorem Makes.mono {kind kind' : σ → List Call → Prop} {before after : Client σ}
    (h : ∀ made, kind before.connection made → kind' before.connection made)
    (hm : before.Makes kind after) : before.Makes kind' after := by
  obtain ⟨made, hcalls, hconnection, hkind⟩ := hm
  exact ⟨made, hcalls, hconnection, h made hkind⟩

theorem Makes.nothing {kind : σ → List Call → Prop} {before after : Client σ}
    (hcalls : after.calls = before.calls) (hconnection : after.connection = before.connection)
    (h : kind before.connection []) : before.Makes kind after :=
  ⟨[], by rw [hcalls, List.append_nil], hconnection, h⟩

theorem Makes.append {first second third : σ → List Call → Prop} {before middle after : Client σ}
    (h : ∀ made made', first before.connection made →
      second (reached before.connection made) made' → third before.connection (made ++ made'))
    (hm : before.Makes first middle) (hm' : middle.Makes second after) :
    before.Makes third after := by
  obtain ⟨made, hcalls, hconnection, hkind⟩ := hm
  obtain ⟨made', hcalls', hconnection', hkind'⟩ := hm'
  rw [hconnection] at hconnection' hkind'
  exact ⟨made ++ made', by rw [hcalls', hcalls, List.append_assoc],
    by rw [hconnection', reached_append], h made made' hkind hkind'⟩

theorem Makes.and {first second : σ → List Call → Prop} {before after : Client σ}
    (h : before.Makes first after) (h' : before.Makes second after) :
    before.Makes (fun connection made => first connection made ∧ second connection made) after := by
  obtain ⟨made, hcalls, hconnection, hkind⟩ := h
  obtain ⟨made', hcalls', -, hkind'⟩ := h'
  cases List.append_cancel_left (hcalls.symm.trans hcalls')
  exact ⟨made, hcalls, hconnection, hkind, hkind'⟩

/-- The calls made in between lead from the one connection to the other. -/
abbrev Tracks (before after : Client σ) : Prop := before.Makes (fun _ _ => True) after

instance : IsPreorder (Client σ) Tracks where
  refl _ := .nothing rfl rfl trivial
  trans _ _ _ h h' := h.append (fun _ _ _ _ => trivial) h'

/-- What was called in between is what the calls show. -/
theorem Tracks.connection_eq {before after : Client σ} {made : List Call}
    (h : before.Tracks after) (hcalls : after.calls = before.calls ++ made) :
    after.connection = reached before.connection made := by
  obtain ⟨made', hcalls', hconnection, -⟩ := h
  rw [hconnection, List.append_cancel_left (hcalls.symm.trans hcalls')]

/-! ## The steps of a client -/

theorem sendStatement_tracks (sql : String) (arguments : Option Arguments) :
    Keeps Tracks id (sendStatement sql arguments : Action (Client σ) ResultSet) := by
  intro client
  unfold sendStatement
  rw [after_send]
  exact ⟨[.execute sql arguments], rfl, rfl, trivial⟩

theorem sendCommit_tracks : Keeps Tracks id (sendCommit : Action (Client σ) Unit) := by
  intro client
  unfold sendCommit
  rw [after_send]
  exact ⟨[.commit], rfl, rfl, trivial⟩

theorem sendRollback_tracks : Keeps Tracks id (sendRollback : Action (Client σ) Unit) := by
  intro client
  unfold sendRollback
  rw [after_send]
  exact ⟨[.rollback], rfl, rfl, trivial⟩

/-! ### What every ending of a transaction keeps -/

section

variable {R : Client σ → Client σ → Prop} [IsPreorder (Client σ) R]

/-- Whatever a client notes without a call is overlooked. -/
def Overlooks (R : Client σ → Client σ → Prop) : Prop :=
  ∀ before after : Client σ, after.calls = before.calls →
    after.connection = before.connection → R before after

theorem settle_keeps {ending : Action (Client σ) Unit} (h : Keeps R id ending) :
    Keeps R id (settle ending) := by
  refine Keeps.get.bind fun client => ?_
  split
  · exact h
  · exact Keeps.pure _

omit [Connection σ] [IsPreorder (Client σ) R] in
theorem Overlooks.modify (hR : Overlooks R) {change : Client σ → Client σ}
    (hcalls : ∀ client, (change client).calls = client.calls)
    (hconnection : ∀ client, (change client).connection = client.connection) :
    Keeps R id (modify change : Action (Client σ) PUnit) :=
  fun client => hR _ _ (hcalls client) (hconnection client)

omit [Connection σ] in
theorem endTransaction_keeps (hR : Overlooks R) {ending : Action (Client σ) Unit}
    (h : Keeps R id ending) : Keeps R id (endTransaction ending) := by
  refine Keeps.get.bind fun client => ?_
  have ends : Keeps R id (do
      let result ← Action.attempt ending
      modify fun client : Client σ => { client with inTransaction := false }
      Action.ofAttempt result) :=
    h.attempt.bind fun _ =>
      Keeps.bind (hR.modify (fun _ => rfl) fun _ => rfl) fun _ => Keeps.ofAttempt _
  split
  · exact Keeps.bind (Keeps.throw _) fun _ => ends
  · exact ends

omit [Connection σ] in
theorem beginTransaction_keeps (hR : Overlooks R) :
    Keeps R id (beginTransaction : Action (Client σ) Unit) := by
  refine Keeps.get.bind fun client => ?_
  have begins : Keeps R id
      (modify fun client : Client σ => { client with inTransaction := true }) :=
    hR.modify (fun _ => rfl) fun _ => rfl
  split
  · exact Keeps.bind (Keeps.throw _) fun _ => begins
  · exact begins

/-- What follows the answer to a statement notes the row id and settles. -/
theorem settled_keeps (hR : Overlooks R)
    (hcommit : Keeps R id (sendCommit : Action (Client σ) Unit))
    (hrollback : Keeps R id (sendRollback : Action (Client σ) Unit)) (given : Attempt ResultSet) :
    Keeps R id (match given with
      | .ok result => do
        modify fun client => { client with lastRowId := result.rowId.getD .null }
        settle sendCommit
        return result
      | .error fault => do
        settle sendRollback
        throw fault : Action (Client σ) ResultSet) := by
  split
  · exact Keeps.bind (hR.modify (fun _ => rfl) fun _ => rfl) fun _ =>
      (settle_keeps hcommit).bind fun _ => Keeps.pure _
  · exact (settle_keeps hrollback).bind fun _ => Keeps.throw _

end

theorem tracks_overlooks : Overlooks (Tracks : Client σ → Client σ → Prop) :=
  fun _ _ hcalls hconnection => .nothing hcalls hconnection trivial

theorem run_tracks (sql : String) (arguments : Option Arguments) :
    Keeps Tracks id (run sql arguments : Action (Client σ) ResultSet) :=
  (sendStatement_tracks sql arguments).attempt.bind
    (settled_keeps tracks_overlooks sendCommit_tracks sendRollback_tracks)

theorem commit_tracks : Keeps Tracks id (commit : Action (Client σ) Unit) :=
  endTransaction_keeps tracks_overlooks sendCommit_tracks

theorem rollback_tracks : Keeps Tracks id (rollback : Action (Client σ) Unit) :=
  endTransaction_keeps tracks_overlooks sendRollback_tracks

end Client

/-! ## Writes of the builder -/

namespace Builder

open Client (Overlooks Tracks)

section

variable {R : Client σ → Client σ → Prop} [IsPreorder (Client σ) R]
  (hcommit : Keeps R id (Client.commit : Action (Client σ) Unit))
  (hrollback : Keeps R id (Client.rollback : Action (Client σ) Unit))

include hrollback in
theorem abandon_keeps (owned : Bool) :
    Keeps R Builder.client (abandon owned : Action (Builder σ) Unit) := by
  refine Keeps.get.bind fun builder => ?_
  split
  · exact onClient_keeps hrollback
  · exact Keeps.pure _

include hcommit hrollback

theorem conclude_keeps (owned rollbackOnly : Bool) :
    Keeps R Builder.client (conclude owned rollbackOnly : Action (Builder σ) Unit) := by
  unfold conclude
  split
  · split
    · exact onClient_keeps hrollback
    · exact onClient_keeps hcommit
  · exact Keeps.pure _

/-- The guard around a write keeps what its body and the endings of a transaction keep. -/
theorem scope_keeps_of_endings (hR : Overlooks R) {α : Type} {body : Action (Builder σ) (α × Bool)}
    (owned : Bool) (hb : Keeps R Builder.client body) :
    Keeps R Builder.client (transactionScope Part.whole owned body) := by
  cases owned with
  | false =>
    intro builder
    rw [after_scope_unowned]
    exact hb builder
  | true =>
    unfold transactionScope
    simp only [if_true, Action.on_whole]
    refine (onClient_keeps (Client.beginTransaction_keeps hR)).bind fun _ =>
      hb.attempt.bind fun answer => ?_
    split
    · exact (abandon_keeps hrollback true).bind fun _ => Keeps.throw _
    · exact (conclude_keeps hcommit hrollback true _).bind fun _ => Keeps.pure _

end

theorem executeStatement_tracks :
    Keeps Tracks Builder.client (executeStatement : Action (Builder σ) ExecutionResult) := by
  intro builder
  cases h : builder.rendered with
  | error fault => rw [client_of_refused h]; exact refl _
  | ok statement =>
    obtain ⟨sql, placeholders⟩ := statement
    cases hh : builder.holdsBack sql with
    | true => rw [client_of_held h hh]; exact refl _
    | false =>
      rw [client_of_sent h hh]
      exact scope_keeps_of_endings Client.commit_tracks Client.rollback_tracks
        Client.tracks_overlooks _ (sendWrite_keeps Client.run_tracks _ _ _ _) builder

end Builder

end SqlToolkit
