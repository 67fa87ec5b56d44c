import SqlToolkit.Pages.Pager

/-!
# The operations that run statements

A session is a client, a builder on it, a facade over the builder and a pager over the facade, one
inside the other. The operations listed here are those that may send a statement to the connection
on their own account; composing, fetching and explicit transactions are not among them.
-/

namespace SqlToolkit

variable {σ : Type}

def Facade.client (facade : Facade σ) : Client σ := facade.builder.client

def Pager.client (pager : Pager σ) : Client σ := pager.facade.builder.client

/-- An operation that runs statements, with what it is given. -/
inductive StatementOperation where
  | exec (sql : String)
  | prepared (statement : PreparedStatement)
  | execute
  | executeQuery
  | executeStatement
  | numRows
  | maximum (table column : Value)
  | query (sql placeholders debug : Value)
  | queryRow (sql placeholders : Value) (mode : FetchMode) (debug : Value)
  | queryValue (sql placeholders debug : Value)
  | select (selection : Facade.Selection) (debug : Value)
  | selectCount (selection : Facade.Selection) (debug : Value) (mode : FetchMode)
  | selectRow (selection : Facade.Selection) (mode : FetchMode) (debug : Value)
  | selectValue (selection : Facade.Selection) (debug : Value)
  | insert (table values debug : Value)
  | update (table values condition debug : Value)
  | delete (table condition debug : Value)
  | columns (table : String) (mode : FetchMode) (debug : Value)
  | columnNames (table : String)
  | tables (debug : Value)
  | page (selection : Facade.Selection) (debug requested : Value)

namespace StatementOperation

/-- An action of the facade, its result left aside. -/
def onFacade {α : Type} (action : Action (Facade σ) α) : Action (Pager σ) Unit := do
  let _ ← Pager.onFacade action

def onBuilder {α : Type} (action : Action (Builder σ) α) : Action (Pager σ) Unit :=
  onFacade (Facade.onBuilder action)

variable [Connection σ]

def run : StatementOperation → Action (Pager σ) Unit
  | .exec sql => onBuilder (Builder.onClient (Client.exec sql))
  | .prepared statement => onBuilder (Builder.onClient statement.execute)
  | .execute => onBuilder Builder.execute
  | .executeQuery => onBuilder Builder.executeQuery
  | .executeStatement => onBuilder Builder.executeStatement
  | .numRows => onBuilder Builder.numRows
  | .maximum table column => onBuilder (Builder.maximum table column)
  | .query sql placeholders debug => onFacade (Facade.query sql placeholders debug)
  | .queryRow sql placeholders mode debug =>
    onFacade (Facade.queryRow sql placeholders mode debug)
  | .queryValue sql placeholders debug => onFacade (Facade.queryValue sql placeholders debug)
  | .select selection debug => onFacade (Facade.select selection debug)
  | .selectCount selection debug mode => onFacade (Facade.selectCount selection debug mode)
  | .selectRow selection mode debug => onFacade (Facade.selectRow selection mode debug)
  | .selectValue selection debug => onFacade (Facade.selectValue selection debug)
  | .insert table values debug => onFacade (Facade.insert table values debug)
  | .update table values condition debug =>
    onFacade (Facade.update table values condition debug)
  | .delete table condition debug => onFacade (Facade.delete table condition debug)
  | .columns table mode debug => onFacade (Facade.columns table mode debug)
  | .columnNames table => onFacade (Facade.columnNames table)
  | .tables debug => onFacade (Facade.tables debug)
  | .page selection debug requested => Pager.select selection debug requested

end StatementOperation

end SqlToolkit
