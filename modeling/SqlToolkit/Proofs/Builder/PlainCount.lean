import SqlToolkit.Proofs.Builder.RowCount
import SqlToolkit.Proofs.Builder.Trimmed
import SqlToolkit.Proofs.Statement.PlainSelect
import SqlToolkit.Proofs.Written

/-!
# The counting form of what a builder selects

A SELECT that a builder renders with a limit has no counting form, in whatever words the dialect
writes the limit. Without a limit and without groups it has one as long as none of its texts groups,
unites or limits rows or breaks the statement at another place than its own keywords do: the count
is taken of the same table under the same condition, and the order is all that is left out.
-/

namespace SqlToolkit

open SqlToolkit.Statement
open SqlToolkit.Text

theorem Condition.Clause.IsHeaded.opensWith {clause : Clause} (h : clause.IsHeaded) :
    OpensWith ' ' clause.sql.toList := by
  obtain h | ⟨condition, h⟩ := h
  · rw [h]
    exact opensWith_nil
  · rw [h, String.toList_append]
    exact opensWith_cons

namespace Descriptor

/-! ## Plain descriptors -/

def orderText (descriptor : Descriptor) : String :=
  if descriptor.parameters.orderBy.truthy then descriptor.parameters.orderBy.display else ""

/-- A SELECT without groups whose texts do not group, unite or limit rows. `FROM` is no word of its
fields, and the words of an order stand in no text behind them. -/
structure ReadsPlainly (descriptor : Descriptor) : Prop where
  ungrouped : descriptor.parameters.groupBy.truthy = false
  plain : ∀ text ∈ [descriptor.fields, descriptor.table.display, descriptor.clause.sql,
    descriptor.orderText], IsPlain text.toList
  noFrom : ¬ HasWords ["FROM"] descriptor.fields.toList
  noOrder : ∀ text ∈ [descriptor.table.display, descriptor.clause.sql, descriptor.orderText],
    ¬ HasWords ["ORDER", "BY"] text.toList

namespace ReadsPlainly

variable {descriptor : Descriptor}

theorem isPlain_source (h : descriptor.ReadsPlainly) (htrimmed : descriptor.Trimmed) :
    IsPlain descriptor.source.toList := by
  rw [source, String.toList_append]
  exact IsPlain.append (h.plain _ (by simp)) (h.plain _ (by simp)) htrimmed.clause.opensWith

theorem noOrder_source (h : descriptor.ReadsPlainly) (htrimmed : descriptor.Trimmed) :
    ¬ HasWords ["ORDER", "BY"] descriptor.source.toList := by
  have htable := h.noOrder descriptor.table.display (by simp)
  have hclause := h.noOrder descriptor.clause.sql (by simp)
  rw [source, String.toList_append]
  obtain hnone | ⟨condition, hsome⟩ := htrimmed.clause
  · rw [hnone, String.toList_empty, List.append_nil]
    exact htable
  · have hwhere : (" WHERE " ++ condition).toList =
        ' ' :: ("WHERE".toList ++ ' ' :: condition.toList) := by
      rw [String.toList_append]
      rfl
    have hwords : ∀ word ∈ ["ORDER", "BY"], IsSolid word := by decide
    have hsolid : IsSolid "ORDER" := by decide
    rw [hsome, hwhere] at hclause
    rw [hsome, hwhere, hasWords_append hwords (List.cons_ne_nil _ _)]
    · exact fun h => h.elim htable fun h => hclause ((hasWords_blank hsolid).mpr h)
    -- the word behind the table is WHERE, so that no phrase goes on there
    · intro word hword
      rw [List.tail_cons, List.mem_singleton] at hword
      rw [hword]
      rfl

/-- Without groups only an order stands behind the source. -/
theorem tailText_cases (h : descriptor.ReadsPlainly) :
    descriptor.tailText = "" ∨ descriptor.parameters.orderBy.truthy = true ∧
      descriptor.tailText = " ORDER BY " ++ descriptor.orderText := by
  have htail : descriptor.tailText = clauseText "ORDER BY" descriptor.parameters.orderBy := by
    rw [tailText, clauseText, h.ungrouped, if_neg Bool.false_ne_true, String.empty_append]
  rw [htail, clauseText, orderText]
  cases descriptor.parameters.orderBy.truthy with
  | false => exact .inl rfl
  | true => exact .inr ⟨rfl, rfl⟩

theorem isPlain_wholeSource (h : descriptor.ReadsPlainly) (htrimmed : descriptor.Trimmed) :
    IsPlain descriptor.wholeSource.toList := by
  have hsource := h.isPlain_source htrimmed
  rw [wholeSource, String.toList_append]
  obtain htail | ⟨-, htail⟩ := h.tailText_cases
  · rw [htail, String.toList_empty, List.append_nil]
    exact hsource
  · have horder := h.plain descriptor.orderText (by simp)
    have hchars : (" ORDER BY " ++ descriptor.orderText).toList =
        ' ' :: ("ORDER".toList ++ ' ' :: ("BY".toList ++ ' ' :: descriptor.orderText.toList)) := by
      rw [String.toList_append]
      rfl
    rw [htail, hchars, isPlain_append, isPlain_append, isPlain_append]
    exact ⟨hsource, by decide, by decide, horder⟩

/-- What is left of the source without its order is the table and the condition. -/
theorem unordered_eq (h : descriptor.ReadsPlainly) (htrimmed : descriptor.Trimmed)
    (htable : descriptor.table.truthy = true) :
    unordered descriptor.wholeSource = trim descriptor.source := by
  obtain htail | ⟨horders, -⟩ := h.tailText_cases
  · rw [wholeSource, htail, String.append_empty]
    exact unordered_of_noOrder (h.noOrder_source htrimmed)
  · have horder := h.noOrder descriptor.orderText (by simp)
    rw [orderText, if_pos horders] at horder
    obtain ⟨c, more, hchars, hc⟩ := htrimmed.table htable
    have hsource : descriptor.source.toList = c :: (more ++ descriptor.clause.sql.toList) := by
      rw [source, String.toList_append, hchars, List.cons_append]
    refine unordered_wholeSource h.ungrouped horders (beforeLast?_of_noOrder horder) ?_
    rw [hsource, dropBlanks_of_stopsAt (stopsAt_cons.mpr hc)]
    exact List.cons_ne_nil _ _

theorem isFields (h : descriptor.ReadsPlainly) (htrimmed : descriptor.Trimmed) :
    IsFields descriptor.fields.toList := by
  obtain ⟨c, more, hchars, hc⟩ := htrimmed.fields
  have hfrom := h.noFrom
  rw [hchars] at hfrom ⊢
  exact ⟨List.cons_ne_nil _ _, stopsAt_cons.mpr hc, hfrom⟩

/-- A plain SELECT without a limit is counted in its table and under its condition. -/
theorem countProbe?_eq (h : descriptor.ReadsPlainly) (htrimmed : descriptor.Trimmed)
    (hkind : descriptor.kind = .select) (hlimit : descriptor.parameters.limit.isUnset = true)
    {dialect : Dialect} {sql : String} (hsql : descriptor.sql dialect = .ok sql)
    (expression : Option String) :
    countProbe? sql expression = some ("SELECT COUNT(" ++
      String.ofList (countedText (descriptor.distinctText ++ descriptor.fields).toList expression) ++
        ") AS row_count FROM " ++ trim descriptor.source) := by
  have htable : descriptor.table.truthy = true := by
    rw [sql_of_select hkind] at hsql
    by_contra htable
    rw [if_neg htable] at hsql
    cases hsql
  have hplain : IsPlain (Query.spelled descriptor.parameters.selectDistinct.truthy
      descriptor.fields descriptor.wholeSource).toList :=
    isPlain_spelled (h.plain _ (by simp)) (h.isPlain_wholeSource htrimmed) _
  rw [spelled_of_unlimited hkind hlimit hsql, countProbe?_of_plain (h.isFields htrimmed) hplain,
    h.unordered_eq htrimmed htable, String.toList_append]
  rfl

end ReadsPlainly

/-- A SELECT with a limit has no counting form, whatever is to be counted. -/
theorem countProbe?_of_limited {descriptor : Descriptor} (hkind : descriptor.kind = .select)
    (hlimit : descriptor.parameters.limit.isUnset = false) {dialect : Dialect} {sql : String}
    (hsql : descriptor.sql dialect = .ok sql) (expression : Option String) :
    countProbe? sql expression = none := by
  obtain ⟨-, text, htext, rfl⟩ := sql_select_eq_ok hkind hsql
  rw [limitText, hlimit, if_neg Bool.false_ne_true, Dialect.limitClause] at htext
  cases hbounds : Limit.parse descriptor.parameters.limit with
  | error fault => rw [hbounds] at htext; cases htext
  | ok bounds =>
    rw [hbounds] at htext
    cases htext
    rw [countProbe?_eq, if_pos (descriptor.preventsCount_limitedSql dialect bounds)]

end Descriptor

/-! ## What a builder selects -/

namespace Builder

variable {σ : Type} [Connection σ] {dialect : Dialect} {client : Client σ} {debug : Value}
  {lap : Duration} {builder : Builder σ}

/-- **The counting form of a SELECT is the same query without its order.** Whatever was done with a
builder since it was created, if it renders a SELECT with a limit, in the words of any dialect, the
statement has no counting form, whatever expression is to be counted. Without a limit and without
groups it has one for every expression if the letters of no word that groups, unites or limits rows
stand in its fields, its table, its condition or its order, `FROM` is no word of the fields, and the
words of an order stand in none of the other texts. What is counted is the expression or, if none is
given, what is selected, and behind `FROM` stand the table and the condition as they are. -/
theorem counting_form_of_select (hcreate : create dialect client debug lap = .ok builder)
    (operations : List (Operation σ))
    (hkind : (builder.performed operations).descriptor.kind = .select) {sql : String}
    (hsql : (builder.performed operations).sql = .ok sql) :
    let descriptor := (builder.performed operations).descriptor
    (descriptor.parameters.limit.isUnset = false →
      ∀ expression, countProbe? sql expression = none) ∧
    (descriptor.parameters.limit.isUnset = true → descriptor.ReadsPlainly →
      ∀ expression, countProbe? sql expression = some ("SELECT COUNT(" ++
        String.ofList (countedText (descriptor.distinctText ++ descriptor.fields).toList expression)
          ++ ") AS row_count FROM " ++ trim (descriptor.table.display ++ descriptor.clause.sql))) := by
  intro descriptor
  have htrimmed : descriptor.Trimmed := performed_trimmed hcreate operations
  exact ⟨fun hlimit => Descriptor.countProbe?_of_limited hkind hlimit hsql,
    fun hlimit hplain => hplain.countProbe?_eq htrimmed hkind hlimit hsql⟩

def selectNames : List (Operation Scripted) :=
  [.select (.text "name"), .continued (.fromTable (.text "t")),
    .filter (.map [(.text "id", .int 5)]), .continued (.orderBy (.text "name DESC"))]

def selectThreeNames : List (Operation Scripted) := selectNames ++ [.continued (.limit (.int 3))]

theorem counting_form_of_select_names :
    create .sqlite { connection := {} } (.bool false) {} = .ok onScript ∧
      (onScript.performed selectNames).sql =
        .ok "SELECT name FROM t WHERE id = :a_id ORDER BY name DESC" ∧
      countProbe? "SELECT name FROM t WHERE id = :a_id ORDER BY name DESC" none =
        some "SELECT COUNT(name) AS row_count FROM t WHERE id = :a_id" ∧
      (onScript.performed selectThreeNames).sql =
        .ok "SELECT name FROM t WHERE id = :a_id ORDER BY name DESC LIMIT 3" ∧
      countProbe? "SELECT name FROM t WHERE id = :a_id ORDER BY name DESC LIMIT 3" none = none := by
  have hcreate : create .sqlite { connection := ({} : Scripted) } (.bool false) {} = .ok onScript :=
    rfl
  have hsql : (onScript.performed selectNames).sql =
      .ok "SELECT name FROM t WHERE id = :a_id ORDER BY name DESC" := by rfl
  have hlimited : (onScript.performed selectThreeNames).sql =
      .ok "SELECT name FROM t WHERE id = :a_id ORDER BY name DESC LIMIT 3" :=
    Attempt.eq_ok_of_toOption (by decide +kernel)
  have hplain : (onScript.performed selectNames).descriptor.ReadsPlainly := by
    have hfields : (onScript.performed selectNames).descriptor.fields = "name" := by rfl
    have htable : (onScript.performed selectNames).descriptor.table.display = "t" := by rfl
    have hclause : (onScript.performed selectNames).descriptor.clause.sql =
      " WHERE id = :a_id" := by rfl
    have horder : (onScript.performed selectNames).descriptor.orderText = "name DESC" := by rfl
    refine ⟨rfl, ?_, ?_, ?_⟩
    · rw [hfields, htable, hclause, horder]
      decide
    · rw [hfields]
      decide
    · rw [htable, hclause, horder]
      decide
  have hcounted := (counting_form_of_select hcreate selectNames rfl hsql).2 rfl hplain none
  have hnone :=
    (counting_form_of_select hcreate selectThreeNames (by decide +kernel) hlimited).1
      (by decide +kernel) none
  exact ⟨hcreate, hsql, hcounted, hlimited, hnone⟩

end Builder

end SqlToolkit
