import SqlToolkit.Dialect.Delete
import SqlToolkit.Proofs.Join

/-!
# What a rewritten DELETE keeps of its table expression

Where the table expression is not written out, only the join that was found in it counts: what
stands before and after that join is not in the statement and changes nothing about it. So the whole
expression is in the statement just if it is a join and nothing else.
-/

namespace SqlToolkit

open SqlToolkit.Text

/-- A form made of the parts of a join, without the expression in which the join was found. -/
inductive DeleteForm.MadeOf (join : Join) : DeleteForm → Prop
  | leftTable : MadeOf join (.plain join.leftTable)
  | usingRight : MadeOf join (.usingRight join)
  | whereExists : MadeOf join (.whereExists join)

namespace Dialect

/-- The DELETE for a table expression is made of the parts of a join that was found in it. -/
def Rewrites (dialect : Dialect) (table whereSql : String) (join : Join) : Prop :=
  Join.find? table = some join ∧ (dialect.deleteForm table whereSql).MadeOf join

variable {dialect : Dialect} {table whereSql : String} {join : Join}

theorem deleteForm_of_find? (hfind : Join.find? table = some join) :
    dialect.deleteForm table whereSql =
      if joinIsIdle join whereSql then .plain join.leftTable
      else dialect.joinDeleteForm (trim table) join := by
  rw [deleteForm, hfind]

/-- Two expressions in which the same join is found have the same DELETE if one is rewritten. -/
theorem deleteSql_eq_of_rewrites {other : String} (h : dialect.Rewrites table whereSql join)
    (hother : Join.find? other = some join) :
    dialect.deleteSql table whereSql = dialect.deleteSql other whereSql := by
  obtain ⟨hfind, hmade⟩ := h
  rw [deleteForm_of_find? hfind] at hmade
  unfold deleteSql
  rw [deleteForm_of_find? hfind, deleteForm_of_find? hother]
  split at hmade
  · next idle => rw [if_pos idle, if_pos idle]
  · next notIdle =>
    rw [if_neg notIdle, if_neg notIdle]
    cases dialect with
    | mysql => cases hmade
    | postgresql | oracle | firebird | sqlite => rfl

/-- No join is read at a blank. -/
theorem read?_of_isBlank {c : Char} (h : isBlank c = true) (more : List Char) :
    Join.read? (c :: more) = none := by
  rw [Option.eq_none_iff_forall_not_mem]
  intro other hread
  obtain ⟨rest, hread⟩ := Join.read?_eq_some_iff.mp hread
  obtain ⟨written, hchars, hspelled, -⟩ := Join.spelled_of_readRest? hread
  have hstop := hspelled.stopsAt_isBlank rest
  rw [← hchars] at hstop
  exact absurd h (by simp [stopsAt_cons.mp hstop])

/-- A blank does not go on a column name. -/
theorem stopsAt_isColumnChar_of_blanks {blanks : List Char}
    (h : ∀ c ∈ blanks, isBlank c = true) : StopsAt Join.isColumnChar blanks := by
  intro c hc
  exact Join.isColumnChar_of_isBlank (h c (List.mem_of_mem_head? hc))

/-- **A rewritten DELETE is that of the join alone.** The table expression has a join in it; the
statement is the one for that join without the text around it. So nothing of the expression is lost
exactly if it is a join from end to end, blanks at the ends aside. -/
theorem rewritten_delete_of_join_alone (h : dialect.Rewrites table whereSql join) :
    ∃ before written after, table.toList = before ++ (written ++ after) ∧
      Join.Spelled join written ∧
      dialect.deleteSql table whereSql = dialect.deleteSql (String.ofList written) whereSql ∧
      ((∃ whole, Join.Spelled whole (trimChars table.toList)) ↔
        (∀ c ∈ before, isBlank c = true) ∧ ∀ c ∈ after, isBlank c = true) := by
  obtain ⟨⟨before, found⟩, hsearch, hfound⟩ := Option.map_eq_some_iff.mp h.1
  obtain rfl : join = found := hfound.symm
  obtain ⟨rest, hrest, hread⟩ := of_search hsearch
  obtain ⟨after, hread⟩ := Join.read?_eq_some_iff.mp hread
  obtain ⟨written, rfl, hwritten, -⟩ := Join.spelled_of_readRest? hread
  refine ⟨before, written, after, hrest, hwritten, ?_, ?_⟩
  · have halone : Join.find? (String.ofList written) = some join :=
      Join.find?_of_spelled ((String.toList_ofList).symm ▸ hwritten)
    exact deleteSql_eq_of_rewrites h halone
  · constructor
    · rintro ⟨whole, hwhole⟩
      obtain ⟨front, back, htable, hf, hb⟩ := exists_trimChars table.toList
      have hreadWhole := Join.readRest?_of_spelled hwhole (stopsAt_isColumnChar_of_blanks hb)
      -- the search comes upon the whole first, as nothing is read at the blanks before it
      have hsearchWhole : search Join.read? table.toList = some (front, whole) := by
        rw [htable]
        exact search_append (fun c hc more => read?_of_isBlank (hf c hc) more)
          (Join.read?_eq_some_iff.mpr ⟨back, hreadWhole⟩)
      rw [hsearch] at hsearchWhole
      obtain ⟨rfl, rfl⟩ := Prod.mk.inj (Option.some.inj hsearchWhole)
      have hsame := List.append_cancel_left (hrest.symm.trans htable)
      rw [hsame, hreadWhole] at hread
      obtain ⟨-, rfl⟩ := Prod.mk.inj (Option.some.inj hread)
      exact ⟨hf, hb⟩
    · rintro ⟨hb, ha⟩
      refine ⟨join, ?_⟩
      have hfirst : StopsAt isBlank written := by
        simpa using hwritten.stopsAt_isBlank []
      rw [hrest, trimChars_append hb ha hfirst hwritten.stopsAt_isBlank_reverse]
      exact hwritten

/-- An alias stands before the join, which has the alias as its left name. -/
theorem rewritten_delete_with_alias :
    Rewrites .postgresql "orders o LEFT JOIN c ON o.k = c.k" " WHERE c.x = :a_c_x"
        ⟨"o", .left, "LEFT", "c", "o.k", "c.k"⟩ ∧
      ∃ written, Join.Spelled ⟨"o", .left, "LEFT", "c", "o.k", "c.k"⟩ written ∧
        deleteSql .postgresql "orders o LEFT JOIN c ON o.k = c.k" " WHERE c.x = :a_c_x" =
          deleteSql .postgresql (String.ofList written) " WHERE c.x = :a_c_x" := by
  have rewritten : Rewrites .postgresql "orders o LEFT JOIN c ON o.k = c.k" " WHERE c.x = :a_c_x"
      ⟨"o", .left, "LEFT", "c", "o.k", "c.k"⟩ := ⟨by rfl, .usingRight⟩
  obtain ⟨-, written, -, -, hwritten, hsql, -⟩ := rewritten_delete_of_join_alone rewritten
  exact ⟨rewritten, written, hwritten, hsql⟩

/-- A further condition on the joined rows is not in the statement, and the expression is no join
from end to end. -/
theorem further_condition_is_lost :
    Rewrites .sqlite
        "orders INNER JOIN customers ON orders.customer = customers.id AND customers.active = 1"
        " WHERE customers.country = :a_customers_country"
        ⟨"orders", .inner, "INNER", "customers", "orders.customer", "customers.id"⟩ ∧
      deleteSql .sqlite
          "orders INNER JOIN customers ON orders.customer = customers.id AND customers.active = 1"
          " WHERE customers.country = :a_customers_country" =
        "DELETE FROM orders WHERE EXISTS (SELECT * FROM customers WHERE " ++
          "orders.customer = customers.id AND (customers.country = :a_customers_country))" ∧
      ¬ ∃ whole, Join.Spelled whole (trimChars
        ("orders INNER JOIN customers ON orders.customer = customers.id" ++
          " AND customers.active = 1").toList) := by
  refine ⟨⟨by rfl, .whereExists⟩, by decide +kernel, ?_⟩
  rintro ⟨whole, hwhole⟩
  -- a join from end to end leaves nothing to read, but reading stops at the first `AND`
  have hall := Join.readRest?_of_spelled hwhole (stopsAt_nil _)
  rw [List.append_nil] at hall
  have hpart : Join.readRest? (trimChars
      ("orders INNER JOIN customers ON orders.customer = customers.id" ++
        " AND customers.active = 1").toList) =
      some (⟨"orders", .inner, "INNER", "customers", "orders.customer", "customers.id"⟩,
        " AND customers.active = 1".toList) := by rfl
  rw [hpart] at hall
  exact absurd (Prod.mk.inj (Option.some.inj hall)).2 (by decide)

end Dialect

end SqlToolkit
