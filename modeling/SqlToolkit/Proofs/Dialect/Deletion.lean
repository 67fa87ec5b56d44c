import SqlToolkit.Dialect.Delete
import SqlToolkit.Proofs.Condition.Keyed
import SqlToolkit.Proofs.Join

/-!
# Reading DELETE statements

The forms of DELETE statements on one or two tables, and how they are told apart in a text: rows of
one table, rows with a partner in an `EXISTS` subquery or after `USING`, and rows of a table in a
join that is written out. A table may have any name, those of the words of a statement included;
what is a name follows from its place.
-/

namespace SqlToolkit

open SqlToolkit.Text SqlToolkit.Condition

inductive Deletion where
  /-- `DELETE FROM target [WHERE condition]` -/
  | plain (target : String) (condition : Option String)
  /-- `DELETE FROM target WHERE EXISTS (SELECT * FROM partner WHERE condition)` -/
  | whereExists (target partner condition : String)
  /-- `DELETE FROM target USING partner WHERE condition` -/
  | usingPartner (target partner condition : String)
  /-- `DELETE target FROM join [WHERE condition]` -/
  | multiTable (target : String) (join : Join) (condition : Option String)
  deriving Repr, DecidableEq

namespace Deletion

/-! ## Readers -/

def dropWords? : List String → List Char → Option (List Char)
  | [], rest => some rest
  | word :: more, rest => ((dropWord? word.toList rest).bind dropGap?).bind (dropWords? more)

/-- Reads `WHERE`; a condition is all the text that follows. -/
def readWhere? (chars : List Char) : Option String := (dropWords? ["WHERE"] chars).map String.ofList

def closed? (chars : List Char) : Option (List Char) :=
  if chars.getLast? = some ')' then some chars.dropLast else none

def readUsing? (target : String) (chars : List Char) : Option Deletion := do
  let rest ← dropWords? ["USING"] chars
  let (partner, rest) ← takeRun? Join.isTableChar rest
  let condition ← (dropGap? rest).bind readWhere?
  return .usingPartner target (.ofList partner) condition

def readExists? (target : String) (chars : List Char) : Option Deletion := do
  let rest ← dropPhrase? ["WHERE", "EXISTS"] chars
  let rest ← dropText? ['('] (dropBlanks rest)
  let rest ← dropWords? ["SELECT", "*", "FROM"] rest
  let (partner, rest) ← takeRun? Join.isTableChar rest
  let condition ← ((closed? rest).bind dropGap?).bind readWhere?
  return .whereExists target (.ofList partner) condition

/-- Reads what follows the table after `DELETE FROM`. -/
def readRows? (target : String) (chars : List Char) : Option Deletion :=
  if chars.isEmpty then some (.plain target none)
  else
    (dropGap? chars).bind fun rest =>
      (readUsing? target rest).or ((readExists? target rest).or
        ((readWhere? rest).map fun condition => .plain target (some condition)))

def readFrom? (chars : List Char) : Option Deletion := do
  let rest ← dropWords? ["DELETE", "FROM"] chars
  let (target, rest) ← takeRun? Join.isTableChar rest
  readRows? (.ofList target) rest

def readJoined? (target : String) (join : Join) (chars : List Char) : Option Deletion :=
  if chars.isEmpty then some (.multiTable target join none)
  else ((dropGap? chars).bind readWhere?).map fun condition =>
    .multiTable target join (some condition)

def readMultiTable? (chars : List Char) : Option Deletion := do
  let rest ← dropWords? ["DELETE"] chars
  let (target, rest) ← takeRun? Join.isTableChar rest
  let rest ← (dropGap? rest).bind (dropWords? ["FROM"])
  let (join, rest) ← Join.readRest? rest
  readJoined? (.ofList target) join rest

def read? (statement : String) : Option Deletion :=
  (readFrom? statement.toList).or (readMultiTable? statement.toList)

/-! ## Words and names -/

variable {name rest more : List Char}

theorem dropGap?_blank (h : StopsAt isBlank rest) : dropGap? (' ' :: rest) = some rest := by
  have hgap : dropGap? (' ' :: rest) = some (dropBlanks rest) := rfl
  rw [hgap, dropBlanks_of_stopsAt h]

theorem isTableChar_of_isAsciiWord {c : Char} (h : isAsciiWord c = true) :
    Join.isTableChar c = true := by
  simp [Join.isTableChar, isWord_of_isAsciiWord h]

theorem isRun_isTableChar (h : IsRun isAsciiWord name) : IsRun Join.isTableChar name :=
  ⟨h.1, fun c hc => isTableChar_of_isAsciiWord (h.2 c hc)⟩

theorem stopsAt_name (h : IsRun isAsciiWord name) (rest : List Char) :
    StopsAt isBlank (name ++ rest) :=
  h.stopsAt (fun _ => isBlank_of_isAsciiWord) rest

/-- A name ends at a blank. -/
theorem takeRun?_name (h : IsRun isAsciiWord name) (rest : List Char) :
    takeRun? Join.isTableChar (name ++ ' ' :: rest) = some (name, ' ' :: rest) :=
  takeRun?_eq_some_iff.mpr ⟨rfl, isRun_isTableChar h, stopsAt_cons.mpr (by decide)⟩

theorem readWhere?_of_stopsAt (h : StopsAt isBlank rest) :
    readWhere? ("WHERE ".toList ++ rest) = some (.ofList rest) := by
  have hwords : dropWords? ["WHERE"] ("WHERE ".toList ++ rest) = some (dropBlanks rest) := rfl
  rw [readWhere?, hwords, dropBlanks_of_stopsAt h]
  rfl

theorem readFrom?_eq (h : IsRun isAsciiWord name) (hrest : StopsAt Join.isTableChar rest) :
    readFrom? ("DELETE FROM ".toList ++ (name ++ rest)) = readRows? (.ofList name) rest := by
  have hwords : dropWords? ["DELETE", "FROM"] ("DELETE FROM ".toList ++ (name ++ rest)) =
      some (dropBlanks (name ++ rest)) := rfl
  have hname := takeRun?_eq_some_iff.mpr ⟨rfl, isRun_isTableChar h, hrest⟩
  unfold readFrom?
  rw [hwords, dropBlanks_of_stopsAt (stopsAt_name h rest), Option.bind_eq_bind, Option.bind_some,
    hname]
  rfl

theorem readRows?_blank (target : String) (h : StopsAt isBlank rest) :
    readRows? target (' ' :: rest) =
      (readUsing? target rest).or ((readExists? target rest).or
        ((readWhere? rest).map fun condition => .plain target (some condition))) := by
  rw [readRows?, dropGap?_blank h]
  rfl

/-- After `DELETE FROM` and a name, what comes after the blank decides. -/
theorem read?_of_from {statement target : String} {deletion : Deletion}
    (hstatement : statement.toList = "DELETE FROM ".toList ++ (target.toList ++ ' ' :: rest))
    (h : IsRun isAsciiWord target.toList) (hrest : StopsAt isBlank rest)
    (hread : (readUsing? target rest).or ((readExists? target rest).or
      ((readWhere? rest).map fun condition => .plain target (some condition))) = some deletion) :
    read? statement = some deletion := by
  rw [read?, hstatement, readFrom?_eq h (stopsAt_cons.mpr (by decide)), String.ofList_toList,
    readRows?_blank target hrest, hread]
  rfl

/-! ## Rows of one table -/

theorem read?_plain {target : String} (h : IsRun isAsciiWord target.toList) :
    read? ((DeleteForm.plain target).sql "") = some (.plain target none) := by
  have hstatement : ((DeleteForm.plain target).sql "").toList =
      "DELETE FROM ".toList ++ (target.toList ++ []) := by
    unfold DeleteForm.sql
    simp only [toString, String.toList_append, List.append_assoc]
    rfl
  rw [read?, hstatement, readFrom?_eq h (stopsAt_nil _), String.ofList_toList]
  rfl

/-- A condition on a qualified column does not begin with `EXISTS` and a parenthesis. -/
theorem readExists?_of_isQualified (target : String) {condition : List Char}
    (h : IsQualified condition) : readExists? target ("WHERE ".toList ++ condition) = none := by
  obtain ⟨name, rest, rfl, hname⟩ := h.1
  have hphrase : dropPhrase? ["WHERE", "EXISTS"] ("WHERE ".toList ++ (name ++ '.' :: rest)) =
      dropWord? "EXISTS".toList (dropBlanks (name ++ '.' :: rest)) := rfl
  have hapart : Outside '.' "EXISTS".toList := .of_all (by decide)
  unfold readExists?
  rw [hphrase, dropBlanks_of_stopsAt (stopsAt_name hname _), dropWord?_append hapart]
  cases hword : dropWord? "EXISTS".toList name with
  | none => rfl
  | some after =>
    -- what is left of the name, or else the dot, is neither a blank nor a parenthesis
    obtain ⟨written, rfl, -⟩ := dropWord?_eq_some_iff.mp hword
    obtain ⟨c, more, hc, hblank, hopen⟩ :
        ∃ c more, after ++ '.' :: rest = c :: more ∧ isBlank c = false ∧ '(' ≠ c := by
      cases after with
      | nil => exact ⟨'.', rest, rfl, by decide, by decide⟩
      | cons c more =>
        have hc := hname.2 c (List.mem_append_right _ List.mem_cons_self)
        refine ⟨c, _, rfl, isBlank_of_isAsciiWord hc, ?_⟩
        rintro rfl
        exact absurd hc (by decide)
    have hparen : dropText? ['('] (dropBlanks (after ++ '.' :: rest)) = none := by
      rw [hc, dropBlanks_of_stopsAt (stopsAt_cons.mpr hblank), dropText?, if_neg hopen]
    simp only [Option.map_some, Option.bind_eq_bind, Option.bind_some, hparen, Option.bind_none]

theorem stopsAt_where (rest : List Char) : StopsAt isBlank ("WHERE ".toList ++ rest) :=
  stopsAt_cons.mpr (by decide)

theorem read?_plain_where {target condition : String} (h : IsRun isAsciiWord target.toList)
    (hcond : IsQualified condition.toList) :
    read? ((DeleteForm.plain target).sql (" WHERE " ++ condition)) =
      some (.plain target (some condition)) := by
  have hstatement : ((DeleteForm.plain target).sql (" WHERE " ++ condition)).toList =
      "DELETE FROM ".toList ++
        (target.toList ++ ' ' :: ("WHERE ".toList ++ condition.toList)) := by
    unfold DeleteForm.sql
    simp only [toString, String.toList_append, List.append_assoc]
    rfl
  have husing : readUsing? target ("WHERE ".toList ++ condition.toList) = none := rfl
  refine read?_of_from hstatement h (stopsAt_where _) ?_
  rw [husing, readExists?_of_isQualified target hcond, readWhere?_of_stopsAt hcond.stopsAt,
    String.ofList_toList]
  rfl

/-! ## Rows with a partner -/

theorem read?_usingRight {join : Join} {whereSql : String}
    (hleft : IsRun isAsciiWord join.leftTable.toList)
    (hright : IsRun isAsciiWord join.rightTable.toList)
    (hcond : StopsAt isBlank (join.condition ++ fold whereSql).toList) :
    read? ((DeleteForm.usingRight join).sql whereSql) =
      some (.usingPartner join.leftTable join.rightTable (join.condition ++ fold whereSql)) := by
  have hstatement : ((DeleteForm.usingRight join).sql whereSql).toList =
      "DELETE FROM ".toList ++ (join.leftTable.toList ++ ' ' :: ("USING ".toList ++
        (join.rightTable.toList ++ ' ' :: ("WHERE ".toList ++
          (join.condition ++ fold whereSql).toList)))) := by
    unfold DeleteForm.sql
    simp only [toString, String.toList_append, List.append_assoc]
    rfl
  have hpartner (rest : List Char) :
      readUsing? join.leftTable ("USING ".toList ++ (join.rightTable.toList ++ ' ' :: rest)) =
        ((dropGap? (' ' :: rest)).bind readWhere?).map
          (.usingPartner join.leftTable join.rightTable) := by
    have hwords :
        dropWords? ["USING"] ("USING ".toList ++ (join.rightTable.toList ++ ' ' :: rest)) =
        some (dropBlanks (join.rightTable.toList ++ ' ' :: rest)) := rfl
    unfold readUsing?
    simp only [hwords, dropBlanks_of_stopsAt (stopsAt_name hright _), takeRun?_name hright,
      Option.bind_eq_bind, Option.bind_some, String.ofList_toList, Option.pure_def,
      Option.map_eq_bind, Function.comp_def]
  have hread := hpartner ("WHERE ".toList ++ (join.condition ++ fold whereSql).toList)
  rw [dropGap?_blank (stopsAt_where _), Option.bind_some, readWhere?_of_stopsAt hcond,
    String.ofList_toList, Option.map_some] at hread
  have husing (rest : List Char) : StopsAt isBlank ("USING ".toList ++ rest) :=
    stopsAt_cons.mpr (by decide)
  refine read?_of_from hstatement hleft (husing _) ?_
  rw [hread]
  rfl

theorem closed?_append (chars : List Char) : closed? (chars ++ [')']) = some chars := by
  simp [closed?]

theorem read?_whereExists {join : Join} {whereSql : String}
    (hleft : IsRun isAsciiWord join.leftTable.toList)
    (hright : IsRun isAsciiWord join.rightTable.toList)
    (hcond : StopsAt isBlank (join.condition ++ fold whereSql).toList) :
    read? ((DeleteForm.whereExists join).sql whereSql) =
      some (.whereExists join.leftTable join.rightTable (join.condition ++ fold whereSql)) := by
  have hstatement : ((DeleteForm.whereExists join).sql whereSql).toList =
      "DELETE FROM ".toList ++ (join.leftTable.toList ++ ' ' ::
        ("WHERE EXISTS (SELECT * FROM ".toList ++ (join.rightTable.toList ++ ' ' ::
          ("WHERE ".toList ++ ((join.condition ++ fold whereSql).toList ++ [')']))))) := by
    unfold DeleteForm.sql
    simp only [toString, String.toList_append, List.append_assoc]
    rfl
  have hpartner (rest : List Char) :
      readExists? join.leftTable
          ("WHERE EXISTS (SELECT * FROM ".toList ++ (join.rightTable.toList ++ ' ' :: rest)) =
        (((closed? (' ' :: rest)).bind dropGap?).bind readWhere?).map
          (.whereExists join.leftTable join.rightTable) := by
    have hphrase (rest : List Char) :
        dropPhrase? ["WHERE", "EXISTS"] ("WHERE EXISTS (SELECT * FROM ".toList ++ rest) =
          some (" (SELECT * FROM ".toList ++ rest) := rfl
    have hopen (rest : List Char) :
        dropText? ['('] (dropBlanks (" (SELECT * FROM ".toList ++ rest)) =
          some ("SELECT * FROM ".toList ++ rest) := rfl
    have hwords (rest : List Char) :
        dropWords? ["SELECT", "*", "FROM"] ("SELECT * FROM ".toList ++ rest) =
          some (dropBlanks rest) := rfl
    unfold readExists?
    rw [hphrase, Option.bind_eq_bind, Option.bind_some, hopen, Option.bind_eq_bind,
      Option.bind_some, hwords, dropBlanks_of_stopsAt (stopsAt_name hright _),
      Option.bind_eq_bind, Option.bind_some, takeRun?_name hright]
    simp only [Option.bind_some, String.ofList_toList, Option.pure_def, Option.map_eq_bind,
      Function.comp_def]
  have hclosed : closed? (' ' :: ("WHERE ".toList ++
      ((join.condition ++ fold whereSql).toList ++ [')']))) =
      some (' ' :: ("WHERE ".toList ++ (join.condition ++ fold whereSql).toList)) := by
    rw [← List.append_assoc, ← List.cons_append, closed?_append]
  have hread := hpartner ("WHERE ".toList ++ ((join.condition ++ fold whereSql).toList ++ [')']))
  rw [hclosed, Option.bind_some, dropGap?_blank (stopsAt_where _), Option.bind_some,
    readWhere?_of_stopsAt hcond, String.ofList_toList, Option.map_some] at hread
  have hexists (rest : List Char) :
      StopsAt isBlank ("WHERE EXISTS (SELECT * FROM ".toList ++ rest) :=
    stopsAt_cons.mpr (by decide)
  have husing (rest : List Char) :
      readUsing? join.leftTable ("WHERE EXISTS (SELECT * FROM ".toList ++ rest) = none := rfl
  refine read?_of_from hstatement hleft (hexists _) ?_
  rw [husing, hread]
  rfl

/-! ## Rows of a join -/

/-- A table named `FROM` is not taken for the word: then another `FROM` would be the only table, and
what follows it is no condition. -/
theorem readFrom?_multiTable (h : IsRun isAsciiWord name) (more : List Char) :
    readFrom? ("DELETE ".toList ++ (name ++ ' ' :: ("FROM ".toList ++ (name ++ more)))) = none := by
  have hwords (rest : List Char) : dropWords? ["DELETE", "FROM"] ("DELETE ".toList ++ rest) =
      ((dropWord? "FROM".toList (dropBlanks rest)).bind dropGap?).bind some := rfl
  have hapart : Outside ' ' "FROM".toList := .of_all (by decide)
  unfold readFrom?
  rw [hwords, dropBlanks_of_stopsAt (stopsAt_name h _), dropWord?_append hapart]
  cases hword : dropWord? "FROM".toList name with
  | none => rfl
  | some after =>
    obtain ⟨written, rfl, hspelled⟩ := dropWord?_eq_some_iff.mp hword
    cases after with
    | cons c rest =>
      have hblank := isBlank_of_isAsciiWord (h.2 c (List.mem_append_right _ List.mem_cons_self))
      simp [dropGap?, hblank]
    | nil =>
      rw [List.append_nil] at h ⊢
      have hgap (rest : List Char) :
          dropGap? (' ' :: ("FROM ".toList ++ rest)) = some ("FROM".toList ++ ' ' :: rest) := rfl
      have hfrom : IsRun isAsciiWord "FROM".toList := .of_all (by decide) (by decide)
      have hnone {word : String} {first : Char} {letters : List Char}
          (hw : word.toList = first :: letters) (hne : caseKey first ≠ caseKey 'F') :
          dropWord? word.toList (written ++ more) = none :=
        hw ▸ dropWord?_of_sameWord (show SameWord ['F', 'R', 'O', 'M'] written from hspelled) hne
      have husing : readUsing? "FROM" (written ++ more) = none := by
        simp only [readUsing?, dropWords?, hnone (show "USING".toList = _ from rfl) (by decide),
          Option.bind_none, Option.bind_eq_bind]
      have hexists : readExists? "FROM" (written ++ more) = none := by
        simp only [readExists?, dropPhrase?, hnone (show "WHERE".toList = _ from rfl) (by decide),
          Option.bind_none, Option.bind_eq_bind]
      have hwhere : readWhere? (written ++ more) = none := by
        simp only [readWhere?, dropWords?, hnone (show "WHERE".toList = _ from rfl) (by decide),
          Option.bind_none, Option.map_none]
      simp only [Option.map_some, Option.bind_some, List.nil_append, hgap, Option.bind_eq_bind,
        takeRun?_name hfrom, String.ofList_toList, readRows?_blank _ (stopsAt_name h _), husing,
        hexists, hwhere, Option.or_none, Option.map_none]

theorem readMultiTable?_eq {join : Join} {joined : List Char}
    (hleft : IsRun isAsciiWord join.leftTable.toList) (hjoin : Join.Spelled join joined)
    (hrest : StopsAt Join.isColumnChar rest) :
    readMultiTable? ("DELETE ".toList ++ (join.leftTable.toList ++ ' ' ::
        ("FROM ".toList ++ (joined ++ rest)))) = readJoined? join.leftTable join rest := by
  have hdelete (rest : List Char) : dropWords? ["DELETE"] ("DELETE ".toList ++ rest) =
      some (dropBlanks rest) := rfl
  have hfrom (rest : List Char) : (dropGap? (' ' :: ("FROM ".toList ++ rest))).bind
      (dropWords? ["FROM"]) = some (dropBlanks rest) := rfl
  unfold readMultiTable?
  simp only [hdelete, dropBlanks_of_stopsAt (stopsAt_name hleft _), takeRun?_name hleft, hfrom,
    dropBlanks_of_stopsAt (hjoin.stopsAt_isBlank _), Join.readRest?_of_spelled hjoin hrest,
    String.ofList_toList, Option.bind_eq_bind, Option.bind_some]

/-- What is read of a statement with a join depends on what follows the join. -/
theorem read?_multiTable_eq {join : Join} {expression whereSql : String}
    (hleft : IsRun isAsciiWord join.leftTable.toList)
    (hjoin : Join.Spelled join expression.toList)
    (hrest : StopsAt Join.isColumnChar whereSql.toList) :
    read? ((DeleteForm.multiTable join expression).sql whereSql) =
      readJoined? join.leftTable join whereSql.toList := by
  have hstatement : ((DeleteForm.multiTable join expression).sql whereSql).toList =
      "DELETE ".toList ++ (join.leftTable.toList ++ ' ' ::
        ("FROM ".toList ++ (expression.toList ++ whereSql.toList))) := by
    unfold DeleteForm.sql
    simp only [toString, String.toList_append, List.append_assoc]
    rfl
  obtain ⟨more, hmore⟩ := hjoin.exists_left
  have hnone := readFrom?_multiTable hleft (more ++ whereSql.toList)
  rw [← List.append_assoc join.leftTable.toList more, ← hmore] at hnone
  rw [read?, hstatement, hnone, Option.none_or, readMultiTable?_eq hleft hjoin hrest]

theorem read?_multiTable {join : Join} {expression : String}
    (hleft : IsRun isAsciiWord join.leftTable.toList)
    (hjoin : Join.Spelled join expression.toList) :
    read? ((DeleteForm.multiTable join expression).sql "") =
      some (.multiTable join.leftTable join none) :=
  read?_multiTable_eq hleft hjoin (stopsAt_nil _)

theorem read?_multiTable_where {join : Join} {expression condition : String}
    (hleft : IsRun isAsciiWord join.leftTable.toList)
    (hjoin : Join.Spelled join expression.toList)
    (hcond : IsQualified condition.toList) :
    read? ((DeleteForm.multiTable join expression).sql (" WHERE " ++ condition)) =
      some (.multiTable join.leftTable join (some condition)) := by
  have hwhere : (" WHERE " ++ condition).toList = ' ' :: ("WHERE ".toList ++ condition.toList) := by
    rw [String.toList_append]
    rfl
  have hblank : StopsAt Join.isColumnChar (" WHERE " ++ condition).toList := by
    rw [hwhere]
    exact stopsAt_cons.mpr (by decide)
  rw [read?_multiTable_eq hleft hjoin hblank, hwhere, readJoined?,
    dropGap?_blank (stopsAt_where _), Option.bind_some, readWhere?_of_stopsAt hcond.stopsAt,
    String.ofList_toList]
  rfl

end Deletion

end SqlToolkit
