import SqlToolkit.Proofs.Dialect.DeletedRows
import SqlToolkit.Proofs.Dialect.Rewrite

/-!
# Deleting the rows of a join

The DELETE statement that is rendered for a join of two tables on equal columns deletes the rows of
the left table that occur in the join under the condition, in every dialect. A left join is left out
of the statement only if the condition names no column of the right table, and then the partners of
a row do not matter. Elsewhere the statement asks for a partner, which an inner join and a right
join do as well; of a left join this is so only if the condition refuses a row without a partner.
-/

namespace SqlToolkit

open SqlToolkit.Text SqlToolkit.Condition SqlToolkit.SearchCondition

/-- `left KIND JOIN right ON left.leftColumn = right.rightColumn`. -/
structure PlainJoin where
  kind : JoinKind
  left : String
  right : String
  leftColumn : String
  rightColumn : String
  isName_left : IsRun isAsciiWord left.toList
  isName_right : IsRun isAsciiWord right.toList
  apart : ¬ SameWord left.toList right.toList
  isColumn_left : IsRun Join.isColumnChar leftColumn.toList
  isColumn_right : IsRun Join.isColumnChar rightColumn.toList

variable {V : Type}

namespace PlainJoin

def join (plain : PlainJoin) : Join where
  leftTable := plain.left
  kind := plain.kind
  keyword := plain.kind.keyword
  rightTable := plain.right
  leftColumn := plain.left ++ "." ++ plain.leftColumn
  rightColumn := plain.right ++ "." ++ plain.rightColumn

def expression (plain : PlainJoin) : String :=
  plain.left ++ " " ++ plain.kind.keyword ++ " JOIN " ++ plain.right ++ " ON " ++
    plain.join.condition

/-- The columns are equal; a NULL is equal to nothing. -/
def On (plain : PlainJoin) (left right : Row V) : Prop :=
  ∃ value, left plain.leftColumn = some value ∧ right plain.rightColumn = some value

/-- The row of the left table occurs in the join under the condition. -/
def Occurs (plain : PlainJoin) (db : Database V) (condition : Row V → Row V → Truth)
    (row : Row V) : Prop :=
  ∃ right, JoinRow (db plain.left) (db plain.right) plain.On plain.kind (some row) right ∧
    condition row (right.getD nullRow) = .yes

variable {plain : PlainJoin}

theorem left_ne_right (plain : PlainJoin) : plain.left ≠ plain.right := fun h =>
  plain.apart (h ▸ SameWord.refl _)

/-! ## The expression -/

theorem upper_keyword (kind : JoinKind) : upper kind.keyword = kind.keyword := by
  cases kind <;> rfl

theorem isColumnRun {name column : String} (hname : IsRun isAsciiWord name.toList)
    (hcolumn : IsRun Join.isColumnChar column.toList) :
    IsRun Join.isColumnChar (name ++ "." ++ column).toList := by
  rw [String.toList_append, String.toList_append]
  refine ⟨by simp, fun c hc => ?_⟩
  obtain (hc | hc) | hc := by simpa only [List.mem_append] using hc
  · simp [Join.isColumnChar, isWord_of_isAsciiWord (hname.2 c hc)]
  · obtain rfl : c = '.' := by simpa using hc
    decide
  · exact hcolumn.2 c hc

theorem spelled (plain : PlainJoin) : Join.Spelled plain.join plain.expression.toList := by
  have gap : IsGap [' '] := .of_all (by decide) (by decide)
  have blank : ∀ c ∈ [' '], isBlank c = true := gap.2
  have words : Join.JoinWords " JOIN".toList := .plain ⟨[' '], "JOIN".toList, rfl, gap, rfl⟩
  have h := Join.Spelled.intro (Deletion.isRun_isTableChar plain.isName_left) gap
    (SameWord.refl plain.kind.keyword.toList) words gap
    (Deletion.isRun_isTableChar plain.isName_right) gap (SameWord.refl "ON".toList) gap
    (isColumnRun plain.isName_left plain.isColumn_left) blank blank
    (isColumnRun plain.isName_right plain.isColumn_right)
  rw [String.ofList_toList, String.ofList_toList, String.ofList_toList, String.ofList_toList,
    String.ofList_toList, upper_keyword] at h
  simp only [expression, Join.condition, toString, String.toList_append, List.append_assoc]
  exact h

theorem find?_expression (plain : PlainJoin) : Join.find? plain.expression = some plain.join :=
  Join.find?_of_spelled plain.spelled

theorem trim_expression (plain : PlainJoin) : trim plain.expression = plain.expression := by
  have hfirst := plain.spelled.stopsAt_isBlank []
  rw [List.append_nil] at hfirst
  rw [trim, trimChars_of_stopsAt hfirst plain.spelled.stopsAt_isBlank_reverse, String.ofList_toList]

theorem condition_stopsAt (plain : PlainJoin) (more : String) :
    StopsAt isBlank (plain.join.condition ++ more).toList := by
  have hname := Deletion.stopsAt_name plain.isName_left
    (".".toList ++ (plain.leftColumn.toList ++ (" = ".toList ++ (plain.join.rightColumn.toList ++
      more.toList))))
  simpa only [Join.condition, join, toString, String.toList_append, List.append_assoc] using hname

/-! ## Conditions -/

/-- A reader takes the columns of the join for what they are, and for the truth of an atom looks at
the row of the right table only if the atom names a column of it. -/
structure Understood (plain : PlainJoin) (reader : Reader V) : Prop where
  on_atom : ReadsAs reader.atoms plain.join.condition
    (.one (.one (.atom plain.join.condition.toList)))
  on_iff : ∀ scope, reader.meaning plain.join.condition.toList scope = .yes ↔
    plain.On (scope plain.left) (scope plain.right)
  named : ∀ text scope other, ¬ Names plain.right.toList text →
    (∀ name, name ≠ plain.right → scope name = other name) →
    reader.meaning text scope = reader.meaning text other

end PlainJoin

namespace Reader

/-- The text is a single comparison. -/
def IsAtom (reader : Reader V) (text : String) : Prop :=
  ReadsAs reader.atoms text (.one (.one (.atom text.toList)))

def all (reader : Reader V) (texts : List String) (scope : Scope V) : Truth :=
  Truth.all (texts.map fun text => reader.meaning text.toList scope)

variable {reader : Reader V}

theorem reads_conjunction {text : String} {texts : List String}
    (h : ∀ t ∈ text :: texts, reader.IsAtom t) :
    ∃ tree, ReadsAs reader.atoms (conjunction (text :: texts)) tree ∧
      ∀ scope, tree.truth (fun atom => reader.meaning atom scope) =
        reader.all (text :: texts) scope := by
  have hmore : List.Forall₂ (ReadsAs reader.atoms) texts
      (texts.map fun t => .one (.one (.atom t.toList))) := by
    rw [List.forall₂_map_right_iff, List.forall₂_same]
    exact fun t ht => h t (List.mem_cons_of_mem _ ht)
  refine ⟨_, reads_intercalate (h text List.mem_cons_self) hmore, fun scope => ?_⟩
  have hterms : ∀ tree ∈ Tree.one (.one (.atom text.toList)) ::
      texts.map fun t => Tree.one (.one (.atom t.toList)), tree.isTerm = true := by
    simp [Tree.isTerm]
  rw [Tree.truth_spliceAll_of_isTerm hterms, List.map_cons, List.map_map]
  rfl

theorem reads_conditionOf? {texts : List String} (h : ∀ t ∈ texts, reader.IsAtom t) :
    ∀ text ∈ conditionOf? texts, ∃ tree, ReadsAs reader.atoms text tree := by
  cases texts with
  | nil => exact nofun
  | cons text texts =>
    rintro _ ⟨⟩
    obtain ⟨tree, htree, -⟩ := reads_conjunction h
    exact ⟨tree, htree⟩

theorem holds_conditionOf?_iff {texts : List String} (h : ∀ t ∈ texts, reader.IsAtom t)
    (scope : Scope V) :
    (∀ text ∈ conditionOf? texts, reader.Holds text scope) ↔ reader.all texts scope = .yes := by
  cases texts with
  | nil => exact iff_of_true nofun rfl
  | cons text texts =>
    obtain ⟨tree, htree, htruth⟩ := reads_conjunction h
    rw [← htruth scope, ← holds_iff htree]
    simp [conditionOf?]

end Reader

namespace PlainJoin

variable {plain : PlainJoin} {reader : Reader V}

theorem holds_on (understood : plain.Understood reader) (row other : Row V) :
    reader.Holds plain.join.condition (.pair plain.left row plain.right other) ↔
      plain.On row other := by
  have hiff := understood.on_iff (.pair plain.left row plain.right other)
  rw [Scope.pair_left, Scope.pair_right plain.left_ne_right] at hiff
  exact (Reader.holds_iff understood.on_atom _).trans hiff

/-- The condition for the partner of a row: equal columns, and what the clause asks for. -/
theorem reads_partner (understood : plain.Understood reader) {texts : List String}
    (hqualified : ∀ t ∈ texts, IsQualified t.toList) (hatoms : ∀ t ∈ texts, reader.IsAtom t) :
    ∃ tree, ReadsAs reader.atoms (plain.join.condition ++ fold (joined texts)) tree ∧
      ∀ scope, tree.truth (fun atom => reader.meaning atom scope) = .yes ↔
        plain.On (scope plain.left) (scope plain.right) ∧ reader.all texts scope = .yes := by
  cases texts with
  | nil =>
    have hfold : fold (joined []) = "" := rfl
    rw [hfold, String.append_empty]
    refine ⟨_, understood.on_atom, fun scope => ?_⟩
    rw [← understood.on_iff]
    simp [Tree.truth, Term.truth, Factor.truth, Reader.all, Truth.all]
  | cons text texts =>
    obtain ⟨tree, htree, htruth⟩ := Reader.reads_conjunction hatoms
    have hjoined : joined (text :: texts) = " WHERE " ++ conjunction (text :: texts) := rfl
    have hread := Reads.splice understood.on_atom (Reads.group htree)
    have htext : (plain.join.condition ++ fold (joined (text :: texts))).toList =
        plain.join.condition.toList ++ (' ' :: 'A' :: 'N' :: 'D' :: ' ' :: '(' ::
          ((conjunction (text :: texts)).toList ++ [')'])) := by
      rw [hjoined, fold_conjunction hqualified, String.toList_append, String.toList_append,
        String.toList_append, List.append_assoc]
      rfl
    refine ⟨_, (by rw [ReadsAs, htext]; exact hread), fun scope => ?_⟩
    rw [← understood.on_iff, ← htruth scope, ← Truth.and_eq_yes]
    rfl

/-- Without the right table, conditions that name none of its columns are as true as with it. -/
theorem all_pair_eq_single (understood : plain.Understood reader) {texts : List String}
    (hnames : ∀ t ∈ texts, ¬ Names plain.right.toList t.toList) (row other : Row V) :
    reader.all texts (.pair plain.left row plain.right other) =
      reader.all texts (.single plain.left row) := by
  refine congrArg Truth.all (List.map_congr_left fun t ht => ?_)
  exact understood.named _ _ _ (hnames t ht) fun name hne => Scope.pair_eq_single hne row other

/-! ## Rows -/

section Rows

variable {db : Database V} {condition : Row V → Row V → Truth} {row : Row V}

/-- Where a row without a partner is refused, a row occurs in the join with a partner only. -/
theorem occurs_iff_partner
    (hrefused : plain.kind = .left → ∀ row ∈ db plain.left, condition row nullRow ≠ .yes) :
    plain.Occurs db condition row ↔ row ∈ db plain.left ∧
      ∃ other ∈ db plain.right, plain.On row other ∧ condition row other = .yes := by
  constructor
  · rintro ⟨right, hjoin, htrue⟩
    generalize hkind : plain.kind = kind at hjoin
    cases hjoin with
    | matched hleft hright hon => exact ⟨hleft, _, hright, hon, htrue⟩
    | leftOnly hleft _ => exact absurd htrue (hrefused hkind row hleft)
  · rintro ⟨hleft, other, hright, hon, htrue⟩
    exact ⟨some other, .matched hleft hright hon, htrue⟩

/-- A left join keeps every row, so the partners do not matter to a condition on the row alone. -/
theorem occurs_iff_alone (hkind : plain.kind = .left)
    (halone : ∀ other, condition row other = condition row nullRow) :
    plain.Occurs db condition row ↔ row ∈ db plain.left ∧ condition row nullRow = .yes := by
  constructor
  · rintro ⟨right, hjoin, htrue⟩
    rw [halone] at htrue
    rw [hkind] at hjoin
    cases hjoin with
    | matched hleft _ _ => exact ⟨hleft, htrue⟩
    | leftOnly hleft _ => exact ⟨hleft, htrue⟩
  · rintro ⟨hleft, htrue⟩
    by_cases hpartner : ∃ other ∈ db plain.right, plain.On row other
    · obtain ⟨other, hright, hon⟩ := hpartner
      exact ⟨some other, .matched hleft hright hon, (halone other).trans htrue⟩
    · refine ⟨none, ?_, htrue⟩
      rw [hkind]
      exact .leftOnly hleft fun other hright hon => hpartner ⟨other, hright, hon⟩

end Rows

/-! ## The statement -/

section Statement

variable {db : Database V} {texts : List String}

/-- How true the condition is for a row of each table. -/
def required (plain : PlainJoin) (reader : Reader V) (texts : List String) (row other : Row V) :
    Truth :=
  reader.all texts (.pair plain.left row plain.right other)

/-- The rows that a statement deletes are those that occur in the join. -/
def DeletesJoined (plain : PlainJoin) (reader : Reader V) (db : Database V) (texts : List String)
    (deletion : Deletion) : Prop :=
  deletion.target = plain.left ∧
    (∀ text ∈ deletion.conditions, ∃ tree, ReadsAs reader.atoms text tree) ∧
    ∀ row, deletion.Deletes reader db row ↔
      plain.Occurs db (plain.required reader texts) row

theorem deletesJoined_plain (understood : plain.Understood reader) (hkind : plain.kind = .left)
    (hatoms : ∀ t ∈ texts, reader.IsAtom t)
    (hnames : ∀ t ∈ texts, ¬ Names plain.right.toList t.toList) :
    plain.DeletesJoined reader db texts (.plain plain.left (conditionOf? texts)) := by
  refine ⟨rfl, ?_, fun row => ?_⟩
  · intro text ht
    exact Reader.reads_conditionOf? hatoms text (Option.mem_toList.mp ht)
  · have halone (other : Row V) : plain.required reader texts row other =
        reader.all texts (.single plain.left row) :=
      all_pair_eq_single understood hnames row other
    rw [occurs_iff_alone hkind fun other => (halone other).trans (halone nullRow).symm,
      halone nullRow, ← Reader.holds_conditionOf?_iff hatoms]
    rfl

theorem deletesJoined_partner {deletion : Deletion} (understood : plain.Understood reader)
    (hqualified : ∀ t ∈ texts, IsQualified t.toList) (hatoms : ∀ t ∈ texts, reader.IsAtom t)
    (hrefused : plain.kind = .left →
      ∀ row ∈ db plain.left, plain.required reader texts row nullRow ≠ .yes)
    (hdeletion :
      deletion = .whereExists plain.left plain.right
        (plain.join.condition ++ fold (joined texts)) ∨
      deletion = .usingPartner plain.left plain.right
        (plain.join.condition ++ fold (joined texts))) :
    plain.DeletesJoined reader db texts deletion := by
  obtain ⟨tree, htree, htruth⟩ := reads_partner understood hqualified hatoms
  have hrow (row : Row V) : (row ∈ db plain.left ∧ ∃ other ∈ db plain.right, reader.Holds
      (plain.join.condition ++ fold (joined texts)) (.pair plain.left row plain.right other)) ↔
      plain.Occurs db (plain.required reader texts) row := by
    rw [occurs_iff_partner hrefused]
    simp only [Reader.holds_iff htree, htruth, Scope.pair_left,
      Scope.pair_right plain.left_ne_right, required]
  have hread : ∃ tree, ReadsAs reader.atoms (plain.join.condition ++ fold (joined texts)) tree :=
    ⟨tree, htree⟩
  rcases hdeletion with rfl | rfl
  · exact ⟨rfl, by simpa [Deletion.conditions] using hread, hrow⟩
  · exact ⟨rfl, by simpa [Deletion.conditions] using hread, hrow⟩

theorem deletesJoined_multiTable (understood : plain.Understood reader)
    (hatoms : ∀ t ∈ texts, reader.IsAtom t) :
    plain.DeletesJoined reader db texts
      (.multiTable plain.left plain.join (conditionOf? texts)) := by
  refine ⟨rfl, ?_, fun row => ?_⟩
  · intro text ht
    rcases List.mem_cons.mp ht with rfl | hmem
    · exact ⟨_, understood.on_atom⟩
    · exact Reader.reads_conditionOf? hatoms text (Option.mem_toList.mp hmem)
  · have hon : (fun left right => reader.Holds plain.join.condition
        (.pair plain.join.leftTable left plain.join.rightTable right)) = plain.On := by
      funext left right
      exact propext (holds_on understood left right)
    constructor
    · rintro ⟨left, right, hjoin, htrue, ⟨-, rfl⟩ | ⟨hname, -⟩⟩
      · rw [hon] at hjoin
        exact ⟨right, hjoin, (Reader.holds_conditionOf?_iff hatoms _).mp htrue⟩
      · exact absurd hname plain.left_ne_right
    · rintro ⟨right, hjoin, htrue⟩
      refine ⟨some row, right, ?_, (Reader.holds_conditionOf?_iff hatoms _).mpr htrue,
        .inl ⟨rfl, rfl⟩⟩
      rw [hon]
      exact hjoin

theorem read?_plain_joined (hqualified : ∀ t ∈ texts, IsQualified t.toList) :
    Deletion.read? ((DeleteForm.plain plain.left).sql (joined texts)) =
      some (.plain plain.left (conditionOf? texts)) := by
  cases texts with
  | nil => exact Deletion.read?_plain plain.isName_left
  | cons text texts =>
    exact Deletion.read?_plain_where plain.isName_left (isQualified_conjunction hqualified)

theorem read?_multiTable_joined (hqualified : ∀ t ∈ texts, IsQualified t.toList) :
    Deletion.read? ((DeleteForm.multiTable plain.join plain.expression).sql (joined texts)) =
      some (.multiTable plain.left plain.join (conditionOf? texts)) := by
  cases texts with
  | nil => exact Deletion.read?_multiTable plain.isName_left plain.spelled
  | cons text texts =>
    exact Deletion.read?_multiTable_where plain.isName_left plain.spelled
      (isQualified_conjunction hqualified)

/-- The condition names a column of the right table just if one of its parts does. -/
theorem references_joined (hqualified : ∀ t ∈ texts, IsQualified t.toList) :
    references (joined texts) plain.right = true ↔
      ∃ t ∈ texts, Names plain.right.toList t.toList := by
  cases texts with
  | nil =>
    have hnone : references (joined []) plain.right = false :=
      namesAfter_of_noDot (show '.' ∉ "".toList by decide)
    simp [hnone]
  | cons text texts =>
    have htable : Outside ' ' plain.right.toList := fun want hw =>
      of_isAsciiWord (P := fun c => caseKey c ≠ caseKey ' ') (by decide +kernel)
        (plain.isName_right.2 want hw)
    exact references_conjunction htable hqualified

/-- The statement for a join is read as one that deletes the rows of the join. -/
theorem exists_deletion (dialect : Dialect) (understood : plain.Understood reader)
    (hqualified : ∀ t ∈ texts, IsQualified t.toList) (hatoms : ∀ t ∈ texts, reader.IsAtom t)
    (hrefused : plain.kind = .left → (∃ t ∈ texts, Names plain.right.toList t.toList) →
      ∀ row ∈ db plain.left, plain.required reader texts row nullRow ≠ .yes) :
    ∃ deletion, Deletion.read? (dialect.deleteSql plain.expression (joined texts)) = some deletion ∧
      plain.DeletesJoined reader db texts deletion := by
  rw [Dialect.deleteSql, Dialect.deleteForm_of_find? plain.find?_expression, trim_expression]
  have hidle : Dialect.joinIsIdle plain.join (joined texts) = true ↔
      plain.kind = .left ∧ ¬ ∃ t ∈ texts, Names plain.right.toList t.toList := by
    rw [← references_joined hqualified]
    simp [Dialect.joinIsIdle, join]
  split
  · next h =>
    obtain ⟨hkind, hnames⟩ := hidle.mp h
    refine ⟨_, read?_plain_joined hqualified, deletesJoined_plain understood hkind hatoms ?_⟩
    exact fun t ht hn => hnames ⟨t, ht, hn⟩
  · next h =>
    have hpartner (hkind : plain.kind = .left) :
        ∀ row ∈ db plain.left, plain.required reader texts row nullRow ≠ .yes := by
      refine hrefused hkind ?_
      by_contra hnames
      exact h (hidle.mpr ⟨hkind, hnames⟩)
    have hcond := plain.condition_stopsAt (fold (joined texts))
    cases dialect with
    | mysql =>
      exact ⟨_, read?_multiTable_joined hqualified, deletesJoined_multiTable understood hatoms⟩
    | postgresql =>
      exact ⟨_, Deletion.read?_usingRight plain.isName_left plain.isName_right hcond,
        deletesJoined_partner understood hqualified hatoms hpartner (.inr rfl)⟩
    | oracle | firebird | sqlite =>
      exact ⟨_, Deletion.read?_whereExists plain.isName_left plain.isName_right hcond,
        deletesJoined_partner understood hqualified hatoms hpartner (.inl rfl)⟩

end Statement

/-- **The statement for a join deletes the rows of the join.** The condition is compiled from
entries on columns of the two tables, each a comparison of any truth. The statement is read as one
on the left table, its conditions can be read, and it deletes a row just if the row occurs in the
join under all the comparisons. Of a left join with a condition that names a column of the right table, this is
so if no row passes with NULL in every column of that table. -/
theorem join_delete_deletes_join (dialect : Dialect) (understood : plain.Understood reader)
    (db : Database V) {clause compiled : Clause} {condition : Value} {reserved : List String}
    {entries : List Entry} (hentries : entries? condition = some entries)
    (hset : clause.set condition reserved = (.ok (), compiled))
    (hkeyed : ∀ entry ∈ filled entries, ∃ key value, entry = (.text key, value) ∧
      (QualifiedBy plain.left.toList key ∨ QualifiedBy plain.right.toList key))
    (hatoms : ∀ entry ∈ filled entries, ∀ text,
      EntryText compiled.placeholders entry text → reader.IsAtom text) :
    ∃ texts, List.Forall₂ (EntryText compiled.placeholders) (filled entries) texts ∧
      ((plain.kind = .left → (∃ t ∈ texts, Names plain.right.toList t.toList) →
          ∀ row ∈ db plain.left, plain.required reader texts row nullRow ≠ .yes) →
        ∃ deletion,
          Deletion.read? (dialect.deleteSql plain.expression compiled.sql) = some deletion ∧
          plain.DeletesJoined reader db texts deletion) := by
  obtain ⟨texts, htexts, hsql⟩ := Clause.entryTexts_of_set hentries hset
  have hqualified : ∀ t ∈ texts, IsQualified t.toList := by
    intro t ht
    obtain ⟨entry, hentry, htext⟩ := exists_entry_of_mem htexts ht
    obtain ⟨key, value, rfl, hleft | hright⟩ := hkeyed entry hentry
    · exact isQualified_of_entryText hleft htext
    · exact isQualified_of_entryText hright htext
  have hreads : ∀ t ∈ texts, reader.IsAtom t := by
    intro t ht
    obtain ⟨entry, hentry, htext⟩ := exists_entry_of_mem htexts ht
    exact hatoms entry hentry t htext
  refine ⟨texts, htexts, fun hrefused => ?_⟩
  rw [hsql]
  exact exists_deletion dialect understood hqualified hreads hrefused

def ordersOfCustomers : PlainJoin where
  kind := .left
  left := "orders"
  right := "customers"
  leftColumn := "customer"
  rightColumn := "id"
  isName_left := .of_all (by decide) (by decide)
  isName_right := .of_all (by decide) (by decide)
  apart := by unfold SameWord; decide
  isColumn_left := .of_all (by decide) (by decide)
  isColumn_right := .of_all (by decide) (by decide)

/-- Two values are compared; a NULL makes the result unknown. -/
def compared : Option String → Option String → Truth
  | some a, some b => if a = b then .yes else .no
  | _, _ => .unknown

/-- A reader of the comparisons of a customer with an order and with a country. -/
def countryReader : Reader String where
  atoms := .plain
  meaning text scope :=
    if text = "orders.customer = customers.id".toList then
      compared (scope "orders" "customer") (scope "customers" "id")
    else if text = "customers.country = :a_customers_country".toList then
      compared (scope "customers" "country") (some "NL")
    else .unknown

theorem compared_eq_yes_iff {a b : Option String} :
    compared a b = .yes ↔ ∃ value, a = some value ∧ b = some value := by
  cases a with
  | none => simp [compared]
  | some a =>
    cases b with
    | none => simp [compared]
    | some b => simp [compared, eq_comm]

theorem understood_countryReader : ordersOfCustomers.Understood countryReader where
  on_atom := by rfl
  on_iff scope := compared_eq_yes_iff
  named text scope other hnames hscope := by
    have hjoin : text ≠ "orders.customer = customers.id".toList := by
      rintro rfl
      exact hnames (namesAfter_none_iff.mp (by decide))
    have hcountry : text ≠ "customers.country = :a_customers_country".toList := by
      rintro rfl
      exact hnames (namesAfter_none_iff.mp (by decide))
    simp only [countryReader, if_neg hjoin, if_neg hcountry]

/-- An order of the customer with the number 7, who lives in the Netherlands. -/
def oneOrder : Database String := fun table =>
  if table = "orders" then [fun column => if column = "customer" then some "7" else none]
  else if table = "customers" then
    [fun column =>
      if column = "id" then some "7" else if column = "country" then some "NL" else none]
  else []

theorem entryText_country {text : String} (h : EntryText [("a_customers_country", .text "NL")]
    (.text "customers.country", .text "NL") text) :
    text = "customers.country = :a_customers_country" := by
  cases h with
  | keyed key value hletter hbound =>
  rw [(Prod.mk.inj (List.mem_singleton.mp hbound)).1]
  rfl

/-- The orders of customers in one country are deleted. -/
theorem join_delete_deletes_join_by_country :
    Clause.set {} (.map [(.text "customers.country", .text "NL")]) [] =
        (.ok (), { sql := " WHERE customers.country = :a_customers_country",
                   placeholders := [("a_customers_country", .text "NL")] }) ∧
      ∃ deletion,
        Deletion.read? (Dialect.deleteSql .sqlite ordersOfCustomers.expression
          " WHERE customers.country = :a_customers_country") = some deletion ∧
        ordersOfCustomers.DeletesJoined countryReader oneOrder
          ["customers.country = :a_customers_country"] deletion := by
  have hset : Clause.set {} (.map [(.text "customers.country", .text "NL")]) [] =
      (.ok (), { sql := " WHERE customers.country = :a_customers_country",
                 placeholders := [("a_customers_country", .text "NL")] }) := by rfl
  have hfilled : filled [(.text "customers.country", .text "NL")] =
      [(.text "customers.country", .text "NL")] := rfl
  have hkeyed : ∀ entry ∈ filled [(.text "customers.country", .text "NL")],
      ∃ key value, entry = (.text key, value) ∧
        (QualifiedBy ordersOfCustomers.left.toList key ∨
          QualifiedBy ordersOfCustomers.right.toList key) := by
    intro entry hentry
    obtain rfl := List.mem_singleton.mp (hfilled ▸ hentry)
    exact ⟨_, _, rfl, .inr ⟨"customers".toList, "country".toList, by rfl,
      .of_all (by decide) (by decide), rfl⟩⟩
  have hatoms : ∀ entry ∈ filled [(.text "customers.country", .text "NL")], ∀ text,
      EntryText [("a_customers_country", .text "NL")] entry text → countryReader.IsAtom text := by
    intro entry hentry text htext
    obtain rfl := List.mem_singleton.mp (hfilled ▸ hentry)
    rw [entryText_country htext]
    rfl
  obtain ⟨texts, htexts, hdeletes⟩ :=
    join_delete_deletes_join .sqlite understood_countryReader oneOrder rfl hset hkeyed hatoms
  rw [hfilled] at htexts
  obtain ⟨⟩ | ⟨htext, ⟨⟩⟩ := htexts
  obtain rfl := entryText_country htext
  refine ⟨hset, hdeletes fun _ _ row _ htrue => ?_⟩
  -- without a customer, the country is NULL and the comparison unknown
  have hunknown : ordersOfCustomers.required countryReader
      ["customers.country = :a_customers_country"] row nullRow = .unknown := by rfl
  rw [hunknown] at htrue
  cases htrue

end PlainJoin

end SqlToolkit
