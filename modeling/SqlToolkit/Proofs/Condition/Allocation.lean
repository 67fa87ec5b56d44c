import SqlToolkit.Proofs.Condition.Freshness

/-!
# Which placeholder names a condition gets

The name of an entry is the base of its column with a letter in front. Letters that would make a
reserved or a remembered name are blocked; the others are given out in alphabetical order, to each
base on its own, as names with different bases never meet. So a condition is accepted exactly if no
base has more entries than letters left, and then each of its names is known beforehand.
-/

namespace SqlToolkit.Condition

/-! ## Names and letters -/

theorem nameWith_inj {base other : String} {letter mark : Char} :
    nameWith base letter = nameWith other mark ↔ base = other ∧ letter = mark := by
  constructor
  · intro h
    have hchars : letter :: '_' :: base.toList = mark :: '_' :: other.toList := by
      simpa [nameWith] using congrArg String.toList h
    obtain ⟨hletter, hrest⟩ := List.cons.inj hchars
    exact ⟨String.toList_inj.mp (List.tail_eq_of_cons_eq hrest), hletter⟩
  · rintro ⟨rfl, rfl⟩
    rfl

theorem nodup_letters : letters.Nodup := by decide

/-- A letter is blocked for a base if the name that they make is used already. -/
def isBlocked (used : List String) (base : String) (letter : Char) : Bool :=
  used.contains (nameWith base letter)

def blockedLetters (used : List String) (base : String) : List Char :=
  letters.filter (isBlocked used base)

/-- The letters that are left for a base, in alphabetical order. -/
def freeLetters (used : List String) (base : String) : List Char :=
  letters.filter fun letter => !isBlocked used base letter

theorem length_freeLetters_add (used : List String) (base : String) :
    (freeLetters used base).length + (blockedLetters used base).length = 26 := by
  have hsplit := List.length_eq_length_filter_add (isBlocked used base) (l := letters)
  have hall : letters.length = 26 := rfl
  simp only [freeLetters, blockedLetters]
  omega

/-- The first letter that is neither blocked nor among the first free ones is the next free one. -/
theorem find?_freeLetters {given : Char → Bool} {used : List String} {base : String} {count : Nat}
    (h : ∀ letter ∈ letters,
      given letter = ((freeLetters used base).take count).contains letter) :
    (letters.find? fun letter => !(given letter || isBlocked used base letter)) =
      (freeLetters used base)[count]? := by
  have hnodup : (freeLetters used base).Nodup := nodup_letters.filter _
  rw [← List.take_append_drop count (freeLetters used base)] at hnodup
  have hapart := (List.nodup_append.mp hnodup).2.2
  have hgiven (letter : Char) (hl : letter ∈ freeLetters used base) :
      given letter = ((freeLetters used base).take count).contains letter :=
    h letter (List.mem_of_mem_filter hl)
  have hsplit : (letters.filter fun letter => !(given letter || isBlocked used base letter)) =
      (freeLetters used base).filter fun letter => !given letter := by
    rw [freeLetters, List.filter_filter]
    simp only [Bool.not_or]
  have hfront : (((freeLetters used base).take count).filter fun letter => !given letter) = [] := by
    refine List.filter_eq_nil_iff.mpr fun letter hl => ?_
    rw [hgiven letter (List.mem_of_mem_take hl)]
    simpa using hl
  have hback : (((freeLetters used base).drop count).filter fun letter => !given letter) =
      (freeLetters used base).drop count := by
    refine List.filter_eq_self.mpr fun letter hl => ?_
    have hnot : letter ∉ (freeLetters used base).take count := fun hm => hapart _ hm _ hl rfl
    rw [hgiven letter (List.mem_of_mem_drop hl)]
    simpa using hnot
  calc (letters.find? fun letter => !(given letter || isBlocked used base letter))
      = (letters.filter fun letter => !(given letter || isBlocked used base letter)).head? :=
        List.head?_filter.symm
    _ = ((freeLetters used base).filter fun letter => !given letter).head? := by rw [hsplit]
    _ = ((freeLetters used base).drop count).head? := by
        conv_lhs => rw [← List.take_append_drop count (freeLetters used base), List.filter_append]
        rw [hfront, hback, List.nil_append]
    _ = (freeLetters used base)[count]? := List.head?_drop

/-! ## Entries that name columns -/

/-- An entry whose key names a column, with a value that is not empty. -/
structure ColumnEntry where
  key : String
  value : Value
  named : column key ≠ []
  filled : value.isEmpty = false

namespace ColumnEntry

def base (entry : ColumnEntry) : String := baseOf (column entry.key)

def toEntry (entry : ColumnEntry) : Entry := (.text entry.key, entry.value)

def spelled (entry : ColumnEntry) (name : String) : String :=
  fragment entry.key (column entry.key) name

def count (base : String) (entries : List ColumnEntry) : Nat :=
  (entries.map ColumnEntry.base).count base

theorem count_append (base : String) (entries more : List ColumnEntry) :
    count base (entries ++ more) = count base entries + count base more := by
  simp [count]

theorem count_cons (base : String) (entry : ColumnEntry) (entries : List ColumnEntry) :
    count base (entry :: entries) = count base [entry] + count base entries :=
  count_append base [entry] entries

theorem count_singleton_self (entry : ColumnEntry) : count entry.base [entry] = 1 := by
  simp [count]

theorem count_singleton_of_ne {base : String} {entry : ColumnEntry} (h : entry.base ≠ base) :
    count base [entry] = 0 := by
  simp [count, h]

end ColumnEntry

open ColumnEntry (count)

/-- Every entry has the letter whose number is that of the entry among those with its base. -/
structure NamedInOrder (free : String → List Char) (earlier entries : List ColumnEntry)
    (names : List String) : Prop where
  length : names.length = entries.length
  letter : ∀ place entry, entries[place]? = some entry →
    ∃ letter, (free entry.base)[count entry.base (earlier ++ entries.take place)]? = some letter ∧
      names[place]? = some (nameWith entry.base letter)

theorem namedInOrder_nil (free : String → List Char) (earlier : List ColumnEntry) :
    NamedInOrder free earlier [] [] := ⟨rfl, nofun⟩

theorem NamedInOrder.cons {free : String → List Char} {earlier entries : List ColumnEntry}
    {entry : ColumnEntry} {names : List String} {letter : Char}
    (hfirst : (free entry.base)[count entry.base earlier]? = some letter)
    (hrest : NamedInOrder free (earlier ++ [entry]) entries names) :
    NamedInOrder free earlier (entry :: entries) (nameWith entry.base letter :: names) := by
  refine ⟨congrArg (· + 1) hrest.length, fun place found hfound => ?_⟩
  cases place with
  | zero =>
    cases hfound
    exact ⟨letter, by simpa using hfirst, rfl⟩
  | succ place =>
    obtain ⟨mark, hmark, hname⟩ := hrest.letter place found hfound
    refine ⟨mark, ?_, hname⟩
    rwa [List.append_assoc] at hmark

/-! ## Giving out names -/

namespace Clause

variable {clause : Clause} {reserved used : List String} {earlier : List ColumnEntry}

/-- The clause has given each base as many of its free letters as entries with that base came
before; the other names in use are the reserved and the remembered ones. -/
structure HasNamed (clause : Clause) (reserved used : List String)
    (earlier : List ColumnEntry) : Prop where
  outside : used = reserved ++ clause.remembered
  given : ∀ base, ∀ letter ∈ letters, nameWith base letter ∈ clause.names ↔
    letter ∈ (freeLetters used base).take (count base earlier)

theorem hasNamed_of_no_names (h : clause.placeholders = []) :
    clause.HasNamed reserved (reserved ++ clause.remembered) [] := by
  refine ⟨rfl, fun base letter _ => ?_⟩
  have hnames : clause.names = [] := by rw [names, h]; rfl
  simp [hnames, count]

theorem HasNamed.freeName?_eq (h : clause.HasNamed reserved used earlier) (base : String) :
    clause.freeName? reserved base =
      ((freeLetters used base)[count base earlier]?).map (nameWith base) := by
  have htakes (letter : Char) : clause.takes reserved (nameWith base letter) =
      (clause.names.contains (nameWith base letter) || isBlocked used base letter) := by
    rw [takes, isBlocked, h.outside, List.contains_append, Bool.or_assoc,
      Bool.or_comm (reserved.contains _)]
    rfl
  have hgiven : ∀ letter ∈ letters, clause.names.contains (nameWith base letter) =
      ((freeLetters used base).take (count base earlier)).contains letter := by
    intro letter hl
    rw [Bool.eq_iff_iff, List.contains_iff_mem, List.contains_iff_mem, h.given base letter hl]
  rw [freeName?, List.find?_map, ← find?_freeLetters hgiven]
  simp only [Function.comp_def, htakes]

def withName (clause : Clause) (name : String) (value : Value) : Clause :=
  { clause with placeholders := clause.placeholders ++ [(name, value)] }

theorem names_withName (clause : Clause) (name : String) (value : Value) :
    (clause.withName name value).names = clause.names ++ [name] := by
  simp [withName, names, Entries.keys]

/-- Only the base of the new entry is affected by its name. -/
theorem HasNamed.withName (h : clause.HasNamed reserved used earlier) {entry : ColumnEntry}
    {letter : Char} (hletter : (freeLetters used entry.base)[count entry.base earlier]? = some letter)
    (value : Value) :
    (clause.withName (nameWith entry.base letter) value).HasNamed reserved used
      (earlier ++ [entry]) := by
  refine ⟨h.outside, fun base mark hmark => ?_⟩
  rw [names_withName, List.mem_append, List.mem_singleton, nameWith_inj, h.given base mark hmark,
    ColumnEntry.count_append]
  by_cases hbase : entry.base = base
  · subst hbase
    rw [ColumnEntry.count_singleton_self, List.take_add_one, hletter, List.mem_append]
    simp
  · rw [ColumnEntry.count_singleton_of_ne hbase, Nat.add_zero]
    exact or_iff_left fun hsame => hbase hsame.1.symm

theorem HasNamed.addEntry_eq (h : clause.HasNamed reserved used earlier) (entry : ColumnEntry) :
    clause.addEntry reserved entry.toEntry =
      match (freeLetters used entry.base)[count entry.base earlier]? with
      | none => .error (.condition (.namesExhausted entry.base))
      | some letter => .ok (entry.spelled (nameWith entry.base letter),
          clause.withName (nameWith entry.base letter) entry.value.formatted) := by
  have hcolumn : (column entry.key).isEmpty = false := List.isEmpty_eq_false_iff.mpr entry.named
  show clause.addKeyed reserved entry.key entry.value = _
  unfold addKeyed
  dsimp only
  rw [hcolumn, ← ColumnEntry.base, h.freeName?_eq]
  cases (freeLetters used entry.base)[count entry.base earlier]? with
  | none => rfl
  | some letter => rfl

/-- Every base has letters for all of its entries. -/
def Suffices (used : List String) (entries : List ColumnEntry) : Prop :=
  ∀ base, count base entries ≤ (freeLetters used base).length

theorem Suffices.getElem?_eq {entry : ColumnEntry} {rest : List ColumnEntry}
    (h : Suffices used (earlier ++ entry :: rest)) :
    ∃ letter, (freeLetters used entry.base)[count entry.base earlier]? = some letter := by
  have hbase := h entry.base
  rw [ColumnEntry.count_append, ColumnEntry.count_cons, ColumnEntry.count_singleton_self] at hbase
  exact ⟨_, List.getElem?_eq_getElem (by omega)⟩

theorem Suffices.snoc {entry : ColumnEntry} {letter : Char} (h : Suffices used earlier)
    (hletter : (freeLetters used entry.base)[count entry.base earlier]? = some letter) :
    Suffices used (earlier ++ [entry]) := by
  intro base
  rw [ColumnEntry.count_append]
  by_cases hbase : entry.base = base
  · subst hbase
    rw [ColumnEntry.count_singleton_self]
    exact (List.getElem?_eq_some_iff.mp hletter).1
  · rw [ColumnEntry.count_singleton_of_ne hbase]
    exact h base

def withNames (clause : Clause) (names : List String) (entries : List ColumnEntry) : Clause :=
  { clause with
    placeholders := clause.placeholders ++ names.zip (entries.map fun e => e.value.formatted) }

theorem withNames_cons (clause : Clause) (name : String) (names : List String)
    (entry : ColumnEntry) (entries : List ColumnEntry) :
    clause.withNames (name :: names) (entry :: entries) =
      (clause.withName name entry.value.formatted).withNames names entries := by
  simp [withNames, withName]

/-- What becomes of a clause when entries are added that come after others. -/
inductive Added (clause : Clause) (used : List String) (earlier entries : List ColumnEntry) :
    Attempt (List String) × Clause → Prop
  | all {names : List String} (henough : Suffices used (earlier ++ entries))
      (hnames : NamedInOrder (freeLetters used) earlier entries names) :
      Added clause used earlier entries
        (.ok (List.zipWith ColumnEntry.spelled entries names), clause.withNames names entries)
  | short {base : String} {left : Clause} (hshort : ¬Suffices used (earlier ++ entries)) :
      Added clause used earlier entries (.error (.condition (.namesExhausted base)), left)

theorem HasNamed.added (h : clause.HasNamed reserved used earlier) (entries : List ColumnEntry)
    (henough : Suffices used earlier) :
    clause.Added used earlier entries
      (clause.addEntries reserved (entries.map ColumnEntry.toEntry)) := by
  induction entries generalizing clause earlier with
  | nil =>
    have hsame : clause.withNames [] [] = clause := by simp [withNames]
    have hall : Suffices used (earlier ++ []) := by rwa [List.append_nil]
    have hadded := @Added.all clause _ _ _ _ hall (namedInOrder_nil (freeLetters used) earlier)
    rwa [hsame] at hadded
  | cons entry rest ih =>
    have hfilled : entry.toEntry.2.isEmpty = false := entry.filled
    have hsnoc : earlier ++ [entry] ++ rest = earlier ++ entry :: rest := by simp
    rw [List.map_cons, addEntries, hfilled, if_neg Bool.false_ne_true, h.addEntry_eq]
    cases hletter : (freeLetters used entry.base)[count entry.base earlier]? with
    | none =>
      refine .short fun hall => ?_
      obtain ⟨letter, hsome⟩ := hall.getElem?_eq
      cases hletter.symm.trans hsome
    | some letter =>
      have hrest := ih (h.withName hletter entry.value.formatted) (henough.snoc hletter)
      generalize hresult : addEntries _ reserved (rest.map ColumnEntry.toEntry) = result at hrest
      dsimp only
      rw [hresult]
      cases hrest with
      | all hall hnames =>
        rw [hsnoc] at hall
        have hadded := @Added.all clause _ _ _ _ hall (hnames.cons hletter)
        rwa [withNames_cons] at hadded
      | short hshort =>
        rw [hsnoc] at hshort
        exact .short hshort

/-! ## Conditions -/

end Clause

/-- The ways to list entries in a condition. -/
inductive Listing where
  | map
  | list
  | tuple

def Listing.condition (entries : List Entry) : Listing → Value
  | .map => .map entries
  | .list => .list (entries.map fun entry => .tuple [entry.1, entry.2])
  | .tuple => .tuple (entries.map fun entry => .tuple [entry.1, entry.2])

theorem mapM_entryOf (entries : List Entry) :
    (entries.map fun entry => Value.tuple [entry.1, entry.2]).mapM entryOf = .ok entries := by
  induction entries with
  | nil => rfl
  | cons entry rest ih =>
    rw [List.map_cons, List.mapM_cons, ih]
    rfl

namespace Clause

variable {used : List String}

/-- However they are listed, the entries are compiled into a clause that was retired. -/
theorem set_listing (clause : Clause) (listing : Listing) (entries : List Entry)
    (reserved : List String) :
    clause.set (listing.condition entries) reserved =
      clause.retire.compileEntries reserved entries := by
  cases listing with
  | map => rfl
  | list | tuple =>
    unfold set Listing.condition
    simp only [mapM_entryOf]

theorem suffices_iff {entries : List ColumnEntry} :
    Suffices used entries ↔
      ∀ base, count base entries + (blockedLetters used base).length ≤ 26 := by
  refine forall_congr' fun base => ?_
  have hall := length_freeLetters_add used base
  omega

/-- What a clause is when a condition was set: one with a name for each of the entries, or refused
because a base has too many of them. -/
inductive GivenOut (used : List String) (entries : List ColumnEntry) :
    Attempt Unit × Clause → Prop
  | all {names : List String} {clause : Clause} (henough : Suffices used entries)
      (hnames : NamedInOrder (freeLetters used) [] entries names)
      (hplaceholders : clause.placeholders =
        names.zip (entries.map fun entry => entry.value.formatted))
      (hsql : clause.sql = joined (List.zipWith ColumnEntry.spelled entries names)) :
      GivenOut used entries (.ok (), clause)
  | short {base : String} {clause : Clause} (hshort : ¬Suffices used entries) :
      GivenOut used entries (.error (.condition (.namesExhausted base)), clause)

theorem joined_spelled {entries : List ColumnEntry} {names : List String}
    (h : names.length = entries.length) :
    joined (List.zipWith ColumnEntry.spelled entries names) =
      if entries.isEmpty then "" else
        " WHERE " ++ " AND ".intercalate (List.zipWith ColumnEntry.spelled entries names) := by
  cases entries with
  | nil => rfl
  | cons entry entries =>
    cases names with
    | nil => cases h
    | cons name names => rfl

theorem givenOut_compileEntries {clause : Clause} (h : clause.placeholders = []) (reserved : List String)
    (entries : List ColumnEntry) :
    GivenOut (reserved ++ clause.remembered) entries
      (clause.compileEntries reserved (entries.map ColumnEntry.toEntry)) := by
  have hnamed : clause.HasNamed reserved (reserved ++ clause.remembered) [] :=
    hasNamed_of_no_names h
  have hadded := hnamed.added entries fun _ => Nat.zero_le _
  unfold compileEntries
  generalize clause.addEntries reserved (entries.map ColumnEntry.toEntry) = result at hadded
  cases hadded with
  | @all names henough hnames =>
    refine .all henough hnames ?_ rfl
    rw [withNames, h, List.nil_append]
  | short hshort => exact .short hshort

/-- **Names are given out exactly.** Whatever was done to a clause before, and whichever names are
reserved, a condition on columns is accepted if and only if every base has at most as many entries
as letters that are not blocked for it. Then the entries with one base have its free letters in
alphabetical order, the placeholders are these names with the formatted values in the order of the
entries, and the SQL is made of the texts of the entries, or empty if there are none. Otherwise the
condition is refused because the names of a base are exhausted. -/
theorem names_given_out_iff (changes : List Change) (reserved : List String) (listing : Listing)
    (entries : List ColumnEntry) :
    let used := reserved ++ latestNames (history {} changes)
    let given := (changed {} changes).set (listing.condition (entries.map ColumnEntry.toEntry))
      reserved
    (given.1 = .ok () ↔
      ∀ base, count base entries + (blockedLetters used base).length ≤ 26) ∧
    (given.1 = .ok () → ∃ names, NamedInOrder (freeLetters used) [] entries names ∧
      given.2.placeholders = names.zip (entries.map fun entry => entry.value.formatted) ∧
      given.2.sql = if entries.isEmpty then "" else
        " WHERE " ++ " AND ".intercalate (List.zipWith ColumnEntry.spelled entries names)) ∧
    (given.1 ≠ .ok () → ∃ base, given.1 = .error (.condition (.namesExhausted base))) := by
  have hremembered : (changed {} changes).retire.remembered = latestNames (history {} changes) :=
    remembered_changed {} [] changes rfl
  have hgiven := @givenOut_compileEntries (changed {} changes).retire rfl reserved entries
  rw [hremembered, ← set_listing _ listing] at hgiven
  dsimp only
  generalize (changed {} changes).set _ reserved = given at hgiven ⊢
  rw [← suffices_iff]
  cases hgiven with
  | @all names clause henough hnames hplaceholders hsql =>
    refine ⟨iff_of_true rfl henough, fun _ => ⟨names, hnames, hplaceholders, ?_⟩,
      fun hrefused => absurd rfl hrefused⟩
    rw [hsql, joined_spelled hnames.length]
  | @short base clause hshort =>
    exact ⟨iff_of_false nofun hshort, nofun, fun _ => ⟨base, rfl⟩⟩

/-- A condition without entries is accepted, and its SQL has no keyword. -/
theorem set_no_entries :
    (({} : Clause).set (Listing.list.condition []) []).1 = .ok () ∧
      (({} : Clause).set (Listing.list.condition []) []).2.sql ≠
        " WHERE " ++ " AND ".intercalate [] :=
  ⟨rfl, by decide⟩

end Clause

end SqlToolkit.Condition
