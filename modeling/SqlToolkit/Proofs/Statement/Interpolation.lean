import SqlToolkit.Statement.Interpolation

/-!
# Statements that can be shown with their values

Sorting compares items that are in the list, so a list all of whose items have an order can be
sorted. Positions have an order among themselves; a statement whose values are all under names and
positions can therefore be shown with them, if they can be written. Sorting loses no item, so no
value escapes the writing.
-/

namespace SqlToolkit

namespace Insertion

variable {α : Type} {before? : α → α → Option Bool} {p : α → Prop}

section

variable (total : ∀ a b, p a → p b → ∃ answer, before? a b = some answer)

include total

theorem runLength?_returns (falling : Bool) {previous : α} {items : List α} (hp : p previous)
    (h : ∀ item ∈ items, p item) :
    ∃ length, runLength? before? falling previous items = some length := by
  induction items generalizing previous with
  | nil => exact ⟨0, rfl⟩
  | cons item rest ih =>
    have hitem := h item List.mem_cons_self
    obtain ⟨answer, ha⟩ := total item previous hitem hp
    obtain ⟨length, hl⟩ := ih hitem fun other ho => h other (List.mem_cons_of_mem _ ho)
    unfold runLength?
    simp only [ha, hl, Option.bind_eq_bind, Option.bind_some]
    split
    · exact ⟨length + 1, rfl⟩
    · exact ⟨0, rfl⟩

/-- The run at the front and the rest have no items but those of the list. -/
theorem firstRun?_returns {items : List α} (h : ∀ item ∈ items, p item) :
    ∃ run rest, firstRun? before? items = some (run, rest) ∧
      (∀ item ∈ run, p item) ∧ ∀ item ∈ rest, p item := by
  match items with
  | [] => exact ⟨[], [], rfl, h, h⟩
  | [first] => exact ⟨[first], [], rfl, h, fun _ ho => by cases ho⟩
  | first :: second :: rest =>
    have hsecond := h second (List.mem_cons_of_mem _ List.mem_cons_self)
    obtain ⟨falling, hf⟩ := total second first hsecond (h first List.mem_cons_self)
    obtain ⟨length, hl⟩ := runLength?_returns total falling hsecond
      fun other ho => h other (List.mem_cons_of_mem _ (List.mem_cons_of_mem _ ho))
    simp only [firstRun?, hf, hl, Option.bind_eq_bind, Option.bind_some]
    refine ⟨_, _, rfl, ?_, fun item hitem => h item (List.mem_of_mem_drop hitem)⟩
    split
    · exact fun item hitem => h item (List.mem_of_mem_take (List.mem_reverse.mp hitem))
    · exact fun item hitem => h item (List.mem_of_mem_take hitem)

theorem placeOf?_returns {item : α} (hi : p item) {sorted : Array α} (h : ∀ other ∈ sorted, p other)
    (low high : Nat) : ∃ place, placeOf? before? item sorted low high = some place := by
  fun_induction placeOf? before? item sorted low high with
  | case1 low high hlow middle hm => exact ⟨low, rfl⟩
  | case2 low high hlow middle other hm ihleft ihright =>
    obtain ⟨answer, ha⟩ := total item other hi (h other (Array.mem_of_getElem? hm))
    rw [ha]
    cases answer
    · exact ihright
    · exact ihleft
  | case3 low high hlow => exact ⟨low, rfl⟩

theorem insert?_returns {item : α} (hi : p item) {sorted : List α} (h : ∀ other ∈ sorted, p other) :
    ∃ longer, insert? before? sorted item = some longer ∧ ∀ other ∈ longer, p other := by
  obtain ⟨place, hplace⟩ := placeOf?_returns total hi
    (fun other ho => h other (List.mem_toArray.mp ho)) 0 sorted.length
  unfold insert?
  rw [hplace]
  refine ⟨_, rfl, fun other ho => ?_⟩
  rcases List.mem_append.mp ho with ho | ho
  · exact h other (List.mem_of_mem_take ho)
  · rcases List.mem_cons.mp ho with rfl | ho
    · exact hi
    · exact h other (List.mem_of_mem_drop ho)

/-- Items that have an order among themselves can be sorted. -/
theorem sort?_returns {items : List α} (h : ∀ item ∈ items, p item) :
    ∃ sorted, sort? before? items = some sorted := by
  obtain ⟨run, rest, hf, hrun, hrest⟩ := firstRun?_returns total h
  unfold sort?
  rw [hf]
  show ∃ sorted, rest.foldlM (insert? before?) run = some sorted
  clear hf h
  induction rest generalizing run with
  | nil => exact ⟨run, rfl⟩
  | cons item rest ih =>
    obtain ⟨longer, hl, hlonger⟩ := insert?_returns total (hrest item List.mem_cons_self) hrun
    rw [List.foldlM_cons, hl]
    exact ih longer hlonger fun other ho => hrest other (List.mem_cons_of_mem _ ho)

end

/-! ## No item is lost -/

theorem firstRun?_perm {before? : α → α → Option Bool} {items run rest : List α}
    (h : firstRun? before? items = some (run, rest)) : (run ++ rest).Perm items := by
  unfold firstRun? at h
  split at h
  · next first second others =>
    simp only [Option.bind_eq_bind, Option.bind_eq_some_iff, Option.pure_def, Option.some.injEq,
      Prod.mk.injEq] at h
    obtain ⟨falling, -, length, -, rfl, rfl⟩ := h
    have hwhole (n : Nat) : ((first :: second :: others).take n
        ++ (first :: second :: others).drop n).Perm (first :: second :: others) := by
      rw [List.take_append_drop]
    split
    · exact ((List.reverse_perm _).append_right _).trans (hwhole _)
    · exact hwhole _
  · cases h
    rw [List.append_nil]

theorem insert?_perm {before? : α → α → Option Bool} {sorted longer : List α} {item : α}
    (h : insert? before? sorted item = some longer) : longer.Perm (item :: sorted) := by
  obtain ⟨place, -, hlonger⟩ := Option.bind_eq_some_iff.mp h
  cases hlonger
  calc (sorted.take place ++ item :: sorted.drop place).Perm
        (item :: (sorted.take place ++ sorted.drop place)) := List.perm_middle
    _ = item :: sorted := by rw [List.take_append_drop]

theorem sort?_perm {before? : α → α → Option Bool} {items sorted : List α}
    (h : sort? before? items = some sorted) : sorted.Perm items := by
  obtain ⟨⟨run, rest⟩, hrun, hrest⟩ := Option.bind_eq_some_iff.mp h
  refine List.Perm.trans ?_ (firstRun?_perm hrun)
  clear h hrun
  change rest.foldlM (insert? before?) run = some sorted at hrest
  induction rest generalizing run with
  | nil =>
    cases hrest
    rw [List.append_nil]
  | cons item rest ih =>
    rw [List.foldlM_cons] at hrest
    obtain ⟨longer, hlonger, hrest⟩ := Option.bind_eq_some_iff.mp hrest
    calc sorted.Perm (longer ++ rest) := ih longer hrest
      _ |>.Perm (item :: run ++ rest) := (insert?_perm hlonger).append_right rest
      _ |>.Perm (run ++ item :: rest) := List.perm_middle.symm

end Insertion

/-- A key that stands for markers: a name, or a position. -/
def Value.isMarkerKey : Value → Bool
  | .text _ | .int _ | .bool _ => true
  | _ => false

theorem Value.isKey_of_isMarkerKey {key : Value} (h : key.isMarkerKey = true) :
    key.isKey = true := by
  cases key with
  | text | int | bool => rfl
  | _ => cases h

/-- Two positions have an order. -/
theorem Value.before?_of_positions {first second : Value}
    (hf : first.isMarkerKey = true ∧ first.text? = none)
    (hs : second.isMarkerKey = true ∧ second.text? = none) :
    ∃ answer, Value.before? first second = some answer := by
  obtain ⟨hf, hnf⟩ := hf
  obtain ⟨hs, hns⟩ := hs
  cases first with
  | int | bool =>
    cases second with
    | int | bool => exact ⟨_, by unfold Value.before?; rfl⟩
    | text => cases hns
    | _ => cases hs
  | text => cases hnf
  | _ => cases hf

namespace Interpolation

/-! ## What has to be written -/

/-- All values of a map can be written. -/
def Writable (placeholders : Value.Entries) : Prop :=
  ∀ entry ∈ placeholders, entry.2.isWritable = true

/-- The values can be shown in their statement: they can be written, and those with a position have
an order. -/
structure Shows (placeholders : Value.Entries) : Prop where
  writable : Writable placeholders
  ordered : (orderedValues? (positionalEntries placeholders)).isSome = true

variable {placeholders : Value.Entries} {values : List Value} {key shown : String} {value : Value}

theorem mem_textEntries :
    (key, value) ∈ textEntries placeholders ↔ (.text key, value) ∈ placeholders := by
  rw [textEntries, List.mem_filterMap]
  constructor
  · rintro ⟨⟨written, stored⟩, hentry, hkey⟩
    cases written with
    | text content =>
      cases hkey
      exact hentry
    | _ => cases hkey
  · exact fun hentry => ⟨_, hentry, rfl⟩

/-- Each value of a map is under a name or under a position. -/
theorem writable_iff (h : orderedValues? (positionalEntries placeholders) = some values) :
    Writable placeholders ↔
      ((textEntries placeholders).map (·.2)).all Value.isWritable = true ∧
        values.all Value.isWritable = true := by
  obtain ⟨sorted, hsort, rfl⟩ := Option.map_eq_some_iff.mp h
  have hsame := Insertion.sort?_perm hsort
  simp only [List.all_eq_true, List.forall_mem_map]
  constructor
  · intro hwritable
    exact ⟨fun entry hentry => hwritable (.text entry.1, entry.2) (mem_textEntries.mp hentry),
      fun entry hentry => hwritable entry (List.mem_filter.mp (hsame.subset hentry)).1⟩
  · rintro ⟨hnamed, hpositional⟩ ⟨key, value⟩ hentry
    cases hkey : key.text? with
    | none =>
      exact hpositional _ (hsame.symm.subset (List.mem_filter.mpr ⟨hentry, by rw [hkey]; rfl⟩))
    | some name =>
      cases key with
      | text name => exact hnamed (name, value) (mem_textEntries.mpr hentry)
      | _ => cases hkey

theorem interpolate_of_writable (sql : String)
    (h : orderedValues? (positionalEntries placeholders) = some values)
    (hwritable : Writable placeholders) :
    interpolate sql placeholders =
      .ok (String.ofList (fillPositional (fillNamed sql.toList (namedEntries placeholders))
        values)) := by
  obtain ⟨hnamed, hpositional⟩ := (writable_iff h).mp hwritable
  unfold interpolate checkLiterals
  rw [if_pos hnamed, h]
  dsimp only
  rw [if_pos hpositional]
  rfl

theorem interpolate_of_not_writable (sql : String)
    (h : orderedValues? (positionalEntries placeholders) = some values)
    (hwritable : ¬Writable placeholders) : interpolate sql placeholders = .error .badValue := by
  unfold interpolate checkLiterals
  rw [h]
  split
  · next hnamed =>
    dsimp only
    rw [if_neg fun hpositional => hwritable ((writable_iff h).mpr ⟨hnamed, hpositional⟩)]
    rfl
  · rfl

/-- It does not depend on the statement whether its values can be shown in it. -/
theorem shows_iff (sql : String) :
    Shows placeholders ↔ ∃ shown, interpolate sql placeholders = .ok shown := by
  cases hvalues : orderedValues? (positionalEntries placeholders) with
  | some values =>
    by_cases hwritable : Writable placeholders
    · exact iff_of_true ⟨hwritable, by rw [hvalues]; rfl⟩
        ⟨_, interpolate_of_writable sql hvalues hwritable⟩
    · rw [interpolate_of_not_writable sql hvalues hwritable]
      exact iff_of_false (fun h => hwritable h.writable) nofun
  | none =>
    refine iff_of_false (fun h => ?_) ?_
    · have hordered := h.ordered
      rw [hvalues] at hordered
      cases hordered
    · rintro ⟨shown, h⟩
      unfold interpolate checkLiterals at h
      rw [hvalues] at h
      split at h <;> cases h

/-- What is shown was written. -/
theorem writable_of_interpolate {sql : String} (h : interpolate sql placeholders = .ok shown) :
    Writable placeholders :=
  ((shows_iff sql).mpr ⟨shown, h⟩).writable

theorem interpolate_of_not_shows (h : ¬Shows placeholders) (sql : String) :
    ∃ fault, interpolate sql placeholders = .error fault := by
  cases hshown : interpolate sql placeholders with
  | ok shown => exact absurd ((shows_iff sql).mpr ⟨shown, hshown⟩) h
  | error fault => exact ⟨fault, rfl⟩

/-- Values under names and positions have an order. -/
theorem orderedValues?_returns (h : ∀ key ∈ Entries.keys placeholders, key.isMarkerKey = true) :
    ∃ values, orderedValues? (positionalEntries placeholders) = some values := by
  have hpositions : ∀ entry ∈ positionalEntries placeholders,
      entry.1.isMarkerKey = true ∧ entry.1.text? = none := by
    intro entry hentry
    obtain ⟨hmem, hnone⟩ := List.mem_filter.mp hentry
    exact ⟨h _ (List.mem_map_of_mem hmem), Option.isNone_iff_eq_none.mp hnone⟩
  obtain ⟨sorted, hs⟩ : ∃ sorted, Insertion.sort? (fun a b => Value.before? a.1 b.1)
      (positionalEntries placeholders) = some sorted :=
    Insertion.sort?_returns (fun _ _ => Value.before?_of_positions) hpositions
  unfold orderedValues?
  rw [hs]
  exact ⟨_, rfl⟩

/-- A statement whose values are under names and positions can be shown with them if they can be
written. -/
theorem interpolate_returns (sql : String)
    (h : ∀ key ∈ Entries.keys placeholders, key.isMarkerKey = true)
    (hwritable : Writable placeholders) : ∃ shown, interpolate sql placeholders = .ok shown := by
  obtain ⟨values, hvalues⟩ := orderedValues?_returns h
  exact ⟨_, interpolate_of_writable sql hvalues hwritable⟩

end Interpolation

end SqlToolkit
