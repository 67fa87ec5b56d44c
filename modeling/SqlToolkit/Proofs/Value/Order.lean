import SqlToolkit.Value.Order

/-!
# Insertion by halving sorts

Items that are compared by whole numbers are sorted by them: nothing is lost, and no item stands
before one with a smaller number. So positions from one on without a gap stand at their own places.
-/

namespace SqlToolkit

namespace Insertion

variable {α : Type} {before? : α → α → Option Bool} {key : α → Int} {items sorted : List α}
  {item : α}

/-- The items are compared by a number that each of them has. -/
def ComparedBy (before? : α → α → Option Bool) (key : α → Int) (items : List α) : Prop :=
  ∀ a ∈ items, ∀ b ∈ items, before? a b = some (decide (key a < key b))

def Sorted (key : α → Int) (items : List α) : Prop := items.Pairwise fun a b => key a ≤ key b

theorem Sorted.le (h : Sorted key sorted) {low high : Nat} {a b : α} (ha : sorted[low]? = some a)
    (hb : sorted[high]? = some b) (hle : low ≤ high) : key a ≤ key b := by
  obtain ⟨hlow, rfl⟩ := List.getElem?_eq_some_iff.mp ha
  obtain ⟨hhigh, rfl⟩ := List.getElem?_eq_some_iff.mp hb
  by_cases heq : low = high
  · subst heq
    exact Int.le_refl _
  · exact List.pairwise_iff_getElem.mp h low high hlow hhigh (by omega)

theorem ComparedBy.of_subset (h : ComparedBy before? key items) {others : List α}
    (hsubset : others ⊆ items) : ComparedBy before? key others :=
  fun a ha b hb => h a (hsubset ha) b (hsubset hb)

/-! ## The run at the front -/

/-- How the items of a run follow each other. -/
def Follows (key : α → Int) (falling : Bool) (a b : α) : Prop :=
  if falling then key b < key a else key a ≤ key b

theorem Follows.trans {falling : Bool} {a b c : α} (h : Follows key falling a b)
    (h' : Follows key falling b c) : Follows key falling a c := by
  unfold Follows at *
  cases falling with
  | true =>
    simp only [if_true] at *
    omega
  | false =>
    simp only [Bool.false_eq_true, if_false] at *
    omega

theorem Follows.pairwise_cons {falling : Bool} {a b : α} {rest : List α}
    (h : Follows key falling a b) (hrun : (b :: rest).Pairwise (Follows key falling)) :
    (a :: b :: rest).Pairwise (Follows key falling) := by
  refine List.pairwise_cons.mpr ⟨fun other hother => ?_, hrun⟩
  rcases List.mem_cons.mp hother with rfl | hother
  · exact h
  · exact h.trans ((List.pairwise_cons.mp hrun).1 other hother)

theorem follows_decide (a b : α) : Follows key (decide (key b < key a)) a b := by
  unfold Follows
  by_cases hlt : key b < key a
  · simp [hlt]
  · simp only [hlt, decide_false, Bool.false_eq_true, if_false]
    omega

theorem runLength?_spec {previous : α} (h : ComparedBy before? key (previous :: items))
    (falling : Bool) :
    ∃ length, runLength? before? falling previous items = some length ∧
      (previous :: items.take length).Pairwise (Follows key falling) := by
  induction items generalizing previous with
  | nil => exact ⟨0, rfl, List.pairwise_singleton _ _⟩
  | cons item rest ih =>
    have hcompare := h item (List.mem_cons_of_mem _ List.mem_cons_self) previous List.mem_cons_self
    obtain ⟨length, hlength, hrun⟩ := ih (h.of_subset (List.subset_cons_self _ _))
    unfold runLength?
    simp only [hcompare, hlength, Option.bind_eq_bind, Option.bind_some]
    by_cases hgoes : decide (key item < key previous) = falling
    · refine ⟨length + 1, by simp [hgoes], ?_⟩
      rw [List.take_succ_cons]
      exact (hgoes ▸ follows_decide previous item).pairwise_cons hrun
    · exact ⟨0, by simp [hgoes], List.pairwise_singleton _ _⟩

/-- The run at the front is sorted, and it and the rest are the items. -/
theorem firstRun?_spec (h : ComparedBy before? key items) :
    ∃ run rest, firstRun? before? items = some (run, rest) ∧ (run ++ rest).Perm items ∧
      Sorted key run := by
  match items with
  | [] => exact ⟨[], [], rfl, .refl _, .nil⟩
  | [first] => exact ⟨[first], [], rfl, .refl _, List.pairwise_singleton _ _⟩
  | first :: second :: rest =>
    have hcompare := h second (List.mem_cons_of_mem _ List.mem_cons_self) first List.mem_cons_self
    obtain ⟨length, hlength, hrun⟩ :=
      runLength?_spec (h.of_subset (List.subset_cons_self _ _)) (decide (key second < key first))
    have hwhole : ((first :: second :: rest).take (length + 2)).Pairwise
        (Follows key (decide (key second < key first))) :=
      (follows_decide first second).pairwise_cons hrun
    simp only [firstRun?, hcompare, hlength, Option.bind_eq_bind, Option.bind_some]
    refine ⟨_, _, rfl, ?_, ?_⟩
    · have hperm : ((first :: second :: rest).take (length + 2)
          ++ (first :: second :: rest).drop (length + 2)).Perm (first :: second :: rest) := by
        rw [List.take_append_drop]
      split
      · exact ((List.reverse_perm _).append_right _).trans hperm
      · exact hperm
    · split
      · next hfalls =>
        rw [hfalls] at hwhole
        refine List.pairwise_reverse.mpr (hwhole.imp fun {a b} hab => ?_)
        exact Int.le_of_lt hab
      · next hrises =>
        rw [Bool.not_eq_true _ |>.mp hrises] at hwhole
        exact hwhole.imp fun {a b} hab => hab

/-! ## Insertion -/

/-- The items before a place are not above an item, and those from there on are above it. -/
def Splits (key : α → Int) (item : α) (sorted : List α) (low high : Nat) : Prop :=
  ∀ (place : Nat) (other : α), sorted[place]? = some other →
    (place < low → key other ≤ key item) ∧ (high ≤ place → key item < key other)

theorem placeOf?_spec (hsorted : Sorted key sorted) (h : ComparedBy before? key (item :: sorted))
    {low high : Nat} (hbounds : low ≤ high ∧ high ≤ sorted.length)
    (hsplits : Splits key item sorted low high) :
    ∃ place, placeOf? before? item sorted.toArray low high = some place ∧
      Splits key item sorted place place := by
  induction hsize : high - low using Nat.strongRecOn generalizing low high with
  | _ size ih =>
    subst hsize
    unfold placeOf?
    by_cases hlow : low < high
    · have hmiddle : low + (high - low) / 2 < sorted.length := by omega
      have hlist : sorted[low + (high - low) / 2]? = some sorted[low + (high - low) / 2] :=
        List.getElem?_eq_getElem hmiddle
      have hother : sorted.toArray[low + (high - low) / 2]? =
          some sorted[low + (high - low) / 2] := by simp [hmiddle]
      have hcompare := h item List.mem_cons_self _
        (List.mem_cons_of_mem _ (List.getElem_mem hmiddle))
      simp only [hlow, dite_true, hother, hcompare, Option.bind_eq_bind, Option.bind_some]
      by_cases hlt : key item < key sorted[low + (high - low) / 2]
      · simp only [hlt, decide_true, if_true]
        refine ih _ (by omega) (by omega) (fun place other hplace => ⟨?_, fun hge => ?_⟩) rfl
        · exact (hsplits place other hplace).1
        · exact Int.lt_of_lt_of_le hlt (hsorted.le hlist hplace hge)
      · simp only [hlt, decide_false, Bool.false_eq_true, if_false]
        refine ih _ (by omega) (by omega) (fun place other hplace => ⟨fun hle => ?_, ?_⟩) rfl
        · exact Int.le_trans (hsorted.le hplace hlist (by omega)) (Int.not_lt.mp hlt)
        · exact (hsplits place other hplace).2
    · obtain rfl : low = high := by omega
      exact ⟨low, by simp, hsplits⟩

theorem insert?_spec (hsorted : Sorted key sorted)
    (h : ComparedBy before? key (item :: sorted)) :
    ∃ longer, insert? before? sorted item = some longer ∧ longer.Perm (item :: sorted) ∧
      Sorted key longer := by
  obtain ⟨place, hplace, hsplits⟩ := placeOf?_spec hsorted h ⟨Nat.zero_le _, Nat.le_refl _⟩
    fun place other hother => by
      obtain ⟨hlt, -⟩ := List.getElem?_eq_some_iff.mp hother
      exact ⟨fun hneg => absurd hneg (Nat.not_lt_zero _), fun hge => by omega⟩
  have hbefore : ∀ other ∈ sorted.take place, key other ≤ key item := by
    intro other hother
    obtain ⟨index, hindex, rfl⟩ := List.mem_take_iff_getElem.mp hother
    exact (hsplits index _ (List.getElem?_eq_getElem _)).1 (by omega)
  have hbehind : ∀ other ∈ sorted.drop place, key item ≤ key other := by
    intro other hother
    obtain ⟨index, hindex, rfl⟩ := List.mem_drop_iff_getElem.mp hother
    exact Int.le_of_lt ((hsplits (place + index) _ (List.getElem?_eq_getElem _)).2 (by omega))
  refine ⟨sorted.take place ++ item :: sorted.drop place, by simp [insert?, hplace], ?_, ?_⟩
  · refine List.perm_middle.trans (.cons _ ?_)
    rw [List.take_append_drop]
  · refine List.pairwise_append.mpr ⟨hsorted.sublist (List.take_sublist _ _), ?_, ?_⟩
    · exact List.pairwise_cons.mpr ⟨hbehind, hsorted.sublist (List.drop_sublist _ _)⟩
    · intro a ha b hb
      have hitem := hbefore a ha
      rcases List.mem_cons.mp hb with rfl | hb
      · exact hitem
      · exact Int.le_trans hitem (hbehind b hb)

/-- Items that are compared by a number are sorted by it. -/
theorem sort?_spec (h : ComparedBy before? key items) :
    ∃ sorted, sort? before? items = some sorted ∧ sorted.Perm items ∧ Sorted key sorted := by
  obtain ⟨run, rest, hrun, hperm, hsorted⟩ := firstRun?_spec h
  replace h : ComparedBy before? key (run ++ rest) := h.of_subset hperm.subset
  suffices hinserted : ∃ sorted, rest.foldlM (insert? before?) run = some sorted ∧
      sorted.Perm (run ++ rest) ∧ Sorted key sorted by
    obtain ⟨sorted, hfold, hsame, hall⟩ := hinserted
    exact ⟨sorted, by simp [sort?, hrun, hfold], hsame.trans hperm, hall⟩
  clear hrun hperm
  induction rest generalizing run with
  | nil => exact ⟨run, rfl, by simp, hsorted⟩
  | cons item rest ih =>
    have hmiddle : (item :: run ++ rest).Perm (run ++ item :: rest) := List.perm_middle.symm
    obtain ⟨longer, hlonger, hsame, hall⟩ := insert?_spec hsorted
      (h.of_subset fun other hother => hmiddle.subset (List.mem_append_left rest hother))
    obtain ⟨sorted, hfold, hwhole, hlast⟩ := ih longer hall
      (h.of_subset ((hsame.append_right rest).trans hmiddle).subset)
    refine ⟨sorted, by simp [hlonger, hfold], hwhole.trans ?_, hlast⟩
    exact (hsame.append_right rest).trans hmiddle

/-! ## Positions -/

/-- Items with the numbers behind `low`, without a gap, are the first ones of an increasing list. -/
theorem getElem?_of_increasing (h : items.Pairwise fun a b => key a < key b) {low : Int}
    (hlow : ∀ a ∈ items, low < key a) {n : Nat} {f : Nat → α}
    (hitem : ∀ index < n, f index ∈ items ∧ key (f index) = low + index + 1) :
    ∀ index < n, items[index]? = some (f index) := by
  induction items generalizing low n f with
  | nil => exact fun index hindex => absurd (hitem index hindex).1 List.not_mem_nil
  | cons a rest ih =>
    obtain ⟨ha, hrest⟩ := List.pairwise_cons.mp h
    have hlowest := hlow a List.mem_cons_self
    intro index hindex
    -- the lowest number is the one of the first item
    obtain ⟨hfirst, hnumber⟩ := hitem 0 (by omega)
    have heq : f 0 = a := by
      refine (List.mem_cons.mp hfirst).resolve_right fun hmem => ?_
      have hbelow := ha _ hmem
      omega
    cases index with
    | zero => rw [heq, List.getElem?_cons_zero]
    | succ index =>
      rw [heq] at hnumber
      refine ih hrest ha (n := n - 1) (f := fun index => f (index + 1)) (fun other hother => ?_)
        index (by omega)
      obtain ⟨hmem, hposition⟩ := hitem (other + 1) (by omega)
      refine ⟨(List.mem_cons.mp hmem).resolve_left fun hsame => ?_, by omega⟩
      rw [hsame] at hposition
      omega

end Insertion

theorem Binary64.toRatio?_ofInt (value : Int) : (ofInt value).toRatio? = some (value, 1) := by
  have hsign : (if value < 0 then -(value.natAbs : Int) else value.natAbs) = value := by
    split <;> omega
  have hpower : ((Nat.pow 2 (0 : Int).toNat : Nat) : Int) = 1 := rfl
  simp only [ofInt, toRatio?, decide_eq_true_eq, hsign, Int.le_refl, if_true, hpower, Int.mul_one]

theorem Binary64.lt_ofInt (a b : Int) : (ofInt a).lt (ofInt b) = decide (a < b) := by
  have hratio := toRatio?_ofInt
  unfold ofInt at hratio ⊢
  simp only [lt, hratio, Int.natCast_one, Int.mul_one]

theorem Value.before?_int (a b : Int) : before? (.int a) (.int b) = some (decide (a < b)) := by
  rw [← Binary64.lt_ofInt]
  unfold before?
  rfl

end SqlToolkit
