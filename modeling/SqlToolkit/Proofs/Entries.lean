import Mathlib.Data.List.Perm.Subperm
import SqlToolkit.Entries
import SqlToolkit.Value.Basic

/-!
# Ordered maps that are written in order

Of several entries with one key the last one is kept. All that this takes of the key is that it is
told apart from every other one. Texts are, among the keys of values; a number that is not even the
same as itself is not.
-/

namespace SqlToolkit

namespace Entries

variable {κ α : Type} [BEq κ]

/-- The key is the same as itself and as no other key. -/
def Sharp (key : κ) : Prop :=
  ∀ other, ((other == key) = true ↔ other = key) ∧ ((key == other) = true ↔ key = other)

theorem sharp_of_lawful [LawfulBEq κ] (key : κ) : Sharp key :=
  fun _ => ⟨beq_iff_eq, beq_iff_eq⟩

theorem get?_cons_of_sharp {key : κ} (hkey : Sharp key) (k : κ) (v : α) (rest : List (κ × α)) :
    (k = key → get? key ((k, v) :: rest) = some v) ∧
      (k ≠ key → get? key ((k, v) :: rest) = get? key rest) := by
  constructor
  · intro h
    exact if_pos ((hkey k).1.mpr h)
  · intro h
    exact if_neg fun hk => h ((hkey k).1.mp hk)

theorem get?_insert_self_of_sharp {key : κ} (hkey : Sharp key) (value : α)
    (entries : List (κ × α)) : get? key (insert key value entries) = some value := by
  induction entries with
  | nil => exact (get?_cons_of_sharp hkey key value []).1 rfl
  | cons entry rest ih =>
    obtain ⟨k, v⟩ := entry
    unfold insert
    split
    · next h => exact (get?_cons_of_sharp hkey k value rest).1 ((hkey k).1.mp h)
    · next h =>
      rw [(get?_cons_of_sharp hkey k v _).2 fun hk => h ((hkey k).1.mpr hk)]
      exact ih

/-- Writing under another key, whatever that one is the same as, changes nothing. -/
theorem get?_insert_of_ne_sharp {key other : κ} (hkey : Sharp key) (h : other ≠ key) (value : α)
    (entries : List (κ × α)) : get? key (insert other value entries) = get? key entries := by
  induction entries with
  | nil => exact (get?_cons_of_sharp hkey other value []).2 h
  | cons entry rest ih =>
    obtain ⟨k, v⟩ := entry
    unfold insert
    split
    · next hk =>
      have hne : k ≠ key := fun heq => h ((hkey other).2.mp (heq ▸ hk)).symm
      rw [(get?_cons_of_sharp hkey k value rest).2 hne, (get?_cons_of_sharp hkey k v rest).2 hne]
    · by_cases hne : k = key
      · rw [(get?_cons_of_sharp hkey k v _).1 hne, (get?_cons_of_sharp hkey k v _).1 hne]
      · rw [(get?_cons_of_sharp hkey k v _).2 hne, (get?_cons_of_sharp hkey k v _).2 hne, ih]

theorem get?_of_not_mem_sharp {key : κ} (hkey : Sharp key) {entries : List (κ × α)}
    (h : key ∉ keys entries) : get? key entries = none := by
  induction entries with
  | nil => rfl
  | cons entry rest ih =>
    obtain ⟨k, v⟩ := entry
    obtain ⟨hne, hrest⟩ := not_or.mp (List.mem_cons.not.mp h)
    rw [(get?_cons_of_sharp hkey k v rest).2 (Ne.symm hne), ih hrest]

def last? (key : κ) (entries : List (κ × α)) : Option α :=
  (entries.reverse.find? (·.1 == key)).map (·.2)

theorem last?_append (key : κ) (entries more : List (κ × α)) :
    last? key (entries ++ more) = (last? key more).or (last? key entries) := by
  unfold last?
  rw [List.reverse_append, List.find?_append]
  cases List.find? (·.1 == key) more.reverse <;> rfl

theorem last?_mapValues {β : Type} (key : κ) (f : α → β) (entries : List (κ × α)) :
    last? key (mapValues f entries) = (last? key entries).map f := by
  unfold last? mapValues
  rw [← List.map_reverse, List.find?_map, Option.map_map, Option.map_map]
  rfl

/-- Of several entries with one key the last one is kept. -/
theorem get?_merge {key : κ} (hkey : Sharp key) (entries more : List (κ × α)) :
    get? key (merge entries more) = (last? key more).or (get? key entries) := by
  induction more generalizing entries with
  | nil => rfl
  | cons entry rest ih =>
    have step : merge entries (entry :: rest) = merge (insert entry.1 entry.2 entries) rest := rfl
    have split : last? key (entry :: rest) = (last? key rest).or (last? key [entry]) :=
      last?_append key [entry] rest
    rw [step, ih, split, Option.or_assoc]
    by_cases h : entry.1 = key
    · have hlast : last? key [entry] = some entry.2 := by
        simp [last?, List.find?_cons_of_pos, (hkey entry.1).1.mpr h]
      rw [h, get?_insert_self_of_sharp hkey, hlast, Option.some_or]
    · have hlast : last? key [entry] = none := by
        have hb : (entry.1 == key) = false := by
          rw [Bool.eq_false_iff]
          exact fun hb => h ((hkey entry.1).1.mp hb)
        simp [last?, hb]
      rw [get?_insert_of_ne_sharp hkey h, hlast, Option.none_or]

theorem get?_ofList {key : κ} (hkey : Sharp key) (entries : List (κ × α)) :
    get? key (ofList entries) = last? key entries := by
  rw [ofList, get?_merge hkey]
  exact Option.or_none

theorem get?_of_mem_of_sharp {key : κ} (hkey : Sharp key) {value : α} {entries : List (κ × α)}
    (h : (keys entries).Nodup) (hmem : (key, value) ∈ entries) : get? key entries = some value := by
  induction entries with
  | nil => cases hmem
  | cons entry rest ih =>
    obtain ⟨hk, hrest⟩ := List.nodup_cons.mp h
    rcases List.mem_cons.mp hmem with rfl | hmem
    · exact (get?_cons_of_sharp hkey key value rest).1 rfl
    · have hin : key ∈ keys rest := List.mem_map_of_mem (f := (·.1)) hmem
      have hne : entry.1 ≠ key := by
        rintro rfl
        exact hk hin
      exact ((get?_cons_of_sharp hkey entry.1 entry.2 rest).2 hne).trans (ih hrest hmem)

/-- What holds of every key holds of every key once more entries with such keys are written. -/
theorem forall_keys_merge {p : κ → Prop} {entries more : List (κ × α)}
    (h : ∀ key ∈ keys entries, p key) (hmore : ∀ key ∈ keys more, p key) :
    ∀ key ∈ keys (merge entries more), p key := by
  have written : ∀ (entry : κ × α) (map : List (κ × α)), p entry.1 → (∀ key ∈ keys map, p key) →
      ∀ key ∈ keys (insert entry.1 entry.2 map), p key := by
    intro entry map hentry hmap
    induction map with
    | nil => simpa [insert, keys] using hentry
    | cons first rest ih =>
      obtain ⟨hfirst, hrest⟩ := List.forall_mem_cons.mp hmap
      unfold insert
      split
      · exact List.forall_mem_cons.mpr ⟨hfirst, hrest⟩
      · exact List.forall_mem_cons.mpr ⟨hfirst, ih hrest⟩
  induction more generalizing entries with
  | nil => exact h
  | cons entry rest ih =>
    obtain ⟨hentry, hrest⟩ := List.forall_mem_cons.mp hmore
    exact ih (written entry entries hentry h) hrest

theorem nodup_keys_insert_of_sharp {key : κ} (hkey : Sharp key) (value : α)
    {entries : List (κ × α)} (h : (keys entries).Nodup) :
    (keys (insert key value entries)).Nodup := by
  induction entries with
  | nil => simp [insert, keys]
  | cons entry rest ih =>
    obtain ⟨hnew, hrest⟩ := List.nodup_cons.mp h
    replace hnew : entry.1 ∉ keys rest := hnew
    unfold insert
    split
    · exact h
    · next hk =>
      refine List.nodup_cons.mpr ⟨fun hmem => ?_, ih hrest⟩
      have hother : ∀ k ∈ keys (merge rest [(key, value)]), k ≠ entry.1 :=
        forall_keys_merge (fun k hold heq => hnew (heq ▸ hold)) fun k hkeys heq =>
          hk ((hkey entry.1).1.mpr (heq.symm.trans (List.mem_singleton.mp hkeys)))
      exact hother entry.1 hmem rfl

theorem insert_of_not_mem_of_sharp {key : κ} (hkey : Sharp key) {entries : List (κ × α)}
    (h : key ∉ keys entries) (value : α) :
    insert key value entries = entries ++ [(key, value)] := by
  induction entries with
  | nil => rfl
  | cons entry rest ih =>
    obtain ⟨k, v⟩ := entry
    obtain ⟨hk, hrest⟩ := not_or.mp (List.mem_cons.not.mp h)
    unfold insert
    rw [if_neg fun heq => hk ((hkey k).1.mp heq).symm, ih hrest]
    rfl

/-- Entries without a key twice are a map already. -/
theorem merge_eq_append_of_sharp {entries more : List (κ × α)}
    (hsharp : ∀ key ∈ keys more, Sharp key) (h : (keys (entries ++ more)).Nodup) :
    merge entries more = entries ++ more := by
  induction more generalizing entries with
  | nil => exact (List.append_nil entries).symm
  | cons entry rest ih =>
    obtain ⟨hfirst, hlater⟩ := List.forall_mem_cons.mp hsharp
    have hregroup : entries ++ entry :: rest = (entries ++ [entry]) ++ rest := by simp
    have hnew : entry.1 ∉ keys entries := by
      rw [keys, List.map_append, List.nodup_append] at h
      intro hmem
      exact h.2.2 entry.1 hmem entry.1 (by simp) rfl
    have step : merge entries (entry :: rest) = merge (insert entry.1 entry.2 entries) rest := rfl
    rw [step, insert_of_not_mem_of_sharp hfirst hnew, hregroup]
    exact ih hlater (hregroup ▸ h)

/-! ## Keys that are all told apart -/

variable [LawfulBEq κ]

/-- What is found under the name of an item was put there for an item of that name. -/
theorem get?_ofList_map {ι : Type} {items : List ι} {item : ι} (name : ι → κ) (value : ι → α)
    (h : item ∈ items) :
    ∃ other ∈ items, name other = name item ∧
      get? (name item) (ofList (items.map fun i => (name i, value i))) = some (value other) := by
  rw [get?_ofList (sharp_of_lawful _), last?, ← List.map_reverse, List.find?_map]
  cases hf : items.reverse.find? ((fun entry : κ × α => entry.1 == name item) ∘
      fun i => (name i, value i)) with
  | none =>
    have hn := List.find?_eq_none.mp hf item (List.mem_reverse.mpr h)
    exact absurd (beq_self_eq_true (name item)) hn
  | some other =>
    have hname : name other = name item := by simpa using List.find?_some hf
    exact ⟨other, List.mem_reverse.mp (List.mem_of_find?_eq_some hf), hname, rfl⟩

theorem nodup_keys_insert (key : κ) (value : α) {entries : List (κ × α)}
    (h : (keys entries).Nodup) : (keys (insert key value entries)).Nodup :=
  nodup_keys_insert_of_sharp (sharp_of_lawful key) value h

theorem nodup_keys_merge (more : List (κ × α)) {entries : List (κ × α)}
    (h : (keys entries).Nodup) : (keys (merge entries more)).Nodup := by
  induction more generalizing entries with
  | nil => exact h
  | cons entry rest ih => exact ih (nodup_keys_insert entry.1 entry.2 h)

/-- A map that was written in order has no key twice. -/
theorem nodup_keys_ofList (entries : List (κ × α)) : (keys (ofList entries)).Nodup :=
  nodup_keys_merge entries List.nodup_nil

theorem mem_keys_merge_iff {key : κ} (entries more : List (κ × α)) :
    key ∈ keys (merge entries more) ↔ key ∈ keys entries ∨ key ∈ keys more := by
  induction more generalizing entries with
  | nil => simp [merge, keys]
  | cons entry rest ih =>
    have step : merge entries (entry :: rest) = merge (insert entry.1 entry.2 entries) rest := rfl
    have first : key ∈ keys (insert entry.1 entry.2 entries) ↔
        key ∈ keys entries ∨ key = entry.1 := by
      rw [keys_insert]
      split
      · next h => exact ⟨.inl, fun hk => hk.elim id fun heq => heq ▸ h⟩
      · rw [List.mem_append, List.mem_singleton]
    have later : keys (entry :: rest) = entry.1 :: keys rest := rfl
    rw [step, ih, first, later, List.mem_cons, or_assoc]

theorem mem_keys_ofList_iff {key : κ} (entries : List (κ × α)) :
    key ∈ keys (ofList entries) ↔ key ∈ keys entries := by
  rw [ofList, mem_keys_merge_iff]
  exact or_iff_right List.not_mem_nil

/-- Without a key twice the last entry under a key is the only one. -/
theorem last?_eq_get? {key : κ} {entries : List (κ × α)} (h : (keys entries).Nodup) :
    last? key entries = get? key entries := by
  induction entries with
  | nil => rfl
  | cons entry rest ih =>
    obtain ⟨k, v⟩ := entry
    obtain ⟨hk, hrest⟩ := List.nodup_cons.mp h
    have split : last? key ((k, v) :: rest) = (last? key rest).or (last? key [(k, v)]) :=
      last?_append key [(k, v)] rest
    rw [split, ih hrest]
    by_cases heq : k = key
    · subst heq
      have hnone : get? k rest = none := by
        cases hg : get? k rest with
        | none => rfl
        | some value =>
          refine absurd ((has_iff_mem_keys k rest).mp ?_) hk
          rw [has, hg, Option.isSome_some]
      simp [hnone, last?, get?]
    · simp [last?, get?, heq]

theorem merge_eq_append {entries more : List (κ × α)} (h : (keys (entries ++ more)).Nodup) :
    merge entries more = entries ++ more :=
  merge_eq_append_of_sharp (fun key _ => sharp_of_lawful key) h

theorem ofList_eq_self {entries : List (κ × α)} (h : (keys entries).Nodup) :
    ofList entries = entries :=
  merge_eq_append h

/-- A map made of as many entries as it has was made of entries without a key twice. -/
theorem nodup_keys_of_length_ofList {entries : List (κ × α)}
    (h : (ofList entries).length = entries.length) : (keys entries).Nodup := by
  have hperm : (keys (ofList entries)).Perm (keys entries) := by
    refine (List.subperm_of_subset (nodup_keys_ofList entries) fun key hkey =>
      (mem_keys_ofList_iff entries).mp hkey).perm_of_length_le ?_
    rw [keys, keys, List.length_map, List.length_map]
    exact Nat.le_of_eq h.symm
  exact hperm.nodup_iff.mp (nodup_keys_ofList entries)

theorem get?_of_mem {key : κ} {value : α} {entries : List (κ × α)} (h : (keys entries).Nodup)
    (hmem : (key, value) ∈ entries) : get? key entries = some value :=
  get?_of_mem_of_sharp (sharp_of_lawful key) h hmem

theorem last?_of_not_mem {key : κ} {entries : List (κ × α)} (h : key ∉ keys entries) :
    last? key entries = none := by
  rw [last?, Option.map_eq_none_iff, List.find?_eq_none]
  intro entry hentry heq
  have hmem : entry.1 ∈ keys entries := List.mem_map_of_mem (List.mem_reverse.mp hentry)
  exact h (beq_iff_eq.mp heq ▸ hmem)

/-- The last entry under a key is one that none under it follows. -/
theorem last?_of_mem_keys {key : κ} {entries : List (κ × α)} (h : key ∈ keys entries) :
    ∃ earlier value later, entries = earlier ++ (key, value) :: later ∧ key ∉ keys later ∧
      last? key entries = some value := by
  induction entries with
  | nil => cases h
  | cons entry rest ih =>
    have split : last? key (entry :: rest) = (last? key rest).or (last? key [entry]) :=
      last?_append key [entry] rest
    rw [split]
    by_cases hrest : key ∈ keys rest
    · obtain ⟨earlier, value, later, rfl, hlater, hlast⟩ := ih hrest
      exact ⟨entry :: earlier, value, later, rfl, hlater, by rw [hlast]; rfl⟩
    · obtain rfl : key = entry.1 := (List.mem_cons.mp h).resolve_right hrest
      refine ⟨[], entry.2, rest, rfl, hrest, ?_⟩
      rw [last?_of_not_mem hrest]
      simp [last?]

end Entries

/-! ## Texts as keys -/

theorem Value.beq_text_iff {value : Value} {content : String} :
    (value == .text content) = true ↔ value = .text content := by
  show sameKey value (.text content) = true ↔ _
  cases value <;> simp [sameKey, number?]

theorem Value.text_beq_iff {value : Value} {content : String} :
    (.text content == value) = true ↔ .text content = value := by
  show sameKey (.text content) value = true ↔ _
  cases value <;> simp [sameKey, number?]

theorem Value.sharp_text (content : String) : Entries.Sharp (Value.text content) :=
  fun _ => ⟨beq_text_iff, text_beq_iff⟩

/-- Entries under different texts are a map already. -/
theorem Entries.ofList_of_texts {α : Type} {entries : List (Value × α)} {names : List String}
    (hkeys : keys entries = names.map Value.text) (h : names.Nodup) : ofList entries = entries := by
  refine merge_eq_append_of_sharp (fun key hkey => ?_) ?_
  · rw [hkeys] at hkey
    obtain ⟨name, -, rfl⟩ := List.mem_map.mp hkey
    exact Value.sharp_text name
  · rw [List.nil_append, hkeys]
    exact List.Pairwise.map Value.text (fun _ _ hne heq => hne (Value.text.inj heq)) h

end SqlToolkit
