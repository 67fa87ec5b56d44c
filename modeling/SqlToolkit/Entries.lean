/-!
# Ordered maps

A map is a list of key and value pairs without a repeated key, in the order in which the keys were
first given. Writing to a key that is there keeps its place and replaces its value.
-/

namespace SqlToolkit.Entries

variable {κ α : Type} [BEq κ]

def insert (key : κ) (value : α) : List (κ × α) → List (κ × α)
  | [] => [(key, value)]
  | (k, v) :: rest =>
    if k == key then (k, value) :: rest else (k, v) :: insert key value rest

/-- Writes the entries of the second list, one after the other, into the first. -/
def merge (entries more : List (κ × α)) : List (κ × α) :=
  more.foldl (fun map entry => insert entry.1 entry.2 map) entries

/-- The map that results from writing the entries in order. -/
def ofList (entries : List (κ × α)) : List (κ × α) := merge [] entries

def get? (key : κ) : List (κ × α) → Option α
  | [] => none
  | (k, v) :: rest => if k == key then some v else get? key rest

def has (key : κ) (entries : List (κ × α)) : Bool := (get? key entries).isSome

def keys (entries : List (κ × α)) : List κ := entries.map (·.1)

def erase (key : κ) (entries : List (κ × α)) : List (κ × α) :=
  entries.filter fun entry => !(entry.1 == key)

def mapValues {β : Type} (f : α → β) (entries : List (κ × α)) : List (κ × β) :=
  entries.map fun entry => (entry.1, f entry.2)

theorem get?_insert_self [LawfulBEq κ] (key : κ) (value : α) (entries : List (κ × α)) :
    get? key (insert key value entries) = some value := by
  induction entries with
  | nil => simp [insert, get?]
  | cons entry rest ih =>
    by_cases h : entry.1 = key <;> simp [insert, get?, h, ih]

theorem get?_insert_of_ne [LawfulBEq κ] {key other : κ} (value : α) (entries : List (κ × α))
    (h : key ≠ other) : get? other (insert key value entries) = get? other entries := by
  induction entries with
  | nil => simp [insert, get?, h]
  | cons entry rest ih =>
    by_cases hk : entry.1 = key
    · subst hk
      simp [insert, get?, h]
    · simp [insert, get?, hk, ih]

/-- Writing adds the key at the end unless it is there already. -/
theorem keys_insert [LawfulBEq κ] (key : κ) (value : α) (entries : List (κ × α)) :
    keys (insert key value entries) =
      if key ∈ keys entries then keys entries else keys entries ++ [key] := by
  induction entries with
  | nil => simp [insert, keys]
  | cons entry rest ih =>
    by_cases h : entry.1 = key
    · simp [insert, keys, h]
    · simp only [keys] at ih ⊢
      by_cases hm : key ∈ rest.map (·.1)
      · simp [insert, h, ih, hm]
      · simp [insert, h, ih, hm, Ne.symm h]

/-- A key has a value exactly when it is among the keys. -/
theorem has_iff_mem_keys [LawfulBEq κ] (key : κ) (entries : List (κ × α)) :
    has key entries = true ↔ key ∈ keys entries := by
  induction entries with
  | nil => simp [has, get?, keys]
  | cons entry rest ih =>
    by_cases h : entry.1 = key
    · simp [has, get?, keys, h]
    · simp only [has, keys] at ih
      simp [has, get?, keys, h, Ne.symm h, ih]

end SqlToolkit.Entries
