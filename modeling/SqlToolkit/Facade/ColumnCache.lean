import SqlToolkit.Fault

/-!
# The cache of column names

Column names are kept per table for a time. An entry is alive before its time is over. A package
manages the room: it decides which entries go when another one is stored, and may arrange them anew
when one is used. By default entries that are over go first, and then those used longest ago.
-/

namespace SqlToolkit

/-- The column names of a table and when they were stored. -/
structure CachedColumns where
  table : String
  names : List Value
  storedAt : Int

/-- How the room of a cache is managed. No entry is made up. -/
structure CachePolicy where
  /-- The entries after one of them was used. -/
  used : CachedColumns → List CachedColumns → List CachedColumns
  /-- The entries that stay when another one is stored, for a capacity. -/
  room : Int → List CachedColumns → List CachedColumns
  used_subset : ∀ entry entries, entry ∈ entries → used entry entries ⊆ entries
  room_subset : ∀ capacity entries, room capacity entries ⊆ entries

/-- The last entries stay, so many that one more has room, and a used one becomes the last. -/
def CachePolicy.leastRecentlyUsed : CachePolicy where
  used entry entries := (entries.filter fun other => !(other.table == entry.table)) ++ [entry]
  room capacity entries := entries.drop (entries.length + 1 - capacity.toNat)
  used_subset entry entries h := by
    intro other hother
    rcases List.mem_append.mp hother with hkept | hlast
    · exact (List.mem_filter.mp hkept).1
    · exact List.mem_singleton.mp hlast ▸ h
  room_subset _ _ := List.drop_subset _ _

structure ColumnCache where
  capacity : Int := 100
  timeToLive : Int := 60000000
  entries : List CachedColumns := []
  policy : CachePolicy := .leastRecentlyUsed

namespace ColumnCache

def isAlive (cache : ColumnCache) (now : Int) (entry : CachedColumns) : Bool :=
  now < entry.storedAt + cache.timeToLive

def find? (cache : ColumnCache) (now : Int) (table : String) : Option CachedColumns :=
  cache.entries.find? fun entry => entry.table == table && cache.isAlive now entry

def erase (cache : ColumnCache) (table : String) : ColumnCache :=
  { cache with entries := cache.entries.filter fun entry => !(entry.table == table) }

def touch (cache : ColumnCache) (entry : CachedColumns) : ColumnCache :=
  { cache with entries := cache.policy.used entry cache.entries }

/-- Stores the names of a table. A cache without any room refuses them. -/
def store (cache : ColumnCache) (now : Int) (table : String) (names : List Value) :
    Attempt ColumnCache :=
  if cache.capacity < 1 then .error .badValue
  else
    let alive := (cache.erase table).entries.filter (cache.isAlive now)
    .ok { cache with entries := cache.policy.room cache.capacity alive ++ [⟨table, names, now⟩] }

def clear (cache : ColumnCache) : ColumnCache := { cache with entries := [] }

end ColumnCache

end SqlToolkit
