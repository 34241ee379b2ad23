/-!
Maps from names to values that remember the order in which the names came. Putting a value under a
name that is there leaves the name in its place, so no name comes twice.
-/

namespace FullText

/-- Names with their values, in the order in which the names were first put. -/
@[ext]
structure OrderedMap (α : Type) where
  entries : List (String × α)
  distinct : (entries.map (·.1)).Nodup

namespace OrderedMap

variable {α : Type}

/-! ### Lists of entries -/

/-- The value under a name in a list of entries. -/
def lookup? (name : String) : List (String × α) → Option α
  | [] => none
  | (key, value) :: entries => if key = name then some value else lookup? name entries

/-- Replaces the value under a name, or appends the name. -/
def putEntry (name : String) (value : α) : List (String × α) → List (String × α)
  | [] => [(name, value)]
  | (key, old) :: entries =>
    if key = name then (key, value) :: entries else (key, old) :: putEntry name value entries

/-- The first entry of a name taken out of a list of entries: its value and the entries left. -/
def takeEntry (name : String) : List (String × α) → Option α × List (String × α)
  | [] => (none, [])
  | (key, value) :: entries =>
    if key = name then
      (some value, entries)
    else
      let (taken, left) := takeEntry name entries
      (taken, (key, value) :: left)

theorem names_putEntry (name : String) (value : α) (entries : List (String × α)) :
    (putEntry name value entries).map (·.1) =
      if name ∈ entries.map (·.1) then entries.map (·.1) else entries.map (·.1) ++ [name] := by
  induction entries with
  | nil => rfl
  | cons entry entries ih =>
      obtain ⟨key, old⟩ := entry
      simp only [putEntry]
      by_cases hkey : key = name
      · simp [hkey]
      · simp only [if_neg hkey, List.map_cons, ih, List.mem_cons, Ne.symm hkey, false_or]
        split <;> rfl

theorem distinct_putEntry (name : String) (value : α) {entries : List (String × α)}
    (hdistinct : (entries.map (·.1)).Nodup) : ((putEntry name value entries).map (·.1)).Nodup := by
  rw [names_putEntry]
  split
  case isTrue => exact hdistinct
  case isFalse hnew =>
    refine List.nodup_append.mpr ⟨hdistinct, by simp, fun old hold new hmem hsame => ?_⟩
    exact hnew (List.mem_singleton.mp hmem ▸ hsame ▸ hold)

theorem takeEntry_sublist (name : String) (entries : List (String × α)) :
    (takeEntry name entries).2.Sublist entries := by
  induction entries with
  | nil => exact .slnil
  | cons entry entries ih =>
      rw [takeEntry]
      split
      case isTrue => exact List.sublist_cons_self _ _
      case isFalse => exact ih.cons_cons _

/-- Leaving entries out keeps the names distinct. -/
theorem distinct_of_sublist {left entries : List (String × α)} (hsublist : left.Sublist entries)
    (hdistinct : (entries.map (·.1)).Nodup) : (left.map (·.1)).Nodup :=
  hdistinct.sublist (hsublist.map _)

/-! ### Maps -/

/-- The map without names. -/
def empty : OrderedMap α :=
  { entries := [], distinct := List.nodup_nil }

instance : EmptyCollection (OrderedMap α) :=
  ⟨empty⟩

instance : Inhabited (OrderedMap α) :=
  ⟨empty⟩

def names (m : OrderedMap α) : List String :=
  m.entries.map (·.1)

theorem names_nodup (m : OrderedMap α) : m.names.Nodup :=
  m.distinct

/-- The values in the order of their names. -/
def values (m : OrderedMap α) : List α :=
  m.entries.map (·.2)

def size (m : OrderedMap α) : Nat :=
  m.entries.length

def isEmpty (m : OrderedMap α) : Bool :=
  m.entries.isEmpty

def get? (m : OrderedMap α) (name : String) : Option α :=
  lookup? name m.entries

def contains (m : OrderedMap α) (name : String) : Bool :=
  (m.get? name).isSome

/-- Puts a value under a name: in the place of the old value, or at the end. -/
def put (m : OrderedMap α) (name : String) (value : α) : OrderedMap α :=
  { entries := putEntry name value m.entries
    distinct := distinct_putEntry name value m.distinct }

/-- Removes a name with its value. -/
def erase (m : OrderedMap α) (name : String) : OrderedMap α :=
  { entries := m.entries.filter fun entry => entry.1 != name
    distinct := distinct_of_sublist List.filter_sublist m.distinct }

/-- Takes a name out, with the value that was under it. -/
def take (m : OrderedMap α) (name : String) : Option α × OrderedMap α :=
  ((takeEntry name m.entries).1,
    { entries := (takeEntry name m.entries).2
      distinct := distinct_of_sublist (takeEntry_sublist name m.entries) m.distinct })

/-- Puts pairs one after another. -/
def ofList (pairs : List (String × α)) : OrderedMap α :=
  pairs.foldl (fun m (name, value) => m.put name value) ∅

end OrderedMap

end FullText
