import FullText.OrderedMap
import Mathlib.Data.List.Induction
import Mathlib.Data.List.Nodup

/-!
Laws of ordered maps. A map that was made by putting pairs one after another lists each name once,
in the order in which the names first came, with the value that came last. Where names and their
texts travel in a single list, the pair at a position takes the two places at twice the position.
-/

namespace FullText

/-! ### Lists -/

/-- Of a list without repetitions, a sublist leaves as many members out as it is shorter. -/
theorem length_removeAll_of_sublist {kept all : List String} (hsublist : kept.Sublist all)
    (hnodup : all.Nodup) : (all.removeAll kept).length + kept.length = all.length := by
  induction hsublist with
  | slnil => rfl
  | @cons kept all name hsublist ih =>
      obtain ⟨hname, hnodup⟩ := List.nodup_cons.mp hnodup
      have hnew : name ∉ kept := fun h => hname (hsublist.subset h)
      simp [List.removeAll, hnew] at ih ⊢
      have := ih hnodup
      omega
  | @cons_cons kept all name hsublist ih =>
      obtain ⟨hname, hnodup⟩ := List.nodup_cons.mp hnodup
      have hsame : all.removeAll (name :: kept) = all.removeAll kept := by
        refine List.filter_congr fun other hother => ?_
        have hne : other ≠ name := fun h => hname (h ▸ hother)
        simp [hne]
      have hcount := ih hnodup
      rw [← hsame] at hcount
      simp [List.removeAll] at hcount ⊢
      omega

/-- A state follows its whole history if one change more keeps it following. -/
theorem follows_foldl {σ δ : Type} {follows : σ → List δ → Prop} {changed : σ → δ → σ} {start : σ}
    (hstart : follows start [])
    (hchanged : ∀ state changes change, follows state changes →
      follows (changed state change) (changes ++ [change]))
    (changes : List δ) : follows (changes.foldl changed start) changes := by
  induction changes using List.reverseRecOn with
  | nil => exact hstart
  | append_singleton changes change ih =>
      rw [List.foldl_append]
      exact hchanged _ changes change ih

theorem length_flat {α : Type} (pairs : List (α × α)) :
    (pairs.flatMap fun (first, second) => [first, second]).length = 2 * pairs.length := by
  induction pairs with
  | nil => rfl
  | cons pair pairs ih =>
      rw [List.flatMap_cons, List.length_append, ih, List.length_cons]
      exact Nat.add_comm 2 _

theorem getElem?_flat {α : Type} (pairs : List (α × α)) (k : Nat) :
    (pairs.flatMap fun (first, second) => [first, second])[2 * k]? = pairs[k]?.map (·.1) ∧
      (pairs.flatMap fun (first, second) => [first, second])[2 * k + 1]? =
        pairs[k]?.map (·.2) := by
  induction pairs generalizing k with
  | nil => exact ⟨rfl, rfl⟩
  | cons pair pairs ih =>
      cases k with
      | zero => exact ⟨rfl, rfl⟩
      | succ k => exact ih k

namespace OrderedMap

variable {α : Type}

/-! ### Putting and erasing -/

theorem get?_put (m : OrderedMap α) (name : String) (value : α) (other : String) :
    (m.put name value).get? other = if name = other then some value else m.get? other := by
  simp only [put, get?]
  induction m.entries with
  | nil => rfl
  | cons entry entries ih =>
      obtain ⟨key, old⟩ := entry
      simp only [putEntry]
      by_cases hkey : key = name
      · subst hkey
        simp only [if_true, lookup?]
        split <;> rfl
      · simp only [if_neg hkey, lookup?, ih]
        by_cases hother : key = other
        · subst hother
          simp [Ne.symm hkey]
        · simp [hother]

theorem get?_erase (m : OrderedMap α) (name other : String) :
    (m.erase name).get? other = if name = other then none else m.get? other := by
  simp only [erase, get?]
  induction m.entries with
  | nil => simp [lookup?]
  | cons entry entries ih =>
      obtain ⟨key, value⟩ := entry
      by_cases hkey : key = name
      · subst hkey
        simp only [List.filter_cons, bne_self_eq_false, Bool.false_eq_true, if_false, ih, lookup?]
        split <;> rfl
      · have hkept : (key != name) = true := bne_iff_ne.mpr hkey
        simp only [List.filter_cons, hkept, if_true, lookup?, ih]
        by_cases hother : key = other
        · subst hother
          simp [Ne.symm hkey]
        · simp [hother]

theorem mem_names_iff {m : OrderedMap α} {name : String} :
    name ∈ m.names ↔ (m.get? name).isSome := by
  simp only [names, get?]
  induction m.entries with
  | nil => simp [lookup?]
  | cons entry entries ih =>
      obtain ⟨key, value⟩ := entry
      rw [List.map_cons, List.mem_cons, ih, lookup?]
      by_cases hkey : key = name
      · simp [hkey]
      · simp [hkey, Ne.symm hkey]

theorem names_put (m : OrderedMap α) (name : String) (value : α) :
    (m.put name value).names = if name ∈ m.names then m.names else m.names ++ [name] :=
  names_putEntry name value m.entries

theorem names_erase (m : OrderedMap α) (name : String) :
    (m.erase name).names = m.names.filter (· != name) := by
  simp only [erase, names, List.filter_map]
  rfl

theorem names_erase_eq_erase (m : OrderedMap α) (name : String) :
    (m.erase name).names = m.names.erase name := by
  rw [names_erase, m.names_nodup.erase_eq_filter]

private theorem putEntry_of_new {name : String} {entries : List (String × α)} (value : α)
    (hnew : name ∉ entries.map (·.1)) : putEntry name value entries = entries ++ [(name, value)] := by
  induction entries with
  | nil => rfl
  | cons entry entries ih =>
      rw [List.map_cons, List.mem_cons, not_or] at hnew
      simp [putEntry, Ne.symm hnew.1, ih hnew.2]

private theorem putEntry_append {name : String} {before : List (String × α)} (old value : α)
    (after : List (String × α)) (hnew : name ∉ before.map (·.1)) :
    putEntry name value (before ++ (name, old) :: after) = before ++ (name, value) :: after := by
  induction before with
  | nil => simp [putEntry]
  | cons entry before ih =>
      rw [List.map_cons, List.mem_cons, not_or] at hnew
      simp [putEntry, Ne.symm hnew.1, ih hnew.2]

theorem entries_put_of_new {m : OrderedMap α} {name : String} (hnew : name ∉ m.names) (value : α) :
    (m.put name value).entries = m.entries ++ [(name, value)] :=
  putEntry_of_new value hnew

/-- A value that is put under a name that is there takes the place of the old one. -/
theorem entries_put_of_split {m : OrderedMap α} {name : String} {old : α}
    {before after : List (String × α)} (hsplit : m.entries = before ++ (name, old) :: after)
    (value : α) : (m.put name value).entries = before ++ (name, value) :: after := by
  have hnodup := m.distinct
  rw [hsplit, List.map_append, List.map_cons] at hnodup
  obtain ⟨-, -, hapart⟩ := List.nodup_append.mp hnodup
  have hnew : name ∉ before.map (·.1) := fun hname =>
    hapart name hname name List.mem_cons_self rfl
  calc (m.put name value).entries
    _ = putEntry name value m.entries := rfl
    _ = putEntry name value (before ++ (name, old) :: after) := by rw [hsplit]
    _ = before ++ (name, value) :: after := putEntry_append old value after hnew

/-- Putting a value where it is already changes nothing. -/
theorem put_eq_self {m : OrderedMap α} {name : String} {value : α}
    (hget : m.get? name = some value) : m.put name value = m := by
  refine OrderedMap.ext ?_
  simp only [put, get?] at hget ⊢
  generalize m.entries = entries at hget ⊢
  induction entries with
  | nil => cases hget
  | cons entry entries ih =>
      obtain ⟨key, old⟩ := entry
      simp only [lookup?] at hget
      simp only [putEntry]
      by_cases hkey : key = name
      · rw [if_pos hkey] at hget ⊢
        rw [Option.some.inj hget]
      · rw [if_neg hkey] at hget ⊢
        rw [ih hget]

/-- A map is told by its names and by what is under them. -/
theorem entries_eq (m : OrderedMap α) :
    m.entries = m.names.filterMap fun name => (m.get? name).map fun value => (name, value) := by
  have hdistinct := m.distinct
  simp only [names, get?]
  generalize m.entries = entries at hdistinct ⊢
  induction entries with
  | nil => rfl
  | cons entry entries ih =>
      obtain ⟨key, value⟩ := entry
      obtain ⟨hkey, hdistinct⟩ := List.nodup_cons.mp hdistinct
      have hrest : (entries.map (·.1)).filterMap
            (fun name => (lookup? name ((key, value) :: entries)).map fun value => (name, value)) =
          entries := by
        conv => rhs; rw [ih hdistinct]
        refine List.filterMap_congr fun name hname => ?_
        have hne : key ≠ name := fun h => hkey (h ▸ hname)
        simp [lookup?, hne]
      simp only [List.map_cons, List.filterMap_cons]
      rw [hrest]
      simp [lookup?]

theorem get?_of_mem {m : OrderedMap α} {name : String} {value : α}
    (hmem : (name, value) ∈ m.entries) : m.get? name = some value := by
  rw [entries_eq, List.mem_filterMap] at hmem
  obtain ⟨other, -, hother⟩ := hmem
  obtain ⟨found, hfound, hpair⟩ := Option.map_eq_some_iff.mp hother
  cases hpair
  exact hfound

theorem mem_of_get? {m : OrderedMap α} {name : String} {value : α}
    (hget : m.get? name = some value) : (name, value) ∈ m.entries := by
  rw [entries_eq, List.mem_filterMap]
  exact ⟨name, mem_names_iff.mpr (hget ▸ rfl), by rw [hget]; rfl⟩

/-- A name has one entry, or none if it is not there. -/
theorem entries_filter (m : OrderedMap α) (name : String) :
    (m.entries.filter fun entry => entry.1 == name) =
      ((m.get? name).map fun value => (name, value)).toList := by
  have hdistinct := m.distinct
  simp only [get?]
  generalize m.entries = entries at hdistinct ⊢
  induction entries with
  | nil => rfl
  | cons entry entries ih =>
      obtain ⟨key, value⟩ := entry
      obtain ⟨hkey, hdistinct⟩ := List.nodup_cons.mp hdistinct
      by_cases hname : key = name
      · subst hname
        have hrest : entries.filter (fun entry => entry.1 == key) = [] := by
          refine List.filter_eq_nil_iff.mpr fun entry hentry hsame => hkey ?_
          exact beq_iff_eq.mp hsame ▸ List.mem_map_of_mem (f := (·.1)) hentry
        simp [lookup?, hrest]
      · simp [lookup?, hname, ih hdistinct]

/-! ### Taking a name out -/

theorem fst_takeEntry (name : String) (entries : List (String × α)) :
    (takeEntry name entries).1 = lookup? name entries := by
  induction entries with
  | nil => rfl
  | cons entry entries ih =>
      obtain ⟨key, value⟩ := entry
      simp only [takeEntry, lookup?, ← ih]
      split <;> rfl

/-- Only the first entry of a name is taken, so the names have to be distinct for none to be left. -/
theorem snd_takeEntry {entries : List (String × α)} (hdistinct : (entries.map (·.1)).Nodup)
    (name : String) :
    (takeEntry name entries).2 = entries.filter fun entry => entry.1 != name := by
  induction entries with
  | nil => rfl
  | cons entry entries ih =>
      obtain ⟨key, value⟩ := entry
      obtain ⟨hkey, hdistinct⟩ := List.nodup_cons.mp hdistinct
      simp only [takeEntry, List.filter_cons]
      by_cases hname : key = name
      · subst hname
        have hrest : entries.filter (fun entry => entry.1 != key) = entries := by
          refine List.filter_eq_self.mpr fun entry hentry => bne_iff_ne.mpr ?_
          rintro rfl
          exact hkey (List.mem_map_of_mem (f := (·.1)) hentry)
        simp [hrest]
      · simp [hname, ih hdistinct]

/-- Whoever takes a name out gets what is under it, and the name is erased. -/
theorem take_eq (m : OrderedMap α) (name : String) :
    m.take name = (m.get? name, m.erase name) :=
  Prod.ext (fst_takeEntry name m.entries) (OrderedMap.ext (snd_takeEntry m.distinct name))

/-! ### Putting pairs one after another -/

/-- Puts pairs one after another over what is there. -/
def putAll (m : OrderedMap α) (pairs : List (String × α)) : OrderedMap α :=
  pairs.foldl (fun m (name, value) => m.put name value) m

theorem putAll_cons (m : OrderedMap α) (name : String) (value : α) (pairs : List (String × α)) :
    m.putAll ((name, value) :: pairs) = (m.put name value).putAll pairs :=
  rfl

theorem ofList_append (pairs more : List (String × α)) :
    ofList (pairs ++ more) = (ofList pairs).putAll more :=
  List.foldl_append

theorem ofList_concat (pairs : List (String × α)) (name : String) (value : α) :
    ofList (pairs ++ [(name, value)]) = (ofList pairs).put name value :=
  ofList_append pairs [(name, value)]

theorem get?_putAll {pairs : List (String × α)} {name : String}
    (hnot : name ∉ pairs.map (·.1)) (m : OrderedMap α) :
    (m.putAll pairs).get? name = m.get? name := by
  induction pairs generalizing m with
  | nil => rfl
  | cons pair pairs ih =>
      obtain ⟨hne, hnot⟩ := List.ne_and_not_mem_of_not_mem_cons hnot
      rw [putAll_cons, ih hnot, get?_put, if_neg hne.symm]

theorem names_sublist_putAll (m : OrderedMap α) (pairs : List (String × α)) :
    m.names.Sublist (m.putAll pairs).names := by
  induction pairs generalizing m with
  | nil => exact List.Sublist.refl _
  | cons pair pairs ih =>
      refine List.Sublist.trans ?_ (ih (m.put pair.1 pair.2))
      rw [names_put]
      split
      case isTrue => exact List.Sublist.refl _
      case isFalse => exact List.sublist_append_left _ _

/-- As many names are new as the map has grown by. -/
theorem length_names_putAll (m : OrderedMap α) (pairs : List (String × α)) :
    ((m.putAll pairs).names.removeAll m.names).length + m.names.length =
      (m.putAll pairs).names.length :=
  length_removeAll_of_sublist (names_sublist_putAll m pairs) (m.putAll pairs).names_nodup

/-- Removes names one after another. -/
def eraseAll (m : OrderedMap α) (names : List String) : OrderedMap α :=
  names.foldl erase m

theorem eraseAll_cons (m : OrderedMap α) (name : String) (names : List String) :
    m.eraseAll (name :: names) = (m.erase name).eraseAll names :=
  rfl

theorem get?_eraseAll (m : OrderedMap α) (names : List String) (name : String) :
    (m.eraseAll names).get? name = if name ∈ names then none else m.get? name := by
  induction names generalizing m with
  | nil => simp [eraseAll]
  | cons first names ih =>
      rw [eraseAll_cons, ih, get?_erase]
      by_cases hrest : name ∈ names
      · simp [hrest]
      · simp [hrest, eq_comm]

theorem names_eraseAll_sublist (m : OrderedMap α) (names : List String) :
    (m.eraseAll names).names.Sublist m.names := by
  induction names generalizing m with
  | nil => exact List.Sublist.refl _
  | cons first names ih =>
      refine (ih (m.erase first)).trans ?_
      rw [names_erase]
      exact List.filter_sublist

/-! ### What a map lists -/

/-- The value that was written last under a name. -/
def lastValue? (writes : List (String × α)) (name : String) : Option α :=
  (writes.reverse.find? fun write => write.1 == name).map (·.2)

/-- Each name once, in the order of the first writes, with the value that was written last. -/
def listing (writes : List (String × α)) : List (String × α) :=
  (writes.map (·.1)).eraseDups.filterMap fun name =>
    (lastValue? writes name).map fun value => (name, value)

theorem lastValue?_concat (writes : List (String × α)) (name : String) (value : α)
    (other : String) :
    lastValue? (writes ++ [(name, value)]) other =
      if name = other then some value else lastValue? writes other := by
  simp only [lastValue?, List.reverse_append, List.reverse_singleton, List.singleton_append,
    List.find?_cons]
  by_cases hname : name = other
  · simp [hname]
  · have hdiffer : (name == other) = false := beq_eq_false_iff_ne.mpr hname
    rw [if_neg hname, hdiffer]

theorem get?_ofList (writes : List (String × α)) (name : String) :
    (ofList writes).get? name = lastValue? writes name := by
  induction writes using List.reverseRecOn with
  | nil => rfl
  | append_singleton writes write ih => rw [ofList_concat, get?_put, lastValue?_concat, ih]

theorem names_ofList (writes : List (String × α)) :
    (ofList writes).names = (writes.map (·.1)).eraseDups := by
  induction writes using List.reverseRecOn with
  | nil => rfl
  | append_singleton writes write ih =>
      obtain ⟨name, value⟩ := write
      rw [ofList_concat, names_put, ih, List.map_append, List.eraseDups_append]
      by_cases hname : name ∈ writes.map (·.1)
      · rw [if_pos (List.mem_eraseDups.mpr hname)]
        simp [List.removeAll, hname]
      · rw [if_neg (hname ∘ List.mem_eraseDups.mp)]
        simp [List.removeAll, hname, List.eraseDups_cons]

/-- Pairs that were put one after another are listed by their first writes and their last values. -/
theorem entries_ofList (writes : List (String × α)) : (ofList writes).entries = listing writes := by
  rw [entries_eq, names_ofList, listing]
  simp only [get?_ofList]

theorem listing_eq_nil_iff {writes : List (String × α)} : listing writes = [] ↔ writes = [] := by
  constructor
  · intro hlisting
    cases writes with
    | nil => rfl
    | cons write writes =>
        have hnames : (ofList (write :: writes)).names = [] := by
          rw [names, entries_ofList, hlisting, List.map_nil]
        rw [names_ofList, List.map_cons, List.eraseDups_cons] at hnames
        cases hnames
  · rintro rfl
    rfl

private theorem entries_ofList_of_distinct {entries : List (String × α)}
    (hdistinct : (entries.map (·.1)).Nodup) : (ofList entries).entries = entries := by
  induction entries using List.reverseRecOn with
  | nil => rfl
  | append_singleton entries entry ih =>
      obtain ⟨name, value⟩ := entry
      rw [List.map_append, List.map_cons, List.map_nil] at hdistinct
      obtain ⟨hrest, -, hapart⟩ := List.nodup_append.mp hdistinct
      have hnew : name ∉ (ofList entries).names := by
        intro hold
        rw [names, ih hrest] at hold
        exact hapart name hold name (List.mem_singleton_self name) rfl
      rw [ofList_concat, entries_put_of_new hnew, ih hrest]

/-- A map is what its own entries make. -/
theorem ofList_entries (m : OrderedMap α) : ofList m.entries = m :=
  OrderedMap.ext (entries_ofList_of_distinct m.distinct)

/-- What is written later is listed after what is listed already. -/
theorem listing_append (writes more : List (String × α)) :
    listing (writes ++ more) = listing (listing writes ++ more) := by
  have hlisted : ofList (listing writes) = ofList writes := by
    rw [← entries_ofList, ofList_entries]
  rw [← entries_ofList, ← entries_ofList, ofList_append, ofList_append, hlisted]

/-! ### Other values under the same names -/

/-- The map with every value changed. -/
def map {β : Type} (f : α → β) (m : OrderedMap α) : OrderedMap β where
  entries := m.entries.map fun (name, value) => (name, f value)
  distinct := by
    rw [List.map_map]
    exact m.distinct

variable {β : Type} (f : α → β)

theorem get?_map (m : OrderedMap α) (name : String) :
    (m.map f).get? name = (m.get? name).map f := by
  simp only [map, get?]
  induction m.entries with
  | nil => rfl
  | cons entry entries ih =>
      obtain ⟨key, value⟩ := entry
      simp only [List.map_cons, lookup?, ih]
      split <;> rfl

theorem erase_map (m : OrderedMap α) (name : String) :
    (m.map f).erase name = (m.erase name).map f := by
  refine OrderedMap.ext ?_
  simp only [map, erase, List.filter_map]
  rfl

theorem isEmpty_map (m : OrderedMap α) : (m.map f).isEmpty = m.isEmpty :=
  List.isEmpty_map

end OrderedMap

end FullText
