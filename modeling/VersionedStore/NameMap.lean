/-!
# Maps keyed by name

Rules, indexes, collections and the collections of a component are all kept by name, and every
answer that lists them shows the names in increasing order (by code point).  A `NameMap` is
the list of its entries in that order: two maps with the same look-ups are the same map.
-/

set_option autoImplicit false

namespace VersionedStore

/-- Entries with pairwise distinct names, in increasing order of name. -/
structure NameMap (α : Type) where
  entries : List (String × α)
  sorted : entries.Pairwise (fun a b => a.1 < b.1)

namespace NameMap

variable {α β σ ε : Type}

/-- Puts a value under a name: in the place of the entry of that name, or before the first
entry with a larger name. -/
def insertEntry (name : String) (value : α) : List (String × α) → List (String × α)
  | [] => [(name, value)]
  | (other, held) :: rest =>
    if name < other then (name, value) :: (other, held) :: rest
    else if name = other then (name, value) :: rest
    else (other, held) :: insertEntry name value rest

/-- The value of the first entry with a given name. -/
def lookupEntry (name : String) : List (String × α) → Option α
  | [] => none
  | (other, held) :: rest => if name = other then some held else lookupEntry name rest

/-- What stands in the entries after an insertion is the new entry or stood there before. -/
theorem mem_insertEntry {name : String} {value : α} {entry : String × α}
    {entries : List (String × α)} (h : entry ∈ insertEntry name value entries) :
    entry = (name, value) ∨ entry ∈ entries := by
  induction entries with
  | nil => simpa [insertEntry] using h
  | cons head rest ih =>
    obtain ⟨other, held⟩ := head
    unfold insertEntry at h
    split at h
    · simpa using h
    · split at h
      · rcases List.mem_cons.1 h with h | h
        · exact .inl h
        · exact .inr (List.mem_cons_of_mem _ h)
      · rcases List.mem_cons.1 h with h | h
        · exact .inr (h ▸ List.mem_cons_self)
        · exact (ih h).imp_right (List.mem_cons_of_mem _)

/-- Insertion keeps the names of the entries in increasing order. -/
theorem pairwise_insertEntry (name : String) (value : α) {entries : List (String × α)}
    (h : entries.Pairwise (fun a b => a.1 < b.1)) :
    (insertEntry name value entries).Pairwise (fun a b => a.1 < b.1) := by
  induction entries with
  | nil => simp [insertEntry]
  | cons head rest ih =>
    obtain ⟨other, held⟩ := head
    obtain ⟨hhead, hrest⟩ := List.pairwise_cons.1 h
    unfold insertEntry
    split
    · rename_i hlt
      refine List.pairwise_cons.2 ⟨fun entry hentry => ?_, h⟩
      rcases List.mem_cons.1 hentry with rfl | hentry
      · exact hlt
      · exact String.lt_trans hlt (hhead entry hentry)
    · split
      · rename_i heq
        subst heq
        exact List.pairwise_cons.2 ⟨hhead, hrest⟩
      · rename_i hge hne
        refine List.pairwise_cons.2 ⟨fun entry hentry => ?_, ih hrest⟩
        rcases mem_insertEntry hentry with rfl | hentry
        · exact Std.lt_of_le_of_ne (String.not_lt.1 hge) (fun heq => hne heq.symm)
        · exact hhead entry hentry

/-- The map without entries. -/
def empty : NameMap α := ⟨[], List.Pairwise.nil⟩

/-- The map without entries is written as the empty set is. -/
instance : EmptyCollection (NameMap α) := ⟨empty⟩

/-- The value held under a name. -/
def get? (map : NameMap α) (name : String) : Option α := lookupEntry name map.entries

/-- Whether the map has an entry of a name. -/
def contains (map : NameMap α) (name : String) : Bool := (map.get? name).isSome

/-- Holds `value` under `name`, in the place of what was held there. -/
def insert (map : NameMap α) (name : String) (value : α) : NameMap α :=
  ⟨insertEntry name value map.entries, pairwise_insertEntry name value map.sorted⟩

/-- The map without the entry of a name. -/
def erase (map : NameMap α) (name : String) : NameMap α :=
  ⟨map.entries.filter (fun entry => entry.1 != name), map.sorted.filter _⟩

/-- The names, in increasing order. -/
def names (map : NameMap α) : List String := map.entries.map Prod.fst

/-- The number of entries. -/
def size (map : NameMap α) : Nat := map.entries.length

/-- Changes every value, keeping the names. -/
def mapValues (f : α → β) (map : NameMap α) : NameMap β :=
  ⟨map.entries.map (fun entry => (entry.1, f entry.2)),
    List.pairwise_map.2 map.sorted⟩

/-- Inserts a list of entries from left to right, so that the last value of a name stays. -/
def ofList (entries : List (String × α)) : NameMap α :=
  entries.foldl (fun map entry => map.insert entry.1 entry.2) empty

/-- Visits entries in order, handing a state from one to the next, until a visit fails.  The
entry that failed keeps what its visit made of it; the entries after it are as they were. -/
def visitEntries (visit : String → α → σ → Except ε Unit × α × σ) :
    List (String × α) → σ → Except ε Unit × List (String × α) × σ
  | [], state => (.ok (), [], state)
  | (name, value) :: rest, state =>
    match visit name value state with
    | (.error error, value', state') => (.error error, (name, value') :: rest, state')
    | (.ok (), value', state') =>
      let (result, rest', state'') := visitEntries visit rest state'
      (result, (name, value') :: rest', state'')

/-- Visiting entries changes no name and no place, also when a visit fails. -/
theorem map_fst_visitEntries (visit : String → α → σ → Except ε Unit × α × σ)
    (entries : List (String × α)) (state : σ) :
    (visitEntries visit entries state).2.1.map Prod.fst = entries.map Prod.fst := by
  induction entries generalizing state with
  | nil => rfl
  | cons head rest ih =>
    obtain ⟨name, value⟩ := head
    unfold visitEntries
    split
    · rfl
    · rename_i value' state' _
      simp [ih state']

/-- Visits the entries in increasing order of name until a visit fails. -/
def visit (step : String → α → σ → Except ε Unit × α × σ) (map : NameMap α) (state : σ) :
    Except ε Unit × NameMap α × σ :=
  let visited := visitEntries step map.entries state
  (visited.1,
    ⟨visited.2.1, by
      have hnames : (map.entries.map Prod.fst).Pairwise (· < ·) :=
        List.pairwise_map.2 map.sorted
      rw [← map_fst_visitEntries step map.entries state] at hnames
      exact List.pairwise_map.1 hnames⟩,
    visited.2.2)

end NameMap

end VersionedStore
