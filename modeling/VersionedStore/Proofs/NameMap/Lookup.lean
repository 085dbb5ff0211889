import VersionedStore.NameMap
import Mathlib.Data.List.Nodup
import Mathlib.Data.String.Basic

/-!
# Look-ups in maps keyed by name

Every change to a `NameMap` is known by what it does to look-ups, and a map is known by its
look-ups.

* `NameMap.get?_insert`, `NameMap.get?_erase`: the changes, name by name.
* `NameMap.mem_entries_iff`: the entries are what the look-ups find.
* `NameMap.ext_get?`: two maps with the same look-ups are the same map.
* `NameMap.get?_ofList_eq`: of the entries of a list with one name, the last is looked up.
* `NameMap.get?_ofList`: a list of entries with distinct names is looked up as it is.
* `NameMap.entries_insert_of_absent`: a new name comes between the entries that are there.
-/

set_option autoImplicit false

namespace VersionedStore.NameMap

variable {α : Type}

/-- A name that the first entry has is looked up there. -/
theorem lookupEntry_cons_self (name : String) (value : α) (entries : List (String × α)) :
    lookupEntry name ((name, value) :: entries) = some value := by
  rw [lookupEntry, if_pos rfl]

/-- A name that the first entry does not have is looked up in the others. -/
theorem lookupEntry_cons_of_ne {name other : String} (h : other ≠ name) (value : α)
    (entries : List (String × α)) :
    lookupEntry other ((name, value) :: entries) = lookupEntry other entries := by
  rw [lookupEntry, if_neg h]

/-- Inserting into entries changes the look-up of the inserted name only. -/
theorem lookupEntry_insertEntry (name other : String) (value : α)
    (entries : List (String × α)) :
    lookupEntry other (insertEntry name value entries) =
      if other = name then some value else lookupEntry other entries := by
  induction entries with
  | nil => simp only [insertEntry, lookupEntry]
  | cons head rest ih =>
    obtain ⟨first, held⟩ := head
    unfold insertEntry
    by_cases hlt : name < first
    · rw [if_pos hlt]
      simp only [lookupEntry]
    · rw [if_neg hlt]
      by_cases heq : name = first
      · subst heq
        rw [if_pos rfl]
        by_cases hother : other = name <;> simp [lookupEntry, hother]
      · rw [if_neg heq]
        simp only [lookupEntry, ih]
        by_cases hother : other = name
        · simp [hother, heq]
        · simp [hother]

/-- What a look-up finds is an entry. -/
theorem mem_of_lookupEntry {name : String} {value : α} {entries : List (String × α)}
    (h : lookupEntry name entries = some value) : (name, value) ∈ entries := by
  induction entries with
  | nil => simp [lookupEntry] at h
  | cons head rest ih =>
    obtain ⟨first, held⟩ := head
    unfold lookupEntry at h
    by_cases hname : name = first
    · simp_all
    · rw [if_neg hname] at h
      exact List.mem_cons_of_mem _ (ih h)

/-- Among entries with distinct names, a look-up finds every entry. -/
theorem lookupEntry_of_mem {name : String} {value : α} {entries : List (String × α)}
    (hdistinct : (entries.map Prod.fst).Nodup) (h : (name, value) ∈ entries) :
    lookupEntry name entries = some value := by
  induction entries with
  | nil => simp at h
  | cons head rest ih =>
    obtain ⟨first, held⟩ := head
    simp only [List.map_cons, List.nodup_cons] at hdistinct
    unfold lookupEntry
    rcases List.mem_cons.1 h with heq | hrest
    · simp_all
    · have hne : name ≠ first := by
        intro heq
        exact hdistinct.1 (heq ▸ List.mem_map_of_mem (f := Prod.fst) hrest)
      rw [if_neg hne]
      exact ih hdistinct.2 hrest

/-- Leaving out the entries of a name changes the look-up of that name only. -/
theorem lookupEntry_filter_ne (name other : String) (entries : List (String × α)) :
    lookupEntry other (entries.filter fun entry => entry.1 != name) =
      if other = name then none else lookupEntry other entries := by
  induction entries with
  | nil => simp [lookupEntry]
  | cons head rest ih =>
    obtain ⟨first, held⟩ := head
    by_cases hfirst : first = name
    · have hdropped : ((first, held).1 != name) = false := by simp [hfirst]
      rw [List.filter_cons, hdropped, if_neg Bool.false_ne_true, ih]
      by_cases hother : other = name
      · rw [if_pos hother, if_pos hother]
      · simp [lookupEntry, hfirst, hother]
    · by_cases hother : other = first
      · simp [lookupEntry, hfirst, hother]
      · simp [lookupEntry, hfirst, hother, ih]

/-- The names of a map are distinct. -/
theorem nodup_names (map : NameMap α) : map.names.Nodup :=
  List.pairwise_map.2 (map.sorted.imp fun hlt => ne_of_lt hlt)

/-- There is no value under any name of an empty map. -/
@[simp] theorem get?_empty (name : String) : (∅ : NameMap α).get? name = none := rfl

/-- Insertion changes the look-up of the inserted name only. -/
theorem get?_insert (map : NameMap α) (name other : String) (value : α) :
    (map.insert name value).get? other = if other = name then some value else map.get? other :=
  lookupEntry_insertEntry name other value map.entries

/-- Erasure changes the look-up of the erased name only. -/
theorem get?_erase (map : NameMap α) (name other : String) :
    (map.erase name).get? other = if other = name then none else map.get? other :=
  lookupEntry_filter_ne name other map.entries

/-- An insertion changes the value under no other name. -/
theorem get?_insert_of_ne (map : NameMap α) {name other : String} (value : α)
    (h : other ≠ name) : (map.insert name value).get? other = map.get? other := by
  rw [get?_insert, if_neg h]

/-- The entries of a map are what its look-ups find. -/
theorem mem_entries_iff (map : NameMap α) (name : String) (value : α) :
    (name, value) ∈ map.entries ↔ map.get? name = some value :=
  ⟨lookupEntry_of_mem map.nodup_names, mem_of_lookupEntry⟩

/-- A name is among the names of a map if its look-up finds something. -/
theorem mem_names_iff (map : NameMap α) (name : String) :
    name ∈ map.names ↔ ∃ value, map.get? name = some value := by
  unfold names
  rw [List.mem_map]
  constructor
  · rintro ⟨⟨other, value⟩, hentry, rfl⟩
    exact ⟨value, (map.mem_entries_iff other value).1 hentry⟩
  · rintro ⟨value, h⟩
    exact ⟨(name, value), (map.mem_entries_iff name value).2 h, rfl⟩

/-- A map has a name if there is a value under it. -/
theorem contains_iff (map : NameMap α) (name : String) :
    map.contains name = true ↔ ∃ value, map.get? name = some value := by
  unfold contains
  exact Option.isSome_iff_exists

/-- Insertion adds its name to the names of a map. -/
theorem mem_names_insert (map : NameMap α) (name other : String) (value : α) :
    other ∈ (map.insert name value).names ↔ other = name ∨ other ∈ map.names := by
  rw [mem_names_iff, mem_names_iff, get?_insert]
  by_cases hother : other = name <;> simp [hother]

/-- Erasure takes its name out of the names of a map. -/
theorem mem_names_erase (map : NameMap α) (name other : String) :
    other ∈ (map.erase name).names ↔ other ≠ name ∧ other ∈ map.names := by
  rw [mem_names_iff, mem_names_iff, get?_erase]
  by_cases hother : other = name <;> simp [hother]

/-- A map is known by its entries. -/
theorem entries_inj {a b : NameMap α} : a.entries = b.entries ↔ a = b := by
  constructor
  · intro hentries
    cases a
    cases b
    cases hentries
    rfl
  · exact congrArg entries

/-- Two maps with the same look-ups are the same map. -/
theorem ext_get? {a b : NameMap α} (h : ∀ name, a.get? name = b.get? name) : a = b := by
  have hperm : a.entries.Perm b.entries := by
    rw [List.perm_ext_iff_of_nodup a.nodup_names.of_map b.nodup_names.of_map]
    rintro ⟨name, value⟩
    rw [mem_entries_iff, mem_entries_iff, h]
  apply entries_inj.1
  exact hperm.eq_of_pairwise
    (fun x y _ _ hxy hyx => absurd hxy (String.lt_asymm hyx)) a.sorted b.sorted

/-- A name is looked up in the second of two rows of entries if the first does not have it. -/
theorem lookupEntry_append (name : String) (a b : List (String × α)) :
    lookupEntry name (a ++ b) = (lookupEntry name a).or (lookupEntry name b) := by
  induction a with
  | nil => simp [lookupEntry]
  | cons head rest ih =>
    rw [List.cons_append, lookupEntry, lookupEntry, ih]
    by_cases hname : name = head.1 <;> simp [hname]

/-- What a look-up finds is the first entry of its name. -/
theorem exists_split_of_lookupEntry {name : String} {value : α} {entries : List (String × α)}
    (h : lookupEntry name entries = some value) :
    ∃ before behind, entries = before ++ (name, value) :: behind ∧
      ∀ entry ∈ before, entry.1 ≠ name := by
  induction entries with
  | nil => simp [lookupEntry] at h
  | cons head rest ih =>
    rw [lookupEntry] at h
    by_cases hname : name = head.1
    · rw [if_pos hname] at h
      obtain rfl := Option.some.inj h
      exact ⟨[], rest, by rw [hname]; rfl, by simp⟩
    · rw [if_neg hname] at h
      obtain ⟨before, behind, rfl, hbefore⟩ := ih h
      refine ⟨head :: before, behind, rfl, ?_⟩
      rw [List.forall_mem_cons]
      exact ⟨Ne.symm hname, hbefore⟩

/-- Nothing is found under a name if no entry has it. -/
theorem lookupEntry_eq_none_iff {name : String} {entries : List (String × α)} :
    lookupEntry name entries = none ↔ ∀ entry ∈ entries, entry.1 ≠ name := by
  induction entries with
  | nil => simp [lookupEntry]
  | cons head rest ih =>
    rw [lookupEntry, List.forall_mem_cons]
    by_cases hname : name = head.1
    · simp [hname]
    · rw [if_neg hname, ih]
      simp [Ne.symm hname]

/-- A name that comes before those of all entries is not found among them. -/
theorem lookupEntry_of_before {name : String} {entries : List (String × α)}
    (h : ∀ entry ∈ entries, name < entry.1) : lookupEntry name entries = none :=
  lookupEntry_eq_none_iff.2 fun entry hentry => (ne_of_lt (h entry hentry)).symm

/-- A name that is found in entries in order does not come before the first of them. -/
theorem le_of_lookupEntry {name other : String} {value : α} {entries : List (String × α)}
    (hsorted : ∀ entry ∈ entries, name < entry.1)
    (hfound : (lookupEntry other ((name, value) :: entries)).isSome = true) : name ≤ other := by
  by_contra hlt
  rw [not_le] at hlt
  have hnone : lookupEntry other entries = none :=
    lookupEntry_of_before fun entry hentry => hlt.trans (hsorted entry hentry)
  rw [lookupEntry_cons_of_ne (ne_of_lt hlt), hnone] at hfound
  exact Bool.false_ne_true hfound

/-- Inserting a list of entries into a map: a name of the list has the value of its last entry,
and any other name is looked up in the map. -/
theorem get?_foldl_insert (entries : List (String × α)) (map : NameMap α) (name : String) :
    (entries.foldl (fun map entry => map.insert entry.1 entry.2) map).get? name =
      (lookupEntry name entries.reverse).or (map.get? name) := by
  induction entries generalizing map with
  | nil => simp [lookupEntry]
  | cons head rest ih =>
    rw [List.foldl_cons, ih, get?_insert, List.reverse_cons, lookupEntry_append, Option.or_assoc]
    by_cases hname : name = head.1 <;> simp [lookupEntry, hname]

/-- Of the entries of a list with one name, the last is looked up. -/
theorem get?_ofList_eq (entries : List (String × α)) (name : String) :
    (ofList entries).get? name = lookupEntry name entries.reverse := by
  unfold ofList
  rw [get?_foldl_insert]
  exact Option.or_none

/-- A list of entries with distinct names is looked up as it is. -/
theorem get?_ofList (entries : List (String × α)) (name : String)
    (hdistinct : (entries.map Prod.fst).Nodup) :
    (ofList entries).get? name = lookupEntry name entries := by
  have hreverse : (entries.reverse.map Prod.fst).Nodup := by
    rw [List.map_reverse]
    exact List.nodup_reverse.2 hdistinct
  rw [get?_ofList_eq]
  refine Option.ext fun value => ⟨fun h => ?_, fun h => ?_⟩
  · exact lookupEntry_of_mem hdistinct (List.mem_reverse.1 (mem_of_lookupEntry h))
  · exact lookupEntry_of_mem hreverse (List.mem_reverse.2 (mem_of_lookupEntry h))

/-- An entry of a new name comes between the entries that are there. -/
theorem insertEntry_of_absent {name : String} (value : α) {entries : List (String × α)}
    (h : lookupEntry name entries = none) :
    ∃ before behind, entries = before ++ behind ∧
      insertEntry name value entries = before ++ (name, value) :: behind := by
  induction entries with
  | nil => exact ⟨[], [], rfl, rfl⟩
  | cons head rest ih =>
    obtain ⟨first, held⟩ := head
    rw [lookupEntry_eq_none_iff, List.forall_mem_cons] at h
    unfold insertEntry
    by_cases hlt : name < first
    · exact ⟨[], (first, held) :: rest, rfl, if_pos hlt⟩
    · obtain ⟨before, behind, hrest, hinsert⟩ := ih (lookupEntry_eq_none_iff.2 h.2)
      rw [if_neg hlt, if_neg (Ne.symm h.1)]
      refine ⟨(first, held) :: before, behind, ?_, ?_⟩
      · rw [hrest, List.cons_append]
      · rw [hinsert, List.cons_append]

/-- Inserting a new name puts its entry between those that are there. -/
theorem entries_insert_of_absent (map : NameMap α) {name : String} (value : α)
    (h : map.contains name = false) :
    ∃ before behind, map.entries = before ++ behind ∧
      (map.insert name value).entries = before ++ (name, value) :: behind :=
  insertEntry_of_absent value (Option.not_isSome_iff_eq_none.1 (Bool.eq_false_iff.1 h))

end VersionedStore.NameMap
