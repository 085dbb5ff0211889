import VersionedStore.Value
import Mathlib.Data.List.Nodup

/-!
# The fields of a document by name

Setting, erasing and appending fields, seen through look-ups by name and through the list of
names.

* `Document.get?_set`, `Document.get?_erase`, `Document.get?_append`: the look-ups.
* `Document.set_of_not_mem`, `Document.setAll_of_disjoint`: new names go behind the others, so
  that setting fields with new names appends them.
* `Document.nodup_names_set`, `Document.nodup_names_erase`: names that are distinct stay so.
* `Document.mem_set`, `Document.mem_setAll`: the fields after setting.
* `Document.get?_setAll`, `Document.setAll_setAll`: setting several fields, look-up by look-up, and
  twice.
* `Document.perm_of_get?`: documents with the same look-ups have the same fields in some order.
-/

set_option autoImplicit false

namespace VersionedStore.Document

/-- The empty document has no field of any name. -/
@[simp] theorem get?_nil (name : String) : get? [] name = none := rfl

/-- The empty document has no names. -/
@[simp] theorem names_nil : names [] = [] := rfl

/-- The names of a document begin with that of its first field. -/
@[simp] theorem names_cons (field : String × Value) (rest : Document) :
    names (field :: rest) = field.1 :: names rest := rfl

/-- The names of two rows of fields follow one another. -/
@[simp] theorem names_append (a b : Document) : names (a ++ b) = names a ++ names b :=
  List.map_append

/-- A field is looked up at the front and then in the rest. -/
theorem get?_cons (field : String × Value) (rest : Document) (name : String) :
    get? (field :: rest) name = if field.1 = name then some field.2 else get? rest name := rfl

/-- A name is among the names of a document if its look-up finds something. -/
theorem mem_names_iff (document : Document) (name : String) :
    name ∈ names document ↔ ∃ value, get? document name = some value := by
  induction document with
  | nil => simp
  | cons field rest ih =>
    rw [names_cons, List.mem_cons, get?_cons, ih]
    by_cases hname : field.1 = name
    · simp [hname]
    · simp [hname, Ne.symm hname]

/-- There is no field of a name if the name is not among the names. -/
theorem get?_eq_none_iff (document : Document) (name : String) :
    get? document name = none ↔ name ∉ names document := by
  rw [mem_names_iff]
  cases get? document name <;> simp

/-- There is a field of a name if the name is among the names. -/
theorem contains_iff (document : Document) (name : String) :
    contains document name = true ↔ name ∈ names document := by
  rw [mem_names_iff]
  exact Option.isSome_iff_exists

/-- What a look-up finds is a field. -/
theorem mem_of_get? {document : Document} {name : String} {value : Value}
    (h : get? document name = some value) : (name, value) ∈ document := by
  induction document with
  | nil => simp at h
  | cons field rest ih =>
    rw [get?_cons] at h
    by_cases hname : field.1 = name
    · rw [if_pos hname] at h
      obtain rfl := Option.some.inj h
      subst hname
      exact List.mem_cons_self
    · rw [if_neg hname] at h
      exact List.mem_cons_of_mem _ (ih h)

/-- The name of a field is among the names. -/
theorem mem_names_of_mem {document : Document} {field : String × Value} (h : field ∈ document) :
    field.1 ∈ names document :=
  List.mem_map_of_mem h

/-- Where a look-up finds nothing, no field has the name. -/
theorem not_mem_of_get? {document : Document} {name : String} (h : get? document name = none)
    (value : Value) : (name, value) ∉ document := fun hmem =>
  (get?_eq_none_iff document name).1 h (mem_names_of_mem hmem)

/-- Among fields with distinct names, a look-up finds every field. -/
theorem get?_of_mem {document : Document} {name : String} {value : Value}
    (hdistinct : (names document).Nodup) (h : (name, value) ∈ document) :
    get? document name = some value := by
  induction document with
  | nil => simp at h
  | cons field rest ih =>
    rw [names_cons, List.nodup_cons] at hdistinct
    rw [get?_cons]
    rcases List.mem_cons.1 h with heq | hrest
    · rw [← heq, if_pos rfl]
    · have hne : field.1 ≠ name := fun hname =>
        hdistinct.1 (hname ▸ mem_names_of_mem hrest)
      rw [if_neg hne]
      exact ih hdistinct.2 hrest

/-- A field is looked up in the second of two rows if the first does not have it. -/
theorem get?_append (a b : Document) (name : String) :
    get? (a ++ b) name = (get? a name).or (get? b name) := by
  induction a with
  | nil => simp
  | cons field rest ih =>
    rw [List.cons_append, get?_cons, get?_cons, ih]
    by_cases hname : field.1 = name <;> simp [hname]

/-- Setting a field changes the look-up of its name only. -/
theorem get?_set (document : Document) (name other : String) (value : Value) :
    get? (set document name value) other =
      if other = name then some value else get? document other := by
  induction document with
  | nil => simp [set, get?_cons, eq_comm]
  | cons field rest ih =>
    obtain ⟨first, held⟩ := field
    unfold set
    by_cases hfirst : first = name
    · subst hfirst
      rw [if_pos rfl, get?_cons, get?_cons]
      by_cases hother : other = first <;> simp [hother, eq_comm]
    · rw [if_neg hfirst, get?_cons, get?_cons, ih]
      by_cases hother : other = name
      · subst hother
        simp [hfirst]
      · simp [hother]

/-- The field that is set has the value that it is set to. -/
@[simp] theorem get?_set_self (document : Document) (name : String) (value : Value) :
    get? (set document name value) name = some value := by
  rw [get?_set, if_pos rfl]

/-- Setting a field leaves the fields of other names alone. -/
theorem get?_set_of_ne (document : Document) {name other : String} (value : Value)
    (h : other ≠ name) : get? (set document name value) other = get? document other := by
  rw [get?_set, if_neg h]

/-- Erasing a field changes the look-up of its name only. -/
theorem get?_erase (document : Document) (name other : String) :
    get? (erase document name) other = if other = name then none else get? document other := by
  unfold erase
  induction document with
  | nil => simp
  | cons field rest ih =>
    by_cases hfirst : field.1 = name
    · have hdropped : (field.1 != name) = false := by simp [hfirst]
      rw [List.filter_cons, hdropped, if_neg Bool.false_ne_true, ih, get?_cons]
      by_cases hother : other = name
      · rw [if_pos hother, if_pos hother]
      · have hne : field.1 ≠ other := fun heq => hother (heq ▸ hfirst)
        rw [if_neg hother, if_neg hother, if_neg hne]
    · have hkept : (field.1 != name) = true := by simp [hfirst]
      rw [List.filter_cons, hkept, if_pos rfl, get?_cons, get?_cons, ih]
      by_cases hother : other = name
      · subst hother
        simp [hfirst]
      · simp [hother]

/-- A field with a new name goes behind the others. -/
theorem set_of_not_mem {document : Document} {name : String} (value : Value)
    (h : name ∉ names document) : set document name value = document ++ [(name, value)] := by
  induction document with
  | nil => rfl
  | cons field rest ih =>
    obtain ⟨first, held⟩ := field
    rw [names_cons, List.mem_cons, not_or] at h
    unfold set
    rw [if_neg (Ne.symm h.1), ih h.2, List.cons_append]

/-- A field with a known name takes the place of the one of that name. -/
theorem names_set_of_mem {document : Document} {name : String} (value : Value)
    (h : name ∈ names document) : names (set document name value) = names document := by
  induction document with
  | nil => simp at h
  | cons field rest ih =>
    obtain ⟨first, held⟩ := field
    unfold set
    by_cases hfirst : first = name
    · simp [hfirst]
    · rw [names_cons, List.mem_cons] at h
      rw [if_neg hfirst, names_cons, names_cons, ih (h.resolve_left (Ne.symm hfirst))]

/-- The empty document has no name twice. -/
theorem nodup_names_nil : (names []).Nodup := List.nodup_nil

/-- Setting a field gives no name twice. -/
theorem nodup_names_set {document : Document} (name : String) (value : Value)
    (h : (names document).Nodup) : (names (set document name value)).Nodup := by
  by_cases hname : name ∈ names document
  · rw [names_set_of_mem value hname]
    exact h
  · rw [set_of_not_mem value hname, names_append, List.nodup_append]
    refine ⟨h, by simp, ?_⟩
    rintro a ha b hb rfl
    simp only [names_cons, names_nil, List.mem_singleton] at hb
    exact hname (hb ▸ ha)

/-- Erasing a field gives no name twice. -/
theorem nodup_names_erase {document : Document} (name : String)
    (h : (names document).Nodup) : (names (erase document name)).Nodup :=
  h.sublist (List.filter_sublist.map _)

/-- A field of a document with a field set is that one, or one of the others. -/
theorem mem_set {document : Document} {name : String} {value : Value} {field : String × Value}
    (hdistinct : (names document).Nodup) :
    field ∈ set document name value ↔
      field = (name, value) ∨ field ∈ document ∧ field.1 ≠ name := by
  have hlook := get?_set document name field.1 value
  have hfield : field ∈ set document name value ↔
      get? (set document name value) field.1 = some field.2 :=
    ⟨get?_of_mem (nodup_names_set name value hdistinct), mem_of_get?⟩
  have hheld : field ∈ document ↔ get? document field.1 = some field.2 :=
    ⟨get?_of_mem hdistinct, mem_of_get?⟩
  rw [hfield, hheld, hlook]
  obtain ⟨other, held⟩ := field
  by_cases hother : other = name
  · simp [hother, eq_comm]
  · simp [hother]

/-- Erasing a name leaves the fields of other names. -/
theorem mem_erase {document : Document} {name : String} {field : String × Value} :
    field ∈ erase document name ↔ field ∈ document ∧ field.1 ≠ name := by
  unfold erase
  simp [List.mem_filter]

/-- Fields are set from left to right. -/
theorem setAll_cons (document : Document) (field : String × Value) (fields : Document) :
    setAll document (field :: fields) = setAll (set document field.1 field.2) fields := rfl

/-- The fields of a document with fields set are those, and the others of the document. -/
theorem mem_setAll {document fields : Document} {field : String × Value}
    (hdistinct : (names document).Nodup) (hfields : (names fields).Nodup) :
    field ∈ setAll document fields ↔
      field ∈ fields ∨ field ∈ document ∧ field.1 ∉ names fields := by
  induction fields generalizing document with
  | nil => simp [setAll]
  | cons first rest ih =>
    rw [names_cons, List.nodup_cons] at hfields
    rw [setAll_cons, ih (nodup_names_set first.1 first.2 hdistinct) hfields.2,
      mem_set hdistinct, names_cons, List.mem_cons, List.mem_cons, not_or]
    -- The first field is not set again by one of the rest.
    have hkept : field = first → field.1 ∉ names rest := by
      rintro rfl
      exact hfields.1
    constructor
    · rintro (hrest | ⟨hfirst | hheld, hnew⟩)
      · exact .inl (.inr hrest)
      · exact .inl (.inl hfirst)
      · exact .inr ⟨hheld.1, hheld.2, hnew⟩
    · rintro ((hfirst | hrest) | ⟨hheld, hne, hnew⟩)
      · exact .inr ⟨.inl hfirst, hkept hfirst⟩
      · exact .inl hrest
      · exact .inr ⟨.inr ⟨hheld, hne⟩, hnew⟩

/-- Setting fields with new and distinct names appends them. -/
theorem setAll_of_disjoint {document : Document} {fields : List (String × Value)}
    (hdistinct : (names fields).Nodup) (hnew : ∀ name ∈ names fields, name ∉ names document) :
    setAll document fields = document ++ fields := by
  unfold setAll
  induction fields generalizing document with
  | nil => simp
  | cons field rest ih =>
    rw [names_cons, List.nodup_cons] at hdistinct
    have hfirst : field.1 ∉ names document := hnew field.1 List.mem_cons_self
    rw [List.foldl_cons, set_of_not_mem field.2 hfirst, ih hdistinct.2]
    · simp
    · intro name hname hmem
      rw [names_append, List.mem_append] at hmem
      rcases hmem with hmem | hmem
      · exact hnew name (List.mem_cons_of_mem _ hname) hmem
      · simp only [names_cons, names_nil, List.mem_singleton] at hmem
        exact hdistinct.1 (hmem ▸ hname)

/-- Of the fields that are set under one name, the last is looked up. -/
theorem get?_setAll (document fields : Document) (name : String) :
    get? (setAll document fields) name = (get? fields.reverse name).or (get? document name) := by
  induction fields generalizing document with
  | nil => rfl
  | cons field rest ih =>
    rw [setAll_cons, ih, get?_set, List.reverse_cons, get?_append, get?_cons, get?_nil,
      Option.or_assoc]
    by_cases hname : field.1 = name
    · simp [hname]
    · simp [hname, Ne.symm hname]

/-- Setting fields leaves the fields of other names alone. -/
theorem get?_setAll_of_not_mem (document : Document) {fields : Document} {name : String}
    (h : name ∉ names fields) : get? (setAll document fields) name = get? document name := by
  have hreverse : get? fields.reverse name = none := by
    rw [get?_eq_none_iff, names, List.map_reverse, List.mem_reverse]
    exact h
  rw [get?_setAll, hreverse, Option.none_or]

/-- Setting fields gives no name twice. -/
theorem nodup_names_setAll {document : Document} (fields : Document)
    (h : (names document).Nodup) : (names (setAll document fields)).Nodup := by
  induction fields generalizing document with
  | nil => exact h
  | cons field rest ih => exact ih (nodup_names_set field.1 field.2 h)

/-- Of two values that a field is set to, the later one counts. -/
theorem set_set (document : Document) (name : String) (value value' : Value) :
    set (set document name value) name value' = set document name value' := by
  induction document with
  | nil => simp [set]
  | cons field rest ih =>
    obtain ⟨first, held⟩ := field
    by_cases hfirst : first = name <;> simp [set, hfirst, ih]

/-- A field that is there can be set before another or after it. -/
theorem set_comm_of_mem {document : Document} {name other : String} (value value' : Value)
    (hmem : name ∈ names document) (hne : other ≠ name) :
    set (set document other value') name value = set (set document name value) other value' := by
  induction document with
  | nil => simp at hmem
  | cons field rest ih =>
    obtain ⟨first, held⟩ := field
    rw [names_cons, List.mem_cons] at hmem
    by_cases hfirst : first = name
    · subst hfirst
      simp [set, Ne.symm hne]
    · have hrest := hmem.resolve_left (Ne.symm hfirst)
      by_cases hother : first = other
      · simp [set, hother, hne]
      · simp [set, hfirst, hother, ih hrest]

/-- A field that is there can be set before fields of other names or after them. -/
theorem set_setAll_of_mem {document fields : Document} {name : String} (value : Value)
    (hmem : name ∈ names document) (hnew : name ∉ names fields) :
    set (setAll document fields) name value = setAll (set document name value) fields := by
  induction fields generalizing document with
  | nil => rfl
  | cons field rest ih =>
    rw [names_cons, List.mem_cons, not_or] at hnew
    have hkept : name ∈ names (set document field.1 field.2) := by
      rw [mem_names_iff, get?_set_of_ne document field.2 hnew.1, ← mem_names_iff]
      exact hmem
    rw [setAll_cons, setAll_cons, ih hkept hnew.2,
      set_comm_of_mem value field.2 hmem (Ne.symm hnew.1)]

/-- Setting fields of which one has been set is setting them, and then that one. -/
theorem setAll_set (document : Document) {fields : Document} (name : String) (value : Value)
    (hdistinct : (names fields).Nodup) :
    setAll document (set fields name value) = set (setAll document fields) name value := by
  induction fields generalizing document with
  | nil => rfl
  | cons field rest ih =>
    obtain ⟨first, held⟩ := field
    rw [names_cons, List.nodup_cons] at hdistinct
    by_cases hfirst : first = name
    · subst hfirst
      have hthere : first ∈ names (set document first held) := by
        rw [mem_names_iff, get?_set_self]
        exact ⟨held, rfl⟩
      rw [set, if_pos rfl, setAll_cons, setAll_cons, set_setAll_of_mem value hthere hdistinct.1,
        set_set]
    · rw [set, if_neg hfirst, setAll_cons, setAll_cons, ih _ hdistinct.2]

/-- Fields can be set one list after the other, or the second list on the first and then both. -/
theorem setAll_setAll (document : Document) {fields : Document} (others : Document)
    (hdistinct : (names fields).Nodup) :
    setAll document (setAll fields others) = setAll (setAll document fields) others := by
  induction others generalizing fields with
  | nil => rfl
  | cons field rest ih =>
    rw [setAll_cons, setAll_cons, ih (nodup_names_set field.1 field.2 hdistinct),
      setAll_set document field.1 field.2 hdistinct]

/-- Documents with the same look-ups have the same fields in some order. -/
theorem perm_of_get? {a b : Document} (ha : (names a).Nodup) (hb : (names b).Nodup)
    (h : ∀ name, get? a name = get? b name) : a.Perm b := by
  rw [List.perm_ext_iff_of_nodup ha.of_map hb.of_map]
  rintro ⟨name, value⟩
  constructor
  · intro hmem
    exact mem_of_get? (h name ▸ get?_of_mem ha hmem)
  · intro hmem
    exact mem_of_get? (h name ▸ get?_of_mem hb hmem)

end VersionedStore.Document
