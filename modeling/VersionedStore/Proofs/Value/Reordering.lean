import VersionedStore.Proofs.Value.Fields
import VersionedStore.Value.Comparand
import Mathlib.Data.List.Forall2
import Mathlib.Data.List.Zip

/-!
# The order of fields

A document is a map from names to values, and the order in which its fields have been set is not
seen by look-ups, by paths or by comparisons.  This holds at any depth.

* `Value.Reordered`: two values that differ only in the order of the fields of documents.
* `Value.Reordered.exists_item`, `Value.Reordered.exists_field`: each item and each field of one has
  one of the other that differs from it only in order.
* `Value.Reordered.get?`, `Value.Reordered.at?`: the fields of the two by name and by path.
* `Comparand.ofFields_perm`: the comparand of a document has its fields in the order of names.
* `Value.Reordered.comparand`: comparisons see the two as one.
-/

set_option autoImplicit false

namespace VersionedStore

/-! ### The entries of a comparand -/

namespace Comparand

variable {name : String} {value : Comparand} {entries : List (String × Comparand)}

/-- An entry of a new name is added to the others. -/
theorem addEntry_perm (hnew : ∀ entry ∈ entries, entry.1 ≠ name) :
    (addEntry name value entries).Perm ((name, value) :: entries) := by
  induction entries with
  | nil => exact .refl _
  | cons head rest ih =>
    obtain ⟨other, held⟩ := head
    rw [List.forall_mem_cons] at hnew
    unfold addEntry
    split
    · exact .refl _
    · rw [if_neg (Ne.symm hnew.1)]
      exact ((ih hnew.2).cons _).trans (.swap _ _ _)

/-- An entry of a new name is put where the order of names has it. -/
theorem pairwise_addEntry (hnew : ∀ entry ∈ entries, entry.1 ≠ name)
    (hsorted : entries.Pairwise fun a b => a.1 < b.1) :
    (addEntry name value entries).Pairwise fun a b => a.1 < b.1 := by
  induction entries with
  | nil => exact List.pairwise_singleton _ _
  | cons head rest ih =>
    obtain ⟨other, held⟩ := head
    rw [List.forall_mem_cons] at hnew
    have hrest := List.pairwise_cons.1 hsorted
    unfold addEntry
    split
    · rename_i hlt
      refine List.pairwise_cons.2 ⟨?_, hsorted⟩
      intro entry hentry
      rcases List.mem_cons.1 hentry with rfl | hentry
      · exact hlt
      · exact String.lt_trans hlt (hrest.1 entry hentry)
    · rename_i hnot
      have hbehind : other < name := by
        by_contra hnot'
        exact hnew.1 (String.le_antisymm (String.not_lt.1 hnot) (String.not_lt.1 hnot'))
      rw [if_neg (Ne.symm hnew.1)]
      refine List.pairwise_cons.2 ⟨?_, ih hnew.2 hrest.2⟩
      intro entry hentry
      rcases List.mem_cons.1 ((addEntry_perm hnew.2).mem_iff.1 hentry) with rfl | hentry
      · exact hbehind
      · exact hrest.1 entry hentry

/-- The comparands of items are taken item by item. -/
theorem ofItems_eq_map (items : List Value) : ofItems items = items.map ofValue := by
  induction items with
  | nil => rfl
  | cons item rest ih => simp [ofItems, ih]

/-- The entries of a document with distinct names are its fields, in the order of names. -/
theorem ofFields_perm {fields : Document} (hdistinct : (Document.names fields).Nodup) :
    (ofFields fields).Perm (fields.map fun field => (field.1, ofValue field.2)) ∧
      (ofFields fields).Pairwise fun a b => a.1 < b.1 := by
  induction fields with
  | nil => exact ⟨.refl _, List.Pairwise.nil⟩
  | cons field rest ih =>
    obtain ⟨name, value⟩ := field
    rw [Document.names_cons, List.nodup_cons] at hdistinct
    obtain ⟨hperm, hsorted⟩ := ih hdistinct.2
    have hnew : ∀ entry ∈ ofFields rest, entry.1 ≠ name := by
      intro entry hentry hname
      obtain ⟨field, hfield, rfl⟩ := List.mem_map.1 (hperm.mem_iff.1 hentry)
      have hmem : field.1 ∈ Document.names rest := Document.mem_names_of_mem hfield
      exact hdistinct.1 (hname ▸ hmem)
    rw [ofFields]
    exact ⟨(addEntry_perm hnew).trans (hperm.cons _), pairwise_addEntry hnew hsorted⟩

/-- Documents with distinct names have the same entries if they have the same fields, as far as
comparisons see. -/
theorem ofFields_congr {fields fields' : Document} (hdistinct : (Document.names fields).Nodup)
    (hdistinct' : (Document.names fields').Nodup)
    (hfields : ∀ entry : String × Comparand,
      entry ∈ fields.map (fun field => (field.1, ofValue field.2)) ↔
        entry ∈ fields'.map (fun field => (field.1, ofValue field.2))) :
    ofFields fields = ofFields fields' := by
  obtain ⟨hperm, hsorted⟩ := ofFields_perm hdistinct
  obtain ⟨hperm', hsorted'⟩ := ofFields_perm hdistinct'
  have hnodup : ∀ {document : Document}, (Document.names document).Nodup →
      (document.map fun field => (field.1, ofValue field.2)).Nodup := by
    intro document hnames
    apply List.Nodup.of_map Prod.fst
    rw [List.map_map]
    exact hnames
  have hsame : (ofFields fields).Perm (ofFields fields') :=
    hperm.trans (((List.perm_ext_iff_of_nodup (hnodup hdistinct) (hnodup hdistinct')).2
      hfields).trans hperm'.symm)
  exact hsame.eq_of_pairwise
    (fun x y _ _ hxy hyx => absurd hxy (String.lt_asymm hyx)) hsorted hsorted'

end Comparand

/-! ### Values in another order -/

namespace Value

/-- Two values that differ only in the order of the fields of documents, at any depth.  Where a
document has its fields in another order, its names are distinct. -/
inductive Reordered : Value → Value → Prop
  | same (value : Value) : Reordered value value
  | array {items items' : List Value} (hlength : items.length = items'.length)
      (hitems : ∀ item item', (item, item') ∈ items.zip items' → Reordered item item') :
      Reordered (.array items) (.array items')
  | document {fields fields' : Document} (hdistinct : (Document.names fields).Nodup)
      (hnames : (Document.names fields).Perm (Document.names fields'))
      (hvalues : ∀ name value value', (name, value) ∈ fields → (name, value') ∈ fields' →
        Reordered value value') :
      Reordered (.document fields) (.document fields')

namespace Reordered

/-- What differs in the order of fields does so both ways. -/
theorem symm {value value' : Value} (h : Reordered value value') : Reordered value' value := by
  induction h with
  | same value => exact .same value
  | @array items items' hlength hitems ih =>
    refine .array hlength.symm fun item' item hmem => ih item item' ?_
    rw [← List.zip_swap]
    exact List.mem_map.2 ⟨(item', item), hmem, rfl⟩
  | document hdistinct hnames hvalues ih =>
    exact .document (hnames.nodup_iff.1 hdistinct) hnames.symm
      fun name value' value hfield' hfield => ih name value value' hfield hfield'

/-- The items of arrays that differ in the order of fields do so one by one. -/
theorem forall₂ {items items' : List Value} (h : Reordered (.array items) (.array items')) :
    List.Forall₂ Reordered items items' := by
  cases h with
  | same => exact List.forall₂_same.2 fun item _ => .same item
  | array hlength hitems => exact List.forall₂_iff_zip.2 ⟨hlength, fun hmem => hitems _ _ hmem⟩

/-- Arrays whose items differ in the order of fields do so as well. -/
theorem of_forall₂ {items items' : List Value} (h : List.Forall₂ Reordered items items') :
    Reordered (.array items) (.array items') :=
  .array h.length_eq fun _ _ hmem => (List.forall₂_iff_zip.1 h).2 hmem

/-- Each member of a list has one in a list that is related to it member by member. -/
theorem exists_of_forall₂ {α β : Type} {R : α → β → Prop} {row : List α} {row' : List β}
    (h : List.Forall₂ R row row') {member : α} (hmember : member ∈ row) :
    ∃ member' ∈ row', R member member' := by
  induction h with
  | nil => simp at hmember
  | @cons first first' rest rest' hfirst _ ih =>
    rcases List.mem_cons.1 hmember with rfl | hmember
    · exact ⟨first', List.mem_cons_self, hfirst⟩
    · obtain ⟨member', hmember', hsame⟩ := ih hmember
      exact ⟨member', List.mem_cons_of_mem _ hmember', hsame⟩

/-- Every item has one among the items in the other order. -/
theorem exists_item {items items' : List Value} (h : Reordered (.array items) (.array items'))
    {item : Value} (hitem : item ∈ items) : ∃ item' ∈ items', Reordered item item' :=
  exists_of_forall₂ h.forall₂ hitem

section Fields

variable {fields fields' : Document} {name : String} {value : Value}

/-- A document is in another order a document, with the same names. -/
theorem exists_document {value' : Value} (h : Reordered (.document fields) value') :
    ∃ fields', value' = .document fields' ∧
      (Document.names fields).Perm (Document.names fields') := by
  cases h with
  | same => exact ⟨fields, rfl, .refl _⟩
  | @document fields fields' hdistinct hnames hvalues => exact ⟨fields', rfl, hnames⟩

/-- Every field has one of its name among the fields in the other order. -/
theorem exists_field (h : Reordered (.document fields) (.document fields'))
    (hfield : (name, value) ∈ fields) :
    ∃ value', (name, value') ∈ fields' ∧ Reordered value value' := by
  cases h with
  | same => exact ⟨value, hfield, .same value⟩
  | document hdistinct hnames hvalues =>
    have hname : name ∈ Document.names fields' :=
      hnames.mem_iff.1 (Document.mem_names_of_mem hfield)
    obtain ⟨value', hvalue'⟩ := (Document.mem_names_iff fields' name).1 hname
    have hfield' := Document.mem_of_get? hvalue'
    exact ⟨value', hfield', hvalues name value value' hfield hfield'⟩

/-- Both have a field of a name or none has, and their values differ only in order. -/
theorem get? (h : Reordered (.document fields) (.document fields')) (name : String) :
    Option.Rel Reordered (Document.get? fields name) (Document.get? fields' name) := by
  cases h with
  | same =>
    cases Document.get? fields name with
    | none => exact .none
    | some value => exact .some (.same value)
  | document hdistinct hnames hvalues =>
    cases hfound : Document.get? fields name with
    | none =>
      have hnone : Document.get? fields' name = none := by
        rw [Document.get?_eq_none_iff, ← hnames.mem_iff, ← Document.get?_eq_none_iff]
        exact hfound
      rw [hnone]
      exact .none
    | some value =>
      have hfield := Document.mem_of_get? hfound
      have hname : name ∈ Document.names fields' :=
        hnames.mem_iff.1 (Document.mem_names_of_mem hfield)
      obtain ⟨value', hvalue'⟩ := (Document.mem_names_iff fields' name).1 hname
      rw [hvalue']
      exact .some (hvalues name value value' hfield (Document.mem_of_get? hvalue'))

/-- Fields in another order, with values that may be in another order themselves. -/
theorem of_perm {middle : Document} (hdistinct : (Document.names fields).Nodup)
    (hperm : fields.Perm middle)
    (hrows : List.Forall₂ (fun field field' => field.1 = field'.1 ∧ Reordered field.2 field'.2)
      middle fields') :
    Reordered (.document fields) (.document fields') := by
  have hnames : Document.names middle = Document.names fields' := by
    clear hperm
    induction hrows with
    | nil => rfl
    | cons hfield _ ih => rw [Document.names_cons, Document.names_cons, hfield.1, ih]
  have hnames' : (Document.names fields).Perm (Document.names fields') :=
    hnames ▸ hperm.map Prod.fst
  have hdistinct' := hnames'.nodup_iff.1 hdistinct
  refine .document hdistinct hnames' fun name value value' hfield hfield' => ?_
  obtain ⟨⟨name', found⟩, hfound, hsame, hreordered⟩ :=
    exists_of_forall₂ hrows (hperm.mem_iff.1 hfield)
  obtain rfl : name = name' := hsame
  have hvalue := Document.get?_of_mem hdistinct' hfound
  obtain rfl : found = value' :=
    Option.some.inj (hvalue.symm.trans (Document.get?_of_mem hdistinct' hfield'))
  exact hreordered

end Fields

/-- Values that differ only in order are alike in what paths lead to. -/
theorem descend {value value' : Value} (h : Reordered value value') (path : List String) :
    Option.Rel Reordered (value.descend path) (value'.descend path) := by
  induction path generalizing value value' with
  | nil => exact .some h
  | cons name rest ih =>
    cases h with
    | same =>
      cases Value.descend value (name :: rest) with
      | none => exact .none
      | some inner => exact .some (.same inner)
    | array hlength hitems => exact .none
    | @document fields fields' hdistinct hnames hvalues =>
      have hget := (Reordered.document hdistinct hnames hvalues).get? name
      unfold Value.descend
      dsimp only
      generalize Document.get? fields name = found at hget ⊢
      generalize Document.get? fields' name = found' at hget ⊢
      cases hget with
      | none => exact .none
      | some hinner => exact ih hinner

/-- What is found at a path differs in the order of fields at most. -/
theorem at? {document document' : Document}
    (h : Reordered (.document document) (.document document')) (path : String) :
    Option.Rel Reordered (Document.at? document path) (Document.at? document' path) :=
  h.descend (pathNames path)

/-- Values that differ only in order have one comparand. -/
theorem comparand {value value' : Value} (h : Reordered value value') :
    value.comparand = value'.comparand := by
  unfold Value.comparand
  induction h with
  | same value => rfl
  | @array items items' hlength hitems ih =>
    have hmap : items.map Comparand.ofValue = items'.map Comparand.ofValue := by
      rw [← List.forall₂_eq_eq_eq, List.forall₂_map_left_iff, List.forall₂_map_right_iff]
      exact List.forall₂_iff_zip.2 ⟨hlength, fun hmem => ih _ _ hmem⟩
    simp only [Comparand.ofValue, Comparand.ofItems_eq_map, hmap]
  | @document fields fields' hdistinct hnames hvalues ih =>
    have hrel := Reordered.document hdistinct hnames hvalues
    have hsame : Comparand.ofFields fields = Comparand.ofFields fields' := by
      refine Comparand.ofFields_congr hdistinct (hnames.nodup_iff.1 hdistinct) fun entry => ?_
      constructor
      · intro hentry
        obtain ⟨⟨name, value⟩, hfield, rfl⟩ := List.mem_map.1 hentry
        obtain ⟨value', hfield', -⟩ := hrel.exists_field hfield
        exact List.mem_map.2 ⟨(name, value'), hfield', by rw [ih name value value' hfield hfield']⟩
      · intro hentry
        obtain ⟨⟨name, value⟩, hfield, rfl⟩ := List.mem_map.1 hentry
        obtain ⟨value', hfield', -⟩ := hrel.symm.exists_field hfield
        exact List.mem_map.2 ⟨(name, value'), hfield', by rw [ih name value' value hfield' hfield]⟩
    simp only [Comparand.ofValue, hsame]

end Reordered

end Value

end VersionedStore
