import VersionedStore.Proofs.NameMap.Lookup
import VersionedStore.Proofs.Value.Equality
import VersionedStore.Proofs.Value.Reordering

/-!
# Loose equality as an equivalence

Loose equality is symmetric and transitive, and a value equals itself if there is no double in it,
at any depth, which is no number.  Arrays are equal item by item, and documents as maps from names
to values, so that the order of fields does not count.

* `Comparand.equals_trans`: equality of comparands is transitive.
* `Comparand.equals_self`: which comparands equal themselves.
* `Comparand.equalsEntries_iff_lookup`: entries in order are equal name by name.
* `Value.looselyEquals_document_iff`: documents are equal as maps.
* `Value.looselyEquals_equivalence`: the laws of loose equality.
-/

set_option autoImplicit false

namespace VersionedStore

/-- Equality of doubles is transitive. -/
theorem Double.equals_trans {a b c : Double} (hab : a.equals b = true) (hbc : b.equals c = true) :
    a.equals c = true := by
  simp only [equals, Bool.and_eq_true, beq_iff_eq] at hab hbc ⊢
  exact ⟨⟨hab.1.1, hbc.1.2⟩, hab.2.trans hbc.2⟩

namespace Comparand

/-! ### Transitivity -/

/-- What equals a number is an equal number. -/
theorem exists_number_of_equals {d : Double} {b : Comparand}
    (h : (Comparand.number d).equals b = true) : ∃ e, b = .number e ∧ d.equals e = true := by
  cases b <;> simp [equals] at h
  case number e => exact ⟨e, rfl, h⟩

/-- What equals an array is an array of equal items. -/
theorem exists_array_of_equals {items : List Comparand} {b : Comparand}
    (h : (Comparand.array items).equals b = true) :
    ∃ others, b = .array others ∧ equalsItems items others = true := by
  cases b <;> simp [equals] at h
  case array others => exact ⟨others, rfl, h⟩

/-- What equals a document is a document with equal entries. -/
theorem exists_document_of_equals {entries : List (String × Comparand)} {b : Comparand}
    (h : (Comparand.document entries).equals b = true) :
    ∃ others, b = .document others ∧ equalsEntries entries others = true := by
  cases b <;> simp [equals] at h
  case document others => exact ⟨others, rfl, h⟩

/-- Whether a comparand is neither a double nor made of others. -/
def isAtom : Comparand → Bool
  | .number _ | .array _ | .document _ => false
  | .null | .boolean _ | .dateTime _ | .string _ | .objectId _ => true

/-- Such a comparand equals nothing but itself. -/
theorem eq_of_equals {a b : Comparand} (hatom : a.isAtom = true) (h : a.equals b = true) :
    a = b := by
  cases a <;> cases b <;> simp [isAtom, equals] at hatom h ⊢ <;> exact h

mutual

/-- Equality of comparands is transitive. -/
theorem equals_trans {a b c : Comparand} (hab : a.equals b = true) (hbc : b.equals c = true) :
    a.equals c = true := by
  cases a with
  | number d =>
    obtain ⟨e, rfl, hfirst⟩ := exists_number_of_equals hab
    obtain ⟨f, rfl, hsecond⟩ := exists_number_of_equals hbc
    simp only [equals]
    exact Double.equals_trans hfirst hsecond
  | array items =>
    obtain ⟨others, rfl, hfirst⟩ := exists_array_of_equals hab
    obtain ⟨last, rfl, hsecond⟩ := exists_array_of_equals hbc
    simp only [equals]
    exact equalsItems_trans hfirst hsecond
  | document entries =>
    obtain ⟨others, rfl, hfirst⟩ := exists_document_of_equals hab
    obtain ⟨last, rfl, hsecond⟩ := exists_document_of_equals hbc
    simp only [equals]
    exact equalsEntries_trans hfirst hsecond
  | _ =>
    obtain rfl := eq_of_equals rfl hab
    exact hbc
termination_by structural a

/-- Equality of rows of comparands is transitive. -/
theorem equalsItems_trans {as bs cs : List Comparand} (hab : equalsItems as bs = true)
    (hbc : equalsItems bs cs = true) : equalsItems as cs = true := by
  cases as with
  | nil =>
    cases bs with
    | nil => exact hbc
    | cons b bs => simp [equalsItems] at hab
  | cons a as =>
    cases bs with
    | nil => simp [equalsItems] at hab
    | cons b bs =>
      cases cs with
      | nil => simp [equalsItems] at hbc
      | cons c cs =>
        simp only [equalsItems, Bool.and_eq_true] at hab hbc ⊢
        exact ⟨equals_trans hab.1 hbc.1, equalsItems_trans hab.2 hbc.2⟩
termination_by structural as

/-- Equality of rows of entries is transitive. -/
theorem equalsEntries_trans {as bs cs : List (String × Comparand)}
    (hab : equalsEntries as bs = true) (hbc : equalsEntries bs cs = true) :
    equalsEntries as cs = true := by
  cases as with
  | nil =>
    cases bs with
    | nil => exact hbc
    | cons b bs => simp [equalsEntries] at hab
  | cons a as =>
    cases bs with
    | nil => simp [equalsEntries] at hab
    | cons b bs =>
      cases cs with
      | nil => simp [equalsEntries] at hbc
      | cons c cs =>
        obtain ⟨first, x⟩ := a
        obtain ⟨second, y⟩ := b
        obtain ⟨third, z⟩ := c
        simp only [equalsEntries, Bool.and_eq_true, beq_iff_eq] at hab hbc ⊢
        obtain ⟨⟨hfirst, hxy⟩, hrest⟩ := hab
        obtain ⟨⟨hsecond, hyz⟩, hrest'⟩ := hbc
        exact ⟨⟨hfirst.trans hsecond, equals_trans hxy hyz⟩, equalsEntries_trans hrest hrest'⟩
termination_by structural as

end

/-! ### Doubles that are no numbers -/

mutual

/-- Whether there is a double in a comparand, at any depth, which is no number. -/
def holdsNaN : Comparand → Bool
  | .number d => d.isNaN
  | .array items => itemsHoldNaN items
  | .document entries => entriesHoldNaN entries
  | .null | .boolean _ | .dateTime _ | .string _ | .objectId _ => false

/-- Whether there is such a double in a row of comparands. -/
def itemsHoldNaN : List Comparand → Bool
  | [] => false
  | item :: rest => holdsNaN item || itemsHoldNaN rest

/-- Whether there is such a double in a row of entries. -/
def entriesHoldNaN : List (String × Comparand) → Bool
  | [] => false
  | (_, value) :: rest => holdsNaN value || entriesHoldNaN rest

end

mutual

/-- A comparand equals itself exactly if every double in it is a number. -/
theorem equals_self (a : Comparand) : a.equals a = !a.holdsNaN := by
  cases a with
  | number d =>
    simp only [equals, holdsNaN]
    exact Double.equals_self d
  | array items =>
    simp only [equals, holdsNaN]
    exact equalsItems_self items
  | document entries =>
    simp only [equals, holdsNaN]
    exact equalsEntries_self entries
  | _ => simp [equals, holdsNaN]

/-- A row of comparands equals itself exactly if every double in it is a number. -/
theorem equalsItems_self (items : List Comparand) :
    equalsItems items items = !itemsHoldNaN items := by
  cases items with
  | nil => rfl
  | cons item rest =>
    simp only [equalsItems, itemsHoldNaN]
    rw [equals_self item, equalsItems_self rest, Bool.not_or]

/-- A row of entries equals itself exactly if every double in it is a number. -/
theorem equalsEntries_self (entries : List (String × Comparand)) :
    equalsEntries entries entries = !entriesHoldNaN entries := by
  cases entries with
  | nil => rfl
  | cons entry rest =>
    obtain ⟨name, value⟩ := entry
    simp only [equalsEntries, entriesHoldNaN, beq_self_eq_true, Bool.true_and]
    rw [equals_self value, equalsEntries_self rest, Bool.not_or]

end

/-- An entry without such doubles brings none to entries without them. -/
theorem entriesHoldNaN_addEntry {name : String} {value : Comparand}
    {entries : List (String × Comparand)} (hvalue : value.holdsNaN = false)
    (hentries : entriesHoldNaN entries = false) :
    entriesHoldNaN (addEntry name value entries) = false := by
  induction entries with
  | nil => simp [addEntry, entriesHoldNaN, hvalue]
  | cons head rest ih =>
    obtain ⟨other, held⟩ := head
    have hparts := hentries
    simp only [entriesHoldNaN, Bool.or_eq_false_iff] at hparts
    unfold addEntry
    split
    · simp [entriesHoldNaN, hvalue, hparts]
    · split
      · exact hentries
      · simp [entriesHoldNaN, hparts, ih hparts.2]

/-! ### Documents as maps -/

/-- Whether two look-ups find comparands that are equal, or both find none. -/
abbrev SameFound (x y : Option Comparand) : Prop := Option.Rel (fun a b => a.equals b = true) x y

/-- Look-ups that find the same both find something, or both nothing. -/
theorem SameFound.isSome_eq {x y : Option Comparand} (h : SameFound x y) : x.isSome = y.isSome := by
  cases h <;> rfl

section Entries

variable {name other : String} {x y : Comparand} {as bs : List (String × Comparand)}

/-- Entries in order of name, of which each name leads to equal comparands in both rows or in
neither to one, begin with the same name. -/
theorem first_eq_of_lookup (has : ∀ entry ∈ as, name < entry.1)
    (hbs : ∀ entry ∈ bs, other < entry.1)
    (h : ∀ wanted, SameFound (NameMap.lookupEntry wanted ((name, x) :: as))
      (NameMap.lookupEntry wanted ((other, y) :: bs))) : name = other := by
  have hname := (h name).isSome_eq
  have hother := (h other).isSome_eq
  rw [NameMap.lookupEntry_cons_self] at hname hother
  exact le_antisymm (NameMap.le_of_lookupEntry has hother)
    (NameMap.le_of_lookupEntry hbs hname.symm)

/-- Entries in order of name are equal exactly if each name leads to equal comparands in both rows
or in neither to one. -/
theorem equalsEntries_iff_lookup (has : as.Pairwise fun a b => a.1 < b.1)
    (hbs : bs.Pairwise fun a b => a.1 < b.1) :
    equalsEntries as bs = true ↔
      ∀ wanted, SameFound (NameMap.lookupEntry wanted as) (NameMap.lookupEntry wanted bs) := by
  induction as generalizing bs with
  | nil =>
    cases bs with
    | nil => exact ⟨fun _ _ => .none, fun _ => rfl⟩
    | cons b bs =>
      refine ⟨fun h => by simp [equalsEntries] at h, fun h => ?_⟩
      have hfound := (h b.1).isSome_eq
      rw [NameMap.lookupEntry_cons_self] at hfound
      exact absurd hfound Bool.false_ne_true
  | cons a as ih =>
    obtain ⟨name, x⟩ := a
    obtain ⟨hfirst, has⟩ := List.pairwise_cons.1 has
    cases bs with
    | nil =>
      refine ⟨fun h => by simp [equalsEntries] at h, fun h => ?_⟩
      have hfound := (h name).isSome_eq
      rw [NameMap.lookupEntry_cons_self] at hfound
      exact absurd hfound.symm Bool.false_ne_true
    | cons b bs =>
      obtain ⟨other, y⟩ := b
      obtain ⟨hsecond, hbs⟩ := List.pairwise_cons.1 hbs
      simp only [equalsEntries, Bool.and_eq_true, beq_iff_eq, ih has hbs]
      constructor
      · rintro ⟨⟨rfl, hxy⟩, hrest⟩ wanted
        by_cases hwanted : wanted = name
        · rw [hwanted, NameMap.lookupEntry_cons_self, NameMap.lookupEntry_cons_self]
          exact .some hxy
        · rw [NameMap.lookupEntry_cons_of_ne hwanted, NameMap.lookupEntry_cons_of_ne hwanted]
          exact hrest wanted
      · intro h
        -- Behind the first entries, which have one name, this name is not found again.
        obtain rfl := first_eq_of_lookup hfirst hsecond h
        have hxy : x.equals y = true := by
          have hfound := h name
          rw [NameMap.lookupEntry_cons_self, NameMap.lookupEntry_cons_self] at hfound
          cases hfound with
          | some hequal => exact hequal
        refine ⟨⟨rfl, hxy⟩, fun wanted => ?_⟩
        by_cases hwanted : wanted = name
        · rw [hwanted, NameMap.lookupEntry_of_before hfirst, NameMap.lookupEntry_of_before hsecond]
          exact .none
        · have hrest := h wanted
          rw [NameMap.lookupEntry_cons_of_ne hwanted x,
            NameMap.lookupEntry_cons_of_ne hwanted y] at hrest
          exact hrest

end Entries

/-- The entries of a document with distinct names are looked up as its fields are. -/
theorem lookupEntry_ofFields {fields : Document} (hdistinct : (Document.names fields).Nodup)
    (name : String) :
    NameMap.lookupEntry name (ofFields fields) = (Document.get? fields name).map ofValue := by
  obtain ⟨hperm, hsorted⟩ := ofFields_perm hdistinct
  cases hfound : Document.get? fields name with
  | none =>
    rw [Option.map_none, NameMap.lookupEntry_eq_none_iff]
    intro entry hentry hname
    obtain ⟨field, hfield, rfl⟩ := List.mem_map.1 (hperm.mem_iff.1 hentry)
    rw [Document.get?_eq_none_iff] at hfound
    exact hfound (hname ▸ Document.mem_names_of_mem hfield)
  | some value =>
    have hnodup : ((ofFields fields).map Prod.fst).Nodup :=
      List.pairwise_map.2 (hsorted.imp fun hlt => ne_of_lt hlt)
    have hentry : (name, ofValue value) ∈ ofFields fields :=
      hperm.mem_iff.2 (List.mem_map.2 ⟨(name, value), Document.mem_of_get? hfound, rfl⟩)
    exact NameMap.lookupEntry_of_mem hnodup hentry

end Comparand

namespace Value

/-- Two documents are equal exactly if each name leads to equal values in both, or in neither to
one. -/
theorem looselyEquals_document_iff {fields fields' : Document}
    (hdistinct : (Document.names fields).Nodup) (hdistinct' : (Document.names fields').Nodup) :
    (Value.document fields).looselyEquals (.document fields') = true ↔
      ∀ name, Option.Rel (fun value value' => value.looselyEquals value' = true)
        (Document.get? fields name) (Document.get? fields' name) := by
  show Comparand.equalsEntries (Comparand.ofFields fields) (Comparand.ofFields fields') = true ↔ _
  rw [Comparand.equalsEntries_iff_lookup (Comparand.ofFields_perm hdistinct).2
    (Comparand.ofFields_perm hdistinct').2]
  refine forall_congr' fun name => ?_
  rw [Comparand.lookupEntry_ofFields hdistinct, Comparand.lookupEntry_ofFields hdistinct']
  cases Document.get? fields name <;> cases Document.get? fields' name <;>
    simp [looselyEquals, comparand]

/-! ### The laws -/

mutual

/-- Whether there is a double in a value, at any depth, which is no number. -/
def holdsNaN : Value → Bool
  | .double d => d.isNaN
  | .array items => itemsHoldNaN items
  | .document fields => fieldsHoldNaN fields
  | _ => false

/-- Whether there is such a double in a row of values. -/
def itemsHoldNaN : List Value → Bool
  | [] => false
  | item :: rest => holdsNaN item || itemsHoldNaN rest

/-- Whether there is such a double in the fields of a document. -/
def fieldsHoldNaN : List (String × Value) → Bool
  | [] => false
  | (_, value) :: rest => holdsNaN value || fieldsHoldNaN rest

end

mutual

/-- The comparand of a value without such doubles has none. -/
theorem holdsNaN_ofValue {value : Value} (h : value.holdsNaN = false) :
    (Comparand.ofValue value).holdsNaN = false := by
  cases value with
  | int32 i => simp [Comparand.ofValue, Comparand.holdsNaN, Double.isNaN_ofInt]
  | int64 i => simp [Comparand.ofValue, Comparand.holdsNaN, Double.isNaN_ofInt]
  | double d => simpa [Comparand.ofValue, Comparand.holdsNaN, holdsNaN] using h
  | array items =>
    simp only [holdsNaN] at h
    simp only [Comparand.ofValue, Comparand.holdsNaN]
    exact itemsHoldNaN_ofItems h
  | document fields =>
    simp only [holdsNaN] at h
    simp only [Comparand.ofValue, Comparand.holdsNaN]
    exact entriesHoldNaN_ofFields h
  | _ => simp [Comparand.ofValue, Comparand.holdsNaN]
termination_by structural value

/-- The comparands of items hold what is no number only if the items do. -/
theorem itemsHoldNaN_ofItems {items : List Value} (h : itemsHoldNaN items = false) :
    Comparand.itemsHoldNaN (Comparand.ofItems items) = false := by
  cases items with
  | nil => rfl
  | cons item rest =>
    simp only [itemsHoldNaN, Bool.or_eq_false_iff] at h
    simp only [Comparand.ofItems, Comparand.itemsHoldNaN, Bool.or_eq_false_iff]
    exact ⟨holdsNaN_ofValue h.1, itemsHoldNaN_ofItems h.2⟩
termination_by structural items

/-- The entries of fields hold what is no number only if the fields do. -/
theorem entriesHoldNaN_ofFields {fields : List (String × Value)}
    (h : fieldsHoldNaN fields = false) :
    Comparand.entriesHoldNaN (Comparand.ofFields fields) = false := by
  cases fields with
  | nil => rfl
  | cons field rest =>
    obtain ⟨name, value⟩ := field
    simp only [fieldsHoldNaN, Bool.or_eq_false_iff] at h
    simp only [Comparand.ofFields]
    exact Comparand.entriesHoldNaN_addEntry (holdsNaN_ofValue h.1) (entriesHoldNaN_ofFields h.2)
termination_by structural fields

end

/-- Loose equality is symmetric and transitive, and every value without a double in it that is no
number equals itself.  The order of fields, at any depth and on both sides, does not count:
documents are equal exactly if each name leads to equal values in both, or in neither to one. -/
theorem looselyEquals_equivalence :
    (∀ a b : Value, a.looselyEquals b = b.looselyEquals a) ∧
      (∀ a b c : Value, a.looselyEquals b = true → b.looselyEquals c = true →
        a.looselyEquals c = true) ∧
      (∀ a : Value, a.holdsNaN = false → a.looselyEquals a = true) ∧
      (∀ a a' b b' : Value, a.Reordered a' → b.Reordered b' →
        a.looselyEquals b = a'.looselyEquals b') ∧
      ∀ fields fields' : Document, (Document.names fields).Nodup →
        (Document.names fields').Nodup →
        ((Value.document fields).looselyEquals (.document fields') = true ↔
          ∀ name, Option.Rel (fun value value' => value.looselyEquals value' = true)
            (Document.get? fields name) (Document.get? fields' name)) := by
  refine ⟨looselyEquals_comm, fun a b c hab hbc => Comparand.equals_trans hab hbc, ?_, ?_, ?_⟩
  · intro a hnumbers
    show a.comparand.equals a.comparand = true
    rw [Comparand.equals_self, Bool.not_eq_true']
    exact holdsNaN_ofValue hnumbers
  · intro a a' b b' ha hb
    unfold looselyEquals
    rw [ha.comparand, hb.comparand]
  · intro fields fields' hdistinct hdistinct'
    exact looselyEquals_document_iff hdistinct hdistinct'

/-- The statement for a parcel, the same with its fields in another order, and one with wider
numbers and with another type that has no order. -/
theorem looselyEquals_equivalence_parcels :
    let parcel : Document := [("size", .int32 2),
      ("marks", .array [.string "frail", .document [("by", .null), ("count", .int32 7)]])]
    let turned : Document := [
      ("marks", .array [.string "frail", .document [("count", .int32 7), ("by", .null)]]),
      ("size", .int32 2)]
    let wide : Document := [
      ("marks", .array [.string "frail", .document [("count", .int64 7), ("by", .minKey)]]),
      ("size", .double ⟨0x4000000000000000⟩)]
    holdsNaN (.document parcel) = false ∧
      Reordered (.document parcel) (.document turned) ∧
      looselyEquals (.document parcel) (.document turned) = true ∧
      looselyEquals (.document turned) (.document wide) = true ∧
      looselyEquals (.document parcel) (.document wide) = true ∧
      Option.Rel (fun value value' => value.looselyEquals value' = true)
        (Document.get? parcel "size") (Document.get? wide "size") := by
  intro parcel turned wide
  obtain ⟨-, htrans, hself, hreordered, hmaps⟩ := looselyEquals_equivalence
  have hmark : Reordered (.document [("by", .null), ("count", .int32 7)])
      (.document [("count", .int32 7), ("by", .null)]) :=
    .of_perm (by decide) (.swap _ _ _) (.cons ⟨rfl, .same _⟩ (.cons ⟨rfl, .same _⟩ .nil))
  have hturned : Reordered (.document parcel) (.document turned) :=
    .of_perm (by decide) (.swap _ _ _) (.cons
      ⟨rfl, .of_forall₂ (.cons (.same _) (.cons hmark .nil))⟩ (.cons ⟨rfl, .same _⟩ .nil))
  have hnumbers : holdsNaN (.document parcel) = false := by decide
  have hsame : looselyEquals (.document parcel) (.document turned) = true := by
    rw [← hreordered _ _ _ _ (.same _) hturned]
    exact hself _ hnumbers
  have hwide : looselyEquals (.document turned) (.document wide) = true := by decide
  have hboth := htrans _ _ _ hsame hwide
  exact ⟨hnumbers, hturned, hsame, hwide, hboth,
    (hmaps parcel wide (by decide) (by decide)).1 hboth "size"⟩

end Value

end VersionedStore
