import VersionedStore.Proofs.Params.Atom

/-!
# Merging filters

While filters are merged, what has been merged stands for a list of atoms: it comes to a truth
value, and matches if all of these do.  Each way of merging a field adds the atoms of that field.

* `FieldShaped`: the fields of a filter that is being built.
* `mergeField_of_not_group`, `get?_mergeField_of_ne`, `get?_mergeField_congr`: what merging one
  field reads and changes.
* `Represents`: the filter stands for some atoms, and its operators are among some pairs.
* `Represents.put`: one field takes the place of what stood under its name.
* `Represents.appendAll`, `Represents.mergeField`, `Represents.mergeFilter`: the merges.
* `Represents.accepts_dropEmpty`: what the finished filter matches.
-/

set_option autoImplicit false

namespace VersionedStore.Params

/-- The shape of a field in a filter that is being built: a group has an array, and any other field
a map of operators, which may be empty. -/
def FieldShaped (name : String) (condition : Value) : Prop :=
  if name = opAll ∨ name = opAny then ∃ members, condition = .array members
  else isOperatorName name = false ∧ ∃ operators, condition = .document operators ∧
    OperatorMap operators

/-- The operators of one field of a filter, each with the field. -/
def fieldPairs (name : String) (condition : Value) : List (String × String) :=
  if name = opAll ∨ name = opAny then []
  else (Document.names (operatorsOf condition)).map fun operator => (name, operator)

/-- The operators of a filter, each with its field. -/
def filterPairs (filter : Document) : List (String × String) :=
  filter.flatMap fun field => fieldPairs field.1 field.2

/-- A name that is no operator is not that of a group. -/
theorem not_group_of_path {name : String} (h : isOperatorName name = false) :
    ¬ (name = opAll ∨ name = opAny) := by
  rintro (rfl | rfl)
  · exact absurd h (by decide)
  · exact absurd h (by decide)

/-- The atoms of a field that is no operator are those of its operators. -/
theorem fieldAtoms_path {name : String} (h : isOperatorName name = false) (condition : Value) :
    fieldAtoms name condition = operatorAtoms name (operatorsOf condition) :=
  if_neg (not_group_of_path h)

/-- A field that is no operator is paired with each of its operators. -/
theorem fieldPairs_path {name : String} (h : isOperatorName name = false) (condition : Value) :
    fieldPairs name condition =
      (Document.names (operatorsOf condition)).map fun operator => (name, operator) :=
  if_neg (not_group_of_path h)

/-- An operator of a field that is no operator is paired with the field. -/
theorem mem_fieldPairs_path {name operator : String} (h : isOperatorName name = false)
    {condition : Value} (hoperator : operator ∈ Document.names (operatorsOf condition)) :
    (name, operator) ∈ fieldPairs name condition := by
  rw [fieldPairs_path h]
  exact List.mem_map_of_mem hoperator

/-- A group of all members is one atom. -/
theorem fieldAtoms_opAll (condition : Value) :
    fieldAtoms opAll condition = [.group opAll condition] := rfl

/-- A group of any member is one atom. -/
theorem fieldAtoms_opAny (condition : Value) :
    fieldAtoms opAny condition = [.group opAny condition] := rfl

/-- The operators that a filter has on a field. -/
def operatorsAt (result : Document) (name : String) : Document :=
  ((Document.get? result name).map operatorsOf).getD []

/-- The operators that a filter has on a field are those of its condition there. -/
theorem operatorsAt_of_get? {result : Document} {name : String} {condition : Value}
    (h : Document.get? result name = some condition) :
    operatorsAt result name = operatorsOf condition := by
  rw [operatorsAt, h]
  rfl

/-- Merging a condition on a field that is no group sets its operators among those that are
there. -/
theorem mergeField_of_not_group (result : Document) {name : String}
    (hname : ¬ (name = opAll ∨ name = opAny)) (condition : Value) :
    mergeField result name condition = Document.set result name
      (.document (Document.setAll (operatorsAt result name) (operatorsOf condition))) := by
  obtain ⟨hall, hany⟩ := not_or.1 hname
  unfold mergeField operatorsAt
  rw [if_neg hall, if_neg hany]
  cases Document.get? result name with
  | none => cases condition <;> rfl
  | some held => cases held <;> cases condition <;> rfl

/-- Adding members to the group of all leaves the other names alone. -/
theorem get?_appendAll_of_ne (result : Document) (members : List Value) {name : String}
    (h : name ≠ opAll) :
    Document.get? (appendAll result members) name = Document.get? result name := by
  unfold appendAll
  rw [Document.get?_set_of_ne _ _ h, Document.get?_erase, if_neg h]

/-- Filters that are looked up alike are so after members have been added to their groups. -/
theorem get?_appendAll_congr {result result' : Document} (members : List Value) {name : String}
    (hall : Document.get? result' opAll = Document.get? result opAll)
    (hname : Document.get? result' name = Document.get? result name) :
    Document.get? (appendAll result' members) name =
      Document.get? (appendAll result members) name := by
  by_cases heq : name = opAll
  · subst heq
    unfold appendAll
    rw [hall, Document.get?_set_self, Document.get?_set_self]
  · rw [get?_appendAll_of_ne _ _ heq, get?_appendAll_of_ne _ _ heq]
    exact hname

/-- Merging a field changes what is looked up under its name, and under that of a conjunction if it
is a group itself. -/
theorem get?_mergeField_of_ne (result : Document) {name other : String} (condition : Value)
    (hne : other ≠ name) (hgroup : name = opAll ∨ name = opAny → other ≠ opAll) :
    Document.get? (mergeField result name condition) other = Document.get? result other := by
  by_cases hname : name = opAll ∨ name = opAny
  · unfold mergeField
    split
    · split <;> exact get?_appendAll_of_ne _ _ (hgroup hname)
    · rw [if_pos (hname.resolve_left ‹_›)]
      obtain rfl := hname.resolve_left ‹_›
      split
      · exact Document.get?_set_of_ne _ _ hne
      · rw [get?_appendAll_of_ne _ _ (hgroup hname), Document.get?_erase, if_neg hne]
  · rw [mergeField_of_not_group result hname, Document.get?_set_of_ne _ _ hne]

/-- What merging a field makes of a name depends on what was there, under the name of the field, and
under that of a conjunction if the field is a group. -/
theorem get?_mergeField_congr {result result' : Document} {name other : String} (condition : Value)
    (hname : Document.get? result' name = Document.get? result name)
    (hgroup : name = opAll ∨ name = opAny →
      Document.get? result' opAll = Document.get? result opAll)
    (hother : Document.get? result' other = Document.get? result other) :
    Document.get? (mergeField result' name condition) other =
      Document.get? (mergeField result name condition) other := by
  by_cases heq : name = opAll ∨ name = opAny
  · unfold mergeField
    split
    · split <;> exact get?_appendAll_congr _ (hgroup heq) hother
    · obtain rfl := heq.resolve_left ‹_›
      rw [if_pos rfl, if_pos rfl, hname]
      split
      · rw [Document.get?_set, Document.get?_set, hother]
      · refine get?_appendAll_congr _ ?_ ?_
        · rw [Document.get?_erase, Document.get?_erase, hgroup heq]
        · rw [Document.get?_erase, Document.get?_erase, hother]
  · rw [mergeField_of_not_group result heq, mergeField_of_not_group result' heq,
      Document.get?_set, Document.get?_set, hother, operatorsAt, operatorsAt, hname]

/-- The fields that are left of a filter once those that say nothing are dropped. -/
theorem mem_dropEmpty {filter : Document} {field : String × Value} :
    field ∈ dropEmpty filter ↔ field ∈ filter ∧ saysNothing field.2 = false := by
  unfold dropEmpty
  rw [List.mem_filter, Bool.not_eq_true']

/-- A filter that stands for some atoms on a document.  Its operators are among some pairs of a
field and an operator. -/
structure Represents (document result : Document) (atoms : List Atom)
    (pairs : List (String × String)) : Prop where
  distinct : (Document.names result).Nodup
  shaped : ∀ field ∈ result, FieldShaped field.1 field.2
  decided : ∀ field ∈ result, ∀ atom ∈ fieldAtoms field.1 field.2,
    ∃ held, atom.accepts document = .ok held
  holds_iff : (∀ field ∈ result, ∀ atom ∈ fieldAtoms field.1 field.2,
    atom.accepts document = .ok true) ↔ ∀ atom ∈ atoms, atom.accepts document = .ok true
  within : ∀ field ∈ result, ∀ pair ∈ fieldPairs field.1 field.2, pair ∈ pairs

/-- The atoms of two maps of operators with distinct names are those of both. -/
theorem operatorAtoms_append (field : String) {operators others : Document}
    (hoperators : OperatorMap operators) (hothers : OperatorMap others)
    (hdistinct : (Document.names (operators ++ others)).Nodup) :
    operatorAtoms field (operators ++ others) =
      operatorAtoms field operators ++ operatorAtoms field others := by
  rw [Document.names_append, List.nodup_append] at hdistinct
  obtain ⟨-, -, hapart⟩ := hdistinct
  -- The pattern is in one of the maps, and its options can only be in the same one.
  have hleft : opPattern ∈ Document.names operators →
      Document.get? (operators ++ others) opOptions = Document.get? operators opOptions := by
    intro hpattern
    have hnone : Document.get? others opOptions = none := by
      rw [Document.get?_eq_none_iff]
      intro hoptions
      exact hapart _ hpattern _ (hothers.options_beside hoptions) rfl
    rw [Document.get?_append, hnone, Option.or_none]
  have hright : opPattern ∈ Document.names others →
      Document.get? (operators ++ others) opOptions = Document.get? others opOptions := by
    intro hpattern
    have hnone : Document.get? operators opOptions = none := by
      rw [Document.get?_eq_none_iff]
      intro hoptions
      exact hapart _ (hoperators.options_beside hoptions) _ hpattern rfl
    rw [Document.get?_append, hnone, Option.none_or]
  have hcongr : ∀ entries : Document, (opPattern ∈ Document.names entries →
      Document.get? (operators ++ others) opOptions = Document.get? entries opOptions) →
      (entries.filterMap fun entry =>
        if entry.1 = opOptions then none
        else some (Atom.condition field entry.1 entry.2
          (if entry.1 = opPattern then Document.get? (operators ++ others) opOptions else none))) =
        operatorAtoms field entries := by
    intro entries hentries
    refine List.filterMap_congr fun entry hentry => ?_
    by_cases hpattern : entry.1 = opPattern
    · rw [if_pos hpattern, if_pos hpattern,
        hentries (hpattern ▸ Document.mem_names_of_mem hentry)]
    · rw [if_neg hpattern, if_neg hpattern]
  rw [← hcongr operators hleft, ← hcongr others hright, ← List.filterMap_append]
  rfl

/-- Two maps of operators with distinct names are one. -/
theorem OperatorMap.append {operators others : Document} (hoperators : OperatorMap operators)
    (hothers : OperatorMap others)
    (hdistinct : (Document.names (operators ++ others)).Nodup) :
    OperatorMap (operators ++ others) := by
  refine ⟨hdistinct, ?_, ?_⟩
  · intro name hname
    rw [Document.names_append, List.mem_append] at hname
    exact hname.elim (hoperators.named name) (hothers.named name)
  · intro hoptions
    rw [Document.names_append, List.mem_append] at hoptions ⊢
    exact hoptions.imp hoperators.options_beside hothers.options_beside

/-- The fields that a sub-filter may have: groups, and names with a plain value or with a map of
operators that has options beside a pattern only. -/
def Admissible (name : String) (condition : Value) : Prop :=
  name = opAll ∨ name = opAny ∨ isOperatorName name = false ∧
    (∀ operator ∈ Document.names (operatorsOf condition), isOperatorName operator = true) ∧
    (opOptions ∈ Document.names (operatorsOf condition) →
      opPattern ∈ Document.names (operatorsOf condition))

/-- Whether a sub-filter may have a field can be computed. -/
instance (name : String) (condition : Value) : Decidable (Admissible name condition) :=
  inferInstanceAs (Decidable (name = opAll ∨ name = opAny ∨ isOperatorName name = false ∧
    (∀ operator ∈ Document.names (operatorsOf condition), isOperatorName operator = true) ∧
    (opOptions ∈ Document.names (operatorsOf condition) →
      opPattern ∈ Document.names (operatorsOf condition))))

namespace Represents

variable {document result : Document} {atoms : List Atom} {pairs : List (String × String)}

/-- The empty filter stands for no atoms. -/
theorem empty (document : Document) (pairs : List (String × String)) :
    Represents document [] [] pairs :=
  ⟨List.nodup_nil, by simp, by simp, by simp, by simp⟩

/-- A filter stands for any atoms that accept a document together with those that it stands for. -/
theorem congr {atoms' : List Atom} (h : Represents document result atoms pairs)
    (hatoms : (∀ atom ∈ atoms, atom.accepts document = .ok true) ↔
      ∀ atom ∈ atoms', atom.accepts document = .ok true) :
    Represents document result atoms' pairs :=
  ⟨h.distinct, h.shaped, h.decided, h.holds_iff.trans hatoms, h.within⟩

/-- A filter whose operators are among some pairs has them among more. -/
theorem mono {pairs' : List (String × String)} (h : Represents document result atoms pairs)
    (hpairs : ∀ pair ∈ pairs, pair ∈ pairs') : Represents document result atoms pairs' :=
  ⟨h.distinct, h.shaped, h.decided, h.holds_iff,
    fun field hfield pair hpair => hpairs pair (h.within field hfield pair hpair)⟩

/-- A field takes the place of what stood under its name, where its atoms hold if those that stood
there and some new ones do. -/
theorem put (h : Represents document result atoms pairs) (name : String) (condition : Value)
    {result' : Document} (new : List Atom) (newPairs : List (String × String))
    (hdistinct : (Document.names result').Nodup)
    (hfields : ∀ field, field ∈ result' ↔
      field = (name, condition) ∨ field ∈ result ∧ field.1 ≠ name)
    (hshaped : FieldShaped name condition)
    (hdecided : ∀ atom ∈ fieldAtoms name condition, ∃ held, atom.accepts document = .ok held)
    (hholds : (∀ atom ∈ fieldAtoms name condition, atom.accepts document = .ok true) ↔
      (∀ held, (name, held) ∈ result → ∀ atom ∈ fieldAtoms name held,
        atom.accepts document = .ok true) ∧ ∀ atom ∈ new, atom.accepts document = .ok true)
    (hpairs : ∀ pair ∈ fieldPairs name condition,
      (∃ held, (name, held) ∈ result ∧ pair ∈ fieldPairs name held) ∨ pair ∈ newPairs) :
    Represents document result' (atoms ++ new) (pairs ++ newPairs) := by
  refine ⟨hdistinct, ?_, ?_, ?_, ?_⟩
  · intro field hfield
    rcases (hfields field).1 hfield with rfl | ⟨hfield, -⟩
    · exact hshaped
    · exact h.shaped field hfield
  · intro field hfield
    rcases (hfields field).1 hfield with rfl | ⟨hfield, -⟩
    · exact hdecided
    · exact h.decided field hfield
  · simp only [List.forall_mem_append]
    rw [← h.holds_iff]
    constructor
    · intro hall
      obtain ⟨hheld, hnew⟩ := hholds.1 (hall (name, condition) ((hfields _).2 (.inl rfl)))
      refine ⟨fun field hfield => ?_, hnew⟩
      by_cases hname : field.1 = name
      · obtain ⟨first, held⟩ := field
        obtain rfl : first = name := hname
        exact hheld held hfield
      · exact hall field ((hfields field).2 (.inr ⟨hfield, hname⟩))
    · rintro ⟨hall, hnew⟩ field hfield
      rcases (hfields field).1 hfield with rfl | ⟨hfield, -⟩
      · exact hholds.2 ⟨fun held hheld => hall (name, held) hheld, hnew⟩
      · exact hall field hfield
  · intro field hfield pair hpair
    rcases (hfields field).1 hfield with rfl | ⟨hfield, -⟩
    · rcases hpairs pair hpair with ⟨held, hheld, hpair⟩ | hpair
      · exact List.mem_append_left _ (h.within (name, held) hheld pair hpair)
      · exact List.mem_append_right _ hpair
    · exact List.mem_append_left _ (h.within field hfield pair hpair)

/-- Among the fields of a filter, one name has one condition. -/
theorem eq_of_mem (h : Represents document result atoms pairs) {name : String}
    {held held' : Value} (hheld : (name, held) ∈ result) (hheld' : (name, held') ∈ result) :
    held = held' := by
  have hfound := Document.get?_of_mem h.distinct hheld
  rw [Document.get?_of_mem h.distinct hheld'] at hfound
  exact (Option.some.inj hfound).symm

/-- Members are added to the conjunction of a filter. -/
theorem appendAll (h : Represents document result atoms pairs) {members : List Value}
    (hdecided : ∃ held, Atom.accepts document (.group opAll (.array members)) = .ok held) :
    Represents document (Params.appendAll result members)
      (atoms ++ [.group opAll (.array members)]) pairs := by
  have hexisting : ∃ existing, Params.appendAll result members =
        Document.set (Document.erase result opAll) opAll (.array (existing ++ members)) ∧
      Decides (Atom.accepts document (.group opAll (.array existing)))
        (∀ held, (opAll, held) ∈ result → ∀ atom ∈ fieldAtoms opAll held,
          atom.accepts document = .ok true) := by
    unfold Params.appendAll
    cases hfound : Document.get? result opAll with
    | none =>
      refine ⟨[], rfl, true, accepts_all_iff.2 ⟨rfl, by simp only [Filter.allAccept]⟩, ?_⟩
      exact ⟨fun _ held hheld => absurd hheld (Document.not_mem_of_get? hfound held), fun _ => rfl⟩
    | some condition =>
      have hmem := Document.mem_of_get? hfound
      obtain ⟨existing, rfl⟩ : ∃ existing, condition = .array existing := h.shaped _ hmem
      refine ⟨existing, rfl, (Decides.of_ok (h.decided _ hmem _ List.mem_cons_self)).congr ?_⟩
      constructor
      · intro hholds held hheld atom hatom
        rw [← h.eq_of_mem hmem hheld, fieldAtoms_opAll, List.mem_singleton] at hatom
        rw [hatom]
        exact hholds
      · intro hall
        exact hall _ hmem _ List.mem_cons_self
  obtain ⟨existing, heq, hheld⟩ := hexisting
  have hboth := all_append_decides hheld.isOk hdecided
  rw [heq, ← List.append_nil pairs]
  refine h.put opAll (.array (existing ++ members)) [.group opAll (.array members)] [] ?_ ?_
    ⟨_, rfl⟩ ?_ ?_ (fun pair hpair => absurd hpair (by simp [fieldPairs]))
  · exact Document.nodup_names_set _ _ (Document.nodup_names_erase _ h.distinct)
  · intro field
    rw [Document.mem_set (Document.nodup_names_erase _ h.distinct), Document.mem_erase]
    simp only [and_assoc, and_self]
  · intro atom hatom
    rw [fieldAtoms_opAll, List.mem_singleton] at hatom
    rw [hatom]
    exact hboth.isOk
  · rw [fieldAtoms_opAll]
    simp only [List.forall_mem_singleton]
    rw [hboth.eq_ok_true_iff, hheld.eq_ok_true_iff]

/-- A filter without one of its fields stands for the atoms of the others. -/
theorem erase (h : Represents document result atoms pairs) (name : String) :
    Represents document (Document.erase result name)
      (filterAtoms (Document.erase result name)) pairs := by
  have hsub : ∀ field ∈ Document.erase result name, field ∈ result := fun field hfield =>
    (Document.mem_erase.1 hfield).1
  refine ⟨Document.nodup_names_erase _ h.distinct,
    fun field hfield => h.shaped field (hsub field hfield),
    fun field hfield => h.decided field (hsub field hfield), ?_,
    fun field hfield => h.within field (hsub field hfield)⟩
  unfold filterAtoms
  simp only [List.mem_flatMap, forall_exists_index, and_imp]
  exact ⟨fun hall atom field hfield => hall field hfield atom,
    fun hall field hfield atom => hall atom field hfield⟩

/-- A disjunction is set, or joined to the one that is there under a conjunction. -/
theorem mergeAny (h : Represents document result atoms pairs) {condition : Value}
    (hdecided : ∃ held, Atom.accepts document (.group opAny condition) = .ok held) :
    Represents document (mergeField result opAny condition)
      (atoms ++ [.group opAny condition]) pairs := by
  have hne : opAny ≠ opAll := by decide
  unfold mergeField
  rw [if_neg hne, if_pos rfl]
  cases hfound : Document.get? result opAny with
  | none =>
    simp only
    rw [← List.append_nil pairs]
    have hnone := Document.not_mem_of_get? hfound
    refine h.put opAny condition [.group opAny condition] []
      (Document.nodup_names_set _ _ h.distinct) (fun field => Document.mem_set h.distinct)
      (exists_array_of_group (.inr rfl) hdecided) ?_ ?_
      (fun pair hpair => absurd hpair (by simp [fieldPairs]))
    · intro atom hatom
      rw [fieldAtoms_opAny, List.mem_singleton] at hatom
      rw [hatom]
      exact hdecided
    · rw [fieldAtoms_opAny]
      exact ⟨fun hall => ⟨fun held hheld => absurd hheld (hnone held), hall⟩, fun hall => hall.2⟩
  | some previous =>
    simp only
    have hmem := Document.mem_of_get? hfound
    have hprevious : ∃ held, Atom.accepts document (.group opAny previous) = .ok held :=
      h.decided _ hmem _ List.mem_cons_self
    have hpair := all_pair_decides hprevious hdecided
    refine ((h.erase opAny).appendAll hpair.isOk).congr ?_
    rw [List.forall_mem_append, List.forall_mem_append, List.forall_mem_singleton,
      List.forall_mem_singleton, hpair.eq_ok_true_iff, ← (h.erase opAny).holds_iff, ← h.holds_iff]
    constructor
    · rintro ⟨hrest, hheld, hnew⟩
      refine ⟨fun field hfield => ?_, hnew⟩
      by_cases hname : field.1 = opAny
      · obtain ⟨name, held⟩ := field
        obtain rfl : name = opAny := hname
        rw [h.eq_of_mem hfield hmem, fieldAtoms_opAny, List.forall_mem_singleton]
        exact hheld
      · exact hrest field (Document.mem_erase.2 ⟨hfield, hname⟩)
    · rintro ⟨hall, hnew⟩
      exact ⟨fun field hfield => hall field (Document.mem_erase.1 hfield).1,
        hall _ hmem _ List.mem_cons_self, hnew⟩

/-- Merging a condition on a field sets its operators among those that are there. -/
theorem mergeField_path (result : Document) {name : String} (hname : isOperatorName name = false)
    (condition : Value) :
    mergeField result name condition = Document.set result name
      (.document (Document.setAll (operatorsAt result name) (operatorsOf condition))) :=
  mergeField_of_not_group result (not_group_of_path hname) condition

/-- Either a field has no condition yet, or it has a map of operators. -/
theorem operatorsAt_cases (h : Represents document result atoms pairs) {name : String}
    (hname : isOperatorName name = false) :
    (operatorsAt result name = [] ∧ ∀ held, (name, held) ∉ result) ∨
      OperatorMap (operatorsAt result name) ∧
        ∀ held, (name, held) ∈ result ↔ held = .document (operatorsAt result name) := by
  unfold operatorsAt
  cases hfound : Document.get? result name with
  | none => exact .inl ⟨rfl, Document.not_mem_of_get? hfound⟩
  | some condition =>
    have hmem := Document.mem_of_get? hfound
    have hshaped := h.shaped _ hmem
    unfold FieldShaped at hshaped
    rw [if_neg (not_group_of_path hname)] at hshaped
    obtain ⟨-, operators, rfl, hmap⟩ := hshaped
    refine .inr ⟨hmap, fun held => ⟨fun hheld => h.eq_of_mem hheld hmem, ?_⟩⟩
    rintro rfl
    exact hmem

/-- The operators of a field are added to those that are there. -/
theorem mergePath (h : Represents document result atoms pairs) {name : String} {condition : Value}
    (hname : isOperatorName name = false) (hoperators : OperatorMap (operatorsOf condition))
    (hdecided : ∀ atom ∈ fieldAtoms name condition, ∃ held, atom.accepts document = .ok held)
    (hnew : ∀ pair ∈ fieldPairs name condition, ∀ held, (name, held) ∈ result →
      pair ∉ fieldPairs name held) :
    Represents document (mergeField result name condition)
      (atoms ++ fieldAtoms name condition) (pairs ++ fieldPairs name condition) := by
  rw [mergeField_path result hname]
  rcases h.operatorsAt_cases hname with ⟨hempty, hnone⟩ | ⟨hmap, hheld⟩
  · -- The field is new.
    have hset : Document.setAll (operatorsAt result name) (operatorsOf condition) =
        operatorsOf condition := by
      rw [hempty, Document.setAll_of_disjoint hoperators.distinct (by simp), List.nil_append]
    have hatoms : fieldAtoms name (.document (operatorsOf condition)) =
        fieldAtoms name condition := by
      rw [fieldAtoms_path hname, fieldAtoms_path hname]
      rfl
    rw [hset]
    refine h.put name (.document (operatorsOf condition)) _ _
      (Document.nodup_names_set _ _ h.distinct) (fun field => Document.mem_set h.distinct)
      ?_ (hatoms ▸ hdecided) ?_ ?_
    · unfold FieldShaped
      rw [if_neg (not_group_of_path hname)]
      exact ⟨hname, _, rfl, hoperators⟩
    · rw [hatoms]
      exact ⟨fun hall => ⟨fun held hmem => absurd hmem (hnone held), hall⟩, fun hall => hall.2⟩
    · intro pair hpair
      rw [fieldPairs_path hname] at hpair ⊢
      exact .inr hpair
  · -- The new operators stand behind those of the field.
    generalize operatorsAt result name = existing at hmap hheld ⊢
    have hmem : (name, Value.document existing) ∈ result := (hheld _).2 rfl
    have hapart : ∀ operator ∈ Document.names (operatorsOf condition),
        operator ∉ Document.names existing := by
      intro operator hoperator hthere
      exact hnew (name, operator) (mem_fieldPairs_path hname hoperator) _ hmem
        (mem_fieldPairs_path hname hthere)
    have hdistinct : (Document.names (existing ++ operatorsOf condition)).Nodup := by
      rw [Document.names_append, List.nodup_append]
      refine ⟨hmap.distinct, hoperators.distinct, fun a ha b hb hab => ?_⟩
      exact hapart b hb (hab ▸ ha)
    have hatoms : fieldAtoms name (.document (existing ++ operatorsOf condition)) =
        fieldAtoms name (.document existing) ++ fieldAtoms name condition := by
      rw [fieldAtoms_path hname, fieldAtoms_path hname, fieldAtoms_path hname]
      exact operatorAtoms_append name hmap hoperators hdistinct
    rw [Document.setAll_of_disjoint hoperators.distinct hapart]
    refine h.put name (.document (existing ++ operatorsOf condition)) _ _
      (Document.nodup_names_set _ _ h.distinct) (fun field => Document.mem_set h.distinct)
      ?_ ?_ ?_ ?_
    · unfold FieldShaped
      rw [if_neg (not_group_of_path hname)]
      exact ⟨hname, _, rfl, hmap.append hoperators hdistinct⟩
    · rw [hatoms, List.forall_mem_append]
      exact ⟨h.decided _ hmem, hdecided⟩
    · rw [hatoms, List.forall_mem_append]
      refine and_congr_left fun _ => ⟨fun hall held hheldMem => ?_, fun hall => hall _ hmem⟩
      rw [(hheld held).1 hheldMem]
      exact hall
    · intro pair hpair
      rw [fieldPairs_path hname] at hpair
      obtain ⟨operator, hoperator, rfl⟩ := List.mem_map.1 hpair
      change operator ∈ Document.names (existing ++ operatorsOf condition) at hoperator
      rw [Document.names_append, List.mem_append] at hoperator
      rcases hoperator with hthere | hadded
      · exact .inl ⟨_, hmem, mem_fieldPairs_path hname hthere⟩
      · exact .inr (mem_fieldPairs_path hname hadded)

/-- Setting the operators of a new field adds their atoms. -/
theorem setPath (h : Represents document result atoms pairs) {name : String}
    {operators : Document} (hname : isOperatorName name = false)
    (hnew : name ∉ Document.names result) (hoperators : OperatorMap operators)
    (hdecided : ∀ atom ∈ operatorAtoms name operators, ∃ held, atom.accepts document = .ok held) :
    Represents document (Document.set result name (.document operators))
      (atoms ++ operatorAtoms name operators)
      (pairs ++ fieldPairs name (.document operators)) := by
  have hatoms : fieldAtoms name (.document operators) = operatorAtoms name operators :=
    fieldAtoms_path hname _
  have hset : mergeField result name (.document operators) =
      Document.set result name (.document operators) := by
    rw [mergeField_path result hname, operatorsAt,
      (Document.get?_eq_none_iff result name).2 hnew]
    show Document.set result name (.document (Document.setAll [] operators)) = _
    rw [Document.setAll_of_disjoint hoperators.distinct (by simp), List.nil_append]
  rw [← hset, ← hatoms]
  refine h.mergePath hname hoperators (hatoms ▸ hdecided) fun pair _ held hheld => ?_
  exact absurd (Document.mem_names_of_mem hheld) hnew

/-- A field of a sub-filter adds its atoms. -/
theorem mergeField (h : Represents document result atoms pairs) {name : String} {condition : Value}
    (hadmissible : Admissible name condition)
    (hdecided : ∀ atom ∈ fieldAtoms name condition, ∃ held, atom.accepts document = .ok held)
    (hdistinct : (pairs ++ fieldPairs name condition).Nodup) :
    Represents document (Params.mergeField result name condition)
      (atoms ++ fieldAtoms name condition) (pairs ++ fieldPairs name condition) := by
  rcases hadmissible with rfl | rfl | ⟨hname, hoperators⟩
  · have hgroup := hdecided _ List.mem_cons_self
    obtain ⟨members, rfl⟩ := exists_array_of_group (.inl rfl) hgroup
    have hmerged := h.appendAll hgroup
    rw [← List.append_nil pairs] at hmerged
    exact hmerged
  · have hmerged := h.mergeAny (hdecided _ List.mem_cons_self)
    rw [← List.append_nil pairs] at hmerged
    exact hmerged
  · rw [List.nodup_append] at hdistinct
    refine h.mergePath hname ⟨?_, ?_, ?_⟩ hdecided fun pair hpair held hheld hthere =>
      hdistinct.2.2 pair (h.within _ hheld pair hthere) pair hpair rfl
    · have hnodup := hdistinct.2.1
      rw [fieldPairs_path hname] at hnodup
      exact hnodup.of_map
    · exact hoperators.1
    · exact hoperators.2

/-- A sub-filter adds its atoms. -/
theorem mergeFilter (h : Represents document result atoms pairs) {subFilter : Document}
    (hadmissible : ∀ field ∈ subFilter, Admissible field.1 field.2)
    (hdecided : ∀ atom ∈ filterAtoms subFilter, ∃ held, atom.accepts document = .ok held)
    (hdistinct : (pairs ++ filterPairs subFilter).Nodup) :
    Represents document (Params.mergeFilter result subFilter)
      (atoms ++ filterAtoms subFilter) (pairs ++ filterPairs subFilter) := by
  unfold Params.mergeFilter
  induction subFilter generalizing result atoms pairs with
  | nil =>
    rw [filterAtoms, filterPairs, List.flatMap_nil, List.flatMap_nil, List.append_nil,
      List.append_nil]
    exact h
  | cons field rest ih =>
    obtain ⟨name, condition⟩ := field
    rw [filterAtoms, List.flatMap_cons, List.forall_mem_append] at hdecided
    rw [filterPairs, List.flatMap_cons, ← List.append_assoc] at hdistinct
    have hfirst := h.mergeField (hadmissible _ List.mem_cons_self) hdecided.1
      hdistinct.of_append_left
    have hrest := ih hfirst (fun other hother => hadmissible other (List.mem_cons_of_mem _ hother))
      hdecided.2 hdistinct
    rw [filterAtoms, filterPairs, List.flatMap_cons, List.flatMap_cons, ← List.append_assoc,
      ← List.append_assoc]
    exact hrest

/-- A field of the finished filter is the conjunction of its atoms. -/
theorem fieldAccepts (h : Represents document result atoms pairs) {field : String × Value}
    (hfield : field ∈ result) (hkept : saysNothing field.2 = false) :
    Decides (Filter.fieldAccepts document field.1 field.2)
      (∀ atom ∈ fieldAtoms field.1 field.2, atom.accepts document = .ok true) := by
  have hshaped := h.shaped field hfield
  have hdecided := h.decided field hfield
  unfold FieldShaped at hshaped
  by_cases hgroup : field.1 = opAll ∨ field.1 = opAny
  · have hatoms : fieldAtoms field.1 field.2 = [.group field.1 field.2] := if_pos hgroup
    rw [hatoms, List.forall_mem_singleton] at hdecided ⊢
    have hsingle : Atom.accepts document (.group field.1 field.2) =
        Filter.fieldAccepts document field.1 field.2 :=
      Filter.accepts_singleton document field.1 field.2
    rw [hsingle] at hdecided ⊢
    exact Decides.of_ok hdecided
  · rw [if_neg hgroup] at hshaped
    obtain ⟨hname, operators, hcondition, hmap⟩ := hshaped
    have hatoms : fieldAtoms field.1 field.2 = operatorAtoms field.1 operators := by
      rw [fieldAtoms, if_neg hgroup, hcondition]
      rfl
    have hne : operators ≠ [] := by
      rintro rfl
      rw [hcondition] at hkept
      exact absurd hkept (by simp [saysNothing])
    rw [hatoms] at hdecided ⊢
    rw [hcondition]
    exact fieldAccepts_decides hname hmap hne hdecided

/-- The finished filter, without the fields that say nothing, matches if all atoms do. -/
theorem accepts_dropEmpty (h : Represents document result atoms pairs) :
    Decides (Filter.accepts document (dropEmpty result))
      (∀ atom ∈ atoms, atom.accepts document = .ok true) := by
  refine (Filter.accepts_decides fun field hfield =>
    h.fieldAccepts (mem_dropEmpty.1 hfield).1 (mem_dropEmpty.1 hfield).2).congr ?_
  rw [← h.holds_iff]
  constructor
  · intro hall field hfield
    cases hkept : saysNothing field.2 with
    | false => exact hall field (mem_dropEmpty.2 ⟨hfield, hkept⟩)
    | true =>
      -- A field that says nothing has no atoms.
      have hempty : field.2 = .document [] := by
        unfold saysNothing at hkept
        split at hkept
        · assumption
        · exact absurd hkept (by simp)
      have hshaped := h.shaped field hfield
      unfold FieldShaped at hshaped
      by_cases hgroup : field.1 = opAll ∨ field.1 = opAny
      · rw [if_pos hgroup, hempty] at hshaped
        obtain ⟨members, hmembers⟩ := hshaped
        exact absurd hmembers (by simp)
      · rw [fieldAtoms, if_neg hgroup, hempty]
        exact fun atom hatom => absurd hatom (by simp [operatorAtoms, operatorsOf])
  · exact fun hall field hfield => hall field (mem_dropEmpty.1 hfield).1

end Represents

end VersionedStore.Params
