import VersionedStore.Proofs.Table.Sorting

/-!
# Rows with some of their fields

A query may name fields to include, or fields to exclude.  The names become a projection that flags
each of them, and the store tells from the flags alone which of the two was meant.  The identifying
field is flagged like any other but does not count there, so that a projection which includes only
the identity looks like one that excludes nothing.

* `Document.only`, `Document.without`: a document with some of its fields, in their order.
* `keepsField_included`, `keepsField_excluded`: which fields a projection made of names keeps.
* `Table.Query.answer_selecting`: the fields asked for make no other difference to a query.
* `Table.Query.rows_selected`: the rows of a query that names fields.
-/

set_option autoImplicit false

namespace VersionedStore

namespace Document

/-- The fields of a document that have one of some names. -/
def only (names : List String) (document : Document) : Document :=
  document.filter fun field => decide (field.1 ∈ names)

/-- The fields of a document that have none of some names. -/
def without (names : List String) (document : Document) : Document :=
  document.filter fun field => decide (field.1 ∉ names)

/-- The document that has one value under some names. -/
def flagged (flag : Value) (names : List String) : Document :=
  ofFields (names.map fun name => (name, flag))

/-- Under each of some names stands the flag. -/
theorem get?_map_flag (flag : Value) (names : List String) (name : String) :
    get? (names.map fun name => (name, flag)) name = if name ∈ names then some flag else none := by
  induction names with
  | nil => simp
  | cons first rest ih =>
    rw [List.map_cons, get?_cons, ih]
    by_cases hfirst : first = name
    · simp [hfirst]
    · have hother : ¬ name = first := fun h => hfirst h.symm
      simp [hfirst, hother]

/-- The document of a flag has it under each of its names. -/
theorem get?_flagged (flag : Value) (names : List String) (name : String) :
    get? (flagged flag names) name = if name ∈ names then some flag else none := by
  unfold flagged ofFields
  rw [get?_setAll, get?_nil, Option.or_none, ← List.map_reverse, get?_map_flag]
  simp only [List.mem_reverse]

/-- The document of a flag has its names and no others. -/
theorem contains_flagged (flag : Value) (names : List String) (name : String) :
    contains (flagged flag names) name = decide (name ∈ names) := by
  unfold contains
  rw [get?_flagged]
  by_cases h : name ∈ names <;> simp [h]

/-- The fields of the document of a flag are its names with the flag. -/
theorem mem_flagged {flag : Value} {names : List String} {field : String × Value} :
    field ∈ flagged flag names ↔ field.1 ∈ names ∧ field.2 = flag := by
  have hdistinct : (Document.names (flagged flag names)).Nodup :=
    nodup_names_setAll _ nodup_names_nil
  obtain ⟨name, value⟩ := field
  constructor
  · intro hfield
    have hfound := get?_of_mem hdistinct hfield
    rw [get?_flagged] at hfound
    split at hfound
    · rename_i hname
      exact ⟨hname, (Option.some.inj hfound).symm⟩
    · simp at hfound
  · rintro ⟨hname, rfl⟩
    apply mem_of_get?
    rw [get?_flagged, if_pos hname]

end Document

open Document

section Projections

variable {names : List String}

/-- Names to exclude never look like an inclusion. -/
theorem isInclusion_excluded (names : List String) :
    isInclusion (flagged (.int32 0) names) = false := by
  unfold isInclusion
  rw [List.any_eq_false]
  intro field hfield
  rw [(mem_flagged.1 hfield).2]
  simp [isZeroFlag]

/-- Names to include look like an inclusion if one of them is not that of the identifying field. -/
theorem isInclusion_included (names : List String) :
    isInclusion (flagged (.int32 1) names) = true ↔ ∃ name ∈ names, name ≠ idField := by
  unfold isInclusion
  rw [List.any_eq_true]
  constructor
  · rintro ⟨field, hfield, hcounts⟩
    have hother : field.1 ≠ idField := by
      intro h
      simp [h] at hcounts
    exact ⟨field.1, (mem_flagged.1 hfield).1, hother⟩
  · rintro ⟨name, hname, hother⟩
    exact ⟨(name, .int32 1), mem_flagged.2 ⟨hname, rfl⟩, by simp [hother, isZeroFlag]⟩

/-- A projection that excludes the identity takes it away. -/
theorem hidesId_excluded (names : List String) :
    hidesId (flagged (.int32 0) names) = decide (idField ∈ names) := by
  unfold hidesId
  rw [get?_flagged]
  by_cases h : idField ∈ names <;> simp [h, isZeroFlag]

/-- A projection that includes fields does not take the identity away. -/
theorem hidesId_included (names : List String) : hidesId (flagged (.int32 1) names) = false := by
  unfold hidesId
  rw [get?_flagged]
  by_cases h : idField ∈ names <;> simp [h, isZeroFlag]

/-- A projection that excludes fields keeps the others. -/
theorem keepsField_excluded (names : List String) (name : String) :
    keepsField (flagged (.int32 0) names) name = decide (name ∉ names) := by
  unfold keepsField
  rw [isInclusion_excluded, hidesId_excluded, contains_flagged]
  by_cases hid : name = idField
  · simp [hid]
  · simp [hid]

/-- Names to include keep their fields and the identity. -/
theorem keepsField_included (hother : ∃ name ∈ names, name ≠ idField) (name : String) :
    keepsField (flagged (.int32 1) names) name = decide (name ∈ idField :: names) := by
  unfold keepsField
  rw [(isInclusion_included names).2 hother, hidesId_included, contains_flagged]
  by_cases hid : name = idField
  · simp [hid]
  · simp [hid]

/-- The identity alone, to be included, keeps every field. -/
theorem keepsField_included_id (hid : ∀ name ∈ names, name = idField) (name : String) :
    keepsField (flagged (.int32 1) names) name = true := by
  have hexclusion : isInclusion (flagged (.int32 1) names) = false := by
    rw [Bool.eq_false_iff, Ne, isInclusion_included]
    rintro ⟨other, hother, hne⟩
    exact hne (hid other hother)
  unfold keepsField
  rw [hexclusion, hidesId_included, contains_flagged]
  by_cases hname : name = idField
  · simp [hname]
  · have hmissing : name ∉ names := fun h => hname (hid name h)
    simp [hname, hmissing]

/-- Excluding names leaves the fields with other names. -/
theorem project_excluded (names : List String) (document : Document) :
    project (flagged (.int32 0) names) document = document.without names := by
  unfold project without
  simp only [keepsField_excluded]

/-- Including names, of which one is not the identity, leaves their fields and the identity. -/
theorem project_included (hother : ∃ name ∈ names, name ≠ idField) (document : Document) :
    project (flagged (.int32 1) names) document = document.only (idField :: names) := by
  unfold project only
  simp only [keepsField_included hother]

/-- Including the identity only leaves whole documents. -/
theorem project_included_id (hid : ∀ name ∈ names, name = idField) (document : Document) :
    project (flagged (.int32 1) names) document = document := by
  unfold project
  simp [keepsField_included_id hid]

/-- The projection that includes some names, none being excluded. -/
theorem projectionOf_included (hnames : names ≠ []) :
    projectionOf names [] = .ok (some (flagged (.int32 1) names)) := by
  unfold projectionOf
  simp [hnames, flagged]

/-- The projection that excludes some names, none being included. -/
theorem projectionOf_excluded (hnames : names ≠ []) :
    projectionOf [] names = .ok (some (flagged (.int32 0) names)) := by
  unfold projectionOf
  simp [hnames, flagged]

end Projections

namespace Table

/-- A page with something done to each of its rows. -/
def Page.map {α β : Type} (f : α → β) (page : Page α) : Page β := ⟨page.count, page.rows.map f⟩

namespace Query

/-- A query for other fields of the same documents. -/
def selecting (query : Query) (included excluded : List String) : Query :=
  { query with included := included, excluded := excluded }

/-- A choice of fields shows in the projection of the options only. -/
theorem options_selecting (query : Query) {included excluded : List String}
    {projection : Option Document} (h : projectionOf included excluded = .ok projection) :
    (query.selecting included excluded).options =
      (query.selecting [] []).options.map fun options =>
        { options with projection := projection } := by
  have hwhole : projectionOf [] [] = .ok none := rfl
  unfold options selecting
  simp only [h, hwhole]
  by_cases hstart : query.start < 0
  · simp only [if_pos hstart]
    rfl
  · by_cases hlimit : query.limit < 0
    · simp only [if_neg hstart, if_pos hlimit]
      rfl
    · simp only [if_neg hstart, if_neg hlimit]
      rfl

/-- A query that chooses no fields has no projection. -/
theorem projection_whole {query : Query} {options : FindOptions}
    (h : (query.selecting [] []).options = .ok options) : options.projection = none := by
  have hwhole := query.options_selecting (show projectionOf [] [] = .ok none from rfl)
  rw [h] at hwhole
  exact congrArg FindOptions.projection (Except.ok.inj hwhole)

/-- A query that asks for some fields answers as the one for whole documents does, with each row
projected. -/
theorem answer_selecting (query : Query) {session : Session} (hfaults : session.faults = .none)
    (name : String) {included excluded : List String} {projection : Document}
    (h : projectionOf included excluded = .ok (some projection)) :
    (query.selecting included excluded).answer session name =
      ((query.selecting [] []).answer session name).map (Page.map (project projection)) := by
  rw [answer_eq _ hfaults, answer_eq _ hfaults, query.options_selecting h]
  cases hoptions : (query.selecting [] []).options with
  | error error => rfl
  | ok options =>
    have hnone := projection_whole hoptions
    show (Result.during _ (Collection.matching query.filter _) >>= fun found : List Document =>
      pure _) = Except.map _ (Result.during _ (Collection.matching query.filter _) >>= fun found =>
      pure _)
    cases Collection.matching query.filter (session.store.documents name) with
    | error error => rfl
    | ok found =>
      show Except.ok (Page.mk _ _) = Except.ok (Page.mk _ _)
      simp only [FindOptions.projected, hnone]
      rfl

/-- Take a query that names fields, and the same query for whole documents.  To exclude the fields
takes them out of every row, and to include them leaves nothing but them and the identity, unless
no other field than the identity is named, when the rows stay whole.  Without sort keys and without
a window, the whole rows are the documents that match, as they are stored and in their order. -/
theorem rows_selected {session : Session} (hfaults : session.faults = .none) (name : String)
    (query : Query) {names : List String} (hnames : names ≠ []) :
    let whole := (query.selecting [] []).answer session name
    (query.selecting [] names).answer session name = whole.map (Page.map (without names)) ∧
      ((∃ field ∈ names, field ≠ idField) →
        (query.selecting names []).answer session name =
          whole.map (Page.map (only (idField :: names)))) ∧
      ((∀ field ∈ names, field = idField) →
        (query.selecting names []).answer session name = whole) ∧
      (query.sort = [] → query.start = 0 → query.limit = 0 → ∀ test : Document → Bool,
        (∀ document ∈ session.store.documents name,
          Filter.accepts document query.filter = .ok (test document)) →
        whole = .ok ⟨((session.store.documents name).filter test).length,
          (session.store.documents name).filter test⟩) := by
  intro whole
  have hincluded := query.answer_selecting hfaults name (projectionOf_included hnames)
  have hexcluded := query.answer_selecting hfaults name (projectionOf_excluded hnames)
  refine ⟨?_, ?_, ?_, ?_⟩
  · rw [hexcluded, funext (project_excluded names)]
  · intro hother
    rw [hincluded, funext (project_included hother)]
  · intro hid
    have hall : project (flagged (.int32 1) names) = id := funext (project_included_id hid)
    rw [hincluded, hall]
    show Except.map _ whole = whole
    cases whole with
    | error error => rfl
    | ok page => simp [Except.map, Page.map]
  · intro hsort hstart hlimit test hfilter
    have hfields : (query.selecting [] []).sortFields = [] := by
      unfold sortFields selecting
      simp [hsort]
    have hwhole := @answer_whole session hfaults name (query.selecting [] []) hstart hlimit rfl rfl
      (by simp [hfields]) test hfilter
    rw [hfields, sortDocuments_nil] at hwhole
    exact hwhole

/-- The adults among the guests. -/
def grownUp : Query := { filter := [("age", .document [("$gte", .int32 18)])] }

/-- The statement for two fields of which one is the identity. -/
theorem rows_selected_grown_up :
    (grownUp.selecting ["age", idField] []).answer guestSession "guests" =
        .ok ⟨3, [[(idField, .int32 1), ("age", .int32 40)],
          [(idField, .int32 2), ("age", .int64 25)], [(idField, .int32 3), ("age", .int32 18)]]⟩ ∧
      (grownUp.selecting [] ["age", idField]).answer guestSession "guests" =
        .ok ⟨3, [[("name", .string "Cid")], [("name", .string "Dee")],
          [("name", .string "Bob")]]⟩ := by
  have hfilter : ∀ document ∈ guestSession.store.documents "guests",
      Filter.accepts document grownUp.filter =
        .ok ((Filter.accepts document grownUp.filter).toOption.getD false) := by
    have hstored : guestSession.store.documents "guests" = guests := by rfl
    rw [hstored]
    simp only [guests, List.forall_mem_cons]
    exact ⟨by rfl, by rfl, by rfl, by rfl, nofun⟩
  obtain ⟨hexcluded, hincluded, -, hwhole⟩ :=
    @rows_selected guestSession rfl "guests" grownUp ["age", idField] (by simp)
  have hother : ∃ field ∈ ["age", idField], field ≠ idField := ⟨"age", by simp, by decide⟩
  rw [hincluded hother, hexcluded, hwhole rfl rfl rfl _ hfilter]
  exact ⟨by rfl, by rfl⟩

/-- The identity alone, asked for, gives whole documents. -/
theorem rows_selected_not_id_only :
    let answer := ({ filter := [(idField, .int32 4)], included := [idField] } : Query).answer
      guestSession "guests"
    answer = .ok ⟨1, [guests[3]]⟩ ∧ answer ≠ .ok ⟨1, [only [idField] guests[3]]⟩ := by
  intro answer
  have hanswer : answer = .ok ⟨1, [guests[3]]⟩ := by
    simp only [answer]
    rw [answer_eq _ rfl]
    rfl
  have honly : only [idField] guests[3] = [(idField, .int32 4)] := by rfl
  refine ⟨hanswer, ?_⟩
  rw [hanswer, honly]
  simp [guests]

end Query

end Table

end VersionedStore
