import VersionedStore.Proofs.Value.Fields
import Mathlib.Data.List.Induction

/-!
# Documents that are merged

Merging goes through documents from left to right and sets field after field.  The order and the
content of what it makes follow different rules: a name has the place of its first appearance and
the value of its last.  Neither depends on how the documents are grouped.

* `Document.names_set`, `Document.names_setAll`: a name that is new goes behind the others.
* `Document.setAll_combine`: setting what documents merge to is setting one after the other.
* `Document.names_combine`, `Document.get?_combine`: the order and the content of a merge.
* `Document.combine_merges`: groups of documents can be merged first, and what a merge holds.
-/

set_option autoImplicit false

namespace VersionedStore.Document

/-- A name that is set keeps its place, and goes behind the others if it is new. -/
theorem names_set (document : Document) (name : String) (value : Value) :
    names (set document name value) =
      if name ∈ names document then names document else names document ++ [name] := by
  split
  · rename_i hthere
    exact names_set_of_mem value hthere
  · rename_i hnew
    rw [set_of_not_mem value hnew, names_append]
    rfl

/-- Of names in the order of their first appearance, one that is new comes last. -/
theorem eraseDups_append_singleton (seen : List String) (name : String) :
    (seen ++ [name]).eraseDups =
      if name ∈ seen then seen.eraseDups else seen.eraseDups ++ [name] := by
  rw [List.eraseDups_append]
  by_cases hseen : name ∈ seen
  · simp [List.removeAll, hseen]
  · simp [List.removeAll, hseen, List.eraseDups_cons]

/-- Setting fields keeps the names in the order of their first appearance. -/
theorem names_setAll {document : Document} {seen : List String}
    (hseen : names document = seen.eraseDups) (fields : Document) :
    names (setAll document fields) = (seen ++ names fields).eraseDups := by
  induction fields generalizing document seen with
  | nil =>
    rw [names_nil, List.append_nil]
    exact hseen
  | cons field rest ih =>
    have hfirst : names (set document field.1 field.2) = (seen ++ [field.1]).eraseDups := by
      rw [names_set, eraseDups_append_singleton, hseen]
      simp only [List.mem_eraseDups]
    rw [setAll_cons, ih hfirst, names_cons, List.append_assoc, List.singleton_append]

/-- Among fields with distinct names, a look-up finds the same from either end. -/
theorem get?_reverse {fields : Document} (hdistinct : (names fields).Nodup) (name : String) :
    get? fields.reverse name = get? fields name := by
  have hreversed : (names fields.reverse).Nodup := by
    rw [names, List.map_reverse, List.nodup_reverse]
    exact hdistinct
  cases hfound : get? fields name with
  | none =>
    rw [get?_eq_none_iff] at hfound ⊢
    rw [names, List.map_reverse, List.mem_reverse]
    exact hfound
  | some value => exact get?_of_mem hreversed (List.mem_reverse.2 (mem_of_get? hfound))

/-! ### Merging documents -/

/-- Documents are merged from left to right. -/
theorem combine_append (xs ys : List Document) :
    combine (xs ++ ys) = ys.foldl setAll (combine xs) :=
  List.foldl_append

/-- The last of some documents is merged into what the others give. -/
theorem combine_concat (documents : List Document) (document : Document) :
    combine (documents ++ [document]) = setAll (combine documents) document :=
  combine_append documents [document]

/-- Merged documents have no name twice. -/
theorem nodup_names_combine (documents : List Document) : (names (combine documents)).Nodup := by
  induction documents using List.reverseRecOn with
  | nil => exact nodup_names_nil
  | append_singleton documents document ih =>
    rw [combine_concat]
    exact nodup_names_setAll document ih

/-- Setting what documents merge to is setting the fields of one after the other. -/
theorem setAll_combine (document : Document) (documents : List Document) :
    setAll document (combine documents) = documents.foldl setAll document := by
  -- The induction is from the end: what the last document changes in a merge, it changes in the
  -- document that the merge is set on.
  induction documents using List.reverseRecOn with
  | nil => rfl
  | append_singleton documents last ih =>
    rw [combine_concat, setAll_setAll document last (nodup_names_combine documents), ih,
      List.foldl_append]
    rfl

/-- The names of a merge are those of the documents, in the order of their first appearance. -/
theorem names_combine (documents : List Document) :
    names (combine documents) = (documents.flatMap names).eraseDups := by
  induction documents using List.reverseRecOn with
  | nil => rfl
  | append_singleton documents document ih =>
    rw [combine_concat, names_setAll ih, List.flatMap_append, List.flatMap_singleton]

/-- A merge holds under a name what the last document with that name holds. -/
theorem get?_combine {documents : List Document}
    (hdistinct : ∀ document ∈ documents, (names document).Nodup) (name : String) :
    get? (combine documents) name =
      documents.reverse.findSome? fun document => get? document name := by
  induction documents using List.reverseRecOn with
  | nil => rfl
  | append_singleton documents last ih =>
    rw [List.forall_mem_append, List.forall_mem_singleton] at hdistinct
    rw [combine_concat, get?_setAll, get?_reverse hdistinct.2, ih hdistinct.1,
      List.reverse_append, List.reverse_singleton, List.singleton_append, List.findSome?_cons]
    cases get? last name <;> rfl

/-- Documents can be merged group by group, order included.  A merge holds every name of the
documents once, in the order of their first appearance, with the value from the last document
that has it. -/
theorem combine_merges :
    (∀ xs ys : List Document, combine (xs ++ ys) = combine [combine xs, combine ys]) ∧
      ∀ documents : List Document, (∀ document ∈ documents, (names document).Nodup) →
        names (combine documents) = (documents.flatMap names).eraseDups ∧
        ∀ name,
          ((names (combine documents)).count name =
            if ∃ document ∈ documents, name ∈ names document then 1 else 0) ∧
          get? (combine documents) name =
            documents.reverse.findSome? fun document => get? document name := by
  refine ⟨fun xs ys => ?_, fun documents hdistinct => ⟨names_combine documents, fun name => ?_⟩⟩
  · have hfirst : setAll [] (combine xs) = combine xs := by
      rw [setAll_of_disjoint (nodup_names_combine xs) (by simp), List.nil_append]
    calc combine (xs ++ ys) = ys.foldl setAll (combine xs) := combine_append xs ys
      _ = setAll (combine xs) (combine ys) := (setAll_combine (combine xs) ys).symm
      _ = setAll (setAll [] (combine xs)) (combine ys) := by rw [hfirst]
      _ = combine [combine xs, combine ys] := rfl
  · have hmem : name ∈ names (combine documents) ↔
        ∃ document ∈ documents, name ∈ names document := by
      rw [names_combine, List.mem_eraseDups, List.mem_flatMap]
    refine ⟨?_, get?_combine hdistinct name⟩
    rw [(nodup_names_combine documents).count, if_congr hmem rfl rfl]

/-- The statement for documents of which the last two give names of the first another value, one of
them behind a name of its own. -/
theorem combine_merges_later :
    let first : Document := [("a", .int32 1), ("b", .int32 1)]
    let second : Document := [("b", .int32 2)]
    let third : Document := [("c", .int32 3), ("a", .int32 4)]
    (∀ document ∈ [first, second, third], (names document).Nodup) ∧
      names (combine [first, second, third]) = ["a", "b", "c"] ∧
      get? (combine [first, second, third]) "b" = some (.int32 2) ∧
      get? (combine [first, second, third]) "a" = some (.int32 4) := by
  intro first second third
  have hdistinct : ∀ document ∈ [first, second, third], (names document).Nodup := by decide
  obtain ⟨hnames, hheld⟩ := combine_merges.2 _ hdistinct
  exact ⟨hdistinct, hnames.trans (by decide), (hheld "b").2.trans rfl, (hheld "a").2.trans rfl⟩

end VersionedStore.Document
