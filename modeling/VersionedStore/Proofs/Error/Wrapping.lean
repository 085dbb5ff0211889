import VersionedStore.Error

/-!
# Errors in wrappers

An error passes through several operations on its way out, and each may wrap it with what was being
done.  What kind of failure it is does not depend on the wrappers: whichever they are and in whatever
order they stand, the error is classified by what they end at.

* `Wrapper`, `wrapped`: errors in wrappers.
* `Error.chain`: an error with those inside it, from source to source.
* `Error.isDuplicateKey_wrapped`: wrappers do not count in the classification.
* `Error.isDuplicateKey_iff`: the end of the chain decides it.
* `Error.find?_chain`: the root is the first error of the chain that is no wrapper for migration or
  activation.
* `Error.classified_through_wrappers`: these together.
-/

set_option autoImplicit false

namespace VersionedStore

/-- What an error may be wrapped with. -/
inductive Wrapper where
  | activation (collection : String)
  | migration (collection : String)
  | during (context : String)

/-- An error in a wrapper. -/
def Wrapper.wrap : Wrapper → Error → Error
  | .activation collection, error => .activation collection error
  | .migration collection, error => .migration collection error
  | .during context, error => .during context error

/-- An error in wrappers, the first of which is the outermost. -/
def wrapped (wrappers : List Wrapper) (error : Error) : Error := wrappers.foldr Wrapper.wrap error

namespace Error

/-- An error and those inside it, each the source of the one before. -/
def chain : Error → List Error
  | .migration collection cause => .migration collection cause :: cause.chain
  | .activation collection cause => .activation collection cause :: cause.chain
  | .during context cause => .during context cause :: cause.chain
  | error => [error]

/-- Whether an error is a wrapper for migration or activation. -/
def isStartWrapper : Error → Bool
  | .migration _ _ => true
  | .activation _ _ => true
  | _ => false

/-- The root is the first error of the chain that is no wrapper for migration or activation. -/
theorem find?_chain (error : Error) :
    error.chain.find? (fun inner => !inner.isStartWrapper) = some error.root := by
  induction error with
  | migration collection cause ih => exact ih
  | activation collection cause ih => exact ih
  | _ => rfl

/-- The root of an error is no wrapper of a start. -/
theorem isStartWrapper_root (error : Error) : error.root.isStartWrapper = false := by
  simpa using List.find?_some error.find?_chain

/-- There is nothing to look through at an error that is no wrapper for migration or activation. -/
theorem root_of_not_startWrapper {error : Error} (h : error.isStartWrapper = false) :
    error.root = error := by
  cases error with
  | migration collection cause => simp [isStartWrapper] at h
  | activation collection cause => simp [isStartWrapper] at h
  | _ => rfl

/-- The root of an error is its own root. -/
theorem root_root (error : Error) : error.root.root = error.root :=
  root_of_not_startWrapper error.isStartWrapper_root

/-! ### Classification -/

/-- Errors with the same root are classified in the same way. -/
theorem isDuplicateKey_of_root_eq {a b : Error} (h : a.root = b.root) :
    a.isDuplicateKey = b.isDuplicateKey := by
  -- Both sides ask nothing but the root, which is replaced as a whole.
  rw [isDuplicateKey.eq_def a, isDuplicateKey.eq_def b]
  generalize a.root = inner at h ⊢
  subst h
  rfl

/-- A failed migration is about a duplicate key if its cause is. -/
theorem isDuplicateKey_migration (collection : String) (cause : Error) :
    (migration collection cause).isDuplicateKey = cause.isDuplicateKey :=
  isDuplicateKey_of_root_eq rfl

/-- A failed activation is about a duplicate key if its cause is. -/
theorem isDuplicateKey_activation (collection : String) (cause : Error) :
    (activation collection cause).isDuplicateKey = cause.isDuplicateKey :=
  isDuplicateKey_of_root_eq rfl

/-- A root that wraps its cause asks the cause, from which looking through wrappers starts again. -/
theorem isDuplicateKey_during (context : String) (cause : Error) :
    (during context cause).isDuplicateKey = cause.isDuplicateKey := by
  rw [isDuplicateKey]
  rfl

/-- No wrapper hides a duplicate key, and none makes one up. -/
theorem isDuplicateKey_wrap (wrapper : Wrapper) (error : Error) :
    (wrapper.wrap error).isDuplicateKey = error.isDuplicateKey := by
  cases wrapper with
  | activation collection => exact isDuplicateKey_activation collection error
  | migration collection => exact isDuplicateKey_migration collection error
  | during context => exact isDuplicateKey_during context error

/-- Wrappers do not count, however many there are and in whatever order. -/
theorem isDuplicateKey_wrapped (wrappers : List Wrapper) (error : Error) :
    (wrapped wrappers error).isDuplicateKey = error.isDuplicateKey := by
  induction wrappers with
  | nil => rfl
  | cons wrapper rest ih => exact (isDuplicateKey_wrap wrapper (wrapped rest error)).trans ih

/-- The chain of an error begins with it. -/
theorem chain_eq_cons (error : Error) : error.chain = error :: error.chain.tail := by
  cases error <;> rfl

/-- A wrapper stands in front of the chain that it holds, so that both end alike. -/
theorem getLast?_cons_chain (wrapper error : Error) :
    (wrapper :: error.chain).getLast? = error.chain.getLast? := by
  rw [chain_eq_cons error, List.getLast?_cons_cons]

/-- The end of the chain decides whether an error is a collision in a unique index. -/
theorem isDuplicateKey_iff (error : Error) :
    error.isDuplicateKey = true ↔
      ∃ space index, error.chain.getLast? = some (.duplicateKey space index) := by
  induction error with
  | migration collection cause ih =>
    rw [isDuplicateKey_migration, chain, getLast?_cons_chain]
    exact ih
  | activation collection cause ih =>
    rw [isDuplicateKey_activation, chain, getLast?_cons_chain]
    exact ih
  | during context cause ih =>
    rw [isDuplicateKey_during, chain, getLast?_cons_chain]
    exact ih
  | _ => simp [isDuplicateKey, root, chain]

/-- The sources that an error names are those of its chain.  A failure from outside the library, at
the end of a chain, names one more. -/
theorem chain_prefix_sources (error : Error) :
    error.chain.tail.map message <+: error.sources := by
  have hcause : ∀ cause : Error, cause.chain.tail.map message <+: cause.sources →
      cause.chain.map message <+: cause.message :: cause.sources := by
    intro cause hprefix
    rw [chain_eq_cons cause, List.map_cons]
    exact List.cons_prefix_cons.2 ⟨rfl, hprefix⟩
  induction error with
  | migration collection cause ih => exact hcause cause ih
  | activation collection cause ih => exact hcause cause ih
  | during context cause ih => exact hcause cause ih
  | _ => exact List.nil_prefix

/-- Whether an error is a collision in a unique index is seen through all wrappers: it is what the
chain of sources ends at that decides.  The root of an error is the first in that chain which is no
wrapper for migration or activation, and its own root. -/
theorem classified_through_wrappers (wrappers : List Wrapper) (error : Error) :
    (wrapped wrappers error).isDuplicateKey = error.isDuplicateKey ∧
      (error.isDuplicateKey = true ↔
        ∃ space index, error.chain.getLast? = some (.duplicateKey space index)) ∧
      error.chain.find? (fun inner => !inner.isStartWrapper) = some error.root ∧
      error.root.isStartWrapper = false ∧
      error.root.root = error.root ∧
      error.chain.tail.map message <+: error.sources :=
  ⟨isDuplicateKey_wrapped wrappers error, isDuplicateKey_iff error, find?_chain error,
    isStartWrapper_root error, root_root error, chain_prefix_sources error⟩

end Error

end VersionedStore
