import VersionedStore.Record
import VersionedStore.Session.Handle
import VersionedStore.Text.Lower
import VersionedStore.Version

/-!
# Articles

An article has a title and, from its second version on, a slug made of the title.  Documents of
the first version have neither a slug nor a version marker.
-/

set_option autoImplicit false

namespace VersionedStore

/-- An article. -/
structure Article where
  id : Int32
  title : String
  slug : String
  version : Int64

namespace Article

/-- The version in the `meta` field of an article: that of a document, or the first item of an
array. -/
def version? : Value → Option Int64
  | .document fields => (Document.get? fields "version").bind Record.int64?
  | .array (item :: _) => Record.int64? item
  | _ => none

/-- The article in a document. -/
def ofDocument (document : Document) : Result Article := do
  let id ← Record.required Record.int32? document idField
  let title ← Record.required Record.text? document "title"
  let slug ← Record.optional Record.text? "" document "slug"
  let version ← Record.optional version? 0 document "meta"
  pure ⟨id, title, slug, version⟩

/-- The document of an article. -/
def toDocument (article : Article) : Document :=
  [(idField, .int32 article.id), ("title", .string article.title),
    ("slug", .string article.slug), ("meta", .document [("version", .int64 article.version)])]

/-- The slug of a title: small letters, with hyphens in the place of spaces. -/
def slugOf (title : String) : String :=
  String.ofList ((Text.lower title).toList.map fun c => if c = ' ' then '-' else c)

/-- Gives an article a slug and a version, and writes it back; one article may be refused. -/
def upgradeTo (version : Int64) (refused : Option Int32) (document : Document) : Action Unit := do
  let article ← Action.ofResult (ofDocument document)
  if refused = some article.id then
    throw (.validation
      (.other ("article " ++ Integer.write article.id.toInt ++ " has no title")))
  let upgraded := { article with slug := slugOf article.title, version := version }
  let _ ← Action.replace [(idField, .int32 article.id)] upgraded.toDocument

end Article

end VersionedStore
