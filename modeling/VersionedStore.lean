import VersionedStore.Component
import VersionedStore.Json.Extended
import VersionedStore.Params.Logic
import VersionedStore.Proofs.Index.Idempotence
import VersionedStore.Proofs.Index.Reconciliation
import VersionedStore.Proofs.Params.Conjunction
import VersionedStore.Proofs.Params.PassThrough
import VersionedStore.Proofs.Store.Uniqueness
import VersionedStore.Proofs.Version.Resumption
import VersionedStore.Proofs.Version.Target
import VersionedStore.Record.Article
import VersionedStore.Record.User
import VersionedStore.Selection
import VersionedStore.Server.Commands
import VersionedStore.Table.Request
import VersionedStore.Proofs.Store.UniqueBuild
import VersionedStore.Proofs.Table.Paging
import VersionedStore.Proofs.Component.Startup
import VersionedStore.Proofs.Component.Restart
import VersionedStore.Proofs.Store.EventLog
import VersionedStore.Proofs.Params.LogicTree
import VersionedStore.Proofs.Params.MappedParameters
import VersionedStore.Proofs.Params.AbsentKey
import VersionedStore.Proofs.Params.SingleExpansion
import VersionedStore.Proofs.Filter.Connective
import VersionedStore.Proofs.Value.Reordering
import VersionedStore.Proofs.Filter.Reordering
import VersionedStore.Proofs.Filter.Supported
import VersionedStore.Proofs.Collection.Sorting
import VersionedStore.Proofs.Table.Sorting
import VersionedStore.Proofs.Table.Projection
import VersionedStore.Proofs.Version.ActivationState
import VersionedStore.Proofs.Collection.Insertion
import VersionedStore.Proofs.Number.NearestInteger
import VersionedStore.Proofs.Store.FailedCalls
import VersionedStore.Proofs.Filter.Integers
import VersionedStore.Proofs.Store.IntegerIdentities
import VersionedStore.Proofs.Error.Wrapping
import VersionedStore.Proofs.Index.RoundTrip
import VersionedStore.Proofs.Value.Combination
import VersionedStore.Proofs.Calendar.Instants
import VersionedStore.Proofs.Value.Equivalence
