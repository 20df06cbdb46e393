import RecordQuery.Dataset
import RecordQuery.Proofs.Apply
import RecordQuery.Proofs.Binding
import RecordQuery.Proofs.Building
import RecordQuery.Proofs.CanonicalTrees
import RecordQuery.Proofs.ClauseAlgebra
import RecordQuery.Proofs.Compiling
import RecordQuery.Proofs.Conflicts
import RecordQuery.Proofs.ConsistentOrders
import RecordQuery.Proofs.Declarations
import RecordQuery.Proofs.DecodeDomain
import RecordQuery.Proofs.Decoding
import RecordQuery.Proofs.DistinctElements
import RecordQuery.Proofs.DocumentRoundTrip
import RecordQuery.Proofs.EqualKeys
import RecordQuery.Proofs.EqualValues
import RecordQuery.Proofs.EqualityLaws
import RecordQuery.Proofs.Fallback
import RecordQuery.Proofs.MatchDomain
import RecordQuery.Proofs.MismatchNames
import RecordQuery.Proofs.MistypedElements
import RecordQuery.Proofs.MonotoneModes
import RecordQuery.Proofs.NumberOrder
import RecordQuery.Proofs.OrderDomain
import RecordQuery.Proofs.Rebinding
import RecordQuery.Proofs.RecordDecoding
import RecordQuery.Proofs.Runs
import RecordQuery.Proofs.Selecting
import RecordQuery.Proofs.SetDecoding
import RecordQuery.Proofs.SetEquality
import RecordQuery.Proofs.Soundness
import RecordQuery.Proofs.Stages
import RecordQuery.Proofs.TolerantOrder
import RecordQuery.Proofs.ValueRoundTrip
import RecordQuery.Proofs.ValueSorting
import RecordQuery.Proofs.ZeroErasure
