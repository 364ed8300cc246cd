import TypedBox.Proofs.BufferViews
import TypedBox.Proofs.CodeUnits
import TypedBox.Proofs.Configuration
import TypedBox.Proofs.DebugText
import TypedBox.Proofs.Echo
import TypedBox.Proofs.FailureContext
import TypedBox.Proofs.FailureMessage
import TypedBox.Proofs.FilteredQuery
import TypedBox.Proofs.Hashing
import TypedBox.Proofs.Histogram
import TypedBox.Proofs.Identifiers
import TypedBox.Proofs.IntegerBoxing
import TypedBox.Proofs.Leaving
import TypedBox.Proofs.Lineage
import TypedBox.Proofs.Narrowing
import TypedBox.Proofs.StayLog
import TypedBox.Proofs.TraceLine
import TypedBox.Proofs.TracerHistory
import TypedBox.Proofs.Transparency
