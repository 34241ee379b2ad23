import FullText.Catalog
import FullText.Client.Calls
import FullText.Field.Description
import FullText.Store
import FullText.Transport.Playback
import FullText.Proofs.Decimal.Characters
import FullText.Proofs.Query.Escape
import FullText.Proofs.Text.Lead
import FullText.Proofs.Schema.Columns
import FullText.Proofs.Query.Reading
import FullText.Proofs.Query.ReadBack
import FullText.Proofs.Except
import FullText.Proofs.Value
import FullText.Proofs.Query.Operands
import FullText.Proofs.Query.Acceptance
import FullText.Proofs.Query.FirstError
import FullText.Proofs.Query.Rewriting
import FullText.Proofs.Query.Shorthands
import FullText.Proofs.Query.FieldClauses
import FullText.Proofs.Query.Negation
import FullText.Proofs.Query.Vacuous
import FullText.Proofs.Query.Meaning
import FullText.Proofs.Query.Structure
import FullText.Proofs.Query.Confinement
import FullText.Proofs.Query.Alternatives
import FullText.Proofs.Schema.Creation
import FullText.Proofs.Decimal.Integers
import FullText.Proofs.Query.Numbers
import FullText.Proofs.OrderedMap
import FullText.Proofs.Query.NullTerm
import FullText.Proofs.Store.Commands
import FullText.Proofs.Store.History
import FullText.Proofs.Write.Entries
import FullText.Proofs.Enumerations
import FullText.Proofs.Write.CompleteCommands
import FullText.Proofs.Write.ReservedAttributes
import FullText.Proofs.SearchResults
import FullText.Proofs.Client.Calls
import FullText.Proofs.Client.WriteRead
import FullText.Proofs.Client.Blame
import FullText.Proofs.Store.Conversation
import FullText.Proofs.Client.Sending
import FullText.Proofs.Client.Answers
import FullText.Proofs.Client.BareFailure
import FullText.Proofs.Client.Batches
import FullText.Proofs.Client.Reads
import FullText.Proofs.Metrics
import FullText.Proofs.Client.RoundTrips
import FullText.Proofs.Client.Course
import FullText.Proofs.Client.Measuring
import FullText.Proofs.Client.Deletion
import FullText.Proofs.Store.Targets
import FullText.Proofs.Client.Frame
import FullText.Proofs.SearchResults.Encoding
import FullText.Proofs.Client.Past
import FullText.Proofs.Catalog
import FullText.Proofs.Catalog.Prefixes
import FullText.Proofs.Search.Commands
import FullText.Proofs.Schema.Extension
import FullText.Proofs.Search.Directives
import FullText.Proofs.Search.Qualification
import FullText.Proofs.Write.Identifiers
import FullText.Proofs.Write.Insertion
import FullText.Proofs.Write.Bulk
import FullText.Proofs.Write.ScriptCalls
import FullText.Proofs.Client.Classification
import FullText.Proofs.Retry
import FullText.Proofs.Client.Resending
import FullText.Proofs.Store.Batch
import FullText.Proofs.Store.Counters
import FullText.Proofs.Client.Counting
import FullText.Proofs.Field.Soundness
import FullText.Proofs.Schema.Construction
import FullText.Proofs.Field.Builders
import FullText.Proofs.SearchResults.Nulls
import FullText.Proofs.Value.Lists
import FullText.Proofs.Search.Agreement
import FullText.Proofs.Fault
import FullText.Proofs.Query.References
import FullText.Proofs.Retry.Delays
import FullText.Proofs.OrderedMap.History
import FullText.Proofs.Row
