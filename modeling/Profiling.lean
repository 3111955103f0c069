import Profiling.Frame.Catalog
import Profiling.Handle.Scripted
import Profiling.Profile
import Profiling.Proofs.Runner.Preview
import Profiling.Proofs.Runner.Streaming
import Profiling.Proofs.Sample.Draw
import Profiling.Proofs.Sample.SystemSampling
import Profiling.Proofs.Sql.Clauses
import Profiling.Proofs.Sql.Identifiers
import Profiling.Proofs.Sql.Readability
import Profiling.Runner.Session
import Profiling.Proofs.Runner.Calls
import Profiling.Proofs.Runner.CustomQuery
import Profiling.Proofs.Frame.Registry
import Profiling.Proofs.Runner.Session
import Profiling.Proofs.Frame.Paging
import Profiling.Proofs.Frame.Streams
import Profiling.Proofs.Configuration.Profiles
import Profiling.Proofs.Partition.Predicate
import Profiling.Proofs.Sql.Strings
import Profiling.Proofs.Sample.Labels
import Profiling.Proofs.Partition.Windows
import Profiling.Proofs.Partition.Bounds
import Profiling.Proofs.Decimal.Nearest
import Profiling.Proofs.Decimal.Rounding
import Profiling.Proofs.Sql.Numerals
import Profiling.Proofs.Runner.Integers
import Profiling.Proofs.Runner.Lists
import Profiling.Proofs.Row.Views
import Profiling.Proofs.Runner.Prebuilt
import Profiling.Proofs.Runner.Wrapping
import Profiling.Proofs.Sample.Scopes
import Profiling.Proofs.Sample.NestedFields
import Profiling.Proofs.Frame.Fetches
import Profiling.Proofs.Frame.RandomColumn
import Profiling.Proofs.Configuration.Settings
import Profiling.Proofs.Sql.Building
import Profiling.Proofs.Sql.Joining
import Profiling.Proofs.Table.TypeNames
import Profiling.Proofs.Decimal.Comparison
import Profiling.Proofs.Sample.Amounts
import Profiling.Proofs.Configuration.Validation
