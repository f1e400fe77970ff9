import QueryBatch.Main
import QueryBatch.Scenario.InMemory
import QueryBatch.Scenario.Postgres
import QueryBatch.Sql.Compact
import QueryBatch.Proofs.Sql.Octets
import QueryBatch.Proofs.Sql.Scanning
import QueryBatch.Proofs.Sql.Binding
import QueryBatch.Proofs.Sql.Building
import QueryBatch.Proofs.Sql.Boundaries
import QueryBatch.Proofs.Batch.Pool
import QueryBatch.Proofs.Batch.Callback
import QueryBatch.Proofs.Batch.Contract
import QueryBatch.Proofs.Batch.Resolution
import QueryBatch.Proofs.Batch.Transactions
import QueryBatch.Proofs.Batch.Program
import QueryBatch.Proofs.Batch.Ownership
import QueryBatch.Proofs.Batch.Durability
import QueryBatch.Proofs.Batch.Publication
import QueryBatch.Proofs.Batch.Deadlines
import QueryBatch.Proofs.Batch.Reports
import QueryBatch.Proofs.Batch.StatusCheck
import QueryBatch.Proofs.Batch.Sharing
import QueryBatch.Proofs.Postgres.Line
import QueryBatch.Proofs.Postgres.Wire
import QueryBatch.Proofs.Postgres.Stakes
import QueryBatch.Proofs.Batch.Ends
import QueryBatch.Proofs.Postgres.Calls
import QueryBatch.Proofs.Postgres.Driver
import QueryBatch.Proofs.Postgres.CheckOut
import QueryBatch.Proofs.Postgres.Usage
import QueryBatch.Proofs.Postgres.Quiescence
import QueryBatch.Proofs.Postgres.Conservation
import QueryBatch.Proofs.Postgres.Turnover
import QueryBatch.Proofs.Postgres.Reuse
import QueryBatch.Proofs.Postgres.Custody
import QueryBatch.Proofs.Postgres.Closing
import QueryBatch.Proofs.Postgres.Alone
import QueryBatch.Proofs.Postgres.Answers
import QueryBatch.Proofs.Postgres.Blocks
import QueryBatch.Proofs.Postgres.Atomicity
import QueryBatch.Proofs.Postgres.Transactions
import QueryBatch.Proofs.Postgres.Bodies
import QueryBatch.Proofs.Sql.Names
import QueryBatch.Proofs.Sql.Numbering
import QueryBatch.Proofs.Sql.Code
import QueryBatch.Proofs.Catalog.Statements
import QueryBatch.Proofs.Exercise.Search
import QueryBatch.Proofs.Exercise.NamePatterns
import QueryBatch.Proofs.Catalog.Creation
import QueryBatch.Proofs.Catalog.Offenders
import QueryBatch.Proofs.Catalog.Blame
import QueryBatch.Proofs.Catalog.UnknownCodes
import QueryBatch.Proofs.Batch.Nesting
import QueryBatch.Proofs.Batch.Counts
import QueryBatch.Proofs.Postgres.Pipeline
import QueryBatch.Proofs.Configuration.Secrecy
import QueryBatch.Proofs.Text.Encoding
import QueryBatch.Proofs.Configuration.Hosts
import QueryBatch.Proofs.Configuration.Url
import QueryBatch.Proofs.Configuration.Servers
import QueryBatch.Proofs.Json.Reads
import QueryBatch.Proofs.Json.Scalars
import QueryBatch.Proofs.Json.Spelling
import QueryBatch.Proofs.Json.Records
import QueryBatch.Proofs.Files
import QueryBatch.Proofs.Configuration.RoundTrip
import QueryBatch.Proofs.Configuration.SessionOptions
import QueryBatch.Proofs.Batch.Admission
import QueryBatch.Proofs.Sql.Restoring
import QueryBatch.Proofs.Batch.Causes
import QueryBatch.Proofs.Exercise.Paging
import QueryBatch.Proofs.Configuration.Brackets
import QueryBatch.Proofs.Exercise.RoundTrip
import QueryBatch.Proofs.Sql.Compacting
