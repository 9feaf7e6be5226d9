import BoundSql.Main
import BoundSql.Proofs.LiteralText
import BoundSql.Proofs.Alignment
import BoundSql.Proofs.WindowAlignment
import BoundSql.Proofs.Filling
import BoundSql.Proofs.Program
import BoundSql.Proofs.Program.Inline
import BoundSql.Proofs.Program.Contract
import BoundSql.Proofs.Program.Alignment
import BoundSql.Proofs.Program.Binding
import BoundSql.Proofs.Spelling
import BoundSql.Proofs.OperatorNames
import BoundSql.Proofs.Criteria.Filter
import BoundSql.Proofs.Criteria.Pruning
import BoundSql.Proofs.Criteria.Misfit
import BoundSql.Proofs.DocumentAlignment
import BoundSql.Proofs.Splitting
import BoundSql.Proofs.StatementText
import BoundSql.Proofs.Criteria.Fault
import BoundSql.Proofs.DocumentFault
import BoundSql.Proofs.Criteria.Masking
import BoundSql.Proofs.DocumentMasking
import BoundSql.Proofs.LiteralReading
import BoundSql.Proofs.Criteria.Outline
import BoundSql.Proofs.Nesting
import BoundSql.Proofs.Program.Nesting
import BoundSql.Proofs.EmptyPredicate
import BoundSql.Proofs.SelectTree
import BoundSql.Proofs.JsonLaws
import BoundSql.Proofs.ValueReading
import BoundSql.Proofs.JsonReading
import BoundSql.Proofs.JsonRoundTrip
import BoundSql.Proofs.ConditionText
import BoundSql.Proofs.SplicePoint
import BoundSql.Proofs.Emptiness
import BoundSql.Proofs.Drafts
import BoundSql.Proofs.Unfiltered
import BoundSql.Proofs.OutputLines
import BoundSql.Proofs.Omission.Members
import BoundSql.Proofs.Omission.Criteria
import BoundSql.Proofs.Omission.Records
import BoundSql.Proofs.Omission.Documents
import BoundSql.Proofs.JoinPredicate
import BoundSql.Proofs.ListReading
import BoundSql.Proofs.ArrayReading
import BoundSql.Proofs.BlobReading
import BoundSql.Proofs.Presence
