import SearchIndex.Main
import SearchIndex.Proofs.Decimal.Form
import SearchIndex.Proofs.Filter.ClauseSegments
import SearchIndex.Proofs.Filter.Outcome
import SearchIndex.Proofs.Filter.Tokens
import SearchIndex.Proofs.Filter.NormalForm
import SearchIndex.Proofs.Filter.CallerText
import SearchIndex.Proofs.Filter.Conjunct
import SearchIndex.Proofs.Filter.ClauseRun
import SearchIndex.Proofs.Filter.Literals
import SearchIndex.Proofs.Filter.Skeleton
import SearchIndex.Proofs.Filter.Grammar
import SearchIndex.Proofs.Filter.Meaning
import SearchIndex.Proofs.Filter.Fields
import SearchIndex.Proofs.Filter.Sifting
import SearchIndex.Proofs.Filter.Pruning
import SearchIndex.Proofs.Filter.Accepted
import SearchIndex.Proofs.Filter.Spelling
import SearchIndex.Proofs.Filter.Entries
import SearchIndex.Proofs.Filter.Places
import SearchIndex.Proofs.Filter.Settled
import SearchIndex.Proofs.Filter.Fixpoint
import SearchIndex.Proofs.Engine.OwnErrors
import SearchIndex.Proofs.CommandLine.SearchFilter
import SearchIndex.Proofs.Config.Layers
import SearchIndex.Proofs.CommandLine.Upload
import SearchIndex.Proofs.Engine.SearchBody
import SearchIndex.Proofs.Filter.Names
import SearchIndex.Proofs.Address.Beginning
import SearchIndex.Proofs.Service.IndexNames
import SearchIndex.Proofs.Filter.Grouping
import SearchIndex.Proofs.Filter.Synonyms
import SearchIndex.Proofs.Filter.Arguments
import SearchIndex.Proofs.Filter.Sites
import SearchIndex.Proofs.Filter.Shorthand
import SearchIndex.Proofs.Filter.Columns
import SearchIndex.Proofs.Engine.Batches
import SearchIndex.Proofs.Engine.SoftDelete
import SearchIndex.Proofs.Files.Components
import SearchIndex.Proofs.Filter.LiteralEnd
import SearchIndex.Proofs.Json.Numerals
import SearchIndex.Proofs.Json.Strings
import SearchIndex.Proofs.Json.Grammar
import SearchIndex.Proofs.Json.Levels
import SearchIndex.Proofs.Filter.Depth
import SearchIndex.Proofs.Filter.ShownNumbers
import SearchIndex.Proofs.Filter.Operands
