import Clientwright.Definition.Writer
import Clientwright.Docs.Filter
import Clientwright.Main
import Clientwright.Service.Stored
import Clientwright.Proofs.Outcomes
import Clientwright.Proofs.Tables
import Clientwright.Proofs.Closed
import Clientwright.Proofs.PathCuts
import Clientwright.Proofs.WellFormed
import Clientwright.Proofs.Unfolding
import Clientwright.Proofs.Walks
import Clientwright.Proofs.Reachability
import Clientwright.Proofs.Fitting
import Clientwright.Proofs.References
import Clientwright.Proofs.Requests
import Clientwright.Proofs.ItemFiles
import Clientwright.Proofs.ClientFiles
import Clientwright.Proofs.Faults
import Clientwright.Proofs.WrittenFiles
import Clientwright.Proofs.Linked
import Clientwright.Proofs.Boxing
import Clientwright.Proofs.Layouts
import Clientwright.Proofs.JsonLayouts
import Clientwright.Proofs.XmlLayouts
import Clientwright.Proofs.XmlMembers
import Clientwright.Proofs.PollRuns
import Clientwright.Proofs.Polls
import Clientwright.Proofs.ModuleNames
import Clientwright.Proofs.DistinctFiles
import Clientwright.Proofs.Stepwise
import Clientwright.Proofs.Interruptions
import Clientwright.Proofs.Calls
import Clientwright.Proofs.RequestCalls
import Clientwright.Proofs.ResponseCalls
import Clientwright.Proofs.FileCalls
import Clientwright.Proofs.ServedCalls
import Clientwright.Proofs.Arrivals
import Clientwright.Proofs.Transmissions
import Clientwright.Proofs.EntryOrder
import Clientwright.Proofs.Revisions
import Clientwright.Proofs.Selections
import Clientwright.Proofs.Inputs
import Clientwright.Proofs.Sessions
import Clientwright.Proofs.Precautions
import Clientwright.Proofs.JsonText
import Clientwright.Proofs.Records
import Clientwright.Proofs.StoredServices
import Clientwright.Proofs.PaginatorEntries
import Clientwright.Proofs.AcceptorEntries
import Clientwright.Proofs.Removals
import Clientwright.Proofs.SkippedEntries
import Clientwright.Proofs.PageRuns
import Clientwright.Proofs.PageGuards
import Clientwright.Proofs.NameSearches
import Clientwright.Proofs.DistinctNames
import Clientwright.Proofs.EnumRuns
import Clientwright.Proofs.ExprTypes
import Clientwright.Proofs.ReadTypes
import Clientwright.Proofs.StatementTypes
import Clientwright.Proofs.OutputTypes
import Clientwright.Proofs.CommentLines
import Clientwright.Proofs.NameCharacters
import Clientwright.Proofs.BodyComments
import Clientwright.Proofs.FileComments
import Clientwright.Proofs.KeptComments
import Clientwright.Proofs.SelectorTexts
import Clientwright.Proofs.SelectorSpellings
import Clientwright.Proofs.PathTemplates
import Clientwright.Proofs.SelectorWays
import Clientwright.Proofs.TextPieces
import Clientwright.Proofs.UnderscoreRuns
import Clientwright.Proofs.SnakeCase
import Clientwright.Proofs.Identifiers
import Clientwright.Proofs.DeclaredModules
import Clientwright.Proofs.VariantNames
import Clientwright.Proofs.DocumentationLines
import Clientwright.Proofs.FaithfulStructures
import Clientwright.Proofs.TimestampFormats
import Clientwright.Proofs.NameClashes
import Clientwright.Proofs.ClientMethods
import Clientwright.Proofs.FieldNames
import Clientwright.Proofs.NamesApart
import Clientwright.Proofs.EscapedText
import Clientwright.Proofs.QuotedText
import Clientwright.Proofs.NestedNames
import Clientwright.Proofs.LineBuilder
import Clientwright.Proofs.BalancedBlocks
