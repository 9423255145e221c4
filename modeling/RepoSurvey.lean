import RepoSurvey.Main
import RepoSurvey.Service
import RepoSurvey.Proofs.Overview.CycleSearch
import RepoSurvey.Proofs.Overview.FinishingOrder
import RepoSurvey.Proofs.Overview.CyclesMet
import RepoSurvey.Proofs.JavaScript.Writing
import RepoSurvey.Proofs.Table
import RepoSurvey.Proofs.JavaScript.Keeping
import RepoSurvey.Proofs.JavaScript.Tags
import RepoSurvey.Proofs.JavaScript.Masking
import RepoSurvey.Proofs.JavaScript.Extents
import RepoSurvey.Proofs.JavaScript.Ownership
import RepoSurvey.Proofs.Detection.Ledger
import RepoSurvey.Proofs.Detection.Places
import RepoSurvey.Proofs.Sorting
import RepoSurvey.Proofs.Survey.Alone
import RepoSurvey.Proofs.Detection.Corpora
import RepoSurvey.Proofs.Detection.Hints
import RepoSurvey.Proofs.Survey.Analyses
import RepoSurvey.Proofs.Detection.Frameworks
import RepoSurvey.Proofs.Overview.Reordering
import RepoSurvey.Proofs.Survey.Reordered
import RepoSurvey.Proofs.Overview.Folders
import RepoSurvey.Proofs.Survey.Reports
import RepoSurvey.Proofs.Survey.Watched
import RepoSurvey.Proofs.Survey.Endings
import RepoSurvey.Proofs.Survey.Schedule
import RepoSurvey.Proofs.Detection.HintFlaws
import RepoSurvey.Proofs.Detection.Claims
import RepoSurvey.Proofs.Survey.Tiers
import RepoSurvey.Proofs.Scan.Selection
import RepoSurvey.Proofs.Detection.EventTags
import RepoSurvey.Proofs.Detection.StateTags
import RepoSurvey.Proofs.Survey.Batches
import RepoSurvey.Proofs.Text.Suffixes
import RepoSurvey.Proofs.Survey.Languages
import RepoSurvey.Proofs.Overview.Partition
import RepoSurvey.Proofs.Overview.ImportEdges
import RepoSurvey.Proofs.Detection.Rounds
import RepoSurvey.Proofs.Detection.Tagged
import RepoSurvey.Proofs.Detection.VagueHints
import RepoSurvey.Proofs.Detection.Accounts
import RepoSurvey.Proofs.Config.Refusals
import RepoSurvey.Proofs.Scan.Reading
import RepoSurvey.Proofs.Survey.Repositories
import RepoSurvey.Proofs.Overview.Relative
import RepoSurvey.Proofs.JavaScript.Refused
import RepoSurvey.Proofs.JavaScript.Signatures
import RepoSurvey.Proofs.Detection.Records
import RepoSurvey.Proofs.Python.Occurrences
import RepoSurvey.Proofs.Survey.LineNumbers
import RepoSurvey.Proofs.JavaScript.Imported
import RepoSurvey.Proofs.Decimal.Order
import RepoSurvey.Proofs.Decimal.Rounding
import RepoSurvey.Proofs.Decimal.Signs
import RepoSurvey.Proofs.Detection.Evidence
import RepoSurvey.Proofs.Detection.BrokenFiles
import RepoSurvey.Proofs.Detection.Achievable
import RepoSurvey.Proofs.Config.Accepted
import RepoSurvey.Proofs.Config.Misread
import RepoSurvey.Proofs.Text.Lowering
import RepoSurvey.Proofs.Survey.Overriding
import RepoSurvey.Proofs.Survey.ExtensionLists
import RepoSurvey.Proofs.Overview.Directories
import RepoSurvey.Proofs.Survey.Operations
import RepoSurvey.Proofs.Outline.Exposed
import RepoSurvey.Proofs.Text.Composing
import RepoSurvey.Proofs.Python.Names
import RepoSurvey.Proofs.Detection.ViewDecorators
import RepoSurvey.Proofs.Text.Decoding
import RepoSurvey.Proofs.Python.PrintedImports
import RepoSurvey.Proofs.Python.Cuts
import RepoSurvey.Proofs.Python.Taking
import RepoSurvey.Proofs.Python.ImportStatements
import RepoSurvey.Proofs.Outline.PythonImports
import RepoSurvey.Proofs.Detection.RouteParameters
import RepoSurvey.Proofs.Detection.Statistics
