import PrivacyScan.Check.Governance
import PrivacyScan.Check.Infrastructure
import PrivacyScan.Main
import PrivacyScan.Mask
import PrivacyScan.Proofs.SourceFlow.Leak
import PrivacyScan.Proofs.PhysicalLines
import PrivacyScan.Proofs.Recipient
import PrivacyScan.Report.Encoding
import PrivacyScan.ScriptFlow.DocumentTrace
import PrivacyScan.Proofs.SourceFlow.Completion
import PrivacyScan.Proofs.Taint.History
import PrivacyScan.Proofs.Graph.Routes
import PrivacyScan.Proofs.SourceFlow.Secrets
import PrivacyScan.Proofs.Project.Order
import PrivacyScan.Proofs.SourceFlow.Exposed
import PrivacyScan.Proofs.SourceFlow.AsyncFunctions
import PrivacyScan.Proofs.Report.Drawing
import PrivacyScan.Proofs.Project.IgnoreLines
import PrivacyScan.Proofs.Project.Languages
import PrivacyScan.Proofs.Project.WalkOrder
import PrivacyScan.Proofs.Graph.Linking
import PrivacyScan.Proofs.Compliance.Accounting
import PrivacyScan.Proofs.Report.Sarif
import PrivacyScan.Proofs.Project.RelativeImports
import PrivacyScan.Proofs.Project.SymbolTables
import PrivacyScan.Proofs.Project.ImportedNames
import PrivacyScan.Proofs.Project.RuleMatches
import PrivacyScan.Proofs.Compliance.SpecialMeasures
import PrivacyScan.Proofs.Compliance.Spellings
import PrivacyScan.Proofs.Classify.PrimaryArticle
import PrivacyScan.Proofs.Config
import PrivacyScan.Proofs.Report.FlowCards
import PrivacyScan.Proofs.Report.Markup
import PrivacyScan.Proofs.ScriptFlow.Credentials
import PrivacyScan.Proofs.ScriptFlow.Judgement
import PrivacyScan.Proofs.ScriptFlow.Walk
