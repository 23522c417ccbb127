import ServiceCatalog.Main
import ServiceCatalog.Proofs.Attempt
import ServiceCatalog.Proofs.Filing
import ServiceCatalog.Proofs.Results
import ServiceCatalog.Proofs.Imports
import ServiceCatalog.Proofs.FailingExtractions
import ServiceCatalog.Proofs.Containers
import ServiceCatalog.Proofs.Nullability
import ServiceCatalog.Proofs.Transparency
import ServiceCatalog.Proofs.Redeclaration
import ServiceCatalog.Proofs.CamelCase
import ServiceCatalog.Proofs.ReservedNames
import ServiceCatalog.Proofs.Placement
import ServiceCatalog.Proofs.Alike
import ServiceCatalog.Proofs.Locality
import ServiceCatalog.Proofs.Membership
import ServiceCatalog.Proofs.ChainedReferences
import ServiceCatalog.Proofs.ResponseOrder
import ServiceCatalog.Proofs.CommandOutcome
import ServiceCatalog.Proofs.JsonRoundTrip
import ServiceCatalog.Proofs.LetterCase
import ServiceCatalog.Proofs.SettledNames
import ServiceCatalog.Proofs.JsonReading
import ServiceCatalog.Proofs.LineEnds
import ServiceCatalog.Proofs.StrictJson
import ServiceCatalog.Proofs.FiniteBounds
import ServiceCatalog.Proofs.LoosePointers
import ServiceCatalog.Proofs.VersionSegments
import ServiceCatalog.Proofs.ModelTrees
import ServiceCatalog.Proofs.LinkDepth
import ServiceCatalog.Proofs.Negotiation
import ServiceCatalog.Proofs.Ignoring
import ServiceCatalog.Proofs.AssignmentRuns
import ServiceCatalog.Proofs.ParameterNames
import ServiceCatalog.Proofs.EnumMembers
import ServiceCatalog.Proofs.EnumLiterals
import ServiceCatalog.Proofs.KeyPointers
import ServiceCatalog.Proofs.PlainTables
import ServiceCatalog.Proofs.SettingEntries
import ServiceCatalog.Proofs.SettingSources
