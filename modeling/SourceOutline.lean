import SourceOutline.Text.LowerCase
import SourceOutline.Text.IdentifierTable
import SourceOutline.Json.Printer
import SourceOutline.Json.Reader
import SourceOutline.Outline.Json
import SourceOutline.Member.Identity
import SourceOutline.Region.Placement
import SourceOutline.Options.Reading
import SourceOutline.FilePath
import SourceOutline.Registry
import SourceOutline.Python
import SourceOutline.Stylesheet
import SourceOutline.Script.Lines
import SourceOutline.Session
import SourceOutline.Report.Format
import SourceOutline.CSharp.Declarations
import SourceOutline.Mappers
import SourceOutline.CommandLine.Basic
import SourceOutline.Main
import SourceOutline.Proofs.Bookmarks
import SourceOutline.Proofs.Durability
import SourceOutline.Proofs.Identity
import SourceOutline.Proofs.Listing
import SourceOutline.Proofs.Regions
import SourceOutline.Proofs.Store
import SourceOutline.Proofs.LineScan
import SourceOutline.Proofs.Declarations
import SourceOutline.Proofs.Mappings
import SourceOutline.Proofs.Adoption
import SourceOutline.Proofs.Nesting
import SourceOutline.Proofs.Hierarchy
import SourceOutline.Proofs.Signatures
import SourceOutline.Proofs.Display
import SourceOutline.Proofs.Keys
import SourceOutline.Proofs.BackgroundPurge
import SourceOutline.Proofs.LineOrder
import SourceOutline.Proofs.Retries
import SourceOutline.Proofs.RoundTrip
import SourceOutline.Proofs.CommandHistory
import SourceOutline.Proofs.Location
import SourceOutline.Proofs.LineMembers
import SourceOutline.Proofs.TitleOrder
import SourceOutline.Proofs.Comments
import SourceOutline.Proofs.Containment
import SourceOutline.Proofs.Substrings
import SourceOutline.Proofs.ContainerFilter
import SourceOutline.Proofs.Readings
import SourceOutline.Proofs.CodeSection
import SourceOutline.Proofs.Selectors
import SourceOutline.Proofs.LowerCase
import SourceOutline.Proofs.Extensions
import SourceOutline.Proofs.Parameters
import SourceOutline.Proofs.Headings
import SourceOutline.Proofs.Ancestry
import SourceOutline.Proofs.Overloads
import SourceOutline.Proofs.Qualifiers
import SourceOutline.Proofs.MarkerLines
