import BootManual.Main
import BootManual.Proofs.Independence
import BootManual.Proofs.RoundTrip
import BootManual.Proofs.Sections
import BootManual.Proofs.Soundness
import BootManual.Proofs.Failures
import BootManual.Proofs.Policies
import BootManual.Proofs.Refusals
import BootManual.Proofs.Locations
import BootManual.Proofs.FileChanges
import BootManual.Proofs.Filing
import BootManual.Proofs.Homes
import BootManual.Proofs.Markers
import BootManual.Proofs.BareHeaders
import BootManual.Proofs.Directives
import BootManual.Proofs.EncodedLines
import BootManual.Proofs.Streams
import BootManual.Proofs.Accounts
import BootManual.Proofs.Ledger
import BootManual.Proofs.Tally
import BootManual.Proofs.Insertions
import BootManual.Proofs.Commitments
import BootManual.Proofs.LineNumbers
import BootManual.Proofs.Conservation
import BootManual.Proofs.HeaderGrammar
import BootManual.Proofs.LineEnds
import BootManual.Proofs.Layouts
import BootManual.Proofs.Noise
import BootManual.Proofs.Obstacles
import BootManual.Proofs.Confinement
import BootManual.Proofs.Particulars
import BootManual.Proofs.CatalogueTrees
import BootManual.Proofs.NestedListings
import BootManual.Proofs.Titles
import BootManual.Proofs.OpenBlocks
import BootManual.Proofs.ToolRuns
