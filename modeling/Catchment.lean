import Catchment.Amount.Exact
import Catchment.Main
import Catchment.Proofs.Table
import Catchment.Session
import Catchment.Settings.Reading
import Catchment.Proofs.Amount.Order
import Catchment.Proofs.Network.Declared
import Catchment.Proofs.Conservation
import Catchment.Proofs.Delivery
import Catchment.Proofs.Safety
import Catchment.Proofs.Day.Calm
import Catchment.Proofs.Day.Reordered
import Catchment.Proofs.Order
import Catchment.Proofs.Superposition
import Catchment.Proofs.Confinement
import Catchment.Proofs.Headwater
import Catchment.Proofs.Source.Longest
import Catchment.Proofs.Token.Scan
import Catchment.Proofs.Run.Agreement
import Catchment.Proofs.Network.Latest
import Catchment.Proofs.Network.Stranded
import Catchment.Proofs.Run.Account
import Catchment.Proofs.Run.Unreported
import Catchment.Proofs.Day.Yield
import Catchment.Proofs.Run.Ending
import Catchment.Proofs.CommandLine.Status
import Catchment.Proofs.Network.Route
import Catchment.Proofs.Network.Extent
import Catchment.Proofs.Program.Break
import Catchment.Proofs.Program.Unplaced
import Catchment.Proofs.Program.Lines
import Catchment.Proofs.Run.Findings
import Catchment.Proofs.Scaling
import Catchment.Proofs.Settings.Reading
