import RaidProvision.Main
import RaidProvision.Proofs.Arcconf.RoundTrip
import RaidProvision.Proofs.Bmc.Accounting
import RaidProvision.Proofs.Bmc.Completion
import RaidProvision.Proofs.Bmc.Discipline
import RaidProvision.Proofs.Layout.ReadBack
import RaidProvision.Proofs.Layout.Realize
import RaidProvision.Proofs.Manager.Creation
import RaidProvision.Proofs.Manager.Deletion
import RaidProvision.Proofs.Manager.ReadBack
import RaidProvision.Proofs.MegaCli.Adapters
import RaidProvision.Proofs.MegaCli.Listing
import RaidProvision.Proofs.Settings.FirstRun
import RaidProvision.Rehearsal.Basic
import RaidProvision.Proofs.Arcconf.Enumeration
import RaidProvision.Proofs.Machine.Isolation
import RaidProvision.Proofs.Manager.Inventory
import RaidProvision.Proofs.Json.Shadow
import RaidProvision.Proofs.Layout.Meaning
import RaidProvision.Proofs.CommandLine.Create
import RaidProvision.Proofs.MegaCli.Damage
import RaidProvision.Proofs.Json.Written
import RaidProvision.Proofs.Layout.Respelling
import RaidProvision.Proofs.Settings.RoundTrip
import RaidProvision.Proofs.CommandLine.Choice
import RaidProvision.Proofs.Arcconf.Blocks
import RaidProvision.Proofs.Arcconf.Naming
import RaidProvision.Proofs.Layout.SizeLimit
import RaidProvision.Proofs.Machine.Styles
import RaidProvision.Proofs.Json.Depth
import RaidProvision.Proofs.Machine.Devices
import RaidProvision.Proofs.Manager.Arguments
import RaidProvision.Proofs.Binary64.Exact
import RaidProvision.Proofs.Manager.RealizedSize
import RaidProvision.Proofs.Manager.Detection
import RaidProvision.Proofs.Manager.Ranking
import RaidProvision.Proofs.Machine.Handles
import RaidProvision.Proofs.Bmc.Repeat
import RaidProvision.Proofs.Report.FirstSeparator
import RaidProvision.Proofs.Report.Filling
import RaidProvision.Proofs.Manager.DriveNumber
import RaidProvision.Proofs.Settings.Overlay
import RaidProvision.Proofs.Bmc.Service
