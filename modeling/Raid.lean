import Raid.Main
import Raid.Proofs.Change.CallTrace
import Raid.Proofs.CommandLine.Reporting
import Raid.Proofs.Manager.Gating
import Raid.Proofs.Results.Frame
import Raid.Proofs.Results.Rewriting
import Raid.Proofs.Script.Registering
import Raid.Proofs.Settings.Layering
import Raid.Proofs.Settings.Saving
import Raid.Proofs.Settings.Warning
import Raid.Proofs.Strike.Covering
import Raid.Proofs.Tactic.Alert
import Raid.Proofs.Tactic.Escape
import Raid.Proofs.Tactic.Halting
import Raid.Proofs.Tactic.Interrupt
import Raid.Proofs.Tactic.Recovery
import Raid.Proofs.Tactic.Retaining
import Raid.Proofs.Tactic.Sharing
import Raid.Proofs.Vessel.Harmless
import Raid.Proofs.Vessel.Indifference
import Raid.Proofs.Vessel.Keeping
import Raid.Proofs.Vessel.Restoring
import Raid.Proofs.Vessel.Resuming
import Raid.Proofs.Watch.Race
import Raid.Script.Session
