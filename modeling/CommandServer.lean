import CommandServer.Main
import CommandServer.Proofs.Exchange
import CommandServer.Proofs.Failure
import CommandServer.Proofs.Log.Delivery
import CommandServer.Proofs.Merge
import CommandServer.Proofs.Options
import CommandServer.Proofs.Report
import CommandServer.Proofs.Settings.Fault
import CommandServer.Proofs.Settings.Override
import CommandServer.Proofs.Settings.Timeout
import CommandServer.Proofs.Template.Contract
import CommandServer.Proofs.Template.Contribution
import CommandServer.Proofs.Template.Nulls
import CommandServer.Proofs.Template.Reread
import CommandServer.Proofs.Template.Substitution
import CommandServer.Proofs.Template.Switches
import CommandServer.Proofs.Template.Unadvertised
import CommandServer.Proofs.Variables
