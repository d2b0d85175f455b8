import FuzzCampaign.Number.Decimal
import FuzzCampaign.Number.Reading
import FuzzCampaign.Text.Blank
import FuzzCampaign.Text.Utf8
import FuzzCampaign.Text.Quoted
import FuzzCampaign.Ordered
import FuzzCampaign.Json.Term
import FuzzCampaign.Tree
import FuzzCampaign.Stream.Reader
import FuzzCampaign.Stream.Writer
import FuzzCampaign.Check.Engine
import FuzzCampaign.Session.Run
import FuzzCampaign.Display
import FuzzCampaign.Lifecycle.Rendering
import FuzzCampaign.Lifecycle.ScriptSet
import FuzzCampaign.Lifecycle.Output
import FuzzCampaign.Lifecycle.ShellResetter
import FuzzCampaign.Config
import FuzzCampaign.Shell.Host
import FuzzCampaign.CommandLine.Run
import FuzzCampaign.Main
import FuzzCampaign.Proofs.Check.LiveState
import FuzzCampaign.Proofs.CallTrace
import FuzzCampaign.Proofs.Lifecycle.ExitCodes
import FuzzCampaign.Proofs.Session.Trace
import FuzzCampaign.Proofs.Lifecycle.Started
import FuzzCampaign.Proofs.Check.AccessOrder
import FuzzCampaign.Proofs.Check.Classification
import FuzzCampaign.Proofs.Session.Cleanup
import FuzzCampaign.Proofs.Lifecycle.Flags
import FuzzCampaign.Proofs.Stream.Reading
import FuzzCampaign.Proofs.Json.RoundTrip
import FuzzCampaign.Proofs.Campaign.Identity
import FuzzCampaign.Proofs.Campaign.Messages
import FuzzCampaign.Proofs.Stream.Writing
import FuzzCampaign.Proofs.Lifecycle.Termination
import FuzzCampaign.Proofs.Lifecycle.Attribution
import FuzzCampaign.Proofs.Session.Counters
import FuzzCampaign.Proofs.Session.Containment
import FuzzCampaign.Proofs.Session.States
import FuzzCampaign.Proofs.Session.Verdict
import FuzzCampaign.Proofs.Check.Isolation
import FuzzCampaign.Proofs.Session.CheckRuns
import FuzzCampaign.Proofs.Check.Restoring
import FuzzCampaign.Proofs.Publishing
import FuzzCampaign.Proofs.Check.Literals
import FuzzCampaign.Proofs.Lifecycle.PhaseScript
import FuzzCampaign.Proofs.Reset.Reporting
import FuzzCampaign.Proofs.Check.Registry
import FuzzCampaign.Proofs.Check.Limits
import FuzzCampaign.Proofs.Lifecycle.CurrentScripts
import FuzzCampaign.Proofs.Lifecycle.Forwarding
import FuzzCampaign.Proofs.Check.Selection
import FuzzCampaign.Proofs.Tallies
