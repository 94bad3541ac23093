import Workmeter.Files.Tree
import Workmeter.Main
import Workmeter.Monitor.Run
import Workmeter.Proofs.Feed.Delivery
import Workmeter.Proofs.Feed.Membership
import Workmeter.Proofs.Hub.History
import Workmeter.Proofs.Hub.Registration
import Workmeter.Proofs.Round.Delivery
import Workmeter.Proofs.Round.Subscription
import Workmeter.Proofs.Hub.Receipts
import Workmeter.Proofs.Round.Ending
import Workmeter.Proofs.Hub.Service
import Workmeter.Proofs.Round.Locality
import Workmeter.Proofs.Round.Usage
import Workmeter.Proofs.Round.Abandonment
import Workmeter.Proofs.Round.Interleaving
import Workmeter.Proofs.Feed.Independence
import Workmeter.Proofs.Sample.Json
import Workmeter.Proofs.Round.Calls
import Workmeter.Proofs.Round.Isolation
import Workmeter.Proofs.Hub.Publication
import Workmeter.Proofs.Round.Heard
import Workmeter.Proofs.Round.Release
import Workmeter.Proofs.Round.Reports
import Workmeter.Proofs.Text.Decimal
import Workmeter.Proofs.Workload.Roster
import Workmeter.Proofs.Monitor.Start
import Workmeter.Proofs.Since
import Workmeter.Proofs.FirstFailure
import Workmeter.Proofs.Text.Lines
import Workmeter.Proofs.Text.Words
import Workmeter.Proofs.Text.Separators
import Workmeter.Proofs.HostCpu.Reading
import Workmeter.Proofs.HostCpu.Nanoseconds
import Workmeter.Proofs.Counters.Keyed
import Workmeter.Proofs.Monitor.Printers
import Workmeter.Proofs.Monitor.Printing
import Workmeter.Proofs.Interfaces.Reading
import Workmeter.Proofs.Cgroup.Entry
import Workmeter.Proofs.Workload.Registration
import Workmeter.Proofs.Workload.Directory
import Workmeter.Proofs.Files.Below
import Workmeter.Proofs.Settings.Workloads
import Workmeter.Proofs.Settings.Reading
import Workmeter.Proofs.Workload.Counters
import Workmeter.Proofs.Interfaces.Sandbox
import Workmeter.Proofs.Counters.AnyOrder
import Workmeter.Proofs.Feed.Belonging
import Workmeter.Proofs.Feed.Losses
import Workmeter.Proofs.Round.Handles
import Workmeter.Proofs.Counters.Memory
import Workmeter.Proofs.Round.Invariant
import Workmeter.Proofs.Sample.Text
