import SyscallFilter.CommandLine.Directory
import SyscallFilter.Filter.ExportTo
import SyscallFilter.Filter.Listen
import SyscallFilter.Main
import SyscallFilter.Notify.Operation
import SyscallFilter.Notify.Supervision
import SyscallFilter.Notify.TargetString
import SyscallFilter.Notify.WaitingCalls
import SyscallFilter.Policy.Writer
import SyscallFilter.Proofs.AnsweredOnce
import SyscallFilter.Proofs.Atomicity
import SyscallFilter.Proofs.BoundedExport
import SyscallFilter.Proofs.Building
import SyscallFilter.Proofs.ChannelHistory
import SyscallFilter.Proofs.ClosedChannel
import SyscallFilter.Proofs.Counterparts
import SyscallFilter.Proofs.DeclaredVerdict
import SyscallFilter.Proofs.ExportedRecords
import SyscallFilter.Proofs.Guarantees
import SyscallFilter.Proofs.History
import SyscallFilter.Proofs.Installation
import SyscallFilter.Proofs.ListedVerdict
import SyscallFilter.Proofs.Listener
import SyscallFilter.Proofs.LoadHistory
import SyscallFilter.Proofs.LosslessListing
import SyscallFilter.Proofs.Merging
import SyscallFilter.Proofs.OperationSteps
import SyscallFilter.Proofs.PolicyRoundTrip
import SyscallFilter.Proofs.Probing
import SyscallFilter.Proofs.Pruning
import SyscallFilter.Proofs.Reception
import SyscallFilter.Proofs.Released
import SyscallFilter.Proofs.ReleaseText
import SyscallFilter.Proofs.ReturnedActions
import SyscallFilter.Proofs.StaleReports
import SyscallFilter.Proofs.TargetStrings
import SyscallFilter.Proofs.Unsupervised
import SyscallFilter.Session
import SyscallFilter.Session.InPlace
