import ClockManager.Main
import ClockManager.Proofs.Platform.Answering
import ClockManager.Proofs.Platform.Bookkeeping
import ClockManager.Proofs.Platform.Consistency
import ClockManager.Proofs.Platform.Calls
import ClockManager.Proofs.Platform.Completion
import ClockManager.Proofs.Platform.Deferral
import ClockManager.Proofs.Sharing.Holders
import ClockManager.Proofs.Account
import ClockManager.Proofs.Platform.Holding
import ClockManager.Proofs.Platform.Contention
import ClockManager.Proofs.Platform.Permission
import ClockManager.Proofs.Platform.Separation
import ClockManager.Proofs.Platform.Replies
import ClockManager.Proofs.Platform.Stickiness
import ClockManager.Proofs.Commit
import ClockManager.Proofs.Platform.Success
import ClockManager.Proofs.Platform.Draining
import ClockManager.Proofs.Platform.Failure
import ClockManager.Proofs.Word
import ClockManager.Proofs.Word.Writer
import ClockManager.Proofs.Request
import ClockManager.Proofs.Listing
import ClockManager.Proofs.Walk
import ClockManager.Proofs.Platform.Faultless
import ClockManager.Proofs.Platform.Reception
import ClockManager.Proofs.Platform.Refusals
import ClockManager.Proofs.Description
import ClockManager.Proofs.Platform.Pages
import ClockManager.Proofs.Sharing.Transition
import ClockManager.Proofs.Platform.Advertised
import ClockManager.Proofs.Frame.Reading
import ClockManager.Proofs.Platform.QueueRun
import ClockManager.Proofs.Platform.Repetition
import ClockManager.Proofs.Platform.Resolution
import ClockManager.Proofs.Sharing.Start
import ClockManager.Proofs.Tracker.Calls
