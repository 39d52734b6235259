import Handoff.Main
import Handoff.Message.Text
import Handoff.Script.Run
import Handoff.Stage.Spec
import Handoff.Trial
import Handoff.Proofs.Channel
import Handoff.Proofs.Custody
import Handoff.Proofs.Reached
import Handoff.Proofs.Accountability
import Handoff.Proofs.Confirmation
import Handoff.Proofs.Delivery
import Handoff.Proofs.Closing
import Handoff.Proofs.Restraint
import Handoff.Proofs.Stopping
import Handoff.Proofs.Listening
import Handoff.Proofs.Tally
import Handoff.Proofs.Finalization
import Handoff.Proofs.Contention
import Handoff.Proofs.Framing
import Handoff.Proofs.Cancelling
import Handoff.Proofs.Accounting
import Handoff.Proofs.Reporting
import Handoff.Proofs.Precedence
import Handoff.Proofs.Slots
import Handoff.Proofs.Backpressure
import Handoff.Proofs.Sharing
import Handoff.Proofs.Waiting
import Handoff.Proofs.Json.Grammar
import Handoff.Proofs.Json.Spelling
import Handoff.Proofs.Json.Passing
import Handoff.Proofs.Json.Lists
import Handoff.Proofs.Json.Objects
import Handoff.Proofs.MessageText
import Handoff.Proofs.SettingsText
import Handoff.Proofs.Lowercase
import Handoff.Proofs.Registering
import Handoff.Proofs.Clearing
import Handoff.Proofs.Dropping
import Handoff.Proofs.Surviving
import Handoff.Proofs.Replacing
