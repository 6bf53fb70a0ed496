import ChatAutomation.Api.App
import ChatAutomation.Api.Target
import ChatAutomation.Json.Writer
import ChatAutomation.Lifecycle
import ChatAutomation.Log
import ChatAutomation.Proofs.Walk.DepthFirst
import ChatAutomation.Proofs.Walk.Reachable
import ChatAutomation.Proofs.Walk.Branch
import ChatAutomation.Proofs.Walk.Account
import ChatAutomation.Proofs.Walk.Recipient
import ChatAutomation.Proofs.Flow.Document
import ChatAutomation.Proofs.Store.Reading
import ChatAutomation.Proofs.Automation.Merge
import ChatAutomation.Proofs.Automation.Edits
import ChatAutomation.Proofs.Automation.Race
import ChatAutomation.Proofs.Trigger.Matching
import ChatAutomation.Proofs.Breaker.Regular
import ChatAutomation.Proofs.Breaker.Trial
import ChatAutomation.Proofs.Binary64.Rounding
import ChatAutomation.Proofs.Breaker.Recovery
import ChatAutomation.Proofs.Inbox.Blocklist
import ChatAutomation.Proofs.Inbox.FirstMessage
import ChatAutomation.Proofs.Api.Bundle
import ChatAutomation.Proofs.Walk.Warned
import ChatAutomation.Proofs.Walk.Clean
import ChatAutomation.Proofs.Walk.Usable
import ChatAutomation.Proofs.Trigger.Entry
import ChatAutomation.Proofs.Automation.Upsert
import ChatAutomation.Proofs.Api.Saving
import ChatAutomation.Proofs.Automation.Priority
import ChatAutomation.Proofs.Delivery.Attempts
import ChatAutomation.Proofs.Delivery.Answers
import ChatAutomation.Proofs.Responder.Failover
import ChatAutomation.Proofs.Inbox.Outcomes
import ChatAutomation.Proofs.Action.Atomic
import ChatAutomation.Proofs.Text.LowerCase
import ChatAutomation.Proofs.Trigger.OwnText
import ChatAutomation.Proofs.Template.ReadBack
import ChatAutomation.Proofs.Pattern.Alike
import ChatAutomation.Proofs.Pattern.Arms
import ChatAutomation.Proofs.Pattern.LowerForm
import ChatAutomation.Proofs.Trigger.LoweredPattern
import ChatAutomation.Proofs.Trigger.Padding
import ChatAutomation.Proofs.Trigger.TypedNumber
import ChatAutomation.Proofs.Template.HeaderSources
import ChatAutomation.Proofs.Action.TypedNumber
import ChatAutomation.Proofs.Action.Offer
import ChatAutomation.Proofs.Action.Beforehand
import ChatAutomation.Proofs.Action.DelayTime
import ChatAutomation.Proofs.Automation.ReadBack
import ChatAutomation.Proofs.Inbox.SamePerson
import ChatAutomation.Proofs.Delivery.Recipients
import ChatAutomation.Proofs.Action.Cleared
import ChatAutomation.Proofs.Flow.WellFormed
import ChatAutomation.Proofs.Delivery.Limits
import ChatAutomation.Proofs.Log.Levels
import ChatAutomation.Proofs.Numeral.Leading
import ChatAutomation.Proofs.Contact.Settled
