import Opslane.Agent.Vault
import Opslane.AgentRuns.Transcriber
import Opslane.Auth.KeyRoundTrip
import Opslane.Auth.OnboardingKeys
import Opslane.Auth.TokenFamilies
import Opslane.Delivery.DraftCap
import Opslane.Delivery.ReopenedMerge
import Opslane.Digest.Actionable
import Opslane.Filter.InquiryWork
import Opslane.Filter.Sweep
import Opslane.Grouping.ExtensionFrames
import Opslane.Grouping.TokensKept
import Opslane.Harness.PatchTargets
import Opslane.Harness.PrecisionGate
import Opslane.Identity.Counters
import Opslane.Identity.Readings
import Opslane.Identity.Recurrence
import Opslane.Intake.Agreement
import Opslane.Intake.ContentIdentity
import Opslane.Jobs.LaneCaps
import Opslane.Jobs.Retries
import Opslane.Jobs.Usage
import Opslane.Migrations.BootReplay
import Opslane.Narrative.BudgetRuns
import Opslane.Notify.DeliveryRuns
import Opslane.Notify.DigestLimits
import Opslane.Notify.RetryAfter
import Opslane.Priority.Settled
import Opslane.Resolve.PositionCache
import Opslane.Resolve.WakeUps
import Opslane.Routes.OutputOrder
import Opslane.Sdk.ReplayChunks
import Opslane.Sdk.ThrottleWindow
import Opslane.Sdk.Transport
import Opslane.Sdk.Unstamp
import Opslane.Sessions.Accounting
import Opslane.Sessions.LateChunks
import Opslane.Sessions.Readable
import Opslane.Tickets.Arrivals
import Opslane.Tickets.CauseKept
import Opslane.Tickets.DigestFacts
import Opslane.Tickets.PrTracking
