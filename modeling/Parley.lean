import Parley.Conversation.FreshKey
import Parley.Files.Tree
import Parley.Json.Writer
import Parley.Main
import Parley.Proofs.Memory
import Parley.Proofs.RunningFlag
import Parley.Proofs.Superseded
import Parley.Scenario.Step
import Parley.Wire.Types
import Parley.Proofs.Completions
import Parley.Proofs.Delivery
import Parley.Proofs.Skipped
import Parley.Proofs.Prompts
import Parley.Proofs.Footprint
import Parley.Proofs.Priming
import Parley.Proofs.Separation
import Parley.Proofs.Chat
import Parley.Proofs.AuditTrail
import Parley.Proofs.Rollbacks
import Parley.Proofs.Snapshots
import Parley.Proofs.Conversations
import Parley.Proofs.Stopping
import Parley.Proofs.Muting
import Parley.Proofs.Layers
import Parley.Proofs.TokenTotals
import Parley.Proofs.RoundTrips
import Parley.Proofs.Variables
import Parley.Client.Builders
import Parley.Proofs.Conveyed
import Parley.Proofs.Credentials
import Parley.Proofs.Fences
import Parley.Proofs.Unsettled
import Parley.Proofs.Scenarios
import Parley.Proofs.Sessions
