import DidMessaging.Agent.Operation
import DidMessaging.Agent.Sandbox
import DidMessaging.Http.Client
import DidMessaging.Proofs.Agent.Conduct
import DidMessaging.Proofs.Agent.Sending
import DidMessaging.Proofs.Agent.Orderly
import DidMessaging.Proofs.Agent.Operations
import DidMessaging.Proofs.Agent.Relationship
import DidMessaging.Proofs.Json.Readable
import DidMessaging.Proofs.Json.Order
import DidMessaging.Proofs.Json.Lawful
import DidMessaging.Proofs.Json.Record
import DidMessaging.Proofs.Json.Fitting
import DidMessaging.Proofs.Message.Shapes
import DidMessaging.Proofs.Agent.Delivery
import DidMessaging.Proofs.Agent.Forwarding
import DidMessaging.Proofs.Agent.Opening
import DidMessaging.Proofs.Message.Sealing
import DidMessaging.Proofs.Text.Base64
import DidMessaging.Proofs.Agent.Exchange
import DidMessaging.Proofs.Agent.Marking
import DidMessaging.Proofs.Agent.Batch
import DidMessaging.Proofs.Agent.Listening
import DidMessaging.Proofs.Agent.History
import DidMessaging.Proofs.Agent.Addressing
import DidMessaging.Proofs.Agent.Statuses
import DidMessaging.Proofs.Agent.Turns
import DidMessaging.Proofs.Agent.Dispatch
import DidMessaging.Proofs.Agent.Signature
import DidMessaging.Proofs.Did.Grammar
import DidMessaging.Proofs.Message.Forwards
import DidMessaging.Proofs.Agent.Encoding
import DidMessaging.Proofs.Message.Requests
import DidMessaging.Proofs.Message.Records
import DidMessaging.Proofs.Agent.Answers
import DidMessaging.Proofs.Agent.Asking
import DidMessaging.Proofs.Agent.Wording
import DidMessaging.Proofs.Agent.Granting
import DidMessaging.Proofs.Agent.Endpoints
