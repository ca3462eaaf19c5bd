import ResourceGuard.Access
import ResourceGuard.Audit
import ResourceGuard.Call
import ResourceGuard.Collaborator.BlobStore
import ResourceGuard.Collaborator.Record
import ResourceGuard.Collaborator.Script
import ResourceGuard.Collaborator.TokenMatcher
import ResourceGuard.Config
import ResourceGuard.Config.Source
import ResourceGuard.Context
import ResourceGuard.Endpoint
import ResourceGuard.Engine
import ResourceGuard.Engine.Call
import ResourceGuard.Fault
import ResourceGuard.Guard
import ResourceGuard.Inspect
import ResourceGuard.Json.Codec
import ResourceGuard.Json.Number
import ResourceGuard.Json.Standard.Lexeme
import ResourceGuard.Json.Standard.Text
import ResourceGuard.Json.Value
import ResourceGuard.Message
import ResourceGuard.Message.Reply
import ResourceGuard.Permission
import ResourceGuard.Proofs.Accounts
import ResourceGuard.Proofs.AuditTrail
import ResourceGuard.Proofs.Classification
import ResourceGuard.Proofs.Configuration
import ResourceGuard.Proofs.Conservation
import ResourceGuard.Proofs.Contacts
import ResourceGuard.Proofs.Correlation
import ResourceGuard.Proofs.Delegations
import ResourceGuard.Proofs.DenyReasons
import ResourceGuard.Proofs.Directions
import ResourceGuard.Proofs.Discretion
import ResourceGuard.Proofs.EndpointText
import ResourceGuard.Proofs.EngineExits
import ResourceGuard.Proofs.EngineFailures
import ResourceGuard.Proofs.EngineLedger
import ResourceGuard.Proofs.Exits
import ResourceGuard.Proofs.Expectations
import ResourceGuard.Proofs.InternalErrors
import ResourceGuard.Proofs.Json.Lawful
import ResourceGuard.Proofs.Json.Laws
import ResourceGuard.Proofs.Json.Messages
import ResourceGuard.Proofs.Json.Ranges
import ResourceGuard.Proofs.Json.Standard.Text
import ResourceGuard.Proofs.Json.Standard.Values
import ResourceGuard.Proofs.LastQuestion
import ResourceGuard.Proofs.Mediation
import ResourceGuard.Proofs.PlainChannel
import ResourceGuard.Proofs.Provisioning
import ResourceGuard.Proofs.Registration
import ResourceGuard.Proofs.Relevance
import ResourceGuard.Proofs.Replies
import ResourceGuard.Proofs.Residue
import ResourceGuard.Proofs.Runs
import ResourceGuard.Proofs.Scenarios
import ResourceGuard.Proofs.SideBySide
import ResourceGuard.Proofs.SingleFlight
import ResourceGuard.Proofs.Steps
import ResourceGuard.Proofs.Storage
import ResourceGuard.Proofs.Surroundings
import ResourceGuard.Proofs.Toml.Laws
import ResourceGuard.Proofs.Toml.Standard.Lines
import ResourceGuard.Proofs.Toml.Standard.Values
import ResourceGuard.Reaction
import ResourceGuard.Scenario
import ResourceGuard.Scenario.Bench
import ResourceGuard.Scenario.Engine
import ResourceGuard.Subject
import ResourceGuard.Subject.Uuid
import ResourceGuard.Subject.Uuid.Standard
import ResourceGuard.Text.Hex
import ResourceGuard.Text.Numerals
import ResourceGuard.Text.Signs
import ResourceGuard.Text.Vocabulary
import ResourceGuard.Toml.Item
import ResourceGuard.Toml.Standard.Document
import ResourceGuard.Toml.Standard.Entries
import ResourceGuard.Toml.Standard.Scalar
import ResourceGuard.Toml.Standard.Text
import ResourceGuard.Unsigned
import ResourceGuard.VirtualResource
