import Parley.CommandLine
import Parley.Exchange
import Parley.Handler.Takeover
import Parley.Json.Layout
import Parley.Main
import Parley.Negotiation.Retry
import Parley.Proofs.Attributes.Setup
import Parley.Proofs.Attributes.Written
import Parley.Proofs.Blob.Bounded
import Parley.Proofs.BuiltIn.Asking
import Parley.Proofs.BuiltIn.Burden
import Parley.Proofs.BuiltIn.Contract
import Parley.Proofs.BuiltIn.Credential
import Parley.Proofs.BuiltIn.Endings
import Parley.Proofs.BuiltIn.Lookup
import Parley.Proofs.BuiltIn.Setup
import Parley.Proofs.Channel.Dialogue
import Parley.Proofs.Channel.Lease
import Parley.Proofs.Channel.Pipe
import Parley.Proofs.Channel.Transport
import Parley.Proofs.Conversation.Leads
import Parley.Proofs.Conversation.Turns
import Parley.Proofs.Envelope.Burden
import Parley.Proofs.Envelope.Contract
import Parley.Proofs.Envelope.Delegates
import Parley.Proofs.Envelope.Endings
import Parley.Proofs.Envelope.Frames
import Parley.Proofs.Envelope.Offers
import Parley.Proofs.Envelope.Setup
import Parley.Proofs.Exchange.Agreement
import Parley.Proofs.Exchange.Choosing
import Parley.Proofs.Exchange.Conveying
import Parley.Proofs.Exchange.Keys
import Parley.Proofs.Exchange.Legs
import Parley.Proofs.Exchange.Opening
import Parley.Proofs.Exchange.Parties
import Parley.Proofs.Exchange.Rekeyed
import Parley.Proofs.Exchange.Settles
import Parley.Proofs.Exchange.Twofold
import Parley.Proofs.Handler.Frames
import Parley.Proofs.Handler.Ready
import Parley.Proofs.Handler.Visits
import Parley.Proofs.Json.Length
import Parley.Proofs.Keys.Locks
import Parley.Proofs.Lifecycle.Contract
import Parley.Proofs.Lifecycle.Endings
import Parley.Proofs.Message.Blobs
import Parley.Proofs.Message.Chunks
import Parley.Proofs.Message.Length
import Parley.Proofs.Message.Reassembly
import Parley.Proofs.Message.Texts
import Parley.Proofs.Message.Veiled
import Parley.Proofs.Negotiation.Abreast
import Parley.Proofs.Negotiation.Asking
import Parley.Proofs.Negotiation.Burden
import Parley.Proofs.Negotiation.Bytewise
import Parley.Proofs.Negotiation.Contract
import Parley.Proofs.Negotiation.Deadlines
import Parley.Proofs.Negotiation.Delegation
import Parley.Proofs.Negotiation.Departures
import Parley.Proofs.Negotiation.Ending
import Parley.Proofs.Negotiation.Greeted
import Parley.Proofs.Negotiation.Handshake
import Parley.Proofs.Negotiation.Hosting
import Parley.Proofs.Negotiation.Journal
import Parley.Proofs.Negotiation.Later
import Parley.Proofs.Negotiation.Leasing
import Parley.Proofs.Negotiation.Loopback
import Parley.Proofs.Negotiation.Refusal
import Parley.Proofs.Negotiation.Retrying
import Parley.Proofs.Negotiation.Routes
import Parley.Proofs.Negotiation.Steps
import Parley.Proofs.Negotiation.Subsiding
import Parley.Proofs.Negotiation.Takeover
import Parley.Proofs.Negotiation.Tale
import Parley.Proofs.Negotiation.Waiting
import Parley.Proofs.Negotiation.Writes
import Parley.Proofs.Registry.Drawn
import Parley.Proofs.SharedKey.Answers
import Parley.Proofs.SharedKey.Authentication
import Parley.Proofs.SharedKey.Blobs
import Parley.Proofs.SharedKey.Burden
import Parley.Proofs.SharedKey.Contract
import Parley.Proofs.SharedKey.Cuts
import Parley.Proofs.SharedKey.Deeds
import Parley.Proofs.SharedKey.Drafts
import Parley.Proofs.SharedKey.Dress
import Parley.Proofs.SharedKey.Driven
import Parley.Proofs.SharedKey.Emission
import Parley.Proofs.SharedKey.Endings
import Parley.Proofs.SharedKey.Lives
import Parley.Proofs.SharedKey.Lookup
import Parley.Proofs.SharedKey.Matching
import Parley.Proofs.SharedKey.Names
import Parley.Proofs.SharedKey.Network
import Parley.Proofs.SharedKey.Refusals
import Parley.Proofs.SharedKey.Rekeyed
import Parley.Proofs.SharedKey.Response
import Parley.Proofs.SharedKey.Setup
import Parley.Proofs.SharedKey.Standing
import Parley.Proofs.SharedKey.Transcript
import Parley.Proofs.SharedKey.Unambiguous
import Parley.Proofs.SharedKey.Undisturbed
import Parley.Proofs.SharedKey.Waiting
import Parley.Rehearsed
