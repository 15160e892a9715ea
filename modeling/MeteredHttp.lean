import MeteredHttp.Address
import MeteredHttp.Binary64
import MeteredHttp.Binary64.Shortest
import MeteredHttp.BodySource
import MeteredHttp.Bytes
import MeteredHttp.CheckGroup
import MeteredHttp.Client
import MeteredHttp.ClientConfig
import MeteredHttp.Definition
import MeteredHttp.Dictionary
import MeteredHttp.ErrorCode
import MeteredHttp.Failure
import MeteredHttp.Failure.Classification
import MeteredHttp.FileStream
import MeteredHttp.Files
import MeteredHttp.HostPort
import MeteredHttp.Http2
import MeteredHttp.Json.Field
import MeteredHttp.Json.Parser
import MeteredHttp.Json.Printer
import MeteredHttp.Json.Token
import MeteredHttp.Json.Value
import MeteredHttp.Judge
import MeteredHttp.Method
import MeteredHttp.Network
import MeteredHttp.Numeral
import MeteredHttp.Outlets
import MeteredHttp.Policy
import MeteredHttp.Pool
import MeteredHttp.Pool.Custody
import MeteredHttp.Proofs.Address
import MeteredHttp.Proofs.Binary64.Rounding
import MeteredHttp.Proofs.Binary64.Shortest
import MeteredHttp.Proofs.Bytes
import MeteredHttp.Proofs.CheckGroup.History
import MeteredHttp.Proofs.CheckGroup.Records
import MeteredHttp.Proofs.ClientConfig
import MeteredHttp.Proofs.ClientConfig.Soundness
import MeteredHttp.Proofs.Definition.Candidates
import MeteredHttp.Proofs.Definition.Outcome
import MeteredHttp.Proofs.Definition.Request
import MeteredHttp.Proofs.Definition.Serving
import MeteredHttp.Proofs.Delivery
import MeteredHttp.Proofs.Except
import MeteredHttp.Proofs.Failure.Codes
import MeteredHttp.Proofs.Failure.Decoding
import MeteredHttp.Proofs.Failure.Wrapping
import MeteredHttp.Proofs.FileStream
import MeteredHttp.Proofs.HostPort
import MeteredHttp.Proofs.Json.Field
import MeteredHttp.Proofs.Json.Parser
import MeteredHttp.Proofs.Json.RoundTrip
import MeteredHttp.Proofs.Json.Scanning
import MeteredHttp.Proofs.Network.Bits
import MeteredHttp.Proofs.Network.Membership
import MeteredHttp.Proofs.Network.Notation
import MeteredHttp.Proofs.Numeral
import MeteredHttp.Proofs.Policy
import MeteredHttp.Proofs.Policy.Hosts
import MeteredHttp.Proofs.Pool.History
import MeteredHttp.Proofs.Pool.Places
import MeteredHttp.Proofs.Reporter.Emission
import MeteredHttp.Proofs.Reporter.History
import MeteredHttp.Proofs.Reporter.Insertion
import MeteredHttp.Proofs.Reporter.Outcome
import MeteredHttp.Proofs.Reporter.Overlap
import MeteredHttp.Proofs.Reporter.Sending
import MeteredHttp.Proofs.Reporter.Tagging
import MeteredHttp.Proofs.RequestOptions
import MeteredHttp.Proofs.Run.Agreement
import MeteredHttp.Proofs.Run.Atomicity
import MeteredHttp.Proofs.Run.BodyType
import MeteredHttp.Proofs.Run.Candidates
import MeteredHttp.Proofs.Run.Event
import MeteredHttp.Proofs.Run.Independence
import MeteredHttp.Proofs.Run.Lockstep
import MeteredHttp.Proofs.Run.PeerAddress
import MeteredHttp.Proofs.Run.Policy
import MeteredHttp.Proofs.Run.Raising
import MeteredHttp.Proofs.Run.Reporting
import MeteredHttp.Proofs.Run.Requests
import MeteredHttp.Proofs.Run.Step
import MeteredHttp.Proofs.Sample.Line
import MeteredHttp.Proofs.Sink
import MeteredHttp.Proofs.Tags
import MeteredHttp.Proofs.Timestamp
import MeteredHttp.Proofs.Timestamp.Order
import MeteredHttp.Proofs.Transfer.BodyFailure
import MeteredHttp.Proofs.Transfer.Decoding
import MeteredHttp.Proofs.Transfer.HostBlocking
import MeteredHttp.Proofs.Transfer.Http2Code
import MeteredHttp.Proofs.Transfer.Performing
import MeteredHttp.Proofs.Transfer.Reference
import MeteredHttp.Proofs.Transfer.Rejection
import MeteredHttp.Proofs.Transfer.Reuse
import MeteredHttp.Proofs.Transfer.TimeLimits
import MeteredHttp.Reporter
import MeteredHttp.RequestOptions
import MeteredHttp.Response
import MeteredHttp.RoundTrip
import MeteredHttp.Run
import MeteredHttp.RunContext
import MeteredHttp.Sample
import MeteredHttp.Sample.Line
import MeteredHttp.Sink
import MeteredHttp.SystemError
import MeteredHttp.SystemTag
import MeteredHttp.TagContext
import MeteredHttp.Telemetry
import MeteredHttp.Timestamp
import MeteredHttp.Transfer.Code
import MeteredHttp.Transfer.Diagnosis
import MeteredHttp.Transfer.Engine
import MeteredHttp.Transfer.Exchange
import MeteredHttp.Transfer.Perform
import MeteredHttp.Transfer.Result
import MeteredHttp.Transfer.Wire
import MeteredHttp.Transport
import MeteredHttp.Url
import MeteredHttp.Utf8
