import FunctionHost.Json.Reader
import FunctionHost.Main
import FunctionHost.Proofs.Call.Statements
import FunctionHost.Proofs.Config.Faults
import FunctionHost.Proofs.Config.ModuleName
import FunctionHost.Proofs.Event.Cookies
import FunctionHost.Proofs.Event.Headers
import FunctionHost.Proofs.Event.Query
import FunctionHost.Proofs.Event.Reading
import FunctionHost.Proofs.Gateway.Serving
import FunctionHost.Proofs.Output.Whole
import FunctionHost.Proofs.Pool.Answered
import FunctionHost.Proofs.Pool.Apart
import FunctionHost.Proofs.Pool.Bounded
import FunctionHost.Proofs.Pool.Delivery
import FunctionHost.Proofs.Pool.Fair
import FunctionHost.Proofs.Pool.Input
import FunctionHost.Proofs.Pool.Isolation
import FunctionHost.Proofs.Pool.Order
import FunctionHost.Proofs.Pool.Picking
import FunctionHost.Proofs.Pool.Rejection
import FunctionHost.Proofs.Pool.Replay
import FunctionHost.Proofs.Pool.Stranded
import FunctionHost.Proofs.Pool.Teardown
import FunctionHost.Proofs.Pool.Traceless
import FunctionHost.Proofs.Reply.Conservation
import FunctionHost.Proofs.Reply.Recording
import FunctionHost.Proofs.Reply.StatusCode
import FunctionHost.Proofs.RequestId.History
import FunctionHost.Proofs.Server.Limit
import FunctionHost.Reply.Reading
