import KuduRpc.Wire.Varint
import KuduRpc.Wire.Fields
import KuduRpc.Wire.Messages
import KuduRpc.Rpc
import KuduRpc.QueueMap
import KuduRpc.Connection.State
import KuduRpc.Connection.Read
import KuduRpc.Connection.Write
import KuduRpc.Connection.Poll
import KuduRpc.Connection.Run
import KuduRpc.Connection.Framing
import KuduRpc.Connection.Negotiation
import KuduRpc.Connection.Loss
import KuduRpc.Connection.Reset
import KuduRpc.Connection.Responses
import KuduRpc.Connection.Completion
import KuduRpc.Connection.Triple
import KuduRpc.Connection.Invariant
import KuduRpc.Connection.FlowControl
import KuduRpc.Connection.Deadline
import KuduRpc.Connection.Loops
import KuduRpc.Master
import KuduRpc.Krpc.Proxy
import KuduRpc.Dns
import KuduRpc.Value
import KuduRpc.Schema.Column
import KuduRpc.Schema.Basic
import KuduRpc.Schema.Build
import KuduRpc.Schema.Invariant
import KuduRpc.Schema.RoundTrip
import KuduRpc.Schema.Accessors
import KuduRpc.Messenger
