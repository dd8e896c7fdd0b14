import UserMessageProtocol.Foundation.Serial
import UserMessageProtocol.Foundation.Runs
import UserMessageProtocol.Packet.Flags
import UserMessageProtocol.Packet.Corruption
import UserMessageProtocol.Connection.Completion
import UserMessageProtocol.Connection.Acknowledgement
import UserMessageProtocol.Sender.Steps
import UserMessageProtocol.Sender.FastRetransmit
import UserMessageProtocol.Sender.SegmentSize
import UserMessageProtocol.Sender.WindowWrap
import UserMessageProtocol.Sender.Transmission
import UserMessageProtocol.Sender.Liveness
import UserMessageProtocol.Network.Machine
import UserMessageProtocol.Network.Control
import UserMessageProtocol.Network.Caches
import UserMessageProtocol.Socket.Iteration
import UserMessageProtocol.Connection.Pending
import UserMessageProtocol.Core.Accept
import UserMessageProtocol.Core.Resets
import UserMessageProtocol.Core.Backlog
import UserMessageProtocol.Core.Cleaning
import UserMessageProtocol.Network.Agreement
import UserMessageProtocol.Network.Messages
import UserMessageProtocol.Receiver.Window
import UserMessageProtocol.Receiver.AckTimes
import UserMessageProtocol.Receiver.Reassembly
import UserMessageProtocol.Receiver.Survival
import UserMessageProtocol.Receiver.Representation
import UserMessageProtocol.Connection.Errors
import UserMessageProtocol.Sender.Samples
import UserMessageProtocol.Sender.Answers
import UserMessageProtocol.Sender.Fragmentation
import UserMessageProtocol.Sender.TimerOrder
import UserMessageProtocol.Sender.ProbePacing
import UserMessageProtocol.Sender.Recovery
import UserMessageProtocol.Event.Cell
import UserMessageProtocol.Event.Wakeups
import UserMessageProtocol.Core.Lives
import UserMessageProtocol.Core.AcceptEvent
import UserMessageProtocol.Core.Closing
import UserMessageProtocol.Transfer.Conserved
import UserMessageProtocol.Connection.Retransmission
import UserMessageProtocol.Sender.GivingUp
import UserMessageProtocol.Socket.Sleep
