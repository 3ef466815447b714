import SmallModbus.Lib.Memory
import SmallModbus.Lib.Pull
import SmallModbus.Lib.Bits
import SmallModbus.Types
import SmallModbus.Utils
import SmallModbus.Base
import SmallModbus.Master
import SmallModbus.Slave
import SmallModbus.Line
import SmallModbus.Framing
import SmallModbus.Receive
import SmallModbus.Wire
import SmallModbus.Request
import SmallModbus.Reply
import SmallModbus.Answers
import SmallModbus.Confirm
import SmallModbus.Handover
import SmallModbus.Bank
import SmallModbus.VirtualIO
import SmallModbus.Board
import SmallModbus.Lib.Refine
import SmallModbus.System
import SmallModbus.Remote
import SmallModbus.Feed
import SmallModbus.Parser
import SmallModbus.PortErrors
import SmallModbus.Gating
import SmallModbus.Echo
import SmallModbus.Exceptions
import SmallModbus.Outcome
import SmallModbus.Leftover
import SmallModbus.Station
import SmallModbus.MultiDrop
import SmallModbus.StreamSync
import SmallModbus.Transactions
import SmallModbus.Lockstep
import SmallModbus.Rtsocket
import SmallModbus.Win32device
import SmallModbus.Rtdevice
import SmallModbus.Lib.Fifo
import SmallModbus.Ringbuffer
import SmallModbus.Lib.Lfsr
import SmallModbus.ErrorDetection
import SmallModbus.Validation
import SmallModbus.Initialisation
import SmallModbus.Context
import SmallModbus.Plant
import SmallModbus.Poll
import SmallModbus.Mirror
import SmallModbus.Reconnect
import SmallModbus.Resync
import SmallModbus.Isolation
import SmallModbus.Lib.Atomic
import SmallModbus.Sharing
import SmallModbus.Coils
import SmallModbus.Untouched
import SmallModbus.WriteEcho
import SmallModbus.AddressRange
import SmallModbus.Descriptors
import SmallModbus.Server
import SmallModbus.Timeouts
import SmallModbus.Lib.LfsrPoly
import SmallModbus.CrcPolynomial
import SmallModbus.ByteOrder
import SmallModbus.SerialSlave
