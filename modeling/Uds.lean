import Uds.Base.Bytes
import Uds.Base.Dict
import Uds.Base.Channel
import Uds.Base.History
import Uds.Base.Machine
import Uds.Base.Memory
import Uds.Base.Proc
import Uds.Base.Agent
import Uds.Base.Rewriting
import Uds.Base.Network
import Uds.Can.Frame
import Uds.Tp.Frame
import Uds.Tp.Segmentation
import Uds.Tp.Sender
import Uds.Tp.Receiver
import Uds.Tp.Transfer
import Uds.Tp.Grammar
import Uds.Tp.RecvGrammar
import Uds.Tp.Reassembly
import Uds.Tp.FirstFrames
import Uds.Tp.Provenance
import Uds.Tp.SendSafety
import Uds.Tp.Lockstep
import Uds.Tp.EndToEnd
import Uds.Tp.Overflow
import Uds.Tp.EndToEndFd
import Uds.Core.Nrc
import Uds.Core.Session
import Uds.Core.Security
import Uds.Core.Unlocking
import Uds.Core.Attempts
import Uds.Core.Data
import Uds.Core.Dtc
import Uds.Core.DtcReports
import Uds.Core.DtcClear
import Uds.Core.DidStore
import Uds.Bootloader.Atomicity
import Uds.Bootloader.Flash
import Uds.Bootloader.FlashBounds
import Uds.Bootloader.FlashServices
import Uds.Bootloader.FlashStore
import Uds.Bootloader.Programming
import Uds.Bootloader.Protection
import Uds.Ecusim.Dispatch
import Uds.Ecusim.Runs
import Uds.Ecusim.Invariant
import Uds.Ecusim.Revocation
import Uds.Ecusim.Lockout
import Uds.Ecusim.Expiry
import Uds.Ecusim.Reset
import Uds.Ecusim.Responses
import Uds.Ecusim.ResponseFormat
import Uds.Ecusim.ResponseBuffer
import Uds.Ecusim.Refusal
import Uds.Ecusim.Transfers
import Uds.Ecusim.Download
import Uds.Ecusim.ReceiveLoop
import Uds.Ecusim.ReadAccess
import Uds.Tools.Client
import Uds.Tools.Flash
import Uds.Tools.EcuLink
import Uds.Tools.RoundTrip
import Uds.Tools.Security
import Uds.Tools.Transport
import Uds.Tools.Interop
import Uds.Tools.Reception
import Uds.Tools.Agreement
import Uds.Tools.Confinement
import Uds.Tools.Delivery
import Uds.Tools.Requests
import Uds.Tools.Matching
import Uds.PyEcu.Simulator
import Uds.PyEcu.Mirror
import Uds.PyEcu.Link
import Uds.PyEcu.Isolation
import Uds.PyEcu.Framing
import Uds.PyEcu.Exchange
import Uds.PyEcu.FlashSessions
import Uds.Tools.Data
import Uds.Tools.Dtc
import Uds.Core.SessionExpiry
import Uds.Core.Routine
import Uds.Bootloader.Retransmission
import Uds.Tp.FirstFrameFd
import Uds.Tools.UploadProgress
import Uds.Base.Party
import Uds.PyEcu.Exceptions
import Uds.PyEcu.Survival
import Uds.PyEcu.Answers
import Uds.System.Flashing
import Uds.Ecusim.Exchanges
import Uds.Ecusim.Foretelling
import Uds.Tp.LossFd
import Uds.Base.Plan
import Uds.Tools.FlashPlan
import Uds.Tools.UploadPlan
import Uds.Tools.Losses
import Uds.PyEcu.Access
import Uds.PyEcu.Unlocking
