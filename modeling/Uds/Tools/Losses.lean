import Uds.Tools.Delivery
import Uds.Tp.LossFd
/-!
# The Python receiver on a bus that loses frames

`uds_tp_send_fd` against `IsoTpTransport.recv` when frames are lost, lengthened or
mixed with those of other nodes.  The sequence numbers repeat after sixteen frames, so they
alone do not tell that frames are missing; that the receiver wants as many bytes as were
announced does.
-/

namespace Uds.Tools

open Uds.Base Uds.Can Uds.Tp

variable {cap : Nat}

/-! ## The loop over the Consecutive Frames -/

section Loop

variable (tp : IsoTpTransport) (fmt : LinkFormat cap) {data pdu : List UInt8} {base total : Nat}

end Loop

/-! ## `recv` of a CAN FD transport -/

section Fd

variable {tp : IsoTpTransport} {data pdu : List UInt8} {cfg : UdsTpConfig}

end Fd

end Uds.Tools
