import Uds.Base.Memory
import Uds.Ecusim.ResponseFormat
/-!
# The response buffer

The services write their responses piece by piece, two of them in loops that can
stop half way, and the dispatcher may overwrite what they left with a negative
response.  Here the stores to `resp[]` are modelled one by one: none of them goes
past the capacity, and together they leave the response that is sent.
-/

namespace Uds.Ecusim

open Uds.Base Uds.Core Uds.Bootloader

/-- Stores to `resp[]` in their order, by index and bytes. -/
abbrev Writes := List (Nat × List UInt8)

/-! ## Stores of the services -/

/-- A service without a loop stores its response after its last check. -/
def responseWrites : Response → Writes
  | .ok resp => [(0, resp)]
  | .error _ => []

/-- The stores of the loop of `uds_svc_read_did` from position `pos` on. -/
def readDidLoopWrites (reg : UdsDidRegistry) (respSize : Nat) : List UInt16 → Nat → Writes
  | [], _ => []
  | did :: didList, pos =>
    match didFind reg did with
    | none => []
    | some entry =>
      if pos + (2 + entry.data.length) > respSize then []
      else
        (pos, [(did >>> 8).toUInt8, (did &&& 0xFF).toUInt8]) :: (pos + 2, entry.data) ::
          readDidLoopWrites reg respSize didList (pos + (2 + entry.data.length))

def udsSvcReadDidWrites (reg : UdsDidRegistry) (didList : List UInt16) (respSize : Nat) : Writes :=
  if didList.length = 0 then []
  else if respSize < 1 then []
  else (0, [0x62]) :: readDidLoopWrites reg respSize didList 1

/-- The stores of the loops of `uds_svc_read_dtc` from position `pos` on. -/
def dtcRecordLoopWrites (keep : UdsDtcEntry → Bool) (respSize : Nat) :
    UdsDtcRegistry → Nat → Writes
  | [], _ => []
  | e :: reg, pos =>
    if !keep e then dtcRecordLoopWrites keep respSize reg pos
    else if pos + 4 > respSize then []
    else (pos, dtcRecord e) :: dtcRecordLoopWrites keep respSize reg (pos + 4)

def udsSvcReadDtcWrites (reg : UdsDtcRegistry) (subFn : UInt8) (reqData : List UInt8)
    (respSize : Nat) : Writes :=
  let statusMask := reqData.getD 0 0xFF
  if subFn = 0x02 then
    if respSize < 3 then []
    else
      (0, [0x59, 0x02, statusMask]) ::
        dtcRecordLoopWrites (fun e => e.status &&& statusMask ≠ 0) respSize reg 3
  else if subFn = 0x0A then
    if respSize < 3 then []
    else (0, [0x59, 0x0A, 0xFF]) :: dtcRecordLoopWrites (fun _ => true) respSize reg 3
  else responseWrites (udsSvcReadDtc reg subFn reqData respSize)

/-- An upload block is copied behind the header before the header is stored. -/
def transferUploadWrites (xfer : UdsXferSession) (flash : UdsFlashMemory)
    (blockSeqCounter : UInt8) (respSize : Nat) : Writes :=
  if respSize < (2 + xfer.toRead).toNat then []
  else
    match udsFlashRead flash (xfer.address + xfer.transferred) xfer.toRead.toNat with
    | .error _ => []
    | .ok bytes => [(2, bytes), (0, [0x76, blockSeqCounter])]

def udsSvcTransferDataWrites (xfer : UdsXferSession) (flash : UdsFlashMemory)
    (blockSeqCounter : UInt8) (data : List UInt8) (respSize : Nat) : Writes :=
  if xfer.mode = .idle then []
  else if blockSeqCounter ≠ xfer.blockSeq then []
  else if xfer.mode = .download then
    responseWrites (transferDownload xfer flash blockSeqCounter data respSize).2
  else transferUploadWrites xfer flash blockSeqCounter respSize

section Dispatch

variable (sim : EcuSimulator) (env : Env) (req : List UInt8) (respSz : Nat)

/-- The stores of one `case` of the `switch`, up to its negative response. -/
def serveWrites : Service → Writes
  | .readDataByIdentifier =>
    if req.length < 3 ∨ (req.length - 1) % 2 ≠ 0 then []
    else if (req.length - 1) / 2 > 16 then []
    else udsSvcReadDidWrites sim.didReg (didListOf (req.drop 1)) respSz
  | .readDtcInformation =>
    if req.length < 2 then []
    else if (req.getD 1 0 = 0x01 ∨ req.getD 1 0 = 0x02) ∧ req.length < 3 then []
    else udsSvcReadDtcWrites sim.dtcReg (req.getD 1 0) (req.drop 2) respSz
  | .transferData =>
    if req.length < 2 then []
    else udsSvcTransferDataWrites sim.xfer sim.flash (req.getD 1 0) (req.drop 2) respSz
  | svc => responseWrites (serve sim env req respSz svc).2

/-- The stores of `build_nrc`, which does not look at the capacity. -/
def buildNrcWrites (sid : UInt8) : Response → Writes
  | .error (.errNrc nrc) => [(0, buildNrc sid nrc.code)]
  | _ => []

def ecusimDispatchWrites : Writes :=
  match req with
  | [] => []
  | sid :: _ =>
    match Service.ofSid sid with
    | none => [(0, buildNrc sid UdsNrc.serviceNotSupported.code)]
    | some svc =>
      serveWrites sim env req respSz svc ++ buildNrcWrites sid (serve sim env req respSz svc).2

end Dispatch

/-! ## Stores and responses -/

/-- The stores stay inside the buffer and leave the response. -/
structure Wrote (respSize : Nat) (writes : Writes) (r : Response) : Prop where
  inside : ∀ w ∈ writes, w.1 + w.2.length ≤ respSize
  response : ∀ resp, r = .ok resp → ∀ m : Mem UInt8, (m.storeAll writes).load 0 resp.length = resp

theorem Wrote.of_error {respSize : Nat} {e : UdsCoreError} : Wrote respSize [] (.error e) where
  inside := fun w hw => absurd hw List.not_mem_nil
  response := fun resp h => by cases h

theorem Wrote.guarded {respSize : Nat} {c : Prop} [Decidable c] {e : UdsCoreError}
    {writes : Writes} {r : Response} (h : ¬c → Wrote respSize writes r) :
    Wrote respSize (if c then [] else writes) (if c then .error e else r) := by
  by_cases hc : c
  · rw [if_pos hc, if_pos hc]
    exact .of_error
  · rw [if_neg hc, if_neg hc]
    exact h hc

theorem wrote_response {respSize : Nat} {r : Response}
    (h : ∀ resp, r = .ok resp → resp.length ≤ respSize) : Wrote respSize (responseWrites r) r := by
  cases r with
  | error e => exact .of_error
  | ok resp =>
      constructor
      · intro w hw
        rw [List.mem_singleton.mp hw]
        simpa using h resp rfl
      · intro resp' hresp m
        obtain rfl := Except.ok.inj hresp
        exact m.load_store 0 resp

section Loops

variable (respSize : Nat)

theorem readDidLoopWrites_inside (reg : UdsDidRegistry) (dids : List UInt16) (pos : Nat) :
    ∀ w ∈ readDidLoopWrites reg respSize dids pos, w.1 + w.2.length ≤ respSize := by
  induction dids generalizing pos with
  | nil => exact fun w hw => absurd hw List.not_mem_nil
  | cons did dids ih =>
      unfold readDidLoopWrites
      cases didFind reg did with
      | none => exact fun w hw => absurd hw List.not_mem_nil
      | some entry =>
          simp only
          by_cases hroom : pos + (2 + entry.data.length) > respSize
          · rw [if_pos hroom]
            exact fun w hw => absurd hw List.not_mem_nil
          · rw [if_neg hroom]
            intro w hw
            rcases List.mem_cons.mp hw with rfl | hw
            · simp only [List.length_cons, List.length_nil]
              omega
            · rcases List.mem_cons.mp hw with rfl | hw
              · simp only
                omega
              · exact ih _ w hw

theorem readDidLoopWrites_load (reg : UdsDidRegistry) (dids : List UInt16) (resp out : List UInt8)
    (m : Mem UInt8) (hm : m.load 0 resp.length = resp)
    (h : readDidLoop reg respSize dids resp = .ok out) :
    (m.storeAll (readDidLoopWrites reg respSize dids resp.length)).load 0 out.length = out := by
  induction dids generalizing resp m with
  | nil =>
      obtain rfl := Except.ok.inj h
      exact hm
  | cons did dids ih =>
      unfold readDidLoop at h
      unfold readDidLoopWrites
      cases hfind : didFind reg did with
      | none => simp [hfind] at h
      | some entry =>
          simp only [hfind] at h ⊢
          by_cases hroom : resp.length + (2 + entry.data.length) > respSize
          · simp [hroom] at h
          · rw [if_neg hroom] at h ⊢
            rw [Mem.storeAll_cons, Mem.storeAll_cons]
            have hlen : (resp ++ [(did >>> 8).toUInt8, (did &&& 0xFF).toUInt8] ++
                entry.data).length = resp.length + (2 + entry.data.length) := by
              simp only [List.length_append, List.length_cons, List.length_nil]
              omega
            rw [← hlen]
            apply ih _ _ _ h
            have hid := m.load_store_extend resp.length
              [(did >>> 8).toUInt8, (did &&& 0xFF).toUInt8]
            have hdata := (m.store resp.length
              [(did >>> 8).toUInt8, (did &&& 0xFF).toUInt8]).load_store_extend
                (resp.length + 2) entry.data
            rw [hm] at hid
            change Mem.load _ 0 (resp.length + 2) = _ at hid
            rw [hid] at hdata
            rw [hlen, ← Nat.add_assoc]
            exact hdata

theorem dtcRecordLoopWrites_inside (keep : UdsDtcEntry → Bool) (reg : UdsDtcRegistry)
    (pos : Nat) :
    ∀ w ∈ dtcRecordLoopWrites keep respSize reg pos, w.1 + w.2.length ≤ respSize := by
  induction reg generalizing pos with
  | nil => exact fun w hw => absurd hw List.not_mem_nil
  | cons e reg ih =>
      unfold dtcRecordLoopWrites
      split
      · exact ih pos
      · by_cases hroom : pos + 4 > respSize
        · rw [if_pos hroom]
          exact fun w hw => absurd hw List.not_mem_nil
        · rw [if_neg hroom]
          intro w hw
          rcases List.mem_cons.mp hw with rfl | hw
          · change pos + 4 ≤ respSize
            omega
          · exact ih _ w hw

theorem dtcRecordLoopWrites_load (keep : UdsDtcEntry → Bool) (reg : UdsDtcRegistry)
    (resp out : List UInt8) (m : Mem UInt8) (hm : m.load 0 resp.length = resp)
    (h : dtcRecordLoop keep respSize reg resp = .ok out) :
    (m.storeAll (dtcRecordLoopWrites keep respSize reg resp.length)).load 0 out.length = out := by
  induction reg generalizing resp m with
  | nil =>
      obtain rfl := Except.ok.inj h
      exact hm
  | cons e reg ih =>
      unfold dtcRecordLoop at h
      unfold dtcRecordLoopWrites
      by_cases hkeep : (!keep e) = true
      · rw [if_pos hkeep] at h ⊢
        exact ih resp m hm h
      · rw [if_neg hkeep] at h ⊢
        by_cases hroom : resp.length + 4 > respSize
        · simp [hroom] at h
        · rw [if_neg hroom] at h ⊢
          rw [Mem.storeAll_cons]
          have hlen : (resp ++ dtcRecord e).length = resp.length + 4 := List.length_append
          rw [← hlen]
          apply ih _ _ _ h
          have hrecord := m.load_store_extend resp.length (dtcRecord e)
          rw [hm] at hrecord
          rw [hlen]
          exact hrecord

theorem wrote_loop (start : List UInt8) {writes : Writes} {r : Response}
    (hstart : start.length ≤ respSize) (hinside : ∀ w ∈ writes, w.1 + w.2.length ≤ respSize)
    (hload : ∀ out, r = .ok out → ∀ m : Mem UInt8, m.load 0 start.length = start →
      (m.storeAll writes).load 0 out.length = out) :
    Wrote respSize ((0, start) :: writes) r where
  inside := by
    intro w hw
    rcases List.mem_cons.mp hw with rfl | hw
    · simpa using hstart
    · exact hinside w hw
  response := by
    intro resp hresp m
    rw [Mem.storeAll_cons]
    exact hload resp hresp _ (m.load_store 0 start)

theorem wrote_readDid (reg : UdsDidRegistry) (dids : List UInt16) :
    Wrote respSize (udsSvcReadDidWrites reg dids respSize) (udsSvcReadDid reg dids respSize) := by
  unfold udsSvcReadDidWrites udsSvcReadDid
  refine .guarded fun _ => .guarded fun hsize => ?_
  apply wrote_loop respSize [0x62] (Nat.not_lt.mp hsize)
    (readDidLoopWrites_inside respSize reg dids 1)
  intro out hout m hm
  exact readDidLoopWrites_load respSize reg dids [0x62] out m hm hout

theorem wrote_dtcRecords (keep : UdsDtcEntry → Bool) (reg : UdsDtcRegistry) (a b c : UInt8) :
    Wrote respSize
      (if respSize < 3 then []
        else (0, [a, b, c]) :: dtcRecordLoopWrites keep respSize reg 3)
      (if respSize < 3 then .error .errBuf else dtcRecordLoop keep respSize reg [a, b, c]) := by
  refine .guarded fun hsize => ?_
  apply wrote_loop respSize [a, b, c] (Nat.not_lt.mp hsize)
    (dtcRecordLoopWrites_inside respSize keep reg 3)
  intro out hout m hm
  exact dtcRecordLoopWrites_load respSize keep reg [a, b, c] out m hm hout

theorem wrote_readDtc (reg : UdsDtcRegistry) (subFn : UInt8) (reqData : List UInt8) :
    Wrote respSize (udsSvcReadDtcWrites reg subFn reqData respSize)
      (udsSvcReadDtc reg subFn reqData respSize) := by
  by_cases h02 : subFn = 0x02
  · subst h02
    exact wrote_dtcRecords respSize _ reg 0x59 0x02 (reqData.getD 0 0xFF)
  · by_cases h0A : subFn = 0x0A
    · subst h0A
      exact wrote_dtcRecords respSize _ reg 0x59 0x0A 0xFF
    · unfold udsSvcReadDtcWrites
      simp only
      rw [if_neg h02, if_neg h0A]
      apply wrote_response
      intro resp hresp
      have hsends := sends_readDtc respSize reg subFn reqData
      rw [hresp] at hsends
      exact hsends.2

end Loops

/-! ## The services and the dispatcher -/

theorem Wrote.of_ok {respSize : Nat} {writes : Writes} {resp : List UInt8}
    (hinside : ∀ w ∈ writes, w.1 + w.2.length ≤ respSize)
    (hload : ∀ m : Mem UInt8, (m.storeAll writes).load 0 resp.length = resp) :
    Wrote respSize writes (.ok resp) where
  inside := hinside
  response := by
    intro resp' hresp m
    obtain rfl := Except.ok.inj hresp
    exact hload m

theorem wrote_transferUpload (xfer : UdsXferSession) (flash : UdsFlashMemory) (seq : UInt8)
    (respSize : Nat) :
    Wrote respSize (transferUploadWrites xfer flash seq respSize)
      (transferUpload xfer flash seq respSize).2 := by
  unfold transferUploadWrites transferUpload
  by_cases hsize : respSize < (2 + xfer.toRead).toNat
  · rw [if_pos hsize, if_pos hsize]
    exact .of_error
  · rw [if_neg hsize, if_neg hsize]
    have hsum := toNat_two_add_toRead xfer
    cases hread : udsFlashRead flash (xfer.address + xfer.transferred) xfer.toRead.toNat with
    | error e => exact .of_error
    | ok bytes =>
        have hlen : bytes.length = xfer.toRead.toNat := by
          rw [(udsFlashRead_eq_ok.mp hread).2.2.2, Mem.length_load]
        apply Wrote.of_ok
        · intro w hw
          rcases List.mem_cons.mp hw with rfl | hw
          · simp only
            omega
          · rw [List.mem_singleton.mp hw]
            simp only [List.length_cons, List.length_nil]
            omega
        · intro m
          rw [Mem.storeAll_cons, Mem.storeAll_cons, Mem.storeAll_nil, List.length_append,
            Mem.load_add, Mem.load_store]
          congr 1
          rw [Mem.load_store_above _ _ _ _ _ le_rfl]
          exact m.load_store 2 bytes

theorem wrote_transferData (xfer : UdsXferSession) (flash : UdsFlashMemory) (seq : UInt8)
    (data : List UInt8) (respSize : Nat) :
    Wrote respSize (udsSvcTransferDataWrites xfer flash seq data respSize)
      (udsSvcTransferData xfer flash seq data respSize).2 := by
  have hsends := sends_transferData respSize xfer flash seq data
  unfold udsSvcTransferDataWrites
  unfold udsSvcTransferData at hsends ⊢
  by_cases hidle : xfer.mode = .idle
  · rw [if_pos hidle, if_pos hidle]
    exact .of_error
  · rw [if_neg hidle] at hsends ⊢
    rw [if_neg hidle]
    by_cases hseq : seq ≠ xfer.blockSeq
    · rw [if_pos hseq, if_pos hseq]
      exact .of_error
    · rw [if_neg hseq] at hsends ⊢
      rw [if_neg hseq]
      by_cases hdown : xfer.mode = .download
      · rw [if_pos hdown] at hsends ⊢
        rw [if_pos hdown]
        apply wrote_response
        intro resp hresp
        rw [hresp] at hsends
        exact hsends.2
      · rw [if_neg hdown, if_neg hdown]
        exact wrote_transferUpload xfer flash seq respSize

section Dispatch

variable (sim : EcuSimulator) (env : Env) (respSz : Nat)

theorem wrote_serve_response (svc : Service) (args : List UInt8) :
    Wrote respSz (responseWrites (serve sim env (svc.sid :: args) respSz svc).2)
      (serve sim env (svc.sid :: args) respSz svc).2 := by
  apply wrote_response
  intro resp hresp
  have hecho := echoing_serve sim env respSz svc args
  rw [hresp] at hecho
  by_cases hempty : resp = []
  · simp [hempty]
  · exact (hecho hempty).2

theorem wrote_serve (svc : Service) (args : List UInt8) :
    Wrote respSz (serveWrites sim env (svc.sid :: args) respSz svc)
      (serve sim env (svc.sid :: args) respSz svc).2 := by
  have hdirect := wrote_serve_response sim env respSz svc args
  cases svc with
  | readDataByIdentifier =>
      simp only [serveWrites, serve]
      split
      · exact .of_error
      · split
        · exact .of_error
        · exact wrote_readDid respSz sim.didReg _
  | readDtcInformation =>
      simp only [serveWrites, serve]
      split
      · exact .of_error
      · split
        · exact .of_error
        · exact wrote_readDtc respSz sim.dtcReg _ _
  | transferData =>
      simp only [serveWrites, serve]
      split
      · exact .of_error
      · exact wrote_transferData sim.xfer sim.flash _ _ respSz
  | _ => exact hdirect

theorem ecusimDispatchWrites_sid (svc : Service) (args : List UInt8) :
    ecusimDispatchWrites sim env (svc.sid :: args) respSz =
      serveWrites sim env (svc.sid :: args) respSz svc ++
        buildNrcWrites svc.sid (serve sim env (svc.sid :: args) respSz svc).2 := by
  unfold ecusimDispatchWrites
  simp only [ofSid_sid]

theorem ecusimDispatchWrites_unknown {sid : UInt8} (h : Service.ofSid sid = none)
    (args : List UInt8) :
    ecusimDispatchWrites sim env (sid :: args) respSz =
      [(0, [0x7F, sid, UdsNrc.serviceNotSupported.code])] := by
  unfold ecusimDispatchWrites
  simp only [h, buildNrc]

theorem ecusimDispatchWrites_inside (req : List UInt8) (hsize : 3 ≤ respSz) :
    ∀ w ∈ ecusimDispatchWrites sim env req respSz, w.1 + w.2.length ≤ respSz := by
  cases req with
  | nil => exact fun w hw => absurd hw List.not_mem_nil
  | cons sid args =>
      cases hsid : Service.ofSid sid with
      | none =>
          rw [ecusimDispatchWrites_unknown sim env respSz hsid]
          intro w hw
          rw [List.mem_singleton.mp hw]
          exact hsize
      | some svc =>
          obtain rfl := sid_of_ofSid hsid
          rw [ecusimDispatchWrites_sid]
          intro w hw
          rcases List.mem_append.mp hw with hw | hw
          · exact (wrote_serve sim env respSz svc args).inside w hw
          · unfold buildNrcWrites at hw
            split at hw
            · rw [List.mem_singleton.mp hw]
              exact hsize
            · exact absurd hw List.not_mem_nil

theorem ecusimDispatchWrites_load (req : List UInt8) (m : Mem UInt8) :
    (m.storeAll (ecusimDispatchWrites sim env req respSz)).load 0
        (ecusimDispatch sim env req respSz).2.length =
      (ecusimDispatch sim env req respSz).2 := by
  cases req with
  | nil => rfl
  | cons sid args =>
      cases hsid : Service.ofSid sid with
      | none =>
          rw [ecusimDispatch_unknown hsid, ecusimDispatchWrites_unknown sim env respSz hsid]
          exact m.load_store 0 [0x7F, sid, UdsNrc.serviceNotSupported.code]
      | some svc =>
          obtain rfl := sid_of_ofSid hsid
          have hwrote := wrote_serve sim env respSz svc args
          rw [ecusimDispatch_sid, ecusimDispatchWrites_sid, Mem.storeAll_append]
          generalize serve sim env (svc.sid :: args) respSz svc = out at hwrote ⊢
          cases hout : out.2 with
          | ok resp => exact hwrote.response resp hout m
          | error e =>
              cases e with
              | errNrc nrc =>
                  rw [reply_error]
                  exact Mem.load_store _ 0 _
              | errParam => rfl
              | errBuf => rfl

/-- From any state and for any non-empty request: a response that is sent has at
most 4095 bytes and is negative or echoes the request; all stores stay inside
the buffer, and what is sent is what they left there. -/
theorem ecusimDispatch_wellFormed (sid : UInt8) (args : List UInt8) :
    ((ecusimDispatch sim env (sid :: args) ecusimMaxPdu).2 ≠ [] →
      (ecusimDispatch sim env (sid :: args) ecusimMaxPdu).2.length ≤ ecusimMaxPdu ∧
        (Negative sid (ecusimDispatch sim env (sid :: args) ecusimMaxPdu).2 ∨
          ∃ svc : Service, svc.sid = sid ∧
            Echoes svc (sid :: args) (ecusimDispatch sim env (sid :: args) ecusimMaxPdu).2)) ∧
      (∀ w ∈ ecusimDispatchWrites sim env (sid :: args) ecusimMaxPdu,
        w.1 + w.2.length ≤ ecusimMaxPdu) ∧
        ∀ m : Mem UInt8,
          (m.storeAll (ecusimDispatchWrites sim env (sid :: args) ecusimMaxPdu)).load 0
              (ecusimDispatch sim env (sid :: args) ecusimMaxPdu).2.length =
            (ecusimDispatch sim env (sid :: args) ecusimMaxPdu).2 := by
  refine ⟨?_, ecusimDispatchWrites_inside sim env _ _ (by decide),
    ecusimDispatchWrites_load sim env _ _⟩
  intro hsent
  rcases ecusimDispatch_format sim env sid args ecusimMaxPdu hsent with
    hneg | ⟨svc, hsvc, hecho, hlen⟩
  · have hlen : (ecusimDispatch sim env (sid :: args) ecusimMaxPdu).2.length = 3 := by
      obtain ⟨nrc, -, hresp⟩ := hneg
      rw [hresp]
      rfl
    refine ⟨?_, Or.inl hneg⟩
    rw [hlen]
    decide
  · exact ⟨hlen, Or.inr ⟨svc, hsvc, hecho⟩⟩

end Dispatch

end Uds.Ecusim
