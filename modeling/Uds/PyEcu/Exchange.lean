import Uds.PyEcu.Framing
/-!
# A response on its way

The thread of `EcuSimulator` dispatches a request and sends the response while the
client awaits it.  Both alone run in lock step, which decides every run.  The client
never returns more than 4095 bytes, whatever it receives.
-/

namespace Uds.PyEcu

open Uds.Base Uds.Base.Peer Uds.Can Uds.Tp Uds.Tools

/-! ## Client and simulator in lock step -/

/-- Both parties and what is on the way to them. -/
structure Exchange where
  client : UdsClient
  sim : EcuSimulator
  toClient : List CanFrame
  toEcu : List CanFrame

section Lockstep

variable {polls : Nat} {env : Surroundings} (x : Nat)

/-- Where client and simulator `x` are. -/
structure At (c : (labBus polls env).Config) (e : Exchange) : Prop where
  client : c.state (.client x) = e.client
  sim : c.state (.server x) = e.sim
  toClient : c.inbox (.client x) = e.toClient
  toEcu : c.inbox (.server x) = e.toEcu

/-- The two come from one exchange to another. -/
def Leads (polls : Nat) (env : Surroundings) (e e' : Exchange) : Prop :=
  ∀ c : (labBus polls env).Config, At x c e →
    ∃ c', Relation.ReflTransGen ((labBus polls env).Step (pair x)) c c' ∧ At x c' e'

variable {x}

theorem Leads.trans {e e' e'' : Exchange} (h : Leads x polls env e e')
    (h' : Leads x polls env e' e'') : Leads x polls env e e'' := by
  intro c hc
  obtain ⟨c', hrun, hc'⟩ := h c hc
  obtain ⟨c'', hrun', hc''⟩ := h' c' hc'
  exact ⟨c'', hrun.trans hrun', hc''⟩

section Moves

variable {client client' : UdsClient} {sim sim' : EcuSimulator} {qc qe q : List CanFrame}
  {sent : Option CanFrame}

theorem leads_of_client
    (hr : (labBus polls env).react (i := .client x) client qc = some ⟨client', q, sent⟩) :
    Leads x polls env ⟨client, sim, qc, qe⟩ ⟨client', sim, q, qe ++ sent.toList⟩ := by
  intro c hc
  have hne : Peer.server x ≠ .client x := (client_ne_server x x).symm
  have hr : (labBus polls env).react (c.state (.client x)) (c.inbox (.client x)) =
      some ⟨client', q, sent⟩ := by
    rw [hc.client, hc.toClient]
    exact hr
  refine ⟨_, .single (.move pair_client hr), ?_, ?_, ?_, ?_⟩
  · exact Network.commit_state_self ..
  · exact (Network.commit_state_of_ne (i := .client x) c _ _ hne).trans hc.sim
  · exact Network.commit_inbox_self ..
  · rw [Network.commit_inbox_of_ne (i := .client x) c _ _ hne pair_server, hc.toEcu]
    exact congrArg (qe ++ Option.toList ·) Option.map_id'

theorem leads_of_ecu
    (hr : (labBus polls env).react (i := .server x) sim qe = some ⟨sim', q, sent⟩) :
    Leads x polls env ⟨client, sim, qc, qe⟩ ⟨client, sim', qc ++ sent.toList, q⟩ := by
  intro c hc
  have hne : Peer.client x ≠ .server x := client_ne_server x x
  have hr : (labBus polls env).react (c.state (.server x)) (c.inbox (.server x)) =
      some ⟨sim', q, sent⟩ := by
    rw [hc.sim, hc.toEcu]
    exact hr
  refine ⟨_, .single (.move pair_server hr), ?_, ?_, ?_, ?_⟩
  · exact (Network.commit_state_of_ne (i := .server x) c _ _ hne).trans hc.client
  · exact Network.commit_state_self ..
  · rw [Network.commit_inbox_of_ne (i := .server x) c _ _ hne pair_client, hc.toClient]
    exact congrArg (qc ++ Option.toList ·) Option.map_id'
  · exact Network.commit_inbox_self ..

end Moves

/-- A client with one request, in the middle of it. -/
def awaiting (code : PyRecv 8) : UdsClient := .requesting [] code fun _ => .done

/-- The thread in the middle of `_send_isotp`. -/
def responding (sim : EcuSimulator) (code : EcuCode Unit) : EcuSimulator :=
  { sim with doing := .responding code }

variable (sim : EcuSimulator) (g : PyResult → PyRecv 8)

theorem leads_frame (polls : Nat) (env : Surroundings) {f : CanFrame} (hid : f.canId = txId x)
    (s : EcuCode Unit) (k : Option (List UInt8) → PyRecv 8) :
    Leads x polls env
      ⟨awaiting (((UdsClient.transport polls x).awaitFrame k).bind g),
        responding sim (.send f s), [], []⟩
      ⟨awaiting ((k (some (msgData f))).bind g), responding sim s, [], []⟩ := by
  have haccepts : decide (f.canId = (UdsClient.transport polls x).rxId) = true :=
    decide_eq_true hid
  have hsend : Leads x polls env
      ⟨awaiting (((UdsClient.transport polls x).awaitFrame k).bind g),
        responding sim (.send f s), [], []⟩
      ⟨awaiting (((UdsClient.transport polls x).awaitFrame k).bind g),
        responding sim s, [f], []⟩ :=
    leads_of_ecu (Network.react_send (i := Peer.server x) rfl [])
  have hrecv := Network.react_recv (b := labBus polls env) (i := Peer.client x)
    (s := awaiting (((UdsClient.transport polls x).awaitFrame k).bind g))
    (k := fun f => awaiting ((k (some (msgData f))).bind g)) rfl haccepts []
  exact hsend.trans (leads_of_client hrecv)

theorem leads_flowControl (polls : Nat) (env : Surroundings) (hx : 0x680 + x ≤ 0x7FF)
    (fc : CanFrame) (hid : fc.canId = rxId x) (r : PyRecv 8)
    (k : Option (List UInt8) → EcuCode Unit) :
    Leads x polls env
      ⟨awaiting ((Agent.send fc r).bind g), responding sim (recvRawFrame x k), [], []⟩
      ⟨awaiting (r.bind g), responding sim (k (some (msgData fc))), [], []⟩ := by
  have haccepts : decide (fc.canId &&& 0x7FF = rxId x) = true := by
    rw [decide_eq_true_iff, hid]
    exact and_7FF (by omega)
  have hsend : Leads x polls env
      ⟨awaiting ((Agent.send fc r).bind g), responding sim (recvRawFrame x k), [], []⟩
      ⟨awaiting (r.bind g), responding sim (recvRawFrame x k), [], [fc]⟩ :=
    leads_of_client (Network.react_send (i := Peer.client x) rfl [])
  have hrecv := Network.react_recv (b := labBus polls env) (i := Peer.server x)
    (s := responding sim (recvRawFrame x k))
    (k := fun f => responding sim (k (some (msgData f)))) rfl haccepts []
  exact hsend.trans (leads_of_ecu hrecv)

end Lockstep

/-! ## The loops -/

section Loops

variable {polls : Nat} {env : Surroundings} {x : Nat} (sim : EcuSimulator)
  (g : PyResult → PyRecv 8) (pdu : List UInt8)

theorem sendConsecutive_of_lt {i : Nat} (hi : i < classic.cfCount 6 pdu.length) :
    sendConsecutive x pdu (classic.offset 6 i) ((i + 1) % 16) =
      .send (consecutiveFrame classic (txId x) pdu 6 i)
        (sendConsecutive x pdu (classic.offset 6 i +
          min classic.cfDataBytes (pdu.length - classic.offset 6 i)) ((i + 1 + 1) % 16)) := by
  have hlt := (classic.lt_cfCount_iff 6 pdu.length i).mp hi
  have hlen : ((pdu.drop (classic.offset 6 i)).take 7).length =
      min classic.cfDataBytes (pdu.length - classic.offset 6 i) :=
    length_cfContent classic pdu 6 i
  have hframe := makeCf_eq ⟨txId x, rxId x, 0⟩ classic pdu 6 i (List.length_take_le ..)
  rw [sendConsecutive, dif_pos hlt]
  simp only [sn_succ, hlen]
  exact congrArg (Agent.send · _) hframe

theorem sendConsecutive_of_le {offset : Nat} (sn : Nat) (h : pdu.length ≤ offset) :
    sendConsecutive x pdu offset sn = .ret (.ok ()) := by
  rw [sendConsecutive, dif_neg (by omega)]

theorem leads_round (polls : Nat) (env : Surroundings) (x : Nat) {i : Nat}
    (hi : i < classic.cfCount 6 pdu.length) (n : Nat) :
    Leads x polls env
      ⟨awaiting (((UdsClient.transport polls x).recvLoop classic pdu.length (n + 1)
          ((i + 1) % 16) (pdu.take (classic.offset 6 i))).bind g),
        responding sim (sendConsecutive x pdu (classic.offset 6 i) ((i + 1) % 16)), [], []⟩
      ⟨awaiting (((UdsClient.transport polls x).recvLoop classic pdu.length n
          ((i + 1 + 1) % 16) (pdu.take (classic.offset 6 i +
            min classic.cfDataBytes (pdu.length - classic.offset 6 i)))).bind g),
        responding sim (sendConsecutive x pdu (classic.offset 6 i +
          min classic.cfDataBytes (pdu.length - classic.offset 6 i)) ((i + 1 + 1) % 16)),
        [], []⟩ := by
  have hlt := (classic.lt_cfCount_iff 6 pdu.length i).mp hi
  have hbuf : (pdu.take (classic.offset 6 i)).length < pdu.length := by
    rw [List.length_take]
    omega
  have hframe := leads_frame sim g polls env
    (f := consecutiveFrame classic (txId x) pdu 6 i) rfl
    (sendConsecutive x pdu (classic.offset 6 i +
      min classic.cfDataBytes (pdu.length - classic.offset 6 i)) ((i + 1 + 1) % 16))
    (onConsecutive classic pdu.length ((i + 1) % 16) (pdu.take (classic.offset 6 i)) fun buf =>
      (UdsClient.transport polls x).recvLoop classic pdu.length n (((i + 1) % 16 + 1) &&& 0x0F)
        buf)
  have hnext := onConsecutive_of_carries (UdsClient.transport polls x) classic pdu 6 hi
    (.refl (consecutiveFrame classic (txId x) pdu 6 i)) fun buf =>
      (UdsClient.transport polls x).recvLoop classic pdu.length n (((i + 1) % 16 + 1) &&& 0x0F)
        buf
  rw [hnext, sn_succ] at hframe
  rw [sendConsecutive_of_lt pdu hi, IsoTpTransport.recvLoop_of_lt _ classic n _ hbuf, sn_succ]
  exact hframe

theorem leads_loop (polls : Nat) (env : Surroundings) (x : Nat) {n i : Nat}
    (hn : i + n = classic.cfCount 6 pdu.length) {left : Nat} (hleft : n ≤ left) (hlt : 0 < n) :
    Leads x polls env
      ⟨awaiting (((UdsClient.transport polls x).recvLoop classic pdu.length left
          ((i + 1) % 16) (pdu.take (classic.offset 6 i))).bind g),
        responding sim (sendConsecutive x pdu (classic.offset 6 i) ((i + 1) % 16)), [], []⟩
      ⟨awaiting (g (.ok pdu)), responding sim (.ret (.ok ())), [], []⟩ := by
  -- induction on the frames left
  induction n generalizing i left with
  | zero => exact absurd hlt (Nat.lt_irrefl 0)
  | succ n ih =>
      obtain ⟨left, rfl⟩ : ∃ m, left = m + 1 := Nat.exists_eq_succ_of_ne_zero (by omega)
      have hround := leads_round sim g pdu polls env x (i := i) (by omega) left
      by_cases hlast : i + 1 = classic.cfCount 6 pdu.length
      · rw [classic.offset_add_chunk_last 6 hlast, List.take_length,
          sendConsecutive_of_le pdu _ le_rfl, IsoTpTransport.recvLoop_of_le _ classic _ _ le_rfl,
          List.take_length] at hround
        exact hround
      · rw [classic.offset_add_chunk 6 (by omega)] at hround
        exact hround.trans (ih (i := i + 1) (by omega) (by omega) (by omega))

theorem leads_single (hpos : 1 ≤ pdu.length) (hle : pdu.length ≤ 7) (hpolls : polls ≠ 0) :
    Leads x polls env
      ⟨awaiting ((UdsClient.transport polls x).recv.bind g), responding sim (sendIsotp x pdu),
        [], []⟩
      ⟨awaiting (g (.ok pdu)), responding sim (.ret (.ok ())), [], []⟩ := by
  obtain ⟨left, rfl⟩ := Nat.exists_eq_succ_of_ne_zero hpolls
  have hbytes : (UInt8.ofNat pdu.length :: pdu).length ≤ 8 := by
    rw [List.length_cons]
    omega
  have hframe := leads_frame sim g (left + 1) env
    (f := ecuFrame x (UInt8.ofNat pdu.length :: pdu)) rfl (.ret (.ok ()))
    (IsoTpTransport.onFirstFrame false
      ((UdsClient.transport (left + 1) x).recvMultiClassic · left))
  obtain ⟨n, hdata, -⟩ := msgData_of_carries hbytes
    (.refl (ecuFrame x (UInt8.ofNat pdu.length :: pdu)))
  rw [hdata, List.cons_append, onFirstFrame_of_single false _ (by
    rw [pciType_ofNat (by omega)]
    omega) (decodeSf_short false hpos hle n)] at hframe
  rw [sendIsotp, if_pos hle]
  exact hframe

theorem leads_multi (hx : 0x680 + x ≤ 0x7FF) (hgt : 7 < pdu.length) (hle : pdu.length ≤ 4095)
    (hpolls : classic.cfCount 6 pdu.length < polls) :
    Leads x polls env
      ⟨awaiting ((UdsClient.transport polls x).recv.bind g), responding sim (sendIsotp x pdu),
        [], []⟩
      ⟨awaiting (g (.ok pdu)), responding sim (.ret (.ok ())), [], []⟩ := by
  obtain ⟨left, rfl⟩ := Nat.exists_eq_succ_of_ne_zero (Nat.ne_zero_of_lt hpolls)
  have hcount : 0 < classic.cfCount 6 pdu.length :=
    (classic.lt_cfCount_iff 6 pdu.length 0).mpr (show 6 < pdu.length by omega)
  obtain ⟨k, hsend, hnext⟩ := sendIsotp_multi x hgt
  generalize hb₀ : UInt8.ofNat (0x10 ||| ((pdu.length >>> 8) &&& 0x0F)) = b₀ at hsend
  generalize hb₁ : UInt8.ofNat (pdu.length &&& 0xFF) = b₁ at hsend
  have htype : pciType b₀ = 1 := by rw [← hb₀, pciType_first]
  have htotal : ((b₀.toNat &&& 0x0F) <<< 8) ||| b₁.toNat = pdu.length := by
    rw [← hb₀, ← hb₁, length_first]
    exact Nat.mod_eq_of_lt (by omega)
  have hbytes : ([b₀, b₁] ++ pdu.take 6).length = 8 := by
    rw [List.length_append, List.length_take]
    change 2 + _ = 8
    omega
  have hdata : msgData (ecuFrame x ([b₀, b₁] ++ pdu.take 6)) = [b₀, b₁] ++ pdu.take 6 :=
    msgData_full keeps_id (txId x) hbytes
  -- the First Frame
  have hfirst := leads_frame sim g (left + 1) env
    (f := ecuFrame x ([b₀, b₁] ++ pdu.take 6)) rfl (recvRawFrame x k)
    (IsoTpTransport.onFirstFrame false
      ((UdsClient.transport (left + 1) x).recvMultiClassic · left))
  rw [hdata, List.cons_append, onFirstFrame_of_first false _ htype, List.cons_append,
    List.nil_append, IsoTpTransport.recvMultiClassic, htotal, List.take_take] at hfirst
  -- Flow Control
  have hflow := leads_flowControl sim g (left + 1) env hx
    (.ofBytes (rxId x) 8 le_rfl [0x30, 0x00, 0x00]) rfl
    ((UdsClient.transport (left + 1) x).recvLoop classic pdu.length left 1 (pdu.take 6)) k
  have hcts : k (some (msgData (.ofBytes (rxId x) 8 le_rfl [0x30, 0x00, 0x00]))) =
      sendConsecutive x pdu 6 1 := hnext 0x30 (List.replicate 7 0) rfl
  rw [hcts] at hflow
  have hloop := leads_loop sim g pdu (left + 1) env x (i := 0) (Nat.zero_add _)
    (Nat.le_of_lt_succ hpolls) hcount
  rw [hsend]
  exact (hfirst.trans hflow).trans hloop

end Loops

/-! ## What the client receives -/

section Received

variable (polls : Nat) (env : Surroundings)

/-- The threads have a request, and the clients await the response. -/
def requested (ecu : EcuState) (n : Nat) (req : List UInt8) : (labBus polls env).Config where
  state := fun
    | .client x =>
      awaiting (awaitPending (UdsClient.transport polls x) req (maxPendingRetries + 1))
    | .server _ => EcuSimulator.mk ecu n (.receiving (.ret (.ok (some req))))
  inbox := fun _ => []

variable {polls env}

/-- The request of client `x` has returned the response. -/
def Received (x : Nat) (resp : List UInt8) (c : (labBus polls env).Config) : Prop :=
  UdsClient.results (c.state (.client x)) = [.ok resp]

variable {x n : Nat} {ecu ecu' : EcuState} {req resp : List UInt8}

/-- Dispatch, response and result. -/
theorem leads_response (hx : 0x680 + x ≤ 0x7FF) (hpolls : classicFrames resp.length ≤ polls)
    (hdispatch : dispatch ecu (env.draws x n) req = (ecu', some resp)) (hpos : 1 ≤ resp.length)
    (hhead : resp.getD 0 0 ≠ sidNrc) (hle : resp.length ≤ 4095) :
    Leads x polls env
      ⟨awaiting (awaitPending (UdsClient.transport polls x) req (maxPendingRetries + 1)),
        ⟨ecu, n, .receiving (.ret (.ok (some req)))⟩, [], []⟩
      ⟨.ready [.ok resp] .done, ⟨ecu', n + 1, .receiving (recvIsotp x env.polls)⟩, [], []⟩ := by
  have hrequest : (EcuSimulator.mk ecu n (.receiving (.ret (.ok (some req))))).onRequest env x req =
      ⟨ecu', n + 1, .responding (sendIsotp x resp)⟩ := by
    unfold EcuSimulator.onRequest
    simp only [hdispatch, Option.getD_some]
    rw [if_pos (show resp.length > 0 from hpos)]
  have hresult : onResponse (awaitPending (UdsClient.transport polls x) req maxPendingRetries)
      (.ok resp) = .ret (.ok resp) := by
    rw [onResponse, if_neg fun h => hhead h.2]
  have hdispatched : Leads x polls env
      ⟨awaiting (awaitPending (UdsClient.transport polls x) req (maxPendingRetries + 1)),
        ⟨ecu, n, .receiving (.ret (.ok (some req)))⟩, [], []⟩
      ⟨awaiting (awaitPending (UdsClient.transport polls x) req (maxPendingRetries + 1)),
        ⟨ecu', n + 1, .responding (sendIsotp x resp)⟩, [], []⟩ := by
    rw [← hrequest]
    exact leads_of_ecu (Network.react_internal (i := Peer.server x) rfl [])
  have hsent : Leads x polls env
      ⟨awaiting (awaitPending (UdsClient.transport polls x) req (maxPendingRetries + 1)),
        ⟨ecu', n + 1, .responding (sendIsotp x resp)⟩, [], []⟩
      ⟨awaiting (.ret (.ok resp)), ⟨ecu', n + 1, .responding (.ret (.ok ()))⟩, [], []⟩ := by
    rw [← hresult]
    unfold classicFrames at hpolls
    by_cases hsingle : resp.length ≤ 7
    · rw [if_pos hsingle] at hpolls
      exact leads_single ⟨ecu', n + 1, .responding (sendIsotp x resp)⟩ _ resp hpos hsingle
        (by omega)
    · rw [if_neg hsingle] at hpolls
      exact leads_multi ⟨ecu', n + 1, .responding (sendIsotp x resp)⟩ _ resp hx (by omega) hle
        (by omega)
  have hclient : Leads x polls env
      ⟨awaiting (.ret (.ok resp)), ⟨ecu', n + 1, .responding (.ret (.ok ()))⟩, [], []⟩
      ⟨.ready [.ok resp] .done, ⟨ecu', n + 1, .responding (.ret (.ok ()))⟩, [], []⟩ :=
    leads_of_client (Network.react_internal (i := Peer.client x) rfl [])
  have hecu : Leads x polls env
      ⟨.ready [.ok resp] .done, ⟨ecu', n + 1, .responding (.ret (.ok ()))⟩, [], []⟩
      ⟨.ready [.ok resp] .done, ⟨ecu', n + 1, .receiving (recvIsotp x env.polls)⟩, [], []⟩ :=
    leads_of_ecu (Network.react_internal (i := Peer.server x) rfl [])
  exact ((hdispatched.trans hsent).trans hclient).trans hecu

theorem normal_done (henv : env.polls ≠ 0) {c : (labBus polls env).Config}
    {results : List PyResult}
    (hc : At x c ⟨.ready results .done, ⟨ecu, n, .receiving (recvIsotp x env.polls)⟩, [], []⟩) :
    Normal ((labBus polls env).Step (pair x)) c := by
  obtain ⟨left, hleft⟩ := Nat.exists_eq_succ_of_ne_zero henv
  rintro _ ⟨hi, hr⟩
  rename_i i r
  rw [pair_iff] at hi
  cases i with
  | client a =>
      obtain rfl : a = x := hi
      rw [hc.client, hc.toClient] at hr
      cases hr
  | server a =>
      obtain rfl : a = x := hi
      rw [hc.sim, hc.toEcu] at hr
      simp only [hleft] at hr
      cases hr

theorem response_received (hx : 0x680 + x ≤ 0x7FF) (hpolls : classicFrames resp.length ≤ polls)
    (henv : env.polls ≠ 0) (hdispatch : dispatch ecu (env.draws x n) req = (ecu', some resp))
    (hpos : 1 ≤ resp.length) (hhead : resp.getD 0 0 ≠ sidNrc) (hle : resp.length ≤ 4095) :
    Inevitable ((labBus polls env).Step (pair x)) (Received x resp)
      (requested polls env ecu n req) := by
  obtain ⟨c, hrun, hc⟩ := leads_response hx hpolls hdispatch hpos hhead hle
    (requested polls env ecu n req) ⟨rfl, rfl, rfl, rfl⟩
  have hend := (Network.diamond_of_isPair (isPair_pair x)).inevitable_eq hrun
    (normal_done henv hc)
  apply hend.mono
  rintro _ rfl
  unfold Received
  rw [hc.client]
  rfl

end Received

/-! ## The longest result -/

section Longest

/-- An exception, or at most 4095 bytes. -/
def Short (result : PyResult) : Prop := ∀ pdu, result = .ok pdu → pdu.length ≤ 4095

theorem short_error (e : PyError) : Short (.error e) := fun _ h => by cases h

theorem short_ok {pdu : List UInt8} (h : pdu.length ≤ 4095) : Short (.ok pdu) := by
  rintro _ ⟨⟩
  exact h

variable (tp : IsoTpTransport)

theorem every_recvLoop {total : Nat} (h : total ≤ 4095) (left sn : Nat) (buf : List UInt8) :
    (tp.recvLoop classic total left sn buf).Every Short := by
  have htake (buf : List UInt8) : Short (.ok (buf.take total)) := by
    apply short_ok
    rw [List.length_take]
    omega
  induction left generalizing sn buf with
  | zero =>
      rw [IsoTpTransport.recvLoop]
      split
      · exact short_error _
      · exact htake buf
  | succ left ih =>
      have hnext (frame : Option (List UInt8)) :
          (onConsecutive classic total sn buf (fun buf =>
            tp.recvLoop classic total left ((sn + 1) &&& 0x0F) buf) frame).Every Short := by
        unfold onConsecutive
        split
        · exact short_error _
        · exact short_error _
        · dsimp only
          split
          · exact short_error _
          · split
            · exact short_error _
            · exact ih _ _
      rw [IsoTpTransport.recvLoop]
      split
      · exact ⟨fun f => hnext (some (msgData f)), hnext none⟩
      · exact htake buf

theorem every_recvMultiClassic (frame : List UInt8) (left : Nat) :
    (tp.recvMultiClassic frame left).Every Short := by
  unfold IsoTpTransport.recvMultiClassic
  split
  · rename_i b₀ b₁ rest
    have htotal : ((b₀.toNat &&& 0x0F) <<< 8) ||| b₁.toNat ≤ 4095 := by
      have hlow := b₁.toNat_lt
      have hhigh := Nat.mod_lt b₀.toNat (show 0 < 16 by decide)
      rw [and_0F, shl_or _ _ 8 hlow]
      omega
    exact every_recvLoop tp htotal left 1 (rest.take 6)
  · exact short_error _

theorem every_recv : tp.recv.Every Short := by
  have hfirst (left : Nat) (frame : Option (List UInt8)) :
      (IsoTpTransport.onFirstFrame false (tp.recvMultiClassic · left) frame).Every Short := by
    unfold IsoTpTransport.onFirstFrame
    split
    · exact short_error _
    · exact short_error _
    · rename_i b rest
      split
      · unfold decodeSf
        simp only [Bool.false_eq_true, false_and, if_false]
        apply short_ok
        have hmod := Nat.mod_lt b.toNat (show 0 < 16 by decide)
        rw [List.length_take, List.getD_cons_zero, and_0F]
        omega
      · split
        · exact every_recvMultiClassic tp (b :: rest) left
        · exact short_error _
  unfold IsoTpTransport.recv
  split
  · exact short_error _
  · exact ⟨fun f => hfirst _ (some (msgData f)), hfirst _ none⟩

theorem every_awaitPending (data : List UInt8) (attempts : Nat) :
    (awaitPending tp data attempts).Every Short := by
  induction attempts with
  | zero => exact short_error _
  | succ attempts ih =>
      apply (every_recv tp).bind
      intro result hresult
      unfold onResponse
      split
      · exact short_error _
      · split
        · split
          · exact ih
          · exact short_error _
        · exact hresult

/-- A client whose one request returns nothing longer. -/
def OnlyShort : UdsClient → Prop
  | .ready results program => (∀ result ∈ results, Short result) ∧ program = .done
  | .requesting results code next =>
    (∀ result ∈ results, Short result) ∧ code.Every Short ∧ next = fun _ => .done

variable {polls : Nat} {env : Surroundings} {x : Nat}

theorem role_onlyShort : (labBus polls env).Role (.client x) (fun _ => True) (fun _ => True)
    OnlyShort := by
  intro client h
  cases client with
  | ready results program =>
      obtain ⟨-, rfl⟩ := h
      trivial
  | requesting results code next =>
      obtain ⟨hresults, hcode, rfl⟩ := h
      cases code with
      | ret result =>
          refine ⟨?_, rfl⟩
          intro result' hmem
          rcases List.mem_append.mp hmem with hmem | hmem
          · exact hresults result' hmem
          · rw [List.mem_singleton.mp hmem]
            exact hcode
      | send f code => exact ⟨trivial, hresults, hcode, rfl⟩
      | recv accepts k expired => exact fun f _ => ⟨trivial, hresults, hcode.1 f, rfl⟩

theorem onlyShort_step {c c' : (labBus polls env).Config}
    (h : OnlyShort (c.state (.client x))) (hs : (labBus polls env).Step (pair x) c c') :
    OnlyShort (c'.state (.client x)) := by
  obtain ⟨hi, hr⟩ := hs
  rename_i i r
  by_cases hclient : Peer.client x = i
  · subst hclient
    rw [Network.commit_state_self]
    exact (role_onlyShort.react h hr).1
  · rw [Network.commit_state_of_ne _ _ _ hclient]
    exact h

theorem not_received {ecu : EcuState} {n : Nat} {req resp : List UInt8}
    (hgt : 4095 < resp.length) {c : (labBus polls env).Config}
    (hrun : Relation.ReflTransGen ((labBus polls env).Step (pair x))
      (requested polls env ecu n req) c) : ¬Received x resp c := by
  have hshort : OnlyShort (c.state (.client x)) := by
    induction hrun with
    | refl => exact ⟨fun _ h => absurd h List.not_mem_nil, every_awaitPending _ req _, rfl⟩
    | tail _ hs ih => exact onlyShort_step ih hs
  have hresults (client : UdsClient) (h : OnlyShort client) :
      ∀ result ∈ client.results, Short result := by
    cases client with
    | ready => exact h.1
    | requesting => exact h.1
  intro h
  have hmem := hresults _ hshort (.ok resp)
  rw [show UdsClient.results (c.state (.client x)) = [.ok resp] from h] at hmem
  exact Nat.not_le_of_lt hgt (hmem (.head _) resp rfl)

end Longest

/-! ## Reading data -/

/-- How many bytes a response to 0x22 has after its service, for the bytes of the
identifiers. -/
def readDidSize (dids : Dict Nat DidEntry) : List UInt8 → Nat
  | hi :: lo :: didBytes =>
    2 + ((dids.get ((hi.toNat <<< 8) ||| lo.toNat)).elim 0 fun entry => entry.data.length) +
      readDidSize dids didBytes
  | _ => 0

theorem length_readDidLoop (dids : Dict Nat DidEntry) (didBytes result : List UInt8)
    {out : List UInt8} (h : readDidLoop dids didBytes result = some out) :
    out.length = result.length + readDidSize dids didBytes ∧ result <+: out := by
  induction didBytes, result using readDidLoop.induct dids with
  | case1 hi lo didBytes result didId hnone =>
      rw [readDidLoop] at h
      simp only [didId] at hnone
      simp only [hnone] at h
      cases h
  | case2 hi lo didBytes result didId entry hsome ih =>
      rw [readDidLoop] at h
      simp only [didId] at hsome ih
      simp only [hsome] at h
      obtain ⟨hlen, hprefix⟩ := ih h
      refine ⟨?_, ?_⟩
      · rw [hlen, readDidSize, hsome, List.length_append, List.length_append]
        change result.length + 2 + entry.data.length + _ =
          result.length + (2 + entry.data.length + _)
        omega
      · rw [List.append_assoc] at hprefix
        exact (List.prefix_append _ _).trans hprefix
  | case3 didBytes result hshort =>
      rw [readDidLoop] at h
      · cases h
        refine ⟨?_, List.prefix_rfl⟩
        rw [readDidSize]
        · rfl
        · exact hshort
      · exact hshort

theorem dispatch_readDid {req : List UInt8} (hreq : req.head? = some 0x22) (ecu : EcuState)
    (draws : Draws) : dispatch ecu draws req = svcReadDid ecu req := by
  cases req with
  | nil => cases hreq
  | cons sid args =>
      obtain rfl : sid = 0x22 := Option.some.inj hreq
      rfl

theorem length_readDid {ecu ecu' : EcuState} {draws : Draws} {req resp : List UInt8}
    (hreq : req.head? = some 0x22) (hresp : resp.head? = some 0x62)
    (h : dispatch ecu draws req = (ecu', some resp)) :
    resp.length = 1 + readDidSize ecu.dids (req.drop 1) := by
  rw [dispatch_readDid hreq] at h
  unfold svcReadDid at h
  split at h
  · cases h
    cases hresp
  · split at h
    · cases h
      cases hresp
    · rename_i result hloop
      obtain rfl : result = resp := Option.some.inj (congrArg Prod.snd h)
      exact (length_readDidLoop ecu.dids _ _ hloop).1

/-- Both senders state the length of every PDU that has one in twelve bits, and of no
other; of a longer response to 0x22 the client gets only a part. -/
theorem senders_state_length_iff (tp : IsoTpTransport) (ecuId : Nat) (pdu : List UInt8) :
    (StatesLength (clientSends tp pdu) pdu.length ↔
      1 ≤ pdu.length ∧ (pdu.length ≤ 4095 ∨ tp.polls = 0)) ∧
    (StatesLength (ecuSends ecuId pdu) pdu.length ↔ 1 ≤ pdu.length ∧ pdu.length ≤ 4095) ∧
    ∀ (polls : Nat) (env : Surroundings) (ecu ecu' : EcuState) (n : Nat) (req resp : List UInt8),
      0x680 + ecuId ≤ 0x7FF → env.polls ≠ 0 →
      classicFrames (1 + readDidSize ecu.dids (req.drop 1)) ≤ polls →
      req.head? = some 0x22 → resp.head? = some 0x62 →
      dispatch ecu (env.draws ecuId n) req = (ecu', some resp) →
      (Inevitable ((labBus polls env).Step (pair ecuId)) (Received ecuId resp)
          (requested polls env ecu n req) ↔
        1 + readDidSize ecu.dids (req.drop 1) ≤ 4095) := by
  refine ⟨clientSends_iff tp pdu, ecuSends_iff ecuId pdu, ?_⟩
  intro polls env ecu ecu' n req resp hid henv hpolls hreq hresp hdispatch
  have hlen := length_readDid hreq hresp hdispatch
  have hhead : resp.getD 0 0 ≠ sidNrc := by
    cases resp with
    | nil => cases hresp
    | cons b resp =>
        obtain rfl : b = 0x62 := Option.some.inj hresp
        exact (by decide : (0x62 : UInt8) ≠ sidNrc)
  rw [← hlen] at hpolls ⊢
  constructor
  · intro h
    obtain ⟨c, hrun, hc⟩ := h.reached
    by_contra hgt
    exact not_received (Nat.lt_of_not_le hgt) hrun hc
  · exact response_received hid hpolls henv hdispatch (by omega) hhead

section Instances

/-- The hardware version takes two frames. -/
theorem senders_state_length_iff_hardware :
    Inevitable ((labBus 20 stillEnv).Step (pair 1))
      (Received 1 [0x62, 0xF1, 0x91, 0x48, 0x57, 0x2D, 0x31, 0x2E, 0x30])
      (requested 20 stillEnv (EcuState.init 0) 0 [0x22, 0xF1, 0x91]) :=
  ((senders_state_length_iff ⟨0x601, 0x681, 20⟩ 1 []).2.2 20 stillEnv (EcuState.init 0)
    (EcuState.init 0) 0 [0x22, 0xF1, 0x91] [0x62, 0xF1, 0x91, 0x48, 0x57, 0x2D, 0x31, 0x2E, 0x30]
    (by decide) (by decide) (by decide) rfl rfl rfl).mpr (by decide)

theorem readDidLoop_replicate (dids : Dict Nat DidEntry) {hi lo : UInt8} {entry : DidEntry}
    (h : dids.get ((hi.toNat <<< 8) ||| lo.toNat) = some entry) (count : Nat)
    (result : List UInt8) :
    ∃ out, readDidLoop dids (List.replicate count [hi, lo]).flatten result = some out ∧
      readDidSize dids (List.replicate count [hi, lo]).flatten =
        count * (2 + entry.data.length) ∧ result <+: out := by
  induction count generalizing result with
  | zero => exact ⟨result, rfl, (Nat.zero_mul _).symm, List.prefix_rfl⟩
  | succ count ih =>
      generalize hdid : (hi.toNat <<< 8) ||| lo.toNat = did at h
      obtain ⟨out, hloop, hsize, hprefix⟩ :=
        ih (result ++ [UInt8.ofNat (did >>> 8), UInt8.ofNat (did &&& 0xFF)] ++ entry.data)
      refine ⟨out, ?_, ?_, ?_⟩
      · rw [List.replicate_succ, List.flatten_cons, List.cons_append, List.cons_append,
          List.nil_append, readDidLoop]
        simp only [hdid, h]
        exact hloop
      · rw [List.replicate_succ, List.flatten_cons, List.cons_append, List.cons_append,
          List.nil_append, readDidSize, hdid, h, hsize, Nat.succ_mul]
        exact Nat.add_comm _ _
      · rw [List.append_assoc] at hprefix
        exact (List.prefix_append _ _).trans hprefix

/-- The identification number, 216 times in one request. -/
def manyVins : List UInt8 := 0x22 :: (List.replicate 216 [0xF1, 0x90]).flatten

/-- 4096 bytes go out under the length 0, and a response of 4105 bytes does not arrive. -/
theorem senders_misstate_length :
    ¬StatesLength (clientSends ⟨0x601, 0x681, 20⟩ (List.replicate 4096 0)) 4096 ∧
    ¬StatesLength (ecuSends 1 (List.replicate 4096 0)) 4096 ∧
    ∃ resp, (dispatch (EcuState.init 0) (stillEnv.draws 1 0) manyVins).2 = some resp ∧
      resp.head? = some 0x62 ∧
      ¬Inevitable ((labBus 1000 stillEnv).Step (pair 1)) (Received 1 resp)
        (requested 1000 stillEnv (EcuState.init 0) 0 manyVins) := by
  have hlen : (List.replicate 4096 (0 : UInt8)).length = 4096 := List.length_replicate
  have hvin : (EcuState.init 0).dids.get (((0xF1 : UInt8).toNat <<< 8) ||| (0x90 : UInt8).toNat) =
      some ⟨ascii "1HGCM82633A123456", true, 0x03⟩ := rfl
  obtain ⟨out, hloop, hsize, hprefix⟩ := readDidLoop_replicate _ hvin 216 [0x62]
  have hout := (length_readDidLoop _ _ _ hloop).1
  refine ⟨?_, ?_, out, ?_, ?_, ?_⟩
  · intro h
    have hshort := (clientSends_iff ⟨0x601, 0x681, 20⟩ (List.replicate 4096 0)).mp (hlen.symm ▸ h)
    rw [hlen] at hshort
    rcases hshort.2 with hle | hpolls
    · omega
    · cases hpolls
  · intro h
    have hshort := (ecuSends_iff 1 (List.replicate 4096 0)).mp (hlen.symm ▸ h)
    rw [hlen] at hshort
    omega
  · have hcount : manyVins.length = 433 := by
      rw [manyVins, List.length_cons, List.length_flatten, List.map_replicate,
        List.sum_replicate_nat]
      rfl
    rw [dispatch_readDid rfl, svcReadDid, hcount, if_neg (by decide)]
    simp only [manyVins, List.drop_succ_cons, List.drop_zero, hloop]
  · obtain ⟨rest, rfl⟩ := hprefix
    rfl
  · intro h
    obtain ⟨c, hrun, hc⟩ := h.reached
    refine not_received ?_ hrun hc
    rw [hout, hsize]
    decide

end Instances

end Uds.PyEcu
