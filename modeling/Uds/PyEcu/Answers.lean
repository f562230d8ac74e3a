import Uds.PyEcu.Framing
import Uds.PyEcu.Survival
/-!
# A request after other traffic

Once the bus is quiet, the thread of a simulator is back where it awaits a request, whatever
it was in the middle of.  The frames of a request that then arrive are answered: the first
frame of the response goes out at once, and a Flow Control fetches the others.
-/

namespace Uds.PyEcu

open Uds.Base Uds.Can Uds.Tp Uds.Tools

/-! ## The frames of a PDU -/

/-- What the Consecutive Frames of the bytes `rest` contain, from sequence number `sn` on. -/
def consecutiveContents (sn : Nat) (rest : List UInt8) : List (List UInt8) :=
  if rest.length = 0 then []
  else (UInt8.ofNat (0x20 ||| (sn &&& 0x0F)) :: rest.take 7) ::
    consecutiveContents ((sn + 1) &&& 0x0F) (rest.drop 7)
  termination_by rest.length
  decreasing_by
    rw [List.length_drop]
    omega

/-- What the frames of a PDU contain. -/
def contents (pdu : List UInt8) : List (List UInt8) :=
  if pdu.length ≤ 7 then [UInt8.ofNat pdu.length :: pdu]
  else ([UInt8.ofNat (0x10 ||| ((pdu.length >>> 8) &&& 0x0F)), UInt8.ofNat (pdu.length &&& 0xFF)] ++
    pdu.take 6) :: consecutiveContents 1 (pdu.drop 6)

section Frames

variable (ecuId : Nat)

/-- A frame to the simulator with this content, perhaps with padding behind it. -/
def Brings (content : List UInt8) (f : CanFrame) : Prop :=
  f.canId &&& 0x7FF = rxId ecuId ∧ content <+: msgData f

/-- The frames of a request. -/
def RequestFrames (pdu : List UInt8) (fs : List CanFrame) : Prop :=
  List.Forall₂ (Brings ecuId) (contents pdu) fs

/-- A Flow Control to the simulator. -/
def FlowControl (f : CanFrame) : Prop :=
  f.canId &&& 0x7FF = rxId ecuId ∧ ∃ b content, msgData f = b :: content ∧ b.toNat >>> 4 = 3

/-- What the simulator sends while it receives a request. -/
def handshake (pdu : List UInt8) : List CanFrame :=
  if pdu.length ≤ 7 then []
  else [ecuFrame ecuId [0x30, 0x00, 0x00, 0x00, 0x00, 0x00, 0x00, 0x00]]

/-- The frames of a response, if there is one. -/
def responseFrames (resp : List UInt8) : List CanFrame :=
  if resp.length > 0 then (contents resp).map (ecuFrame ecuId) else []

end Frames

/-! ## Both ends of `_recv_isotp` and `_send_isotp` -/

section Plays

variable {ecuId : Nat}

theorem plays_recvRawFrame {α : Type} {k : Option (List UInt8) → EcuCode α} {f : CanFrame}
    {fs sent left : List CanFrame} {result : Except PyError α}
    (hid : f.canId &&& 0x7FF = rxId ecuId)
    (h : (k (some (msgData f))).Plays fs sent left result) :
    (recvRawFrame ecuId k).Plays (f :: fs) sent left result :=
  .take (decide_eq_true hid) h

theorem consecutive_pci {sn : Nat} (hsn : sn < 16) :
    (UInt8.ofNat (0x20 ||| (sn &&& 0x0F))).toNat >>> 4 = 2 ∧
      (UInt8.ofNat (0x20 ||| (sn &&& 0x0F))).toNat &&& 0x0F = sn := by
  have hor : 0x20 ||| (sn &&& 0x0F) = 0x20 + sn := by
    rw [and_0F, Nat.mod_eq_of_lt hsn]
    exact or_high_nibble 2 sn hsn
  have hnat : (UInt8.ofNat (0x20 + sn)).toNat = 0x20 + sn := by
    rw [UInt8.toNat_ofNat']
    omega
  rw [hor, hnat, and_0F, Nat.shiftRight_eq_div_pow]
  omega

theorem take_min_of_prefix {rest content padding : List UInt8}
    (h : rest.take 7 ++ padding = content) : content.take (min 7 rest.length) = rest.take 7 := by
  have hlen : (rest.take 7).length = min 7 rest.length := List.length_take
  rw [← h, ← hlen, List.take_left]

theorem recvConsecutive_of_full (polls sn : Nat) (buf : List UInt8) :
    recvConsecutive ecuId buf.length polls sn buf = .ret (.ok (some buf)) := by
  cases polls with
  | zero => rw [recvConsecutive, if_neg (Nat.lt_irrefl _), List.take_length]
  | succ polls => rw [recvConsecutive, if_neg (Nat.lt_irrefl _), List.take_length]

theorem plays_recvConsecutive_next {polls sn : Nat} (hsn : sn < 16) {buf rest : List UInt8}
    (hrest : rest.length ≠ 0) {f : CanFrame} {fs : List CanFrame}
    {result : Except PyError (Option (List UInt8))}
    (hf : Brings ecuId (UInt8.ofNat (0x20 ||| (sn &&& 0x0F)) :: rest.take 7) f)
    (h : (recvConsecutive ecuId ((buf ++ rest.take 7).length + (rest.drop 7).length) polls
      ((sn + 1) &&& 0x0F) (buf ++ rest.take 7)).Plays fs [] [] result) :
    (recvConsecutive ecuId (buf.length + rest.length) (polls + 1) sn buf).Plays (f :: fs) [] []
      result := by
  obtain ⟨hid, padding, hdata⟩ := hf
  obtain ⟨htype, hnibble⟩ := consecutive_pci hsn
  have hmin : buf.length + rest.length - buf.length = rest.length := by omega
  have htotal : buf.length + rest.length =
      (buf ++ rest.take 7).length + (rest.drop 7).length := by
    rw [List.length_append, List.length_take, List.length_drop]
    omega
  rw [recvConsecutive, if_pos (by omega)]
  apply plays_recvRawFrame hid
  rw [← hdata, List.cons_append]
  dsimp only
  rw [if_neg (not_not_intro htype), if_neg (not_not_intro hnibble), hmin,
    take_min_of_prefix rfl, htotal]
  exact h

theorem plays_recvConsecutive {polls sn : Nat} (hsn : sn < 16) (buf : List UInt8)
    {rest : List UInt8} {fs : List CanFrame}
    (hfs : List.Forall₂ (Brings ecuId) (consecutiveContents sn rest) fs)
    (hpolls : fs.length ≤ polls) :
    (recvConsecutive ecuId (buf.length + rest.length) polls sn buf).Plays fs [] []
      (.ok (some (buf ++ rest))) := by
  induction polls generalizing sn buf rest fs with
  | zero =>
      have hnil : fs = [] := List.length_eq_zero_iff.mp (Nat.le_zero.mp hpolls)
      have hrest : rest = [] := by
        by_contra hne
        have hpos : rest.length ≠ 0 := fun hlen => hne (List.length_eq_zero_iff.mp hlen)
        rw [hnil, consecutiveContents, if_neg hpos] at hfs
        cases hfs
      rw [hnil, hrest, List.append_nil, List.length_nil, Nat.add_zero, recvConsecutive_of_full]
      exact .ret _ []
  | succ polls ih =>
      by_cases hlen : rest.length = 0
      · have hrest : rest = [] := List.length_eq_zero_iff.mp hlen
        rw [consecutiveContents, if_pos hlen] at hfs
        cases hfs
        rw [hrest, List.append_nil, List.length_nil, Nat.add_zero, recvConsecutive_of_full]
        exact .ret _ []
      · rw [consecutiveContents, if_neg hlen] at hfs
        cases hfs with
        | @cons _ f _ fs hf hfs =>
            have hnext : (sn + 1) &&& 0x0F < 16 := by
              rw [and_0F]
              omega
            have hroom : fs.length ≤ polls := Nat.le_of_succ_le_succ hpolls
            have hjoin : buf ++ rest = (buf ++ rest.take 7) ++ rest.drop 7 := by
              rw [List.append_assoc, List.take_append_drop]
            rw [hjoin]
            exact plays_recvConsecutive_next hsn hlen hf (ih hnext _ hfs hroom)

theorem plays_recvIsotp_single {pdu : List UInt8} (hle : pdu.length ≤ 7) {f : CanFrame}
    (hf : Brings ecuId (UInt8.ofNat pdu.length :: pdu) f) (polls : Nat) :
    (recvIsotp ecuId (polls + 1)).Plays [f] [] [] (.ok (some pdu)) := by
  obtain ⟨hid, padding, hdata⟩ := hf
  have htype : pciType (UInt8.ofNat pdu.length) = 0 := by
    rw [pciType_ofNat (by omega)]
    omega
  have hlen : (UInt8.ofNat pdu.length).toNat &&& 0x0F = pdu.length := by
    rw [and_0F, UInt8.toNat_ofNat']
    omega
  rw [recvIsotp]
  apply plays_recvRawFrame hid
  rw [← hdata, List.cons_append]
  dsimp only
  rw [if_pos htype, hlen, List.take_left]
  exact .ret _ []

theorem plays_recvIsotp_first {pdu : List UInt8} (hgt : ¬pdu.length ≤ 7)
    (hle : pdu.length ≤ 4095) {f : CanFrame} {fs : List CanFrame}
    (hf : Brings ecuId ([UInt8.ofNat (0x10 ||| ((pdu.length >>> 8) &&& 0x0F)),
      UInt8.ofNat (pdu.length &&& 0xFF)] ++ pdu.take 6) f)
    (hfs : List.Forall₂ (Brings ecuId) (consecutiveContents 1 (pdu.drop 6)) fs) {polls : Nat}
    (hpolls : fs.length ≤ polls) :
    (recvIsotp ecuId (polls + 1)).Plays (f :: fs) (handshake ecuId pdu) []
      (.ok (some pdu)) := by
  obtain ⟨hid, padding, hdata⟩ := hf
  have htotal : pdu.length % 4096 = (pdu.take 6).length + (pdu.drop 6).length := by
    rw [List.length_take, List.length_drop, Nat.mod_eq_of_lt (by omega)]
    omega
  have hsix : (pdu.take 6 ++ padding).take 6 = pdu.take 6 := by
    have hlen : (pdu.take 6).length = 6 := by
      rw [List.length_take]
      omega
    rw [List.take_append_of_le_length hlen.ge, List.take_take, Nat.min_self]
  have hrest := plays_recvConsecutive (by decide) (pdu.take 6) hfs hpolls
  rw [List.take_append_drop] at hrest
  rw [recvIsotp]
  apply plays_recvRawFrame hid
  rw [← hdata, List.append_assoc, List.cons_append, List.cons_append, List.nil_append]
  dsimp only
  rw [if_neg (by rw [pciType_first]; decide), if_pos (pciType_first _), length_first, htotal,
    hsix, handshake, if_neg hgt]
  exact .send hrest

theorem plays_recvIsotp {pdu : List UInt8} (hle : pdu.length ≤ 4095) {fs : List CanFrame}
    (hfs : RequestFrames ecuId pdu fs) {polls : Nat} (hpolls : fs.length ≤ polls) :
    (recvIsotp ecuId polls).Plays fs (handshake ecuId pdu) [] (.ok (some pdu)) := by
  unfold RequestFrames contents at hfs
  by_cases hsingle : pdu.length ≤ 7
  · rw [if_pos hsingle] at hfs
    cases hfs with
    | cons hf hnil =>
        cases hnil
        obtain ⟨left, rfl⟩ := Nat.exists_eq_succ_of_ne_zero (Nat.ne_of_gt hpolls)
        rw [handshake, if_pos hsingle]
        exact plays_recvIsotp_single hsingle hf left
  · rw [if_neg hsingle] at hfs
    cases hfs with
    | cons hf hfs =>
        obtain ⟨left, rfl⟩ := Nat.exists_eq_succ_of_ne_zero
          (Nat.ne_of_gt (Nat.lt_of_lt_of_le (Nat.succ_pos _) hpolls))
        exact plays_recvIsotp_first hsingle hle hf hfs (Nat.le_of_succ_le_succ hpolls)

theorem plays_sendConsecutive (pdu : List UInt8) (n : Nat) {offset : Nat}
    (hn : pdu.length - offset ≤ n) (sn : Nat) (fs : List CanFrame) :
    (sendConsecutive ecuId pdu offset sn).Plays fs
      ((consecutiveContents sn (pdu.drop offset)).map (ecuFrame ecuId)) fs (.ok ()) := by
  induction n generalizing offset sn with
  | zero =>
      have hlen : (pdu.drop offset).length = 0 := by
        rw [List.length_drop]
        omega
      rw [sendConsecutive, dif_neg (by omega), consecutiveContents, if_pos hlen]
      exact .ret _ fs
  | succ n ih =>
      by_cases hlt : offset < pdu.length
      · have hlen : ¬(pdu.drop offset).length = 0 := by
          rw [List.length_drop]
          omega
        have hless : pdu.length - (offset + ((pdu.drop offset).take 7).length) ≤ n := by
          rw [List.length_take, List.length_drop]
          omega
        have hdrop : (pdu.drop offset).drop 7 =
            pdu.drop (offset + ((pdu.drop offset).take 7).length) := by
          rw [List.drop_drop, List.length_take, List.length_drop]
          by_cases hlong : 7 ≤ pdu.length - offset
          · rw [Nat.min_eq_left hlong]
          · rw [List.drop_of_length_le (by omega), List.drop_of_length_le (by omega)]
        rw [sendConsecutive, dif_pos hlt, consecutiveContents, if_neg hlen, List.map_cons, hdrop]
        exact .send (ih hless _)
      · have hlen : (pdu.drop offset).length = 0 := by
          rw [List.length_drop]
          omega
        rw [sendConsecutive, dif_neg hlt, consecutiveContents, if_pos hlen]
        exact .ret _ fs

end Plays

/-! ## Back to the start of a request -/

section Idle

variable {env : Surroundings} {ecuId polls : Nat} {c : Party.Config CanFrame EcuSimulator}

theorem embeds_receiving (env : Surroundings) (ecuId : Nat) (ecu : EcuState) (n : Nat) :
    (thread env ecuId).Embeds fun code => ⟨ecu, n, .receiving code⟩ where
  act := by
    intro polls code hret
    cases code with
    | ret result => exact absurd rfl (hret result)
    | send => rfl
    | recv => rfl
  expire := fun _ => rfl

theorem embeds_responding (env : Surroundings) (ecuId : Nat) (ecu : EcuState) (n : Nat) :
    (thread env ecuId).Embeds fun code => ⟨ecu, n, .responding code⟩ where
  act := by
    intro polls code hret
    cases code with
    | ret result => exact absurd rfl (hret result)
    | send => rfl
    | recv => rfl
  expire := fun _ => rfl

/-- The thread is alive and none of the frames that have arrived ends it. -/
structure Safe (env : Surroundings) (ecuId polls : Nat)
    (c : Party.Config CanFrame EcuSimulator) : Prop where
  alive : Alive ecuId c.state
  undisturbed : (thread env ecuId).Undisturbed (Fatal ecuId) polls c

theorem Safe.emits (h : Safe env ecuId polls c) {sent : List CanFrame}
    {c' : Party.Config CanFrame EcuSimulator}
    (hemits : (thread env ecuId).Emits polls c sent c') : Safe env ecuId polls c' :=
  ⟨hemits.alive (mortal_thread env ecuId) h.undisturbed h.alive, hemits.undisturbed h.undisturbed⟩

/-- The thread comes to a new call of `_recv_isotp`, with no more frames than now. -/
def Returns (env : Surroundings) (ecuId polls : Nat) (c : Party.Config CanFrame EcuSimulator) :
    Prop :=
  ∃ sent c', (thread env ecuId).Emits polls c sent c' ∧
    c'.state.doing = .receiving (recvIsotp ecuId polls) ∧ c'.inbox.length ≤ c.inbox.length

theorem Returns.of_emits {sent : List CanFrame} {c' : Party.Config CanFrame EcuSimulator}
    (hemits : (thread env ecuId).Emits polls c sent c') (hle : c'.inbox.length ≤ c.inbox.length)
    (h : Returns env ecuId polls c') : Returns env ecuId polls c := by
  obtain ⟨sent', c'', hemits', hdoing, hle'⟩ := h
  exact ⟨sent ++ sent', c'', hemits.trans hemits', hdoing, hle'.trans hle⟩

/-- What dispatch `n` responds, with nothing for no response. -/
def response (env : Surroundings) (ecuId : Nat) (ecu : EcuState) (n : Nat) (pdu : List UInt8) :
    List UInt8 :=
  (dispatch ecu (env.draws ecuId n) pdu).2.getD []

theorem emits_dispatch (env : Surroundings) (ecuId polls : Nat) {ecu : EcuState}
    (hdtcs : ecu.dtcs.length < 65536) (n : Nat) (pdu : List UInt8) (fs : List CanFrame) :
    (thread env ecuId).Emits polls ⟨⟨ecu, n, .receiving (.ret (.ok (some pdu)))⟩, fs⟩ []
      ⟨⟨(dispatch ecu (env.draws ecuId n) pdu).1, n + 1,
        if (response env ecuId ecu n pdu).length > 0 then
          .responding (sendIsotp ecuId (response env ecuId ecu n pdu))
        else .receiving (recvIsotp ecuId polls)⟩, fs⟩ := by
  apply Party.Emits.internal
  change Act.internal (EcuSimulator.handle _ ecuId _ pdu) = _
  rw [handle_eq hdtcs]
  rfl

theorem returns_responding {ecu : EcuState} {n : Nat} {code : EcuCode Unit} {fs : List CanFrame}
    (h : Safe env ecuId polls ⟨⟨ecu, n, .responding code⟩, fs⟩) :
    Returns env ecuId polls ⟨⟨ecu, n, .responding code⟩, fs⟩ := by
  obtain ⟨sent, left, result, hplays, hle⟩ := code.exists_plays fs
  have hemits := (embeds_responding env ecuId ecu n).emits polls hplays
  apply Returns.of_emits hemits hle
  cases result with
  | error e => exact absurd rfl (h.emits hemits).alive.not_crashed
  | ok => exact ⟨[], _, Party.Emits.internal rfl, rfl, le_rfl⟩

theorem returns_receiving {ecu : EcuState} {n : Nat} {code : EcuCode (Option (List UInt8))}
    {fs : List CanFrame} (h : Safe env ecuId polls ⟨⟨ecu, n, .receiving code⟩, fs⟩) :
    Returns env ecuId polls ⟨⟨ecu, n, .receiving code⟩, fs⟩ := by
  obtain ⟨sent, left, result, hplays, hle⟩ := code.exists_plays fs
  have hemits := (embeds_receiving env ecuId ecu n).emits polls hplays
  apply Returns.of_emits hemits hle
  cases result with
  | error e => exact absurd rfl (h.emits hemits).alive.not_crashed
  | ok pdu =>
      cases pdu with
      | none => exact ⟨[], _, Party.Emits.internal rfl, rfl, le_rfl⟩
      | some pdu =>
          have hdispatch := emits_dispatch env ecuId polls h.alive.dtcs n pdu left
          apply Returns.of_emits hdispatch le_rfl
          have hsafe := (h.emits hemits).emits hdispatch
          by_cases hresp : (response env ecuId ecu n pdu).length > 0
          · rw [if_pos hresp] at hsafe ⊢
            exact returns_responding hsafe
          · rw [if_neg hresp]
            exact ⟨[], _, .refl _, rfl, le_rfl⟩

theorem Safe.returns (h : Safe env ecuId polls c) : Returns env ecuId polls c := by
  obtain ⟨⟨ecu, n, place⟩, fs⟩ := c
  cases place with
  | receiving code => exact returns_receiving h
  | responding code => exact returns_responding h

/-- The thread awaits a request, and no frame is left. -/
def Idle (ecuId : Nat) (c : Party.Config CanFrame EcuSimulator) : Prop :=
  ∃ left, c.state.doing = .receiving (recvIsotp ecuId left) ∧ c.inbox = []

theorem comes_idle (hpolls : polls ≠ 0) (k : Nat) (hk : c.inbox.length ≤ k)
    (h : Safe env ecuId polls c) (hdoing : c.state.doing = .receiving (recvIsotp ecuId polls)) :
    ∃ sent c', (thread env ecuId).Emits polls c sent c' ∧ Idle ecuId c' := by
  induction k generalizing c with
  | zero =>
      exact ⟨[], c, .refl c, polls, hdoing, List.length_eq_zero_iff.mp (Nat.le_zero.mp hk)⟩
  | succ k ih =>
      obtain ⟨⟨ecu, n, place⟩, fs⟩ := c
      cases fs with
      | nil => exact ⟨[], _, .refl _, polls, hdoing, rfl⟩
      | cons f fs =>
          -- the first frame is taken or dropped
          have htaken : ∃ c', (thread env ecuId).Emits polls ⟨⟨ecu, n, place⟩, f :: fs⟩ [] c' ∧
              c'.inbox = fs := by
            obtain ⟨left, rfl⟩ := Nat.exists_eq_succ_of_ne_zero hpolls
            change place = .receiving (recvIsotp ecuId (left + 1)) at hdoing
            subst hdoing
            by_cases hid : decide (f.canId &&& 0x7FF = rxId ecuId) = true
            · exact ⟨_, .take rfl rfl hid, rfl⟩
            · exact ⟨_, .drop rfl rfl hid, rfl⟩
          obtain ⟨c₁, hemits₁, hinbox⟩ := htaken
          have hsafe₁ := h.emits hemits₁
          obtain ⟨sent, c₂, hemits₂, hdoing₂, hle⟩ := hsafe₁.returns
          have hless : c₂.inbox.length ≤ k := by
            rw [hinbox] at hle
            change fs.length + 1 ≤ k + 1 at hk
            omega
          obtain ⟨sent', c₃, hemits₃, hidle⟩ := ih hless (hsafe₁.emits hemits₂) hdoing₂
          exact ⟨_, c₃, (hemits₁.trans hemits₂).trans hemits₃, hidle⟩

theorem idle_quiet {c : Party.Config CanFrame EcuSimulator} (h : Idle ecuId c) :
    Idle ecuId ((thread env ecuId).step c ((thread env ecuId).quietEvent polls c)).1 := by
  obtain ⟨⟨ecu, n, place⟩, fs⟩ := c
  obtain ⟨left, hdoing, hinbox⟩ := h
  change place = .receiving (recvIsotp ecuId left) at hdoing
  change fs = [] at hinbox
  subst hdoing hinbox
  cases left with
  | zero => exact ⟨polls, rfl, rfl⟩
  | succ left => exact ⟨left, rfl, rfl⟩

theorem eventually_idle (hpolls : polls ≠ 0) (h : Safe env ecuId polls c) :
    ∃ n₀, ∀ n ≥ n₀, Idle ecuId ((thread env ecuId).after polls n c) := by
  obtain ⟨sent, c₁, hemits₁, hdoing, -⟩ := h.returns
  obtain ⟨sent', c₂, hemits₂, hidle⟩ :=
    comes_idle hpolls c₁.inbox.length le_rfl (h.emits hemits₁) hdoing
  exact (hemits₁.trans hemits₂).eventually (fun _ hc => idle_quiet hc) hidle

end Idle

/-! ## The answer -/

/-- The thread takes request `pdu`, handles it and sends the first frame of the response; with
a Flow Control it sends the others. -/
def Answered (env : Surroundings) (ecuId polls : Nat) (c : Party.Config CanFrame EcuSimulator)
    (pdu : List UInt8) : Prop :=
  let out := dispatch c.state.ecu (env.draws ecuId c.state.dispatched) pdu
  let frames := responseFrames ecuId (out.2.getD [])
  ∃ c₁, (thread env ecuId).Emits polls c (handshake ecuId pdu ++ frames.take 1) c₁ ∧
    c₁.state.ecu = out.1 ∧
    ∀ fc, FlowControl ecuId fc →
      ∃ c₂, (thread env ecuId).Emits polls ⟨c₁.state, c₁.inbox ++ [fc]⟩ (frames.drop 1) c₂

/-- The thread awaits a request and answers it, if its frames arrive before the deadline: the
call that it is in can take `left` frames, and a new one `polls`. -/
def Serves (env : Surroundings) (ecuId polls : Nat) (c : Party.Config CanFrame EcuSimulator) :
    Prop :=
  ∃ left, c.state.doing = .receiving (recvIsotp ecuId left) ∧ c.inbox = [] ∧
    ∀ pdu fs, 1 ≤ pdu.length → pdu.length ≤ 4095 → RequestFrames ecuId pdu fs →
      fs.length ≤ (if left = 0 then polls else left) →
      Answered env ecuId polls (runFrom (thread env ecuId).step c (fs.map .arrive)) pdu

/-- No exception has ended the thread, and once the bus is quiet it serves, if none of the
frames that have arrived ends it. -/
def Survives (env : Surroundings) (ecuId : Nat) (c : Party.Config CanFrame EcuSimulator) : Prop :=
  c.state.crashed = false ∧
    ∀ polls, polls ≠ 0 → (thread env ecuId).Undisturbed (Fatal ecuId) polls c →
      ∃ n₀, ∀ n ≥ n₀, Serves env ecuId polls ((thread env ecuId).after polls n c)

section Answer

variable (env : Surroundings) {ecuId : Nat} (polls : Nat)

theorem emits_response (ecu : EcuState) (n : Nat) {resp : List UInt8} (hresp : resp.length > 0) :
    ∃ code, (thread env ecuId).Emits polls ⟨⟨ecu, n, .responding (sendIsotp ecuId resp)⟩, []⟩
        ((responseFrames ecuId resp).take 1) ⟨⟨ecu, n, .responding code⟩, []⟩ ∧
      ∀ fc, FlowControl ecuId fc →
        ∃ c, (thread env ecuId).Emits polls ⟨⟨ecu, n, .responding code⟩, [fc]⟩
          ((responseFrames ecuId resp).drop 1) c := by
  rw [responseFrames, if_pos hresp, contents]
  by_cases hsingle : resp.length ≤ 7
  · rw [if_pos hsingle, sendIsotp, if_pos hsingle]
    exact ⟨_, .send rfl, fun fc _ => ⟨_, .refl _⟩⟩
  · obtain ⟨k, hsend, hnext⟩ := sendIsotp_multi ecuId (Nat.lt_of_not_le hsingle)
    rw [if_neg hsingle, hsend]
    refine ⟨recvRawFrame ecuId k, .send rfl, ?_⟩
    rintro fc ⟨hid, b, content, hdata, htype⟩
    refine ⟨⟨⟨ecu, n, .responding (.ret (.ok ()))⟩, []⟩,
      (embeds_responding env ecuId ecu n).emits polls (plays_recvRawFrame hid ?_)⟩
    rw [hdata, hnext b content htype]
    exact plays_sendConsecutive resp _ le_rfl 1 []

theorem answered_of_plays {ecu : EcuState} (hdtcs : ecu.dtcs.length < 65536) (n : Nat)
    {code : EcuCode (Option (List UInt8))} {fs : List CanFrame} {pdu : List UInt8}
    (h : code.Plays fs (handshake ecuId pdu) [] (.ok (some pdu))) :
    Answered env ecuId polls ⟨⟨ecu, n, .receiving code⟩, fs⟩ pdu := by
  have htaken := ((embeds_receiving env ecuId ecu n).emits polls h).trans
    (emits_dispatch env ecuId polls hdtcs n pdu [])
  rw [List.append_nil] at htaken
  unfold Answered
  dsimp only
  change ∃ c₁, (thread env ecuId).Emits polls _ (_ ++ (responseFrames ecuId
    (response env ecuId ecu n pdu)).take 1) c₁ ∧ _ ∧ ∀ fc, _ → ∃ c₂, (thread env ecuId).Emits
      polls _ ((responseFrames ecuId (response env ecuId ecu n pdu)).drop 1) c₂
  by_cases hresp : (response env ecuId ecu n pdu).length > 0
  · rw [if_pos hresp] at htaken
    obtain ⟨code, hfirst, hrest⟩ := emits_response env polls
      (dispatch ecu (env.draws ecuId n) pdu).1 (n + 1) hresp
    exact ⟨_, htaken.trans hfirst, rfl, hrest⟩
  · rw [if_neg hresp] at htaken
    rw [responseFrames, if_neg hresp, List.take_nil, List.append_nil]
    exact ⟨_, htaken, rfl, fun fc _ => ⟨_, .refl _⟩⟩

theorem serves_of_idle {c : Party.Config CanFrame EcuSimulator}
    (hdtcs : c.state.ecu.dtcs.length < 65536) (h : Idle ecuId c) :
    Serves env ecuId polls c := by
  obtain ⟨⟨ecu, n, place⟩, inbox⟩ := c
  obtain ⟨left, hdoing, hinbox⟩ := h
  change place = .receiving (recvIsotp ecuId left) at hdoing
  change inbox = [] at hinbox
  subst hdoing hinbox
  refine ⟨left, rfl, rfl, fun pdu fs _ hle hfs hroom => ?_⟩
  rw [Party.runFrom_arrive]
  cases left with
  | zero =>
      -- the call that the thread is in has no time left, so it takes the frames in the next one
      have hnext : (thread env ecuId).Emits polls ⟨⟨ecu, n, .receiving (recvIsotp ecuId 0)⟩, fs⟩ []
          ⟨⟨ecu, n, .receiving (recvIsotp ecuId polls)⟩, fs⟩ := .internal rfl
      obtain ⟨c₁, hemits, hecu, hrest⟩ :=
        answered_of_plays env polls hdtcs n (plays_recvIsotp hle hfs hroom)
      exact ⟨c₁, hnext.trans hemits, hecu, hrest⟩
  | succ left => exact answered_of_plays env polls hdtcs n (plays_recvIsotp hle hfs hroom)

/-- Where all frames have been received, a thread that survives serves. -/
theorem Survives.serves {c : Party.Config CanFrame EcuSimulator} (h : Survives env ecuId c)
    (hinbox : c.inbox = []) (hpolls : polls ≠ 0) :
    ∃ n₀, ∀ n ≥ n₀, Serves env ecuId polls ((thread env ecuId).after polls n c) :=
  h.2 polls hpolls (Party.undisturbed_of_empty _ polls hinbox)

/-- Exactly the runs without a fatal frame survive. -/
theorem survives_iff_harmless (env : Surroundings) (ecuId : Nat) (monotonic : Rat)
    (events : List (Party.Event CanFrame Nat)) :
    Survives env ecuId (runFrom (thread env ecuId).step (boot env ecuId monotonic) events) ↔
      ∀ x ∈ turnsFrom (thread env ecuId).step (boot env ecuId monotonic) events,
        (thread env ecuId).Harmless (Fatal ecuId) x := by
  have hmortal := mortal_thread env ecuId
  have hboot := alive_boot env ecuId monotonic
  rw [← hmortal.not_dead_iff hboot, Bool.not_eq_true]
  constructor
  · exact fun h => h.1
  · intro hcrashed
    have halive := hmortal.alive_run hboot events
      ((hmortal.not_dead_iff hboot events).mp (Bool.not_eq_true _ ▸ hcrashed))
    refine ⟨hcrashed, fun polls hpolls hquiet => ?_⟩
    obtain ⟨n₀, hidle⟩ := eventually_idle hpolls ⟨halive, hquiet⟩
    refine ⟨n₀, fun n hn => serves_of_idle env polls ?_ (hidle n hn)⟩
    exact (hmortal.alive_run halive _ (hquiet n)).dtcs

/-- One empty frame on the request identifier ends the thread. -/
theorem empty_frame_ends_thread :
    ¬∀ (env : Surroundings) (ecuId : Nat) (monotonic : Rat)
      (events : List (Party.Event CanFrame Nat)),
      Survives env ecuId (runFrom (thread env ecuId).step (boot env ecuId monotonic) events) := by
  intro h
  have hsurvives := h ⟨fun _ _ => ⟨0, #v[0x11, 0x22, 0x33, 0x44]⟩, 20⟩ 1 0
    [.arrive (.ofBytes 0x601 0 (Nat.zero_le 8) []), .move 20]
  exact Bool.false_ne_true hsurvives.1.symm

end Answer

end Uds.PyEcu
