import Uds.Base.Network
import Uds.Tools.Confinement
import Uds.Tools.Interop
import Uds.Tp.SendSafetyFd
/-!
# The C sender and the Python receiver

`uds_tp_send` and `uds_tp_send_fd` against `IsoTpTransport.recv` on a bus on which
other nodes send as well.  The socket of the sender has a filter, as `uds_tp.h`
asks for; the receiver skips what has another identifier.  The two alone run in
lock step, and the frames of the others change nothing of that.
-/

namespace Uds.Tools

open Uds.Base Uds.Can Uds.Tp

variable {cap : Nat}

/-! ## The parties -/

inductive Party where
  | sender
  | receiver
  | others
  deriving DecidableEq

/-- The other nodes together are a list of frames that they are going to send. -/
def Party.State (cap : Nat) : Party → Type
  | .sender => Agent (Frame cap) UdsTpError
  | .receiver => PyRecv cap
  | .others => List (Frame cap)

def Party.act : (i : Party) → i.State cap → Act (Frame cap) (i.State cap)
  | .sender, p => Agent.act p
  | .receiver, p => Agent.act p
  | .others, [] => .halt
  | .others, f :: frames => .send f frames

def canBus (wire : Frame cap → Frame cap) : Network Party (Frame cap) where
  State := Party.State cap
  act := Party.act
  wire := wire

/-- The bus keeps identifiers and content; it may lengthen a frame. -/
structure Keeps (wire : Frame cap → Frame cap) : Prop where
  canId : ∀ f, (wire f).canId = f.canId
  carries : ∀ f, f.ZeroTail → Frame.Carries f (wire f)

theorem keeps_id : Keeps (id : Frame cap → Frame cap) :=
  ⟨fun _ => rfl, fun f _ => .refl f⟩

section Parties

variable (wire : Frame cap → Frame cap)

def config (s : Agent (Frame cap) UdsTpError) (r : PyRecv cap) (o qs qr qo : List (Frame cap)) :
    (canBus wire).Config where
  state := fun
    | .sender => s
    | .receiver => r
    | .others => o
  inbox := fun
    | .sender => qs
    | .receiver => qr
    | .others => qo

def everyone : Party → Bool := fun _ => true

def duo : Party → Bool := fun i => i ≠ .others

section Steps

variable (f : Frame cap) (s : Agent (Frame cap) UdsTpError) (r : PyRecv cap)
  (accepts : Frame cap → Bool) (o qs qr qo : List (Frame cap))

theorem step_send : (canBus wire).Step duo (config wire (.send f s) r o qs qr qo)
    (config wire s r o qs (qr ++ [wire f]) qo) := by
  apply Network.Step.sends (i := .sender) (m := f) rfl rfl
  apply Network.Config.ext
  · funext i
    cases i <;> rfl
  · funext i
    cases i <;> rfl

theorem step_receiver_send : (canBus wire).Step duo (config wire s (.send f r) o qs qr qo)
    (config wire s r o (qs ++ [wire f]) qr qo) := by
  apply Network.Step.sends (i := .receiver) (m := f) rfl rfl
  apply Network.Config.ext
  · funext i
    cases i <;> rfl
  · funext i
    cases i <;> rfl

theorem step_recv (k : Frame cap → PyRecv cap) (expired : PyRecv cap) (h : accepts f = true) :
    (canBus wire).Step duo (config wire s (.recv accepts k expired) o qs (f :: qr) qo)
      (config wire s (k f) o qs qr qo) := by
  apply Network.Step.receives (i := .receiver) (k := k) rfl rfl rfl h
  apply Network.Config.ext
  · funext i
    cases i <;> rfl
  · funext i
    cases i
    · exact List.append_nil qs
    · rfl
    · rfl

theorem step_sender_recv (k : Frame cap → Agent (Frame cap) UdsTpError)
    (expired : Agent (Frame cap) UdsTpError) (h : accepts f = true) :
    (canBus wire).Step duo (config wire (.recv accepts k expired) r o (f :: qs) qr qo)
      (config wire (k f) r o qs qr qo) := by
  apply Network.Step.receives (i := .sender) (k := k) rfl rfl rfl h
  apply Network.Config.ext
  · funext i
    cases i <;> rfl
  · funext i
    cases i
    · rfl
    · exact List.append_nil qr
    · rfl

end Steps

end Parties

/-! ## The two alone -/

section Run

variable {wire : Frame cap → Frame cap} (tp : IsoTpTransport) (fmt : LinkFormat cap)
  (data : List UInt8) (base : Nat)

theorem onSocket_sendBlock {i : Nat} (hi : i < fmt.cfCount base data.length) (bsSent : Nat) :
    onSocket tp (sendBlock fmt tp.rxId data (fmt.offset base i) ((i + 1) % 16) bsSent 0) =
      .send (consecutiveFrame fmt tp.rxId data base i)
        (onSocket tp (sendBlock fmt tp.rxId data (fmt.offset base i +
          min fmt.cfDataBytes (data.length - fmt.offset base i)) ((i + 1 + 1) % 16)
          ((bsSent + 1) % 256) 0)) := by
  rw [sendBlock_of_lt fmt tp.rxId data base bsSent 0 hi]
  rfl

theorem pciType_consecutive (i : Nat) : pciType (UInt8.ofNat (0x20 + (i + 1) % 16)) = 2 := by
  rw [pciType, high_nibble, UInt8.toNat_ofNat']
  omega

/-- A Consecutive Frame as the receiver reads it. -/
theorem msgData_consecutiveFrame (txId : UInt32) {i : Nat}
    (hi : i < fmt.cfCount base data.length) {f : Frame cap}
    (hc : Frame.Carries (consecutiveFrame fmt txId data base i) f) :
    ∃ n, msgData f = UInt8.ofNat (0x20 + (i + 1) % 16) ::
      (cfContent fmt data base i ++ List.replicate n 0) := by
  have hlt := (fmt.lt_cfCount_iff base data.length i).mp hi
  have hlen := length_cfContent fmt data base i
  have hcf := fmt.lt_cfLen (cfContent fmt data base i).length (by omega)
  obtain ⟨n, hdata, -⟩ := msgData_of_carries (by rw [List.length_cons]; omega) hc
  exact ⟨n, hdata⟩

/-- The receiver appends the next Consecutive Frame. -/
theorem onConsecutive_of_carries {i : Nat} (hi : i < fmt.cfCount base data.length)
    {f : Frame cap} (hc : Frame.Carries (consecutiveFrame fmt tp.rxId data base i) f)
    (k : List UInt8 → PyRecv cap) :
    onConsecutive fmt data.length ((i + 1) % 16) (data.take (fmt.offset base i)) k
        (some (msgData f)) =
      k (data.take (fmt.offset base i +
        min fmt.cfDataBytes (data.length - fmt.offset base i))) := by
  have hlt := (fmt.lt_cfCount_iff base data.length i).mp hi
  have hlen := length_cfContent fmt data base i
  obtain ⟨n, hdata⟩ := msgData_consecutiveFrame fmt data base tp.rxId hi hc
  have hpci : (UInt8.ofNat (0x20 + (i + 1) % 16)).toNat = 0x20 + (i + 1) % 16 := by
    rw [UInt8.toNat_ofNat']
    omega
  have hsn : (0x20 + (i + 1) % 16) &&& 0x0F = (i + 1) % 16 := by
    rw [and_0F]
    omega
  have hbuf : (data.take (fmt.offset base i)).length = fmt.offset base i := by
    rw [List.length_take]
    omega
  have hcontent : (cfContent fmt data base i ++ List.replicate n 0).take
      (min fmt.cfDataBytes (data.length - fmt.offset base i)) = cfContent fmt data base i := by
    rw [← hlen, List.take_left]
  rw [hdata, onConsecutive]
  simp only [hpci, hsn, pciType_consecutive, hbuf, hcontent, ne_eq, not_true_eq_false, if_false]
  rw [List.take_add, cfContent, ← List.length_drop, ← List.take_eq_take_min]

variable {o q : List (Frame cap)}

theorem run_frame (hwire : Keeps wire) {f : Frame cap} (hid : f.canId = tp.rxId)
    (s : Agent (Frame cap) UdsTpError) (k : Option (List UInt8) → PyRecv cap) :
    Relation.ReflTransGen ((canBus wire).Step duo)
      (config wire (.send f s) (tp.awaitFrame k) o [] [] q)
      (config wire s (k (some (msgData (wire f)))) o [] [] q) := by
  have haccepts : decide ((wire f).canId = tp.rxId) = true :=
    decide_eq_true ((hwire.canId f).trans hid)
  exact .head (step_send wire f s _ o [] [] q)
    (.single (step_recv wire (wire f) s _ o [] [] q _ _ haccepts))

theorem run_flowControl (hwire : Keeps wire) {fc : Frame cap} (hid : fc.canId = tp.txId)
    (hfc : decodeFc (wire fc) = .ok (.cts, 0, 0)) (s : UInt8 → SendProc cap) (r : PyRecv cap) :
    Relation.ReflTransGen ((canBus wire).Step duo)
      (config wire (onSocket tp (recvFlowControl (waitLoop s 0))) (.send fc r) o [] [] q)
      (config wire (onSocket tp (s 0)) r o [] [] q) := by
  have haccepts : (flowFilter tp).accepts (wire fc).canId = true :=
    flowFilter_accepts tp ((hwire.canId fc).trans hid)
  have hrecv := step_sender_recv wire (wire fc) r (fun f => (flowFilter tp).accepts f.canId) o
    [] [] q
    (fun f => onSocket tp (onRecv id (onFlowControl (waitLoop s 0)) (.ok f)))
    (onSocket tp (onRecv id (onFlowControl (waitLoop s 0)) (.error .errTimeout))) haccepts
  have hcts : onRecv id (onFlowControl (waitLoop s 0)) (.ok (wire fc)) = s 0 := by
    simp only [onRecv, onFlowControl, hfc]
    rw [waitLoop, if_neg (by decide)]
  rw [hcts] at hrecv
  exact .head (step_receiver_send wire fc _ r o [] [] q) (.single hrecv)

theorem run_round (hwire : Keeps wire) {i : Nat} (hi : i < fmt.cfCount base data.length)
    (bsSent polls : Nat) :
    Relation.ReflTransGen ((canBus wire).Step duo)
      (config wire
        (onSocket tp (sendBlock fmt tp.rxId data (fmt.offset base i) ((i + 1) % 16) bsSent 0))
        (tp.recvLoop fmt data.length (polls + 1) ((i + 1) % 16) (data.take (fmt.offset base i)))
        o [] [] q)
      (config wire
        (onSocket tp (sendBlock fmt tp.rxId data (fmt.offset base i +
          min fmt.cfDataBytes (data.length - fmt.offset base i)) ((i + 1 + 1) % 16)
          ((bsSent + 1) % 256) 0))
        (tp.recvLoop fmt data.length polls ((i + 1 + 1) % 16) (data.take (fmt.offset base i +
          min fmt.cfDataBytes (data.length - fmt.offset base i)))) o [] [] q) := by
  have hlt := (fmt.lt_cfCount_iff base data.length i).mp hi
  have hbuf : (data.take (fmt.offset base i)).length < data.length := by
    rw [List.length_take]
    omega
  have hc := hwire.carries _ (zeroTail_consecutiveFrame fmt tp.rxId data base i)
  have hround := run_frame tp (o := o) (q := q) hwire
    (f := consecutiveFrame fmt tp.rxId data base i) rfl
    (onSocket tp (sendBlock fmt tp.rxId data (fmt.offset base i +
      min fmt.cfDataBytes (data.length - fmt.offset base i)) ((i + 1 + 1) % 16)
      ((bsSent + 1) % 256) 0))
    (onConsecutive fmt data.length ((i + 1) % 16) (data.take (fmt.offset base i)) fun buf =>
      tp.recvLoop fmt data.length polls (((i + 1) % 16 + 1) &&& 0x0F) buf)
  rw [onConsecutive_of_carries tp fmt data base hi hc, sn_succ] at hround
  rwa [onSocket_sendBlock tp fmt data base hi, tp.recvLoop_of_lt fmt polls _ hbuf, sn_succ]

theorem run_loop (hwire : Keeps wire) {n i : Nat} (hn : i + n = fmt.cfCount base data.length)
    {polls : Nat} (hpolls : n ≤ polls) (bsSent : Nat) (hlt : 0 < n) :
    Relation.ReflTransGen ((canBus wire).Step duo)
      (config wire
        (onSocket tp (sendBlock fmt tp.rxId data (fmt.offset base i) ((i + 1) % 16) bsSent 0))
        (tp.recvLoop fmt data.length polls ((i + 1) % 16) (data.take (fmt.offset base i)))
        o [] [] q)
      (config wire (.ret .ok) (.ret (.ok data)) o [] [] q) := by
  -- induction on the frames left
  induction n generalizing i polls bsSent with
  | zero => exact absurd hlt (Nat.lt_irrefl 0)
  | succ n ih =>
      obtain ⟨polls, rfl⟩ : ∃ m, polls = m + 1 := Nat.exists_eq_succ_of_ne_zero (by omega)
      have hround := run_round tp fmt data base (o := o) (q := q) hwire (i := i) (by omega)
        bsSent polls
      by_cases hlast : i + 1 = fmt.cfCount base data.length
      · rw [fmt.offset_add_chunk_last base hlast, List.take_length,
          sendBlock_of_le fmt tp.rxId data _ _ _ le_rfl, tp.recvLoop_of_le fmt _ _ le_rfl,
          List.take_length] at hround
        exact hround
      · rw [fmt.offset_add_chunk base (by omega)] at hround
        exact hround.trans (ih (i := i + 1) (by omega) (by omega) _ (by omega))

theorem run_multi (hwire : Keeps wire) (hbase : base < data.length) {ff fc : Frame cap}
    (hff : ff.canId = tp.rxId) (hfc : fc.canId = tp.txId)
    (hdec : decodeFc (wire fc) = .ok (.cts, 0, 0)) {polls : Nat}
    (hpolls : fmt.cfCount base data.length ≤ polls) {first : Option (List UInt8) → PyRecv cap}
    (hfirst : first (some (msgData (wire ff))) =
      tp.recvMulti fmt fc data.length polls (data.take base)) :
    Relation.ReflTransGen ((canBus wire).Step duo)
      (config wire
        (onSocket tp (sendFrame id (.ok ff) (sendLoop fmt tp.rxId data base 1)))
        (tp.awaitFrame first) o [] [] q)
      (config wire (.ret .ok) (.ret (.ok data)) o [] [] q) := by
  have hcount : 0 < fmt.cfCount base data.length :=
    (fmt.lt_cfCount_iff base data.length 0).mpr hbase
  have hframe := run_frame tp (o := o) (q := q) hwire hff
    (onSocket tp (sendLoop fmt tp.rxId data base 1)) first
  rw [hfirst, Tp.sendLoop_of_lt fmt tp.rxId data 1 hbase, IsoTpTransport.recvMulti] at hframe
  have hflow := run_flowControl tp (o := o) (q := q) hwire hfc hdec
    (fun bs => sendBlock fmt tp.rxId data base 1 0 bs)
    (tp.recvLoop fmt data.length polls 1 (data.take base))
  have hloop := run_loop tp fmt data base (o := o) (q := q) hwire (i := 0) (Nat.zero_add _)
    hpolls 0 hcount
  rw [Tp.sendLoop_of_lt fmt tp.rxId data 1 hbase]
  exact (hframe.trans hflow).trans hloop

end Run

/-! ## Among other nodes -/

section Others

variable {wire : Frame cap → Frame cap} (tp : IsoTpTransport)

/-- Neither party takes the frame for one of the transfer. -/
def Apart (f : Frame cap) : Prop :=
  f.canId ≠ tp.rxId ∧ (flowFilter tp).accepts f.canId = false

def mine : Party → Frame cap → Bool
  | .sender, f => (flowFilter tp).accepts f.canId
  | .receiver, f => f.canId = tp.rxId
  | .others, _ => true

instance (f : Frame cap) : Decidable (Apart tp f) := inferInstanceAs (Decidable (_ ∧ _))

/-- The states that the parties do not leave. -/
def Within : (i : Party) → (canBus wire).State i → Prop
  | .sender, s => Agent.Confined (fun f => f.canId = tp.rxId)
      (fun f => (flowFilter tp).accepts f.canId = true) s
  | .receiver, r => RecvsOnly tp r
  | .others, frames => ∀ f, List.Mem f frames → Apart tp f

theorem role_sender : (canBus wire).Role .sender (fun f => f.canId = tp.rxId)
    (fun f => (flowFilter tp).accepts f.canId = true) (Within tp .sender) :=
  fun _ hs => Agent.Confined.act hs

theorem role_receiver : (canBus wire).Role .receiver (fun f => f.canId = tp.txId)
    (fun f => f.canId = tp.rxId) (Within tp .receiver) :=
  fun _ hr => Agent.Confined.act hr

theorem role_others : (canBus wire).Role .others (Apart tp) (fun _ => True)
    (Within tp .others) := by
  intro s hs
  cases s with
  | nil => trivial
  | cons f frames => exact ⟨hs f (.head frames), fun g hg => hs g (.tail f hg)⟩

theorem separate (hwire : Keeps wire) :
    (canBus wire).Separate everyone duo (mine tp) (Within tp) where
  few_on := fun _ _ => rfl
  role := by
    intro i _
    cases i with
    | sender =>
        refine ⟨_, _, role_sender tp, fun _ f hf => hf, fun j hj hne f hf => ?_⟩
        cases j with
        | sender => exact absurd rfl hne
        | receiver => exact decide_eq_true ((hwire.canId f).trans hf)
        | others => cases hj
    | receiver =>
        refine ⟨_, _, role_receiver tp, fun _ f hf => decide_eq_true hf, fun j hj hne f hf => ?_⟩
        cases j with
        | sender => exact flowFilter_accepts tp ((hwire.canId f).trans hf)
        | receiver => exact absurd rfl hne
        | others => cases hj
    | others =>
        refine ⟨_, _, role_others tp, fun hfew => (by cases hfew), fun j hj _ f hf => ?_⟩
        cases j with
        | sender => exact (congrArg (flowFilter tp).accepts (hwire.canId f)).trans hf.2
        | receiver => exact decide_eq_false fun h => hf.1 ((hwire.canId f).symm.trans h)
        | others => cases hj

/-- What the other nodes are still going to send. -/
def pending (c : (canBus wire).Config) : List (Frame cap) := c.state .others

/-- What no longer happens once the other nodes are silent. -/
def noise (c : (canBus wire).Config) : Nat :=
  3 * (pending c).length + (c.inbox .sender).length + (c.inbox .receiver).length

theorem react_others {s : (canBus wire).State .others} {q : List (Frame cap)}
    {r : Network.Reaction (Frame cap) ((canBus wire).State .others)}
    (h : (canBus wire).react s q = some r) : ∃ f, s = List.cons f r.state ∧ r.sent = some f := by
  cases s with
  | nil => cases h
  | cons f frames =>
      cases h
      exact ⟨f, rfl, rfl⟩

theorem noise_lt {c c' : (canBus wire).Config} (h : Network.Unseen everyone duo c c') :
    noise c' < noise c := by
  cases h with
  | @other i r hi hr =>
      cases i with
      | sender => cases hi
      | receiver => cases hi
      | others =>
          obtain ⟨f, hstate, hsent⟩ := react_others hr
          have hpending : pending (c.commit everyone .others r) = r.state :=
            Network.commit_state_self ..
          have hlen : (pending c).length = (pending (c.commit everyone .others r)).length + 1 := by
            rw [hpending]
            exact congrArg List.length hstate
          unfold noise
          rw [Network.commit_inbox_of_ne _ _ _ (by decide) rfl,
            Network.commit_inbox_of_ne _ _ _ (by decide) rfl, hsent, hlen]
          simp only [Option.map_some, Option.toList_some, List.length_append,
            List.length_singleton]
          omega
  | @drop i r hi hstate hsent hlt =>
      have hnone : (r.sent.map (canBus wire).wire).toList = [] := by rw [hsent]; rfl
      cases i with
      | sender =>
          have hpending : pending (c.commit everyone .sender r) = pending c :=
            Network.commit_state_of_ne _ _ _ (by decide)
          unfold noise
          rw [hpending, Network.commit_inbox_self,
            Network.commit_inbox_of_ne _ _ _ (by decide) rfl, hnone, List.append_nil]
          omega
      | receiver =>
          have hpending : pending (c.commit everyone .receiver r) = pending c :=
            Network.commit_state_of_ne _ _ _ (by decide)
          unfold noise
          rw [hpending, Network.commit_inbox_self,
            Network.commit_inbox_of_ne _ _ _ (by decide) rfl, hnone, List.append_nil]
          omega
      | others => cases hi

/-- The sender has returned OK, and the receiver the PDU. -/
def Arrived (data : List UInt8) (c : (canBus wire).Config) : Prop :=
  c.state .sender = Agent.ret UdsTpError.ok ∧
    c.state .receiver = Agent.ret (Except.ok data : Except PyError (List UInt8))

theorem isPair_duo : Network.IsPair duo := by
  intro i j k hi hj hk hne
  cases i <;> cases j <;> cases k <;> simp_all [duo]

theorem arrives_of_run (hwire : Keeps wire) {s : Agent (Frame cap) UdsTpError} {r : PyRecv cap}
    (hs : s.Confined (fun f => f.canId = tp.rxId)
      fun f => (flowFilter tp).accepts f.canId = true)
    (hr : RecvsOnly tp r) {frames : List (Frame cap)} (hframes : ∀ f ∈ frames, Apart tp f)
    {data : List UInt8}
    (hrun : Relation.ReflTransGen ((canBus wire).Step duo) (config wire s r [] [] [] [])
      (config wire (.ret .ok) (.ret (.ok data)) [] [] [] [])) :
    Inevitable ((canBus wire).Step everyone) (Arrived data) (config wire s r frames [] [] []) := by
  have hnormal : Normal ((canBus wire).Step duo)
      (config wire (.ret .ok) (.ret (.ok data)) [] [] [] []) := by
    rintro _ ⟨hi, hreact⟩
    rename_i i _
    cases i with
    | sender => cases hreact
    | receiver => cases hreact
    | others => cases hi
  have halone := (Network.diamond_of_isPair isPair_duo).inevitable_eq hrun hnormal
  apply (separate tp hwire).inevitable noise (fun _ h => noise_lt h) _ _ _ halone
  · rintro c d hcd rfl
    exact ⟨(hcd.state .sender rfl).symm, (hcd.state .receiver rfl).symm⟩
  · intro i _
    cases i with
    | sender => exact hs
    | receiver => exact hr
    | others => exact hframes
  · refine ⟨?_, ?_⟩
    · intro i hi
      cases i with
      | sender => rfl
      | receiver => rfl
      | others => cases hi
    · intro i hi
      cases i with
      | sender => rfl
      | receiver => rfl
      | others => cases hi

end Others

/-! ## First frames -/

section First

variable {wire : Frame cap → Frame cap} {tp : IsoTpTransport} {data : List UInt8}

theorem run_single (hwire : Keeps wire) {sf : Frame cap} (hid : sf.canId = tp.rxId)
    {first : Option (List UInt8) → PyRecv cap}
    (hfirst : first (some (msgData (wire sf))) = .ret (.ok data)) :
    Relation.ReflTransGen ((canBus wire).Step duo)
      (config wire (onSocket tp (sendFrame id (.ok sf) (.ret .ok))) (tp.awaitFrame first)
        [] [] [] [])
      (config wire (.ret .ok) (.ret (.ok data)) [] [] [] []) := by
  have hframe := run_frame tp (o := []) (q := []) hwire hid (.ret .ok) first
  rwa [hfirst] at hframe

theorem decodeFc_wire (hwire : Keeps wire) (fmt : LinkFormat cap) (len : Nat) (h : len ≤ cap)
    (hlen : 3 ≤ len) :
    decodeFc (wire (.ofBytes tp.txId len h [0x30, 0x00, 0x00])) = .ok (.cts, 0, 0) := by
  have hzero : (Frame.ofBytes tp.txId len h [0x30, 0x00, 0x00]).ZeroTail :=
    Frame.zeroTail_ofBytes tp.txId len h hlen
  have hc := hwire.carries _ hzero
  exact decodeFc_of_carries fmt tp.txId ⟨0, 0, 0⟩ (hc.shorter hlen)

theorem msgData_full (hwire : Keeps wire) (canId : UInt32) {bytes : List UInt8}
    (hbytes : bytes.length = cap) : msgData (wire (.ofBytes canId cap le_rfl bytes)) = bytes := by
  obtain ⟨n, hdata, hn⟩ := msgData_of_carries hbytes.le (hwire.carries _
    (Frame.zeroTail_ofBytes canId cap le_rfl hbytes.le))
  have hempty : n = 0 := by omega
  rw [hdata, hempty, List.replicate_zero, List.append_nil]

theorem pciType_ofNat {n : Nat} (h : n < 256) : pciType (UInt8.ofNat n) = n / 16 := by
  rw [pciType, high_nibble, UInt8.toNat_ofNat', Nat.mod_eq_of_lt h]

/-- One length byte before the content. -/
theorem decodeSf_short (fd : Bool) (hpos : 1 ≤ data.length) (hle : data.length ≤ 7) (n : Nat) :
    decodeSf fd (UInt8.ofNat data.length :: (data ++ List.replicate n 0)) = .ok data := by
  have hpci : (UInt8.ofNat data.length).toNat &&& 0x0F = data.length := by
    rw [and_0F, UInt8.toNat_ofNat']
    omega
  unfold decodeSf
  simp only [List.getD_cons_zero, hpci, List.drop_succ_cons, List.drop_zero, List.take_left]
  rw [if_neg (by omega)]

theorem decodeSf_escape (hle : data.length ≤ 62) (n : Nat) :
    decodeSf true (0x00 :: UInt8.ofNat data.length :: (data ++ List.replicate n 0)) = .ok data := by
  have hlen : (UInt8.ofNat data.length).toNat = data.length := by
    rw [UInt8.toNat_ofNat']
    omega
  unfold decodeSf
  simp only [List.getD_cons_zero, List.getD_cons_succ, hlen, List.drop_succ_cons, List.drop_zero,
    List.take_left]
  rw [if_pos ⟨trivial, rfl⟩, if_neg (by simp)]

theorem declared_ofNat (hle : data.length ≤ 4095) :
    (((UInt8.ofNat (0x10 + data.length / 256)).toNat &&& 0x0F) <<< 8) |||
      (UInt8.ofNat (data.length % 256)).toNat = data.length := by
  have hhigh : (UInt8.ofNat (0x10 + data.length / 256)).toNat &&& 0x0F = data.length / 256 := by
    rw [and_0F, UInt8.toNat_ofNat']
    omega
  have hlow : (UInt8.ofNat (data.length % 256)).toNat = data.length % 256 := by
    rw [UInt8.toNat_ofNat']
    omega
  rw [hhigh, hlow, shl_or _ _ 8 (show data.length % 256 < 2 ^ 8 by omega)]
  omega

theorem onFirstFrame_of_single (fd : Bool) (multi : List UInt8 → PyRecv cap) {b : UInt8}
    (htype : pciType b = 0) {rest : List UInt8} (hdec : decodeSf fd (b :: rest) = .ok data) :
    IsoTpTransport.onFirstFrame fd multi (some (b :: rest)) = .ret (.ok data) := by
  rw [IsoTpTransport.onFirstFrame, if_pos htype, hdec]

theorem onFirstFrame_of_first (fd : Bool) (multi : List UInt8 → PyRecv cap) {b : UInt8}
    (htype : pciType b = 1) (rest : List UInt8) :
    IsoTpTransport.onFirstFrame fd multi (some (b :: rest)) = multi (b :: rest) := by
  rw [IsoTpTransport.onFirstFrame, if_neg (by rw [htype]; decide), if_pos htype]

end First

/-! ## Classic CAN -/

section Classic

variable {wire : CanFrame → CanFrame} {tp : IsoTpTransport} {data : List UInt8}
  {cfg : UdsTpConfig}

theorem run_send_single (hwire : Keeps wire) (hcfg : cfg.timeoutMs ≠ 0) (hpos : 1 ≤ data.length)
    (hle : data.length ≤ 7) (hpolls : tp.polls ≠ 0) :
    Relation.ReflTransGen ((canBus wire).Step duo)
      (config wire (onSocket tp (udsTpSend tp.rxId data cfg)) tp.recv [] [] [] [])
      (config wire (.ret .ok) (.ret (.ok data)) [] [] [] []) := by
  obtain ⟨polls, hsucc⟩ := Nat.exists_eq_succ_of_ne_zero hpolls
  have hbytes : (UInt8.ofNat data.length :: data).length ≤ 1 + data.length := by
    rw [List.length_cons, Nat.add_comm]
  rw [udsTpSend_single hpos hle hcfg, udsTpEncodeSf_short tp.rxId hpos hle, IsoTpTransport.recv,
    hsucc]
  apply run_single hwire rfl
  obtain ⟨n, hdata, -⟩ := msgData_of_carries hbytes (hwire.carries _
    (Frame.zeroTail_ofBytes tp.rxId (1 + data.length) (by omega) hbytes))
  rw [hdata, List.cons_append]
  apply onFirstFrame_of_single false _ _ (decodeSf_short false hpos hle n)
  rw [pciType_ofNat (by omega)]
  omega

theorem run_send_multi (hwire : Keeps wire) (hcfg : cfg.timeoutMs ≠ 0) (hge : 8 ≤ data.length)
    (hle : data.length ≤ 4095) (hpolls : classic.cfCount 6 data.length < tp.polls) :
    Relation.ReflTransGen ((canBus wire).Step duo)
      (config wire (onSocket tp (udsTpSend tp.rxId data cfg)) tp.recv [] [] [] [])
      (config wire (.ret .ok) (.ret (.ok data)) [] [] [] []) := by
  obtain ⟨polls, hsucc⟩ := Nat.exists_eq_succ_of_ne_zero (Nat.ne_zero_of_lt hpolls)
  have hbytes := length_firstFrame_bytes hge
  rw [udsTpSend_multi hge hle hcfg, IsoTpTransport.recv, hsucc]
  have hframes : classic.cfCount 6 data.length ≤ polls := by omega
  apply run_multi tp classic data 6 hwire (by omega) rfl rfl
    (decodeFc_wire hwire classic 8 le_rfl (by decide)) hframes
  rw [firstFrame, msgData_full hwire tp.rxId hbytes, List.cons_append,
    onFirstFrame_of_first false _ (by rw [pciType_ofNat (by omega)]; omega)]
  have htake : (data.take 6).take 6 = data.take 6 :=
    List.take_of_length_le (List.length_take_le 6 _)
  simp only [IsoTpTransport.recvMultiClassic, List.cons_append, List.nil_append, htake,
    declared_ofNat hle]

end Classic

/-! ## CAN FD -/

section Fd

variable {wire : CanFdFrame → CanFdFrame} {tp : IsoTpTransport} {data : List UInt8}
  {cfg : UdsTpConfig} {txId : UInt32}

theorem msgData_fdFirstFrame {f : CanFdFrame} (hc : Frame.Carries (fdFirstFrame txId data) f) :
    ∃ n, msgData f = fdHeader data.length ++ data.take (fdEmbedded data.length) ++
      List.replicate n 0 ∧ (62 < data.length → n = 0) := by
  have hbytes : (fdHeader data.length ++ data.take (fdEmbedded data.length)).length =
      (fdHeader data.length).length + fdEmbedded data.length := length_fdFirstFrame_bytes
  have hle := fdHeader_add_fdEmbedded_le data.length
  obtain ⟨n, hdata, hn⟩ := msgData_of_carries (by rw [hbytes]; omega) hc
  refine ⟨n, hdata, fun hgt => ?_⟩
  have hfull : (fdHeader data.length).length + fdEmbedded data.length = 64 := by
    rw [length_fdHeader]
    unfold fdEmbedded
    split_ifs <;> omega
  omega

theorem onFirstFrame_fdSingle (hpos : 1 ≤ data.length) (hle : data.length ≤ 62) {f : CanFdFrame}
    (hc : Frame.Carries (fdFirstFrame txId data) f) (multi : List UInt8 → PyRecv 64) :
    IsoTpTransport.onFirstFrame true multi (some (msgData f)) = .ret (.ok data) := by
  obtain ⟨n, hdata, -⟩ := msgData_fdFirstFrame hc
  have hembed : fdEmbedded data.length = data.length := if_pos hle
  rw [hdata, hembed, List.take_length]
  by_cases hshort : data.length ≤ 7
  · rw [fdHeader, if_pos hshort]
    apply onFirstFrame_of_single true _ _ (decodeSf_short true hpos hshort n)
    rw [pciType_ofNat (by omega)]
    omega
  · rw [fdHeader, if_neg hshort, if_pos hle]
    exact onFirstFrame_of_single true _ rfl (decodeSf_escape hle n)

theorem onFirstFrame_fdFirst (hgt : 62 < data.length) (hmax : data.length ≤ 0xFFFFFFFF)
    {f : CanFdFrame} (hc : Frame.Carries (fdFirstFrame txId data) f) (polls : Nat) :
    IsoTpTransport.onFirstFrame true (tp.recvMultiFd · polls) (some (msgData f)) =
      tp.recvMulti canFd (.ofBytes tp.txId 3 (by decide) [0x30, 0x00, 0x00]) data.length polls
        (data.take (fdEmbedded data.length)) := by
  obtain ⟨n, hdata, hfull⟩ := msgData_fdFirstFrame hc
  rw [hdata, hfull hgt, List.replicate_zero, List.append_nil, fdHeader, if_neg (by omega),
    if_neg (by omega)]
  by_cases hle : data.length ≤ 4095
  · -- the two bytes are not those of a 32-bit length
    have hnot : ¬(UInt8.ofNat (data.length % 256) = 0x00 ∧
        (UInt8.ofNat (0x10 + data.length / 256)).toNat &&& 0x0F = 0) := by
      rintro ⟨hlow, hhigh⟩
      have hdeclared := declared_ofNat hle
      rw [hhigh, hlow] at hdeclared
      simp only [Nat.zero_shiftLeft, Nat.zero_or] at hdeclared
      have hzero : (0x00 : UInt8).toNat = 0 := rfl
      omega
    rw [if_pos hle, List.cons_append,
      onFirstFrame_of_first true _ (by rw [pciType_ofNat (by omega)]; omega)]
    simp only [IsoTpTransport.recvMultiFd, List.cons_append, List.nil_append, if_neg hnot,
      declared_ofNat hle]
  · have htotal : ((UInt8.ofNat (data.length / 16777216 % 256)).toNat <<< 24) |||
        ((UInt8.ofNat (data.length / 65536 % 256)).toNat <<< 16) |||
        ((UInt8.ofNat (data.length / 256 % 256)).toNat <<< 8) |||
        (UInt8.ofNat (data.length % 256)).toNat = data.length := by
      rw [shl_or_bytes _ _ _ _ (UInt8.toNat_lt _) (UInt8.toNat_lt _) (UInt8.toNat_lt _)]
      simp only [UInt8.toNat_ofNat']
      omega
    rw [if_neg hle, List.cons_append, onFirstFrame_of_first true _ rfl]
    simp only [IsoTpTransport.recvMultiFd, List.cons_append, List.nil_append, htotal]
    rw [if_pos ⟨trivial, rfl⟩]

theorem run_sendFd_single (hwire : Keeps wire) (hcfg : cfg.timeoutMs ≠ 0)
    (hpos : 1 ≤ data.length) (hle : data.length ≤ 62) (hpolls : tp.polls ≠ 0) :
    Relation.ReflTransGen ((canBus wire).Step duo)
      (config wire (onSocket tp (udsTpSendFd tp.rxId data cfg)) tp.recvFd [] [] [] [])
      (config wire (.ret .ok) (.ret (.ok data)) [] [] [] []) := by
  obtain ⟨polls, hsucc⟩ := Nat.exists_eq_succ_of_ne_zero hpolls
  rw [udsTpSendFd_single hpos hle hcfg, udsTpEncodeSfFd_eq tp.rxId hpos hle,
    IsoTpTransport.recvFd, hsucc]
  apply run_single hwire rfl
  exact onFirstFrame_fdSingle hpos hle (hwire.carries _ (zeroTail_fdFirstFrame tp.rxId)) _

theorem run_sendFd_multi (hwire : Keeps wire) (hcfg : cfg.timeoutMs ≠ 0)
    (hgt : 62 < data.length) (hmax : data.length ≤ 0xFFFFFFFF)
    (hpolls : canFd.cfCount (ffEmbedFd data.length) data.length < tp.polls) :
    Relation.ReflTransGen ((canBus wire).Step duo)
      (config wire (onSocket tp (udsTpSendFd tp.rxId data cfg)) tp.recvFd [] [] [] [])
      (config wire (.ret .ok) (.ret (.ok data)) [] [] [] []) := by
  obtain ⟨polls, hsucc⟩ := Nat.exists_eq_succ_of_ne_zero (Nat.ne_zero_of_lt hpolls)
  have hembed : fdEmbedded data.length = ffEmbedFd data.length := if_neg (by omega)
  have hbase : fdEmbedded data.length < data.length := by
    rw [hembed, ffEmbedFd]
    split <;> omega
  have hframes : canFd.cfCount (fdEmbedded data.length) data.length ≤ polls := by
    rw [hembed]
    omega
  rw [udsTpSendFd_eq tp.rxId (by omega) hmax hcfg, IsoTpTransport.recvFd, hsucc]
  apply run_multi tp canFd data (fdEmbedded data.length) hwire hbase rfl rfl
    (decodeFc_wire hwire canFd 3 (by decide) le_rfl) hframes
  exact onFirstFrame_fdFirst hgt hmax (hwire.carries _ (zeroTail_fdFirstFrame tp.rxId)) polls

end Fd

/-! ## All payloads -/

/-- How many frames of the sender a PDU takes. -/
def classicFrames (len : Nat) : Nat := if len ≤ 7 then 1 else 1 + classic.cfCount 6 len

def canFdFrames (len : Nat) : Nat :=
  if len ≤ 62 then 1 else 1 + canFd.cfCount (ffEmbedFd len) len

/-- Frames that are not for the receiver and that the filter of the sender keeps out. -/
def Foreign (tp : IsoTpTransport) (frames : List (Frame cap)) : Prop :=
  ∀ f ∈ frames, arbitrationId f.canId ≠ tp.rxId ∧ Apart tp f

theorem foreign_singleton {tp : IsoTpTransport} {f : Frame cap}
    (h : arbitrationId f.canId ≠ tp.rxId ∧ Apart tp f) : Foreign tp [f] := by
  intro g hg
  rw [List.mem_singleton.mp hg]
  exact h

/-- In every run in which no deadline passes, `uds_tp_send` returns OK and `recv` the
PDU, whatever the other nodes send. -/
theorem udsTpSend_arrives (tp : IsoTpTransport) (data : List UInt8) (cfg : UdsTpConfig)
    (hcfg : cfg.timeoutMs ≠ 0) (hpos : 1 ≤ data.length) :
    (data.length ≤ 4095 → classicFrames data.length ≤ tp.polls →
      ∀ (wire : CanFrame → CanFrame) (frames : List CanFrame), Keeps wire → Foreign tp frames →
        Inevitable ((canBus wire).Step everyone) (Arrived data)
          (config wire (onSocket tp (udsTpSend tp.rxId data cfg)) tp.recv frames [] [] [])) ∧
    (data.length ≤ 2 ^ 32 - 1 → canFdFrames data.length ≤ tp.polls →
      ∀ (wire : CanFdFrame → CanFdFrame) (frames : List CanFdFrame), Keeps wire →
        Foreign tp frames →
        Inevitable ((canBus wire).Step everyone) (Arrived data)
          (config wire (onSocket tp (udsTpSendFd tp.rxId data cfg)) tp.recvFd frames
            [] [] [])) := by
  constructor
  · intro hle hpolls wire frames hwire hforeign
    unfold classicFrames at hpolls
    by_cases hsingle : data.length ≤ 7
    · rw [if_pos hsingle] at hpolls
      refine arrives_of_run tp hwire ?_ (recvsOnly_recv tp) (fun f hf => (hforeign f hf).2)
        (run_send_single hwire hcfg hpos hsingle (by omega))
      rw [udsTpSend_single hpos hsingle hcfg, udsTpEncodeSf_short tp.rxId hpos hsingle]
      exact .send rfl (.ret _)
    · rw [if_neg hsingle] at hpolls
      refine arrives_of_run tp hwire ?_ (recvsOnly_recv tp) (fun f hf => (hforeign f hf).2)
        (run_send_multi hwire hcfg (by omega) hle (by omega))
      rw [udsTpSend_multi (by omega) hle hcfg]
      exact .send rfl (sendsOnly_loops tp classic data _ le_rfl 1).1
  · intro hmax hpolls wire frames hwire hforeign
    unfold canFdFrames at hpolls
    by_cases hsingle : data.length ≤ 62
    · rw [if_pos hsingle] at hpolls
      refine arrives_of_run tp hwire ?_ (recvsOnly_recvFd tp) (fun f hf => (hforeign f hf).2)
        (run_sendFd_single hwire hcfg hpos hsingle (by omega))
      rw [udsTpSendFd_single hpos hsingle hcfg]
      apply sendsOnly_sendFrame tp _ (.ret _)
      exact canId_encodeSfFd tp.rxId data
    · rw [if_neg hsingle] at hpolls
      refine arrives_of_run tp hwire ?_ (recvsOnly_recvFd tp) (fun f hf => (hforeign f hf).2)
        (run_sendFd_multi hwire hcfg (by omega) hmax (by omega))
      rw [udsTpSendFd_multi (by omega) hmax hcfg]
      apply sendsOnly_sendFrame tp (canId_encodeFfFd tp.rxId data _)
      exact (sendsOnly_loops tp canFd data _ le_rfl 1).1

/-- Twenty bytes, while another node sends. -/
theorem udsTpSend_arrives_twenty :
    Inevitable ((canBus id).Step everyone) (Arrived (List.replicate 20 0x55))
      (config id (onSocket ⟨0x601, 0x681, 20⟩
          (udsTpSend 0x681 (List.replicate 20 0x55) ⟨1000, 0, 0⟩))
        (⟨0x601, 0x681, 20⟩ : IsoTpTransport).recv
        [.ofBytes 0x123 2 (by decide) [0x21, 0xFF]] [] [] []) ∧
    Inevitable ((canBus id).Step everyone) (Arrived (List.replicate 20 0x55))
      (config id (onSocket ⟨0x601, 0x681, 20⟩
          (udsTpSendFd 0x681 (List.replicate 20 0x55) ⟨1000, 0, 0⟩))
        (⟨0x601, 0x681, 20⟩ : IsoTpTransport).recvFd
        [.ofBytes 0x123 2 (by decide) [0x21, 0xFF]] [] [] []) :=
  ⟨(udsTpSend_arrives ⟨0x601, 0x681, 20⟩ (List.replicate 20 0x55) ⟨1000, 0, 0⟩ (by decide)
      (by decide)).1 (by decide) (by decide) id [.ofBytes 0x123 2 (by decide) [0x21, 0xFF]]
      keeps_id (foreign_singleton (by decide)),
    (udsTpSend_arrives ⟨0x601, 0x681, 20⟩ (List.replicate 20 0x55) ⟨1000, 0, 0⟩ (by decide)
      (by decide)).2 (by decide) (by decide) id [.ofBytes 0x123 2 (by decide) [0x21, 0xFF]]
      keeps_id (foreign_singleton (by decide))⟩

/-! ## Extended frames -/

/-- Frames with other arbitration identifiers than those of the transfer. -/
def OtherIds (tp : IsoTpTransport) (frames : List (Frame cap)) : Prop :=
  ∀ f ∈ frames, arbitrationId f.canId ≠ tp.rxId ∧ arbitrationId f.canId ≠ tp.txId

theorem sender_returned {wire : Frame cap → Frame cap} {rc : UdsTpError}
    {c c' : (canBus wire).Config} (h : (canBus wire).Step everyone c c')
    (hret : c.state .sender = Agent.ret rc) : c'.state .sender = Agent.ret rc := by
  obtain ⟨-, hreact⟩ := h
  rename_i i r
  by_cases hi : i = .sender
  · subst hi
    rw [hret] at hreact
    cases hreact
  · rw [Network.commit_state_of_ne _ _ _ (Ne.symm hi)]
    exact hret

theorem run_disturbed {wire : Frame cap → Frame cap} (f ff : Frame cap) (r : PyRecv cap)
    {accepts : Frame cap → Bool} (k : Frame cap → Agent (Frame cap) UdsTpError)
    (expired : Agent (Frame cap) UdsTpError) (h : accepts (wire f) = true) :
    Relation.ReflTransGen ((canBus wire).Step everyone)
      (config wire (.send ff (.recv accepts k expired)) r [f] [] [] [])
      (config wire (k (wire f)) r [] [] [wire f, wire ff] [wire ff]) := by
  have hothers : (canBus wire).Step everyone
      (config wire (.send ff (.recv accepts k expired)) r [f] [] [] [])
      (config wire (.send ff (.recv accepts k expired)) r [] [wire f] [wire f] []) := by
    apply Network.Step.sends (i := .others) (m := f) rfl rfl
    apply Network.Config.ext
    · funext i
      cases i <;> rfl
    · funext i
      cases i <;> rfl
  have hfirst : (canBus wire).Step everyone
      (config wire (.send ff (.recv accepts k expired)) r [] [wire f] [wire f] [])
      (config wire (.recv accepts k expired) r [] [wire f] [wire f, wire ff] [wire ff]) := by
    apply Network.Step.sends (i := .sender) (m := ff) rfl rfl
    apply Network.Config.ext
    · funext i
      cases i <;> rfl
    · funext i
      cases i <;> rfl
  have htaken : (canBus wire).Step everyone
      (config wire (.recv accepts k expired) r [] [wire f] [wire f, wire ff] [wire ff])
      (config wire (k (wire f)) r [] [] [wire f, wire ff] [wire ff]) := by
    apply Network.Step.receives (i := .sender) (k := k) rfl rfl rfl h
    apply Network.Config.ext
    · funext i
      cases i <;> rfl
    · funext i
      cases i <;> rfl
  exact .head hothers (.head hfirst (.single htaken))

/-- An extended frame, of which the filter compares the low eleven bits only. -/
def extendedFrame : CanFrame := .ofBytes 0x80012601 8 Frame.le_classic [0x21, 0xFF]

/-- The frame of another node is taken for the Flow Control of the receiver, and the transfer
fails. -/
theorem udsTpSend_disturbed :
    OtherIds ⟨0x601, 0x681, 20⟩ [extendedFrame] ∧
      ¬Inevitable ((canBus id).Step everyone) (Arrived (List.replicate 20 0x55))
        (config id (onSocket ⟨0x601, 0x681, 20⟩
            (udsTpSend 0x681 (List.replicate 20 0x55) ⟨1000, 0, 0⟩))
          (⟨0x601, 0x681, 20⟩ : IsoTpTransport).recv [extendedFrame] [] [] []) := by
  constructor
  · intro f hf
    rw [List.mem_singleton.mp hf]
    decide
  · rw [udsTpSend_multi (by decide) (by decide) (by decide),
      Tp.sendLoop_of_lt classic 0x681 (List.replicate 20 0x55) 1 (by decide)]
    intro h
    obtain ⟨c, hrun, harrived⟩ := (h.of_run (run_disturbed _ _ _ _ _ rfl)).reached
    have hret : c.state .sender = Agent.ret .errFrameType := by
      clear harrived
      induction hrun with
      | refl => rfl
      | tail _ hstep ih => exact sender_returned hstep ih
    rw [Arrived, hret] at harrived
    cases harrived.1

end Uds.Tools
