import Uds.PyEcu.Isolation
import Uds.Tools.Delivery
/-!
# The length that a Python sender states

`IsoTpTransport.send` and `_send_isotp` put the length of a PDU into the four bits of
a Single Frame or the twelve bits of a First Frame, and mask away what does not fit.
The client takes the length that it is told.
-/

namespace Uds.PyEcu

open Uds.Base Uds.Can Uds.Tp Uds.Tools

/-! ## The length field -/

/-- A Single or First Frame states the length `len`, and one that the C receiver takes. -/
structure Declares (len : Nat) (f : CanFrame) : Prop where
  single : pciType (f.byte 0) = 0 → (f.byte 0).toNat &&& 0x0F = len ∧ 1 ≤ len ∧ len ≤ 7
  first : pciType (f.byte 0) = 1 →
    (((f.byte 0).toNat &&& 0x0F) <<< 8) ||| (f.byte 1).toNat = len ∧ 8 ≤ len ∧ len ≤ 4095

/-- Every run raises an exception or transmits frames that state the length. -/
def StatesLength (runs : List CanFrame → Except PyError Unit → Prop) (len : Nat) : Prop :=
  ∀ frames result, runs frames result → (∃ e, result = .error e) ∨ ∀ f ∈ frames, Declares len f

/-- What `send` of a classic transport transmits and returns. -/
def clientSends (tp : IsoTpTransport) (pdu : List UInt8) (frames : List CanFrame)
    (result : Except PyError Unit) : Prop :=
  ∃ tr, Steps (tp.send pdu) tr (.ret result) ∧ accepted tr = frames

/-- What `_send_isotp` transmits and returns. -/
def ecuSends (ecuId : Nat) (pdu : List UInt8) : List CanFrame → Except PyError Unit → Prop :=
  (sendIsotp ecuId pdu).Runs

section Frames

variable (canId : UInt32)

theorem byte_single {pdu : List UInt8} (hle : pdu.length ≤ 7) :
    (Frame.ofBytes canId 8 (le_refl 8) (UInt8.ofNat pdu.length :: pdu)).byte 0 =
      UInt8.ofNat pdu.length := by
  apply Frame.byte_ofBytes
  · rw [List.length_cons]
    omega
  · exact Nat.succ_pos _

theorem byte_first (b₀ b₁ : UInt8) (pdu : List UInt8) :
    (Frame.ofBytes canId 8 (le_refl 8) ([b₀, b₁] ++ pdu.take 6)).byte 0 = b₀ ∧
      (Frame.ofBytes canId 8 (le_refl 8) ([b₀, b₁] ++ pdu.take 6)).byte 1 = b₁ := by
  have hlen : ([b₀, b₁] ++ pdu.take 6).length ≤ 8 := by
    rw [List.length_append, List.length_take]
    change 2 + _ ≤ 8
    omega
  constructor
  · rw [Frame.byte_ofBytes canId 8 (le_refl 8) hlen (by simp)]
    rfl
  · rw [Frame.byte_ofBytes canId 8 (le_refl 8) hlen (by simp)]
    rfl

/-- The PCI byte of a First Frame. -/
theorem pciType_first (total : Nat) :
    pciType (UInt8.ofNat (0x10 ||| ((total >>> 8) &&& 0x0F))) = 1 := by
  have hor : 0x10 ||| ((total >>> 8) &&& 0x0F) = 0x10 + (total >>> 8) % 16 := by
    rw [and_0F]
    exact or_high_nibble 1 _ (Nat.mod_lt _ (by decide))
  have hlt := Nat.mod_lt (total >>> 8) (show 0 < 16 by decide)
  rw [hor, pciType_ofNat (by omega)]
  omega

theorem length_first (total : Nat) :
    (((UInt8.ofNat (0x10 ||| ((total >>> 8) &&& 0x0F))).toNat &&& 0x0F) <<< 8) |||
      (UInt8.ofNat (total &&& 0xFF)).toNat = total % 4096 := by
  have hor : 0x10 ||| ((total >>> 8) &&& 0x0F) = 0x10 + (total >>> 8) % 16 := by
    rw [and_0F]
    exact or_high_nibble 1 _ (Nat.mod_lt _ (by decide))
  have hlt := Nat.mod_lt (total >>> 8) (show 0 < 16 by decide)
  have hlow : (UInt8.ofNat (total &&& 0xFF)).toNat = total % 256 := by
    rw [and_FF, UInt8.toNat_ofNat', Nat.mod_mod]
  have hhigh : (UInt8.ofNat (0x10 + (total >>> 8) % 16)).toNat &&& 0x0F = total / 256 % 16 := by
    rw [and_0F, UInt8.toNat_ofNat', shr_8]
    omega
  rw [hor, hhigh, hlow, shl_or _ _ 8 (show total % 256 < 2 ^ 8 by omega)]
  omega

theorem declares_single {pdu : List UInt8} (hpos : 1 ≤ pdu.length) (hle : pdu.length ≤ 7) :
    Declares pdu.length (.ofBytes canId 8 le_rfl (UInt8.ofNat pdu.length :: pdu)) := by
  have hpci : (UInt8.ofNat pdu.length).toNat &&& 0x0F = pdu.length := by
    rw [and_0F, UInt8.toNat_ofNat']
    omega
  constructor
  · intro _
    rw [byte_single canId hle]
    exact ⟨hpci, hpos, hle⟩
  · intro htype
    rw [byte_single canId hle, pciType_ofNat (by omega)] at htype
    omega

theorem declares_first {pdu : List UInt8} (hge : 8 ≤ pdu.length) (hle : pdu.length ≤ 4095) :
    Declares pdu.length (.ofBytes canId 8 le_rfl
      ([UInt8.ofNat (0x10 ||| ((pdu.length >>> 8) &&& 0x0F)), UInt8.ofNat (pdu.length &&& 0xFF)] ++
        pdu.take 6)) := by
  obtain ⟨h0, h1⟩ := byte_first canId (UInt8.ofNat (0x10 ||| ((pdu.length >>> 8) &&& 0x0F)))
    (UInt8.ofNat (pdu.length &&& 0xFF)) pdu
  constructor
  · intro htype
    rw [h0, pciType_first] at htype
    cases htype
  · intro _
    rw [h0, h1, length_first]
    exact ⟨Nat.mod_eq_of_lt (by omega), hge, hle⟩

theorem not_declares_first {pdu : List UInt8} (hgt : 4095 < pdu.length) :
    ¬Declares pdu.length (.ofBytes canId 8 le_rfl
      ([UInt8.ofNat (0x10 ||| ((pdu.length >>> 8) &&& 0x0F)), UInt8.ofNat (pdu.length &&& 0xFF)] ++
        pdu.take 6)) := by
  obtain ⟨h0, -⟩ := byte_first canId (UInt8.ofNat (0x10 ||| ((pdu.length >>> 8) &&& 0x0F)))
    (UInt8.ofNat (pdu.length &&& 0xFF)) pdu
  intro h
  have hfirst := h.first (by rw [h0, pciType_first])
  omega

theorem not_declares_empty :
    ¬Declares ([] : List UInt8).length
      (.ofBytes canId 8 le_rfl (UInt8.ofNat ([] : List UInt8).length :: [])) := by
  have hbyte := byte_single canId (show ([] : List UInt8).length ≤ 7 from Nat.zero_le 7)
  intro h
  obtain ⟨-, hpos, -⟩ := h.single (by rw [hbyte]; rfl)
  exact absurd hpos (Nat.not_succ_le_zero 0)

theorem declares_consecutive (len sn : Nat) {chunk : List UInt8} (hchunk : chunk.length ≤ 7) :
    Declares len (.ofBytes canId 8 le_rfl (UInt8.ofNat (0x20 ||| (sn &&& 0x0F)) :: chunk)) := by
  have hor : 0x20 ||| (sn &&& 0x0F) = 0x20 + sn % 16 := by
    rw [and_0F]
    exact or_high_nibble 2 _ (Nat.mod_lt _ (by decide))
  have hlen : (UInt8.ofNat (0x20 ||| (sn &&& 0x0F)) :: chunk).length ≤ 8 := by
    rw [List.length_cons]
    omega
  have hbyte : (Frame.ofBytes canId 8 le_rfl
      (UInt8.ofNat (0x20 ||| (sn &&& 0x0F)) :: chunk)).byte 0 = UInt8.ofNat (0x20 + sn % 16) := by
    rw [Frame.byte_ofBytes canId 8 le_rfl hlen (Nat.succ_pos _), ← hor]
    rfl
  have htype : pciType (UInt8.ofNat (0x20 + sn % 16)) = 2 := by
    have hlt := Nat.mod_lt sn (show 0 < 16 by decide)
    rw [pciType_ofNat (by omega)]
    omega
  constructor
  · intro h
    rw [hbyte, htype] at h
    cases h
  · intro h
    rw [hbyte, htype] at h
    cases h

end Frames

/-! ## The two senders -/

section Senders

variable (tp : IsoTpTransport) (ecuId : Nat) (pdu : List UInt8)

theorem clientSends_declares (hpos : 1 ≤ pdu.length) (hle : pdu.length ≤ 4095) :
    (tp.send pdu).Offers (Declares pdu.length) := by
  unfold IsoTpTransport.send
  split
  · rename_i hsingle
    exact offers_busSend (declares_single tp.txId hpos hsingle) (.ret _)
  · apply offers_sendMulti
    · exact fun chunk h sn => declares_consecutive tp.txId _ sn h
    · exact declares_first tp.txId (by omega) hle

theorem clientSends_raises (hlong : ¬pdu.length ≤ 7) (hpolls : tp.polls = 0)
    {frames : List CanFrame} {result : Except PyError Unit}
    (h : clientSends tp pdu frames result) : ∃ e, result = .error e := by
  obtain ⟨tr, hrun, -⟩ := h
  rw [IsoTpTransport.send, if_neg hlong, IsoTpTransport.sendMultiClassic,
    IsoTpTransport.sendMulti, busSend, IsoTpTransport.recvFlowControl, hpolls] at hrun
  cases tr with
  | nil => cases hrun.of_nil
  | cons e tr =>
      obtain ⟨p', hs, hrest⟩ := hrun.of_cons
      cases hs with
      | send m k r =>
          cases r with
          | error e => exact ⟨_, Proc.ret.inj hrest.eq_nil_of_ret.2⟩
          | ok => exact ⟨_, Proc.ret.inj hrest.eq_nil_of_ret.2⟩

theorem exec_sendLoop {cap : Nat} (fmt : LinkFormat cap) (n : Nat) {offset : Nat}
    (hn : pdu.length - offset ≤ n) (sn blockCount : Nat)
    (ins : Nat → Except UdsCanError (Frame cap)) :
    ((tp.sendLoop fmt pdu offset sn blockCount 0).exec ins fun _ => .ok ()).2 = .ok () := by
  induction n generalizing offset sn blockCount with
  | zero =>
      rw [IsoTpTransport.sendLoop, dif_neg (by omega)]
      rfl
  | succ n ih =>
      have hpos := fmt.cfDataBytes_pos
      by_cases hlt : offset < pdu.length
      · have hless : pdu.length - (offset +
            ((pdu.drop offset).take fmt.cfDataBytes).length) ≤ n := by
          rw [List.length_take, List.length_drop]
          omega
        have hnever : ¬((0 : Nat) ≠ 0 ∧ blockCount + 1 ≥ 0) := fun h => h.1 rfl
        rw [IsoTpTransport.sendLoop, dif_pos hlt]
        simp only [if_neg hnever]
        exact ih hless _ _
      · rw [IsoTpTransport.sendLoop, dif_neg hlt]
        rfl

theorem clientSends_long (hlong : 4095 < pdu.length) (hpolls : tp.polls ≠ 0) :
    ¬StatesLength (clientSends tp pdu) pdu.length := by
  obtain ⟨polls, hsucc⟩ := Nat.exists_eq_succ_of_ne_zero hpolls
  generalize hfc : Frame.ofBytes tp.rxId 8 (le_refl 8) [0x30, 0x00, 0x00] = fc
  have hid : fc.canId = tp.rxId := by rw [← hfc]; rfl
  have hdata : msgData fc = [0x30, 0x00, 0x00, 0, 0, 0, 0, 0] := by rw [← hfc]; rfl
  have hsend : tp.send pdu = tp.sendMultiClassic pdu := by
    rw [IsoTpTransport.send, if_neg (by omega)]
  have hloop := exec_sendLoop tp pdu classic pdu.length (Nat.sub_le pdu.length 6) 1 0
    (fun _ => .ok fc)
  intro h
  have hsteps := Proc.exec_steps (fun _ => .ok fc) (fun _ => .ok ()) (tp.send pdu)
  rcases h _ _ ⟨_, hsteps, rfl⟩ with ⟨e, he⟩ | hdeclares
  · rw [hsend, IsoTpTransport.sendMultiClassic, IsoTpTransport.sendMulti, busSend, Proc.exec_send,
      onSent, IsoTpTransport.recvFlowControl, hsucc, IsoTpTransport.recvFrame, Proc.exec_recv,
      IsoTpTransport.onMessage, if_pos hid, hdata, checkFcContinue_cts] at he
    cases hloop.symm.trans he
  · rw [hsend] at hdeclares
    exact not_declares_first tp.txId hlong (hdeclares _ (.head _))

theorem clientSends_empty : ¬StatesLength (clientSends tp []) ([] : List UInt8).length := by
  intro h
  have hsteps := Proc.exec_steps (fun _ => .error .errTimeout) (fun _ => .ok ()) (tp.send [])
  rcases h _ _ ⟨_, hsteps, rfl⟩ with ⟨e, he⟩ | hdeclares
  · cases he
  · exact not_declares_empty tp.txId (hdeclares _ (.head _))

theorem clientSends_iff : StatesLength (clientSends tp pdu) pdu.length ↔
    1 ≤ pdu.length ∧ (pdu.length ≤ 4095 ∨ tp.polls = 0) := by
  constructor
  · intro h
    by_cases hempty : pdu = []
    · subst hempty
      exact absurd h (clientSends_empty tp)
    · refine ⟨List.length_pos_of_ne_nil hempty, ?_⟩
      by_contra hnot
      rw [not_or, Nat.not_le] at hnot
      exact clientSends_long tp pdu hnot.1 hnot.2 h
  · rintro ⟨hpos, hle | hpolls⟩
    · rintro frames result ⟨tr, hrun, rfl⟩
      exact Or.inr (hrun.offers (clientSends_declares tp pdu hpos hle))
    · intro frames result hrun
      by_cases hle : pdu.length ≤ 4095
      · obtain ⟨tr, hsteps, rfl⟩ := hrun
        exact Or.inr (hsteps.offers (clientSends_declares tp pdu hpos hle))
      · exact Or.inl (clientSends_raises tp pdu (by omega) hpolls hrun)

theorem ecuSends_iff : StatesLength (ecuSends ecuId pdu) pdu.length ↔
    1 ≤ pdu.length ∧ pdu.length ≤ 4095 := by
  constructor
  · intro h
    by_cases hempty : pdu = []
    · subst hempty
      have hrun : ecuSends ecuId [] _ _ := .send (.ret _)
      rcases h _ _ hrun with ⟨e, he⟩ | hdeclares
      · cases he
      · exact absurd (hdeclares _ (.head _)) (not_declares_empty (txId ecuId))
    · refine ⟨List.length_pos_of_ne_nil hempty, ?_⟩
      by_contra hnot
      rw [Nat.not_le] at hnot
      unfold ecuSends at h
      rw [sendIsotp, if_neg (by omega)] at h
      -- no Flow Control comes
      rcases h _ _ (.send (.expire (.ret _))) with ⟨e, he⟩ | hdeclares
      · cases he
      · exact not_declares_first (txId ecuId) hnot (hdeclares _ (.head _))
  · rintro ⟨hpos, hle⟩ frames result hrun
    have hconf := confined_sendIsotp ecuId
      (fun sn chunk h => declares_consecutive (txId ecuId) pdu.length sn h)
      (fun h => declares_single (txId ecuId) hpos h)
      (fun h => declares_first (txId ecuId) (by omega) hle)
    exact Or.inr (hconf.of_runs hrun)

end Senders

end Uds.PyEcu
