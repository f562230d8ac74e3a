import Uds.Tp.Reassembly
import Uds.Tp.RecvGrammar
/-!
# The first frames that the receivers admit

What the headers of Single and First Frames say about the PDU, for classic CAN
and for CAN FD.  A header byte is never also content: changing the bytes behind
the header keeps the layout, and every header byte can be changed so that no
PDU of the same length starts.
-/

namespace Uds.Tp

open Uds.Base Uds.Can

section Admits

variable (bufSize : Nat)

/-- A classic Single Frame of `n` bytes, which fit. -/
inductive AdmitsSf (f : CanFrame) : Nat → Nat → Prop where
  | sf {n : Nat} (hpos : 1 ≤ n) (hle : n ≤ 7) (hpci : (f.byte 0).toNat = n)
      (hdlc : 1 + n ≤ f.len) (hfit : n ≤ bufSize) : AdmitsSf f 1 n

/-- A classic First Frame; the source narrows the buffer size to 32 bits. -/
inductive AdmitsFf (f : CanFrame) : Nat → Nat → Nat → Prop where
  | ff {len : Nat} (hff : IsFf f len) (hfit : len ≤ bufSize % 2 ^ 32) : AdmitsFf f 2 6 len

/-- A Single Frame of CAN FD, with a length nibble or with the escape sequence. -/
inductive AdmitsSfFd (f : CanFdFrame) : Nat → Nat → Prop where
  | short {n : Nat} (hpos : 1 ≤ n) (hle : n ≤ 7) (hpci : (f.byte 0).toNat = n)
      (hdlc : 1 + n ≤ f.len) (hfit : n ≤ bufSize) : AdmitsSfFd f 1 n
  | escape {n : Nat} (hge : 8 ≤ n) (hle : n ≤ 62) (hpci : (f.byte 0).toNat = 0)
      (hsize : (f.byte 1).toNat = n) (hdlc : 2 + n ≤ f.len) (hfit : n ≤ bufSize) :
      AdmitsSfFd f 2 n

/-- A First Frame of CAN FD, with a 12-bit or with a 32-bit length. -/
inductive AdmitsFfFd (f : CanFdFrame) : Nat → Nat → Nat → Prop where
  | regular {len : Nat} (hge : 63 ≤ len) (hle : len ≤ 4095)
      (hpci : (f.byte 0).toNat = 0x10 + len / 256) (hlow : (f.byte 1).toNat = len % 256)
      (hdlc : 1 ≤ f.len) (hfit : len ≤ bufSize) : AdmitsFfFd f 2 (min (f.len - 2) 62) len
  | extended {len : Nat} (hpos : 1 ≤ len) (hpci : (f.byte 0).toNat = 0x10)
      (hzero : (f.byte 1).toNat = 0)
      (hlen : (f.byte 2).toNat * 2 ^ 24 + (f.byte 3).toNat * 2 ^ 16 +
        (f.byte 4).toNat * 2 ^ 8 + (f.byte 5).toNat = len)
      (hdlc : 6 ≤ f.len) (hembed : min (f.len - 6) 58 ≤ bufSize) (hfit : len ≤ bufSize) :
      AdmitsFfFd f 6 (min (f.len - 6) 58) len

variable (cfg : UdsTpConfig)

/-- The PDUs that `uds_tp_recv` starts. -/
def ClassicLayout : CanFrame → PduLayout → Prop :=
  Layout classic cfg (AdmitsSf bufSize) (AdmitsFf bufSize)

/-- The PDUs that `uds_tp_recv_fd` starts. -/
def FdLayout : CanFdFrame → PduLayout → Prop :=
  Layout canFd cfg (AdmitsSfFd bufSize) (AdmitsFfFd bufSize)

end Admits

/-! ## What the headers determine -/

section Headers

variable {cap bufSize : Nat} {cfg : UdsTpConfig}

theorem ClassicLayout.pci_lt {f : CanFrame} {L : PduLayout} (h : ClassicLayout bufSize cfg f L) :
    (f.byte 0).toNat < 0x30 := by
  cases h with
  | single h =>
      cases h
      omega
  | multi h =>
      cases h with
      | ff hff =>
          have hpci := hff.pci
          have hle := hff.le
          omega

theorem FdLayout.pci_lt {f : CanFdFrame} {L : PduLayout} (h : FdLayout bufSize cfg f L) :
    (f.byte 0).toNat < 0x30 := by
  cases h with
  | single h => cases h <;> omega
  | multi h => cases h <;> omega

theorem toNat_add_one_ne (b : UInt8) : (b + 1).toNat ≠ b.toNat := by
  intro h
  exact absurd (UInt8.add_eq_left.mp (UInt8.toNat_inj.mp h)) (by decide)

theorem IsFf.setByte {f : CanFrame} {len q : Nat} (h : IsFf f len) (hq : 2 ≤ q) (v : UInt8) :
    IsFf (f.setByte q v) len := by
  refine ⟨h.ge, h.le, ?_, ?_, h.dlc⟩
  · rw [Frame.byte_setByte_of_ne f v (by omega)]
    exact h.pci
  · rw [Frame.byte_setByte_of_ne f v (by omega)]
    exact h.low

theorem ClassicLayout.unique {f : CanFrame} {L L' : PduLayout}
    (h : ClassicLayout bufSize cfg f L) (h' : ClassicLayout bufSize cfg f L') : L = L' := by
  cases h with
  | single h =>
      cases h with
      | sf hpos hle hpci =>
          cases h' with
          | single h' =>
              cases h' with
              | sf hpos' hle' hpci' => rw [← hpci, hpci']
          | multi h' =>
              cases h' with
              | ff hff =>
                  have hpci' := hff.pci
                  omega
  | multi h =>
      cases h with
      | ff hff =>
          cases h' with
          | single h' =>
              cases h' with
              | sf hpos hle hpci =>
                  have hpci' := hff.pci
                  omega
          | multi h' =>
              cases h' with
              | ff hff' => rw [hff.unique hff']

theorem ClassicLayout.header {f : CanFrame} {L : PduLayout} {q : Nat}
    (h : ClassicLayout bufSize cfg f L) (hq : q < L.header) :
    ∃ v, ∀ L', ClassicLayout bufSize cfg (f.setByte q v) L' → L'.len ≠ L.len := by
  by_cases hzero : q = 0
  · refine ⟨0x30, fun L' h' => ?_⟩
    have hpci := h'.pci_lt
    rw [hzero, Frame.byte_setByte_self f _ (by decide)] at hpci
    exact absurd hpci (by decide)
  · cases h with
    | single h =>
        cases h
        dsimp only at hq
        omega
    | multi h =>
        cases h with
        | ff hff =>
            have hone : q = 1 := by
              dsimp only at hq
              omega
            subst hone
            refine ⟨f.byte 1 + 1, fun L' h' => ?_⟩
            have hnext := toNat_add_one_ne (f.byte 1)
            have hpci := hff.pci
            have hlow := hff.low
            cases h' with
            | single h' =>
                cases h' with
                | sf hpos' hle' hpci' =>
                    rw [Frame.byte_setByte_of_ne f _ (by decide)] at hpci'
                    omega
            | multi h' =>
                cases h' with
                | ff hff' =>
                    have hlow' := hff'.low
                    rw [Frame.byte_setByte_self f _ (by decide)] at hlow'
                    intro hlen
                    dsimp only at hlen
                    omega

theorem firstFrames_classic : FirstFrames (ClassicLayout bufSize cfg) where
  unique := fun h h' => h.unique h'
  embedded := by
    intro f L i h hi
    cases h with
    | single h =>
        cases h with
        | sf hpos hle hpci hdlc =>
            dsimp only at hi ⊢
            omega
    | multi h =>
        cases h with
        | ff hff =>
            have hdlc := hff.dlc
            dsimp only at hi ⊢
            omega
  stable := by
    intro f L q v h hq
    cases h with
    | single h =>
        cases h with
        | sf hpos hle hpci hdlc hfit =>
            have hpci' : ((f.setByte q v).byte 0).toNat = (f.byte 0).toNat := by
              dsimp only at hq
              rw [Frame.byte_setByte_of_ne f v (by omega)]
            exact .single (.sf hpos hle (hpci'.trans hpci) hdlc hfit)
    | multi h =>
        cases h with
        | ff hff hfit => exact .multi (.ff (hff.setByte hq v) hfit)
  header := fun h hq => h.header hq

theorem FdLayout.unique {f : CanFdFrame} {L L' : PduLayout} (h : FdLayout bufSize cfg f L)
    (h' : FdLayout bufSize cfg f L') : L = L' := by
  cases h with
  | single h =>
      cases h' with
      | single h' =>
          cases h with
          | short hpos hle hpci =>
              cases h' with
              | short hpos' hle' hpci' => rw [← hpci, hpci']
              | escape hge' hle' hpci' => omega
          | escape hge hle hpci hsize =>
              cases h' with
              | short hpos' hle' hpci' => omega
              | escape hge' hle' hpci' hsize' => rw [← hsize, hsize']
      | multi h' => cases h <;> cases h' <;> omega
  | @multi _ _ len h =>
      cases h' with
      | single h' => cases h <;> cases h' <;> omega
      | @multi _ _ len' h' =>
          cases h with
          | regular hge hle hpci hlow =>
              cases h' with
              | regular hge' hle' hpci' hlow' =>
                  obtain rfl : len = len' := by omega
                  rfl
              | extended hpos' hpci' hzero' => omega
          | extended hpos hpci hzero hlen =>
              cases h' with
              | regular hge' hle' hpci' hlow' => omega
              | extended hpos' hpci' hzero' hlen' => rw [← hlen, hlen']

theorem exists_small_ne (b : UInt8) :
    ∃ v : UInt8, v.toNat ≠ 0 ∧ v.toNat ≤ 2 ∧ v.toNat ≠ b.toNat := by
  by_cases hone : b.toNat = 1
  · exact ⟨2, by decide, by decide, by rw [hone]; decide⟩
  · exact ⟨1, by decide, by decide, fun h => hone h.symm⟩

theorem FdLayout.header_one {f : CanFdFrame} {L : PduLayout} (h : FdLayout bufSize cfg f L)
    (hq : 1 < L.header) : ∃ v, ∀ L', FdLayout bufSize cfg (f.setByte 1 v) L' → L'.len ≠ L.len := by
  obtain ⟨v, hv, hle, hne⟩ := exists_small_ne (f.byte 1)
  refine ⟨v, fun L' h' hlen => ?_⟩
  have h0 := Frame.byte_setByte_of_ne f v (show 1 ≠ 0 by decide)
  have h1 := Frame.byte_setByte_self f v (show 1 < 64 by decide)
  cases h' with
  | single h' =>
      cases h' with
      | short hpos' hle' hpci' =>
          rw [h0] at hpci'
          cases h with
          | single h => cases h <;> dsimp only at hq hlen <;> omega
          | multi h => cases h <;> omega
      | escape hge' hle' hpci' hsize' =>
          rw [h0] at hpci'
          rw [h1] at hsize'
          cases h with
          | single h => cases h <;> dsimp only at hq hlen <;> omega
          | multi h => cases h <;> omega
  | multi h' =>
      cases h' with
      | regular hge' hle' hpci' hlow' =>
          rw [h0] at hpci'
          rw [h1] at hlow'
          cases h with
          | single h => cases h <;> dsimp only at hq hlen <;> omega
          | multi h => cases h <;> dsimp only at hlen <;> omega
      | extended hpos' hpci' hzero' =>
          rw [h1] at hzero'
          exact hv hzero'

theorem FdLayout.header_length {f : CanFdFrame} {L : PduLayout} {q : Nat}
    (h : FdLayout bufSize cfg f L) (hge : 2 ≤ q) (hq : q < L.header) :
    ∃ v, ∀ L', FdLayout bufSize cfg (f.setByte q v) L' → L'.len ≠ L.len := by
  cases h with
  | single h => cases h <;> dsimp only at hq <;> omega
  | multi h =>
      cases h with
      | regular => dsimp only at hq; omega
      | extended hpos hpci hzero hlen =>
          dsimp only at hq
          refine ⟨f.byte q + 1, fun L' h' hsame => ?_⟩
          have hnext := toNat_add_one_ne (f.byte q)
          have hself := Frame.byte_setByte_self f (f.byte q + 1) (show q < 64 by omega)
          have hother {i : Nat} (hi : q ≠ i) := Frame.byte_setByte_of_ne f (f.byte q + 1) hi
          have h0 := congrArg UInt8.toNat (hother (show q ≠ 0 by omega))
          have h1 := congrArg UInt8.toNat (hother (show q ≠ 1 by omega))
          cases h' with
          | single h' => cases h' <;> omega
          | multi h' =>
              cases h' with
              | regular => omega
              | extended hpos' hpci' hzero' hlen' =>
                  dsimp only at hsame
                  rcases (show q = 2 ∨ q = 3 ∨ q = 4 ∨ q = 5 by omega) with rfl | rfl | rfl | rfl
                  · rw [hself, hother (by decide), hother (by decide), hother (by decide)] at hlen'
                    omega
                  · rw [hself, hother (by decide), hother (by decide), hother (by decide)] at hlen'
                    omega
                  · rw [hself, hother (by decide), hother (by decide), hother (by decide)] at hlen'
                    omega
                  · rw [hself, hother (by decide), hother (by decide), hother (by decide)] at hlen'
                    omega

theorem FdLayout.header {f : CanFdFrame} {L : PduLayout} {q : Nat}
    (h : FdLayout bufSize cfg f L) (hq : q < L.header) :
    ∃ v, ∀ L', FdLayout bufSize cfg (f.setByte q v) L' → L'.len ≠ L.len := by
  by_cases hzero : q = 0
  · refine ⟨0x30, fun L' h' => ?_⟩
    have hpci := h'.pci_lt
    rw [hzero, Frame.byte_setByte_self f _ (by decide)] at hpci
    exact absurd hpci (by decide)
  · by_cases hone : q = 1
    · subst hone
      exact h.header_one hq
    · exact h.header_length (by omega) hq

theorem AdmitsSfFd.setByte {f : CanFdFrame} {header n q : Nat} (h : AdmitsSfFd bufSize f header n)
    (hq : header ≤ q) (v : UInt8) : AdmitsSfFd bufSize (f.setByte q v) header n := by
  have hother {i : Nat} (hi : i < header) :=
    congrArg UInt8.toNat (Frame.byte_setByte_of_ne f v (show q ≠ i by omega))
  cases h with
  | short hpos hle hpci hdlc hfit =>
      exact .short hpos hle ((hother (by decide)).trans hpci) hdlc hfit
  | escape hge hle hpci hsize hdlc hfit =>
      exact .escape hge hle ((hother (by decide)).trans hpci)
        ((hother (by decide)).trans hsize) hdlc hfit

theorem AdmitsFfFd.setByte {f : CanFdFrame} {header embed len q : Nat}
    (h : AdmitsFfFd bufSize f header embed len) (hq : header ≤ q) (v : UInt8) :
    AdmitsFfFd bufSize (f.setByte q v) header embed len := by
  have hother {i : Nat} (hi : i < header) := Frame.byte_setByte_of_ne f v (show q ≠ i by omega)
  cases h with
  | regular hge hle hpci hlow hdlc hfit =>
      refine .regular hge hle ?_ ?_ hdlc hfit
      · rw [hother (by decide)]
        exact hpci
      · rw [hother (by decide)]
        exact hlow
  | extended hpos hpci hzero hlen hdlc hembed hfit =>
      refine .extended hpos ?_ ?_ ?_ hdlc hembed hfit
      · rw [hother (by decide)]
        exact hpci
      · rw [hother (by decide)]
        exact hzero
      · rw [hother (by decide), hother (by decide), hother (by decide), hother (by decide)]
        exact hlen

theorem firstFrames_fd : FirstFrames (FdLayout bufSize cfg) where
  unique := fun h h' => h.unique h'
  embedded := by
    intro f L i h hi
    cases h with
    | single h => cases h <;> dsimp only at hi ⊢ <;> omega
    | multi h => cases h <;> dsimp only at hi ⊢ <;> omega
  stable := by
    intro f L q v h hq
    cases h with
    | single h => exact .single (h.setByte hq v)
    | multi h => exact .multi (h.setByte hq v)
  header := fun h hq => h.header hq

end Headers

/-! ## What the receivers do with them -/

section Receivers

variable (txId rxId : UInt32) (buf : Mem UInt8) (bufSize outLen : Nat) (cfg : UdsTpConfig)

theorem startsWith_classic :
    StartsWith classic txId cfg bufSize outLen buf (AdmitsSf bufSize) (AdmitsFf bufSize)
      (onFirstFrame txId buf bufSize outLen cfg) where
  of_single := by
    intro f header n h
    cases h with
    | sf hpos hle hpci hdlc hfit =>
        have hlen : (f.slice 1 n).length = n := Frame.length_slice f (by omega)
        have hsf : IsSf f (f.slice 1 n) :=
          ⟨by omega, by omega, by omega, by omega, by rw [hlen]⟩
        rw [onFirstFrame_sf txId buf outLen cfg hsf (by omega), hlen]
  of_multi := by
    intro f header embed len h
    cases h with
    | ff hff hfit =>
        have hge := hff.ge
        have hmod := Nat.mod_le bufSize (2 ^ 32)
        refine ⟨by omega, ?_⟩
        rw [onFirstFrame_ff txId buf outLen cfg hff (by omega), if_neg (by omega)]
        rfl
  of_other := by
    intro f hsingle hmulti
    have hnosf : ∀ p, IsSf f p → ¬p.length ≤ bufSize := fun p hp hfit =>
      hsingle 1 p.length (.sf hp.pos hp.le hp.pci hp.dlc hfit)
    by_cases hff : (∃ len, IsFf f len) ∧ 6 ≤ bufSize
    · obtain ⟨⟨len, hlen⟩, hsix⟩ := hff
      have hfull : ¬len ≤ bufSize % 2 ^ 32 := fun hfit => hmulti 2 6 len (.ff hlen hfit)
      refine ⟨.errBufFull, buf.store 0 (f.slice 2 6), by decide, ?_⟩
      rw [onFirstFrame_ff txId buf outLen cfg hlen hsix, if_pos (by omega)]
    · obtain ⟨rc, hrc, hret⟩ := onFirstFrame_other txId buf outLen cfg hnosf
        (fun len hlen hsix => hff ⟨⟨len, hlen⟩, hsix⟩)
      exact ⟨rc, buf, hrc, hret⟩

variable (data : List UInt8)

/-- A frame in front of the receiver that makes it return the whole PDU. -/
theorem onFirstFrameFd_of_decodeSf {f : CanFdFrame} {p : List UInt8}
    (htype : frameType f = .sf) (hdec : udsTpDecodeSfFd f bufSize = .ok p) :
    onFirstFrameFd rxId buf bufSize outLen cfg f = .ret ⟨.ok, buf.store 0 p, p.length⟩ := by
  simp only [onFirstFrameFd, udsTpFrameTypeFd, htype, hdec]

theorem onFirstFrameFd_of_decodeFf {f : CanFdFrame} {totalLen : Nat} {embedded : List UInt8}
    (htype : frameType f = .ff) (hdec : udsTpDecodeFfFd f bufSize = .ok (totalLen, embedded))
    (hfit : totalLen ≤ bufSize) :
    onFirstFrameFd rxId buf bufSize outLen cfg f =
      recvMulti canFd rxId cfg bufSize totalLen outLen embedded.length
        (buf.store 0 embedded) := by
  simp only [onFirstFrameFd, udsTpFrameTypeFd, htype, hdec]
  rw [if_neg (by omega)]

/-- A First Frame with the first `base` bytes of the PDU. -/
theorem onFirstFrameFd_of_decodeFf_take {f : CanFdFrame} {base : Nat} (hbase : base < data.length)
    (htype : frameType f = .ff)
    (hdec : udsTpDecodeFfFd f bufSize = .ok (data.length, data.take base))
    (hfit : data.length ≤ bufSize) :
    onFirstFrameFd rxId buf bufSize outLen cfg f =
      recvMulti canFd rxId cfg bufSize data.length outLen base
        (buf.store 0 (data.take base)) := by
  have htake : (data.take base).length = base := by
    rw [List.length_take]
    omega
  have hfirst := onFirstFrameFd_of_decodeFf rxId buf bufSize outLen cfg htype hdec hfit
  rwa [htake] at hfirst

variable {bufSize}

theorem decodeSfFd_of_admits {f : CanFdFrame} {header n : Nat} (h : AdmitsSfFd bufSize f header n) :
    frameType f = .sf ∧ udsTpDecodeSfFd f bufSize = .ok (f.slice header n) := by
  cases h with
  | short hpos hle hpci hdlc hfit =>
      have hsf : frameType f = .sf := (frameType_eq_sf f).mpr (by omega)
      have hmod : (f.byte 0).toNat % 16 = n := by omega
      refine ⟨hsf, ?_⟩
      unfold udsTpDecodeSfFd udsTpFrameTypeFd udsTpSfMaxData
      rw [hsf, and_0F, hmod, if_neg (by omega), if_neg (by simp), if_neg (by omega)]
      simp only
      rw [if_neg (by omega), if_neg (by omega), if_neg (by omega)]
  | escape hge hle hpci hsize hdlc hfit =>
      have hsf : frameType f = .sf := (frameType_eq_sf f).mpr (by omega)
      have hmod : (f.byte 0).toNat % 16 = 0 := by omega
      refine ⟨hsf, ?_⟩
      unfold udsTpDecodeSfFd udsTpFrameTypeFd udsTpCanfdSfEscapeMinDl udsTpSfMaxData
        udsTpCanfdSfMaxData
      rw [hsf, and_0F, hsize, if_neg (by omega), if_neg (by simp), if_pos hmod, if_neg (by omega)]
      simp only
      rw [if_neg (by omega), if_neg (by omega), if_neg (by omega)]

theorem admits_of_decodeSfFd {f : CanFdFrame} {p : List UInt8} (hbuf : bufSize ≠ 0)
    (htype : frameType f = .sf) (h : udsTpDecodeSfFd f bufSize = .ok p) :
    ∃ header n, AdmitsSfFd bufSize f header n := by
  have hsf := (frameType_eq_sf f).mp htype
  unfold udsTpDecodeSfFd udsTpFrameTypeFd udsTpCanfdSfEscapeMinDl udsTpSfMaxData
    udsTpCanfdSfMaxData at h
  rw [and_0F, if_neg hbuf, if_neg (by simp [htype])] at h
  dsimp only at h
  split at h
  · split at h
    · cases h
    · split at h
      · cases h
      · split at h
        · cases h
        · split at h
          · cases h
          · exact ⟨2, _, .escape (by omega) (by omega) (by omega) rfl (by omega) (by omega)⟩
  · split at h
    · cases h
    · split at h
      · cases h
      · split at h
        · cases h
        · exact ⟨1, (f.byte 0).toNat, .short (by omega) (by omega) rfl (by omega) (by omega)⟩

theorem udsTpDecodeSfFd_error (f : CanFdFrame) (bufSize : Nat) :
    udsTpDecodeSfFd f bufSize ≠ .error .ok := by
  unfold udsTpDecodeSfFd
  grind

theorem decodeFfFd_of_admits {f : CanFdFrame} {header embed len : Nat}
    (h : AdmitsFfFd bufSize f header embed len) :
    frameType f = .ff ∧ udsTpDecodeFfFd f bufSize = .ok (len, f.slice header embed) := by
  cases h with
  | regular hge hle hpci hlow hdlc hfit =>
      have hff : frameType f = .ff := (frameType_eq_ff f).mpr (by omega)
      have hdeclared : (((f.byte 0).toNat &&& 0x0F) <<< 8) ||| (f.byte 1).toNat = len := by
        rw [shl_or _ _ 8 (f.byte 1).toNat_lt, and_0F]
        omega
      have hregular : ¬(f.byte 1 = 0x00 ∧ (f.byte 0).toNat &&& 0x0F = 0) := by
        rintro ⟨hzero, hnibble⟩
        have hbyte : (f.byte 1).toNat = 0 := by
          rw [hzero]
          rfl
        rw [and_0F] at hnibble
        omega
      refine ⟨hff, ?_⟩
      unfold udsTpDecodeFfFd udsTpFrameTypeFd udsTpCanfdSfMaxData udsTpCanfdFfExtThreshold
        udsTpCanfdFfDataBytes
      rw [hff, if_neg (by simp), if_neg hregular]
      simp only [hdeclared]
      rw [if_neg (by omega), if_neg (by omega)]
  | extended hpos hpci hzero hlen hdlc hembed hfit =>
      have hff : frameType f = .ff := (frameType_eq_ff f).mpr (by omega)
      have hextended : f.byte 1 = 0x00 ∧ (f.byte 0).toNat &&& 0x0F = 0 := by
        rw [and_0F, hpci]
        exact ⟨UInt8.toNat_inj.mp hzero, rfl⟩
      have hdeclared : ((f.byte 2).toNat <<< 24) ||| ((f.byte 3).toNat <<< 16) |||
          ((f.byte 4).toNat <<< 8) ||| (f.byte 5).toNat = len := by
        rw [shl_or_bytes _ _ _ _ (f.byte 3).toNat_lt (f.byte 4).toNat_lt (f.byte 5).toNat_lt]
        exact hlen
      refine ⟨hff, ?_⟩
      unfold udsTpDecodeFfFd udsTpFrameTypeFd udsTpCanfdFfExtDataBytes
      rw [hff, if_neg (by simp), if_pos hextended, if_neg (by omega)]
      simp only [hdeclared]
      rw [if_neg (by omega), if_neg (by omega)]

theorem admits_of_decodeFfFd {f : CanFdFrame} {len : Nat} {content : List UInt8}
    (htype : frameType f = .ff) (h : udsTpDecodeFfFd f bufSize = .ok (len, content))
    (hfit : len ≤ bufSize) : ∃ header embed, AdmitsFfFd bufSize f header embed len := by
  have hff := (frameType_eq_ff f).mp htype
  have hlow := (f.byte 1).toNat_lt
  unfold udsTpDecodeFfFd udsTpFrameTypeFd udsTpCanfdSfMaxData udsTpCanfdFfExtThreshold
    udsTpCanfdFfDataBytes udsTpCanfdFfExtDataBytes at h
  rw [and_0F, if_neg (by simp [htype])] at h
  dsimp only at h
  rw [shl_or_bytes _ _ _ _ (f.byte 3).toNat_lt (f.byte 4).toNat_lt (f.byte 5).toNat_lt,
    shl_or _ _ 8 hlow] at h
  split at h
  · rename_i hextended
    have hzero : (f.byte 1).toNat = 0 := by
      rw [hextended.1]
      rfl
    split at h
    · cases h
    · split at h
      · cases h
      · split at h
        · cases h
        · obtain ⟨hlen, -⟩ := Prod.mk.inj (Except.ok.inj h)
          exact ⟨6, _, .extended (by omega) (by omega) hzero hlen (by omega) (by omega) hfit⟩
  · split at h
    · cases h
    · split at h
      · cases h
      · obtain ⟨hlen, -⟩ := Prod.mk.inj (Except.ok.inj h)
        exact ⟨2, _, .regular (by omega) (by omega) (by omega) (by omega) (by omega) hfit⟩

theorem udsTpDecodeFfFd_error (f : CanFdFrame) (bufSize : Nat) :
    udsTpDecodeFfFd f bufSize ≠ .error .ok := by
  unfold udsTpDecodeFfFd
  grind

theorem startsWith_fd (hbuf : bufSize ≠ 0) :
    StartsWith canFd txId cfg bufSize outLen buf (AdmitsSfFd bufSize) (AdmitsFfFd bufSize)
      (onFirstFrameFd txId buf bufSize outLen cfg) where
  of_single := by
    intro f header n h
    have hlen : (f.slice header n).length = n := by
      cases h <;> exact Frame.length_slice f (by omega)
    obtain ⟨htype, hdec⟩ := decodeSfFd_of_admits h
    rw [onFirstFrameFd_of_decodeSf txId buf bufSize outLen cfg htype hdec, hlen]
  of_multi := by
    intro f header embed len h
    have hfit : len ≤ bufSize := by
      cases h <;> assumption
    have hlen : (f.slice header embed).length = embed := by
      cases h <;> exact Frame.length_slice f (by omega)
    obtain ⟨htype, hdec⟩ := decodeFfFd_of_admits h
    refine ⟨hfit, ?_⟩
    rw [onFirstFrameFd_of_decodeFf txId buf bufSize outLen cfg htype hdec hfit, hlen]
  of_other := by
    intro f hsingle hmulti
    unfold onFirstFrameFd
    cases htype : udsTpFrameTypeFd f with
    | sf =>
        cases hdec : udsTpDecodeSfFd f bufSize with
        | error rc =>
            refine ⟨rc, buf, ?_, rfl⟩
            rintro rfl
            exact udsTpDecodeSfFd_error f bufSize hdec
        | ok p =>
            obtain ⟨header, n, h⟩ := admits_of_decodeSfFd hbuf htype hdec
            exact absurd h (hsingle header n)
    | ff =>
        cases hdec : udsTpDecodeFfFd f bufSize with
        | error rc =>
            refine ⟨rc, buf, ?_, rfl⟩
            rintro rfl
            exact udsTpDecodeFfFd_error f bufSize hdec
        | ok out =>
            by_cases hfit : out.1 > bufSize
            · refine ⟨.errBufFull, buf.store 0 out.2, by decide, ?_⟩
              simp only [if_pos hfit]
            · obtain ⟨header, embed, h⟩ := admits_of_decodeFfFd htype hdec (by omega)
              exact absurd h (hmulti header embed out.1)
    | cf | fc | unknown => exact ⟨.errFrameType, buf, by decide, rfl⟩

variable {outLen buf txId} {outs : Nat → Except UdsCanError Unit}

theorem udsTpRecv_reassembles (hcfg : cfg.timeoutMs ≠ 0) (hbuf : bufSize ≠ 0) :
    Reassembles classic (ClassicLayout bufSize cfg) outs
      (fun ins => ((udsTpRecv txId buf bufSize outLen cfg).exec ins outs).2) := by
  simp only [udsTpRecv, if_neg hbuf, if_neg hcfg]
  exact reassembles_of_startsWith (startsWith_classic txId buf bufSize outLen cfg)
    firstFrames_classic

theorem udsTpRecvFd_reassembles (hcfg : cfg.timeoutMs ≠ 0) (hbuf : bufSize ≠ 0) :
    Reassembles canFd (FdLayout bufSize cfg) outs
      (fun ins => ((udsTpRecvFd txId buf bufSize outLen cfg).exec ins outs).2) := by
  simp only [udsTpRecvFd, if_neg hbuf, if_neg hcfg]
  exact reassembles_of_startsWith (startsWith_fd txId buf outLen cfg hbuf) firstFrames_fd

end Receivers

end Uds.Tp
