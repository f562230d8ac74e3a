import Uds.Bootloader.Programming
import Uds.Ecusim.Invariant
/-!
# Transfer sessions of the simulator

What one turn can do to the transfer session and the flash, and the invariant
that ties the two together: the range of a transfer under way can be programmed,
and no more of it than its length has been transferred.  The unchecked 32-bit
arithmetic of `uds_svc_transfer_data` is safe because of it.
-/

namespace Uds.Ecusim

open Uds.Base Uds.Core Uds.Bootloader

/-! ## Turns -/

/-- No flash service answers positively in the turn. -/
structure NoTransfer (x : EcuTurn) : Prop where
  download : ¬Positive .requestDownload x
  upload : ¬Positive .requestUpload x
  data : ¬Positive .transferData x
  exit : ¬Positive .requestTransferExit x

/-- What a turn leaves of the transfer session and the flash. -/
inductive FlashTurn (sim : EcuSimulator) (i : Input) : UdsXferSession → UdsFlashMemory → Prop
  | unchanged (quiet : NoTransfer (turn ecusimStep sim i)) : FlashTurn sim i sim.xfer sim.flash
  | download {address memSize : UInt32} {flash' : UdsFlashMemory}
      (pos : Positive .requestDownload (turn ecusimStep sim i)) (idle : sim.xfer.mode = .idle)
      (parse : parseAddrLenFmt (i.req.getD 2 0) (i.req.drop 3) = some (address, memSize))
      (erase : udsFlashErase sim.flash address memSize = .ok flash') :
      FlashTurn sim i (startXfer .download address memSize) flash'
  | upload {address memSize : UInt32}
      (pos : Positive .requestUpload (turn ecusimStep sim i)) (idle : sim.xfer.mode = .idle)
      (valid : udsFlashAddressValid sim.flash address memSize = true) :
      FlashTurn sim i (startXfer .upload address memSize) sim.flash
  | write {flash' : UdsFlashMemory} (pos : Positive .transferData (turn ecusimStep sim i))
      (mode : sim.xfer.mode = .download)
      (room : UInt32.ofNat (i.req.drop 2).length ≤ sim.xfer.remaining)
      (write : udsFlashWrite sim.flash (sim.xfer.address + sim.xfer.transferred) (i.req.drop 2) =
        .ok flash') :
      FlashTurn sim i (sim.xfer.advance (UInt32.ofNat (i.req.drop 2).length)) flash'
  | read {bytes : List UInt8} (pos : Positive .transferData (turn ecusimStep sim i))
      (mode : sim.xfer.mode = .upload)
      (read : udsFlashRead sim.flash (sim.xfer.address + sim.xfer.transferred)
        sim.xfer.toRead.toNat = .ok bytes) :
      FlashTurn sim i (sim.xfer.advance sim.xfer.toRead) sim.flash
  | exit (pos : Positive .requestTransferExit (turn ecusimStep sim i))
      (active : sim.xfer.mode ≠ .idle) : FlashTurn sim i udsXferInit sim.flash

theorem noTransfer_of_error {svc : Service} {sim : EcuSimulator} {i : Input} {e : UdsCoreError}
    (hreq : i.req.head? = some svc.sid)
    (h : (serve sim i.env i.req ecusimMaxPdu svc).2 = .error e) :
    NoTransfer (turn ecusimStep sim i) where
  download := not_positive_of_error hreq h _
  upload := not_positive_of_error hreq h _
  data := not_positive_of_error hreq h _
  exit := not_positive_of_error hreq h _

theorem FlashTurn.of_error {svc : Service} {sim : EcuSimulator} {i : Input} {e : UdsCoreError}
    (hreq : i.req.head? = some svc.sid)
    (h : (serve sim i.env i.req ecusimMaxPdu svc).2 = .error e)
    (hxfer : (serve sim i.env i.req ecusimMaxPdu svc).1.xfer = sim.xfer)
    (hflash : (serve sim i.env i.req ecusimMaxPdu svc).1.flash = sim.flash) :
    FlashTurn sim i (serve sim i.env i.req ecusimMaxPdu svc).1.xfer
      (serve sim i.env i.req ecusimMaxPdu svc).1.flash := by
  rw [hxfer, hflash]
  exact .unchanged (noTransfer_of_error hreq h)

section Services

variable {sim : EcuSimulator} {i : Input}

theorem flashTurn_requestDownload (hreq : i.req.head? = some Service.requestDownload.sid) :
    FlashTurn sim i (serve sim i.env i.req ecusimMaxPdu .requestDownload).1.xfer
      (serve sim i.env i.req ecusimMaxPdu .requestDownload).1.flash := by
  by_cases hshort : i.req.length < 3
  · have hserve : serve sim i.env i.req ecusimMaxPdu .requestDownload = (sim, badLength) :=
      if_pos hshort
    exact .of_error hreq (by rw [hserve]; rfl) (by rw [hserve]) (by rw [hserve])
  · rcases requestDownload_cases sim.xfer sim.flash (i.req.getD 2 0) (i.req.drop 3)
        ecusimMaxPdu with
      ⟨e, h⟩ | ⟨address, memSize, flash', hidle, hparse, herase, ⟨hsize, -⟩ | h⟩
    · have hserve : serve sim i.env i.req ecusimMaxPdu .requestDownload = (sim, .error e) := by
        simp only [serve]
        rw [if_neg hshort, h]
      exact .of_error hreq (by rw [hserve]) (by rw [hserve]) (by rw [hserve])
    · exact absurd hsize (by decide)
    · have hserve : serve sim i.env i.req ecusimMaxPdu .requestDownload =
          ({ sim with xfer := startXfer .download address memSize, flash := flash' },
            .ok [0x74, 0x20, 0x00, flashMaxBlockData.toUInt8]) := by
        simp only [serve]
        rw [if_neg hshort, h]
      have hpos := positive_of_ok hreq (congrArg Prod.snd hserve)
      rw [hserve]
      exact .download hpos hidle hparse herase

theorem flashTurn_requestUpload (hreq : i.req.head? = some Service.requestUpload.sid) :
    FlashTurn sim i (serve sim i.env i.req ecusimMaxPdu .requestUpload).1.xfer
      (serve sim i.env i.req ecusimMaxPdu .requestUpload).1.flash := by
  by_cases hshort : i.req.length < 3
  · have hserve : serve sim i.env i.req ecusimMaxPdu .requestUpload = (sim, badLength) :=
      if_pos hshort
    exact .of_error hreq (by rw [hserve]; rfl) (by rw [hserve]) (by rw [hserve])
  · rcases requestUpload_cases sim.xfer sim.flash (i.req.getD 2 0) (i.req.drop 3)
        ecusimMaxPdu with
      ⟨e, h⟩ | ⟨address, memSize, hidle, -, hvalid, h⟩
    · have hserve : serve sim i.env i.req ecusimMaxPdu .requestUpload = (sim, .error e) := by
        simp only [serve]
        rw [if_neg hshort, h]
      exact .of_error hreq (by rw [hserve]) (by rw [hserve]) (by rw [hserve])
    · have hserve : serve sim i.env i.req ecusimMaxPdu .requestUpload =
          ({ sim with xfer := startXfer .upload address memSize },
            .ok [0x75, 0x20, 0x00, flashMaxBlockData.toUInt8]) := by
        simp only [serve]
        rw [if_neg hshort, h]
      have hpos := positive_of_ok hreq (congrArg Prod.snd hserve)
      rw [hserve]
      exact .upload hpos hidle hvalid

theorem flashTurn_transferData (hreq : i.req.head? = some Service.transferData.sid) :
    FlashTurn sim i (serve sim i.env i.req ecusimMaxPdu .transferData).1.xfer
      (serve sim i.env i.req ecusimMaxPdu .transferData).1.flash := by
  by_cases hshort : i.req.length < 2
  · have hserve : serve sim i.env i.req ecusimMaxPdu .transferData = (sim, badLength) :=
      if_pos hshort
    exact .of_error hreq (by rw [hserve]; rfl) (by rw [hserve]) (by rw [hserve])
  · rcases transferData_cases sim.xfer sim.flash (i.req.getD 1 0) (i.req.drop 2)
        ecusimMaxPdu with
      ⟨e, h⟩ | ⟨flash', hmode, -, hroom, hwrite, ⟨hsize, -⟩ | h⟩ | ⟨bytes, hmode, -, -, hread, h⟩
    · have hserve : serve sim i.env i.req ecusimMaxPdu .transferData = (sim, .error e) := by
        simp only [serve]
        rw [if_neg hshort, h]
      exact .of_error hreq (by rw [hserve]) (by rw [hserve]) (by rw [hserve])
    · exact absurd hsize (by decide)
    · have hserve : serve sim i.env i.req ecusimMaxPdu .transferData =
          ({ sim with
              xfer := sim.xfer.advance (UInt32.ofNat (i.req.drop 2).length), flash := flash' },
            .ok [0x76, i.req.getD 1 0]) := by
        simp only [serve]
        rw [if_neg hshort, h]
      have hpos := positive_of_ok hreq (congrArg Prod.snd hserve)
      rw [hserve]
      exact .write hpos hmode hroom hwrite
    · have hserve : serve sim i.env i.req ecusimMaxPdu .transferData =
          ({ sim with xfer := sim.xfer.advance sim.xfer.toRead },
            .ok ([0x76, i.req.getD 1 0] ++ bytes)) := by
        simp only [serve]
        rw [if_neg hshort, h]
      have hpos := positive_of_ok hreq (congrArg Prod.snd hserve)
      rw [hserve]
      exact .read hpos hmode hread

theorem flashTurn_transferExit (hreq : i.req.head? = some Service.requestTransferExit.sid) :
    FlashTurn sim i (serve sim i.env i.req ecusimMaxPdu .requestTransferExit).1.xfer
      (serve sim i.env i.req ecusimMaxPdu .requestTransferExit).1.flash := by
  rcases transferExit_cases sim.xfer ecusimMaxPdu with ⟨e, h⟩ | ⟨hactive, h⟩
  · have hserve : serve sim i.env i.req ecusimMaxPdu .requestTransferExit = (sim, .error e) := by
      simp only [serve]
      rw [h]
    exact .of_error hreq (by rw [hserve]) (by rw [hserve]) (by rw [hserve])
  · have hserve : serve sim i.env i.req ecusimMaxPdu .requestTransferExit =
        ({ sim with xfer := udsXferInit }, .ok [0x77]) := by
      simp only [serve]
      rw [h]
    have hpos := positive_of_ok hreq (congrArg Prod.snd hserve)
    rw [hserve]
    exact .exit hpos hactive

end Services

theorem flashTurn (sim : EcuSimulator) (i : Input) :
    FlashTurn sim i (ecusimStep sim i).1.xfer (ecusimStep sim i).1.flash := by
  rcases ecusimStep_cases sim i with ⟨svc, hreq⟩ | ⟨hno, hsame⟩
  · rw [ecusimStep_of_head sim hreq]
    by_cases h34 : svc = .requestDownload
    · subst h34
      exact flashTurn_requestDownload hreq
    · by_cases h35 : svc = .requestUpload
      · subst h35
        exact flashTurn_requestUpload hreq
      · by_cases h36 : svc = .transferData
        · subst h36
          exact flashTurn_transferData hreq
        · by_cases h37 : svc = .requestTransferExit
          · subst h37
            exact flashTurn_transferExit hreq
          · simp only [serve_xfer sim i.env i.req ecusimMaxPdu svc h34 h35 h36 h37,
              serve_flash sim i.env i.req ecusimMaxPdu svc h34 h36]
            exact .unchanged ⟨not_positive_of_ne hreq h34, not_positive_of_ne hreq h35,
              not_positive_of_ne hreq h36, not_positive_of_ne hreq h37⟩
  · rw [hsame]
    exact .unchanged ⟨fun hpos => hno _ hpos.1, fun hpos => hno _ hpos.1,
      fun hpos => hno _ hpos.1, fun hpos => hno _ hpos.1⟩

/-! ## The invariant -/

/-- A transfer of `len` bytes from `address` is under way, `offset` of them are
transferred and `seq` is the next block counter. -/
structure Underway (sim : EcuSimulator) (mode : UdsXferMode) (address len offset : Nat)
    (seq : UInt8) : Prop where
  xfer : sim.xfer = xferAt mode address len offset seq
  active : mode ≠ .idle
  len_pos : 0 < len
  offset_le : offset ≤ len
  seq_ne : seq ≠ 0
  prog : Programmable sim.flash.regions address len

/-- Every active session is a transfer under way. -/
def XferInv (sim : EcuSimulator) : Prop :=
  sim.xfer.mode ≠ .idle → ∃ mode address len offset seq, Underway sim mode address len offset seq

theorem nextBlockSeq_ne_zero (seq : UInt8) : nextBlockSeq seq ≠ 0 := by
  unfold nextBlockSeq
  by_cases hlast : seq = 0xFF
  · rw [if_pos hlast]
    decide
  · rw [if_neg hlast]
    intro hzero
    apply hlast
    calc
      seq = seq + 1 - 1 := by simp
      _ = 0xFF := by rw [hzero]; rfl

/-- The one region of the simulator holds every range inside the array. -/
theorem programmable_defaultRegions {address len : Nat} (h : address + len ≤ udsFlashMaxSize) :
    Programmable defaultRegions address len where
  inArray := h
  inRegion := ⟨_, List.mem_singleton_self _, rfl, Nat.zero_le _, h⟩
  apart := by
    intro r hr hp
    rw [List.mem_singleton.mp hr] at hp
    cases hp

/-- A range that `find_region` accepts can be programmed. -/
theorem programmable_of_findRegion {flash : UdsFlashMemory} {address length : UInt32}
    {r : UdsFlashRegion} (hregions : flash.regions = defaultRegions)
    (h : findRegion flash address length = some r) :
    Programmable flash.regions address.toNat length.toNat := by
  obtain ⟨hr, hholds⟩ := findRegion_eq_some h
  rw [hregions] at hr ⊢
  apply programmable_defaultRegions
  rw [List.mem_singleton.mp hr, holds_iff] at hholds
  exact hholds.2.2

theorem startXfer_eq (mode : UdsXferMode) (address memSize : UInt32) :
    startXfer mode address memSize = xferAt mode address.toNat memSize.toNat 0 0x01 := by
  simp [startXfer, xferAt]

theorem toNat_pos {n : UInt32} (h : n ≠ 0) : 0 < n.toNat := by
  apply Nat.pos_of_ne_zero
  intro hzero
  exact h (UInt32.toNat_inj.mp hzero)

theorem Underway.start {sim : EcuSimulator} {mode : UdsXferMode} {address memSize : UInt32}
    (hxfer : sim.xfer = startXfer mode address memSize) (hmode : mode ≠ .idle)
    (hregions : sim.flash.regions = defaultRegions)
    (hlen : memSize ≠ 0) {flash : UdsFlashMemory} (hsame : flash.regions = defaultRegions)
    {r : UdsFlashRegion} (hfind : findRegion flash address memSize = some r) :
    Underway sim mode address.toNat memSize.toNat 0 0x01 where
  xfer := by rw [hxfer, startXfer_eq]
  active := hmode
  len_pos := toNat_pos hlen
  offset_le := Nat.zero_le _
  seq_ne := by decide
  prog := by
    have hprog := programmable_of_findRegion hsame hfind
    rwa [hregions, ← hsame]

section Underway

variable {sim : EcuSimulator} {mode : UdsXferMode} {address len offset : Nat} {seq : UInt8}

theorem Underway.advance (h : Underway sim mode address len offset seq) {sim' : EcuSimulator}
    {n : Nat} (hn : offset + n ≤ len)
    (hxfer : sim'.xfer = sim.xfer.advance (UInt32.ofNat n))
    (hregions : sim'.flash.regions = sim.flash.regions) :
    Underway sim' mode address len (offset + n) (nextBlockSeq seq) where
  xfer := by
    rw [hxfer, h.xfer]
    simp [UdsXferSession.advance, xferAt, UInt32.ofNat_add]
  active := h.active
  len_pos := h.len_pos
  offset_le := hn
  seq_ne := nextBlockSeq_ne_zero seq
  prog := by
    rw [hregions]
    exact h.prog

theorem Underway.len_lt (h : Underway sim mode address len offset seq) : address + len < 2 ^ 32 :=
  h.prog.lt

theorem Underway.remaining (h : Underway sim mode address len offset seq) :
    sim.xfer.remaining = UInt32.ofNat (len - offset) := by
  rw [h.xfer, xferAt_remaining mode seq h.offset_le]

theorem Underway.position (h : Underway sim mode address len offset seq) :
    sim.xfer.address + sim.xfer.transferred = UInt32.ofNat (address + offset) := by
  rw [h.xfer, xferAt_position]

theorem Underway.toRead (h : Underway sim mode address len offset seq) :
    sim.xfer.toRead = UInt32.ofNat (min 15 (len - offset)) := by
  have hlt := h.len_lt
  rw [h.xfer, xferAt_toRead mode seq h.offset_le (by omega)]

theorem Underway.room (h : Underway sim mode address len offset seq) {data : List UInt8}
    (hlen : data.length < 2 ^ 32) :
    UInt32.ofNat data.length ≤ sim.xfer.remaining ↔ offset + data.length ≤ len := by
  have hlt := h.len_lt
  have hle := h.offset_le
  rw [h.remaining, UInt32.ofNat_le_iff_le hlen (show len - offset < 2 ^ 32 by omega)]
  omega

end Underway

theorem XferInv.step {sim : EcuSimulator} {i : Input} (hinv : SimInv sim) (h : XferInv sim)
    (hlen : i.req.length ≤ ecusimMaxPdu) : XferInv (ecusimStep sim i).1 := by
  have hregions : (ecusimStep sim i).1.flash.regions = sim.flash.regions := by
    rw [(hinv.step i).regions, hinv.regions]
  have hturn := flashTurn sim i
  intro hactive
  generalize hsim' : (ecusimStep sim i).1 = sim' at hturn hactive hregions ⊢
  generalize hxfer : sim'.xfer = xfer' at hturn hactive
  generalize hflash : sim'.flash = flash' at hturn
  cases hturn with
  | unchanged _ =>
      obtain ⟨mode, address, len, offset, seq, hunder⟩ := h hactive
      refine ⟨mode, address, len, offset, seq, ?_⟩
      exact { hunder with
        xfer := by rw [hxfer, hunder.xfer]
        prog := by rw [hregions]; exact hunder.prog }
  | download _ _ _ herase =>
      obtain ⟨hne, r, hfind, -, -⟩ := udsFlashErase_eq_ok.mp herase
      exact ⟨_, _, _, _, _, .start hxfer (by decide) (hregions.trans hinv.regions) hne
        hinv.regions hfind⟩
  | upload _ _ hvalid =>
      obtain ⟨hne, r, hfind⟩ := (udsFlashAddressValid_iff ..).mp hvalid
      exact ⟨_, _, _, _, _, .start hxfer (by decide) (hregions.trans hinv.regions) hne
        hinv.regions hfind⟩
  | write _ hmode hroom _ =>
      obtain ⟨mode, address, len, offset, seq, hunder⟩ := h (by simp [hmode])
      have hshort : (i.req.drop 2).length < 2 ^ 32 := by
        rw [List.length_drop]
        unfold ecusimMaxPdu at hlen
        omega
      have hend := (hunder.room hshort).mp hroom
      exact ⟨_, _, _, _, _, hunder.advance hend hxfer hregions⟩
  | read _ hmode _ =>
      obtain ⟨mode, address, len, offset, seq, hunder⟩ := h (by simp [hmode])
      have hle := hunder.offset_le
      rw [hunder.toRead] at hxfer
      exact ⟨_, _, _, _, _, hunder.advance (n := min 15 (len - offset)) (by omega) hxfer hregions⟩
  | exit _ _ => exact absurd rfl hactive

/-- The inputs of a run of requests that fit the receive buffer. -/
def Fitting (inputs : List Input) : Prop := ∀ i ∈ inputs, i.req.length ≤ ecusimMaxPdu

instance (inputs : List Input) : Decidable (Fitting inputs) :=
  inferInstanceAs (Decidable (∀ i ∈ inputs, _))

theorem xferInv_of_run (ecuId : UInt8) (now : Timespec) {inputs : List Input}
    (h : Fitting inputs) :
    SimInv (runFrom ecusimStep (ecusimInit ecuId now) inputs) ∧
      XferInv (runFrom ecusimStep (ecusimInit ecuId now) inputs) := by
  apply run_invariant ecusimStep (C := fun x => x.input.req.length ≤ ecusimMaxPdu)
    (fun _ sim => SimInv sim ∧ XferInv sim)
  · exact ⟨SimInv.init ecuId now, fun hactive => absurd rfl hactive⟩
  · intro _ sim i ⟨hinv, hxfer⟩ hlen
    exact ⟨hinv.step i, hxfer.step hinv hlen⟩
  · intro x hx
    exact h x.input (input_mem_of_turn ecusimStep hx)

/-! ## Safety of the transfer arithmetic -/

/-- The fields of an active session, in the source's own terms. -/
structure ActiveXfer (xfer : UdsXferSession) (flash : UdsFlashMemory) : Prop where
  total_pos : 1 ≤ xfer.totalLength.toNat
  transferred_le : xfer.transferred ≤ xfer.totalLength
  inRegion : ∃ r ∈ flash.regions, r.baseAddress.toNat ≤ xfer.address.toNat ∧
    xfer.address.toNat + xfer.totalLength.toNat ≤ r.limit
  noWrap : xfer.address.toNat + xfer.totalLength.toNat < 2 ^ 32
  blockSeq : 1 ≤ xfer.blockSeq.toNat ∧ xfer.blockSeq.toNat ≤ 255
  maxBlockSize : xfer.maxBlockSize = 15

/-- The arithmetic of `uds_svc_transfer_data` on an active session is that of
the natural numbers, whatever it copies stays inside `data[]`, and a download
block that reaches `uds_flash_write` is written. -/
structure TransferSafe (xfer : UdsXferSession) (flash : UdsFlashMemory) : Prop where
  remaining : xfer.remaining.toNat = xfer.totalLength.toNat - xfer.transferred.toNat
  position : (xfer.address + xfer.transferred).toNat =
    xfer.address.toNat + xfer.transferred.toNat
  write_inside : ∀ data flash', data.length ≤ ecusimMaxPdu →
    udsFlashWrite flash (xfer.address + xfer.transferred) data = .ok flash' →
      (xfer.address + xfer.transferred).toNat + data.length ≤ udsFlashMaxSize
  read_inside : ∀ bytes,
    udsFlashRead flash (xfer.address + xfer.transferred) xfer.toRead.toNat = .ok bytes →
      (xfer.address + xfer.transferred).toNat + xfer.toRead.toNat ≤ udsFlashMaxSize
  no_failure : xfer.mode = .download → ∀ seq data respSize, data.length ≤ ecusimMaxPdu →
    (udsSvcTransferData xfer flash seq data respSize).2 ≠
      .error (.errNrc .generalProgrammingFailure)

section Underway

variable {sim : EcuSimulator} {mode : UdsXferMode} {address len offset : Nat} {seq : UInt8}

theorem Underway.toNat_address (h : Underway sim mode address len offset seq) :
    sim.xfer.address.toNat = address := by
  have hlt := h.len_lt
  rw [h.xfer]
  exact UInt32.toNat_ofNat_of_lt' (show address < 2 ^ 32 by omega)

theorem Underway.toNat_totalLength (h : Underway sim mode address len offset seq) :
    sim.xfer.totalLength.toNat = len := by
  have hlt := h.len_lt
  rw [h.xfer]
  exact UInt32.toNat_ofNat_of_lt' (show len < 2 ^ 32 by omega)

theorem Underway.toNat_transferred (h : Underway sim mode address len offset seq) :
    sim.xfer.transferred.toNat = offset := by
  have hlt := h.len_lt
  have hle := h.offset_le
  rw [h.xfer]
  exact UInt32.toNat_ofNat_of_lt' (show offset < 2 ^ 32 by omega)

theorem Underway.toNat_position (h : Underway sim mode address len offset seq) :
    (sim.xfer.address + sim.xfer.transferred).toNat = address + offset := by
  have hlt := h.len_lt
  have hle := h.offset_le
  rw [h.position]
  exact UInt32.toNat_ofNat_of_lt' (show address + offset < 2 ^ 32 by omega)

theorem Underway.activeXfer (h : Underway sim mode address len offset seq) :
    ActiveXfer sim.xfer sim.flash where
  total_pos := by
    rw [h.toNat_totalLength]
    exact h.len_pos
  transferred_le := by
    rw [UInt32.le_iff_toNat_le, h.toNat_transferred, h.toNat_totalLength]
    exact h.offset_le
  inRegion := by
    obtain ⟨r, hr, -, hbase, hlimit⟩ := h.prog.inRegion
    rw [h.toNat_address, h.toNat_totalLength]
    exact ⟨r, hr, hbase, hlimit⟩
  noWrap := by
    rw [h.toNat_address, h.toNat_totalLength]
    exact h.len_lt
  blockSeq := by
    have hlt := sim.xfer.blockSeq.toNat_lt
    have hne : sim.xfer.blockSeq.toNat ≠ 0 := by
      intro hzero
      apply h.seq_ne
      have hseq : sim.xfer.blockSeq = seq := by rw [h.xfer, xferAt_blockSeq]
      rw [← hseq]
      exact UInt8.toNat_inj.mp hzero
    omega
  maxBlockSize := by
    rw [h.xfer]
    rfl

theorem Underway.write (h : Underway sim mode address len offset seq) {data : List UInt8}
    (hdata : data ≠ []) (hend : offset + data.length ≤ len) :
    udsFlashWrite sim.flash (sim.xfer.address + sim.xfer.transferred) data =
      .ok { sim.flash with data := sim.flash.data.store (address + offset) data } := by
  have hlt := h.len_lt
  have hpos := List.length_pos_of_ne_nil hdata
  obtain ⟨r, hfind, hr⟩ := h.prog.findRegion (a := address + offset) hpos (by omega) (by omega)
  rw [udsFlashWrite_eq_ok, h.position]
  refine ⟨hdata, r, hfind, hr, ?_⟩
  rw [UInt32.toNat_ofNat_of_lt' (show address + offset < 2 ^ 32 by omega)]

theorem Underway.transferSafe (h : Underway sim mode address len offset seq)
    (hregions : sim.flash.regions = defaultRegions) : TransferSafe sim.xfer sim.flash where
  remaining := by
    have hlt := h.len_lt
    rw [h.remaining, h.toNat_totalLength, h.toNat_transferred]
    exact UInt32.toNat_ofNat_of_lt' (show len - offset < 2 ^ 32 by omega)
  position := by
    rw [h.toNat_position, h.toNat_address, h.toNat_transferred]
  write_inside := by
    intro data flash' hlen hwrite
    obtain ⟨-, r, hfind, -⟩ := udsFlashWrite_eq_ok.mp hwrite
    have hinside := (programmable_of_findRegion hregions hfind).inArray
    unfold ecusimMaxPdu at hlen
    rwa [UInt32.toNat_ofNat_of_lt' (show data.length < 2 ^ 32 by omega)] at hinside
  read_inside := by
    intro bytes hread
    obtain ⟨-, -, ⟨r, hfind⟩, -⟩ := udsFlashRead_eq_ok.mp hread
    rw [UInt32.ofNat_toNat] at hfind
    exact (programmable_of_findRegion hregions hfind).inArray
  no_failure := by
    intro hdownload seq' data respSize hlen
    unfold ecusimMaxPdu at hlen
    unfold udsSvcTransferData
    rw [hdownload, if_neg (by decide)]
    split
    · simp
    · rw [if_pos rfl]
      unfold transferDownload
      by_cases hempty : data.length = 0
      · simp [hempty]
      · rw [if_neg hempty]
        by_cases hroom : UInt32.ofNat data.length > sim.xfer.remaining
        · simp [hroom]
        · have hend := (h.room (by omega)).mp (UInt32.not_lt.mp hroom)
          rw [if_neg hroom, h.write (by simpa using hempty) hend]
          simp only
          split <;> simp

end Underway

/-- In every state that requests of at most 4095 bytes lead to, an active
session is a transfer within one region, and Transfer Data is safe on it. -/
theorem transferSession_safe {ecuId : UInt8} {now : Timespec} {inputs : List Input}
    (hfit : Fitting inputs) {sim : EcuSimulator}
    (hrun : runFrom ecusimStep (ecusimInit ecuId now) inputs = sim)
    (hactive : sim.xfer.mode ≠ .idle) :
    ActiveXfer sim.xfer sim.flash ∧ TransferSafe sim.xfer sim.flash := by
  obtain ⟨hinv, hxfer⟩ := xferInv_of_run ecuId now hfit
  rw [hrun] at hinv hxfer
  obtain ⟨mode, address, len, offset, seq, hunder⟩ := hxfer hactive
  exact ⟨hunder.activeXfer, hunder.transferSafe hinv.regions⟩

/-- Three bytes are announced, and the first two of them sent. -/
def twoOfThree : List Input :=
  schedule [(0, [0x34, 0x00, 0x11, 0x05, 0x03]), (1, [0x36, 0x01, 0xAA, 0xBB])]

theorem transferSession_safe_twoOfThree :
    ActiveXfer (runFrom ecusimStep (ecusimInit 1 .zero) twoOfThree).xfer
        (runFrom ecusimStep (ecusimInit 1 .zero) twoOfThree).flash ∧
      TransferSafe (runFrom ecusimStep (ecusimInit 1 .zero) twoOfThree).xfer
        (runFrom ecusimStep (ecusimInit 1 .zero) twoOfThree).flash :=
  transferSession_safe (by decide) rfl (by decide)

end Uds.Ecusim
