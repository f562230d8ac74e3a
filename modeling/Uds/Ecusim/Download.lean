import Uds.Base.History
import Uds.Ecusim.Transfers
/-!
# What a download leaves in the flash

The flash during a download is given by the history: the blocks accepted since
the Request Download, one after the other, and erased bytes behind them.  A
Request Transfer Exit ends the download at any point.
-/

namespace Uds.Ecusim

open Uds.Base Uds.Core Uds.Bootloader

/-! ## Histories of a download -/

/-- The data of the blocks that were answered positively. -/
def acceptedBlocks (h : List EcuTurn) : List (List UInt8) :=
  (h.filter fun x => Positive .transferData x).map fun x => x.input.req.drop 2

/-- The last accepted Request Download, and the turns after it. -/
def sinceDownload (h : List EcuTurn) : Option (EcuTurn × List EcuTurn) :=
  lastSince (fun x => Positive .requestDownload x) h

/-- Address and memory size that a Request Download declares. -/
def declaredRange (x : EcuTurn) : Option (UInt32 × UInt32) :=
  parseAddrLenFmt (x.input.req.getD 2 0) (x.input.req.drop 3)

theorem acceptedBlocks_snoc (h : List EcuTurn) (x : EcuTurn) :
    acceptedBlocks (h ++ [x]) =
      if Positive .transferData x then acceptedBlocks h ++ [x.input.req.drop 2]
      else acceptedBlocks h := by
  unfold acceptedBlocks
  rw [List.filter_append, List.map_append]
  by_cases hx : Positive .transferData x
  · simp [hx]
  · simp [hx]

theorem sinceDownload_snoc_pos (h : List EcuTurn) {x : EcuTurn}
    (hx : Positive .requestDownload x) : sinceDownload (h ++ [x]) = some (x, []) := by
  unfold sinceDownload
  rw [lastSince_snoc, if_pos (by simpa using hx)]

theorem sinceDownload_snoc_neg (h : List EcuTurn) {x : EcuTurn}
    (hx : ¬Positive .requestDownload x) :
    sinceDownload (h ++ [x]) = (sinceDownload h).map fun r => (r.1, r.2 ++ [x]) := by
  unfold sinceDownload
  rw [lastSince_snoc, if_neg (by simpa using hx)]

/-! ## The flash during a download -/

/-- The blocks are in the flash from `address` on, the rest of the range is
erased. -/
structure Image (data : Mem UInt8) (address len : Nat) (bytes : List UInt8) : Prop where
  written : data.load address bytes.length = bytes
  erased : ∀ a, address + bytes.length ≤ a → a < address + len → data a = udsFlashEraseValue

theorem Image.erase (data : Mem UInt8) (address len : Nat) :
    Image (data.fill address len udsFlashEraseValue) address len [] where
  written := rfl
  erased := by
    intro a hlow hhigh
    rw [Mem.fill, if_pos ⟨hlow, hhigh⟩]

theorem Image.store {data : Mem UInt8} {address len : Nat} {bytes : List UInt8}
    (h : Image data address len bytes) (block : List UInt8) :
    Image (data.store (address + bytes.length) block) address len (bytes ++ block) where
  written := by
    rw [List.length_append, Mem.load_store_after, h.written]
  erased := by
    intro a hlow hhigh
    rw [List.length_append] at hlow
    rw [Mem.store_of_ge _ _ _ (by omega)]
    exact h.erased a (by omega) hhigh

/-- The download in progress, as the history tells it. -/
structure Downloading (sim : EcuSimulator) (address len : Nat) (blocks : List (List UInt8)) :
    Prop where
  underway : ∃ seq, Underway sim .download address len blocks.flatten.length seq
  image : Image sim.flash.data address len blocks.flatten

/-- A download in progress was requested, and its blocks are those accepted
since. -/
def DownloadInv (h : List EcuTurn) (sim : EcuSimulator) : Prop :=
  sim.xfer.mode = .download → ∃ x post address memSize, sinceDownload h = some (x, post) ∧
    declaredRange x = some (address, memSize) ∧
      Downloading sim address.toNat memSize.toNat (acceptedBlocks post)

section Step

variable {sim : EcuSimulator} {i : Input}

theorem Downloading.keep {sim' : EcuSimulator} {address len : Nat} {blocks : List (List UInt8)}
    (h : Downloading sim address len blocks) (hxfer : sim'.xfer = sim.xfer)
    (hflash : sim'.flash = sim.flash) : Downloading sim' address len blocks where
  underway := by
    obtain ⟨seq, hunder⟩ := h.underway
    exact ⟨seq, { hunder with
      xfer := by rw [hxfer, hunder.xfer]
      prog := by rw [hflash]; exact hunder.prog }⟩
  image := by
    rw [hflash]
    exact h.image

theorem Downloading.block {sim' : EcuSimulator} {address len : Nat}
    {blocks : List (List UInt8)} {block : List UInt8} {flash' : UdsFlashMemory}
    (h : Downloading sim address len blocks) (hlen : block.length < 2 ^ 32)
    (hroom : UInt32.ofNat block.length ≤ sim.xfer.remaining)
    (hwrite : udsFlashWrite sim.flash (sim.xfer.address + sim.xfer.transferred) block =
      .ok flash')
    (hxfer : sim'.xfer = sim.xfer.advance (UInt32.ofNat block.length))
    (hflash : sim'.flash = flash') : Downloading sim' address len (blocks ++ [block]) where
  underway := by
    obtain ⟨seq, hunder⟩ := h.underway
    have hend := (hunder.room hlen).mp hroom
    refine ⟨nextBlockSeq seq, ?_⟩
    rw [List.flatten_append, List.length_append, List.flatten_singleton]
    apply hunder.advance hend hxfer
    rw [hflash, udsFlashWrite_regions hwrite]
  image := by
    obtain ⟨seq, hunder⟩ := h.underway
    obtain ⟨-, r, -, -, rfl⟩ := udsFlashWrite_eq_ok.mp hwrite
    rw [hflash, hunder.toNat_position, List.flatten_append, List.flatten_singleton]
    exact h.image.store block

theorem DownloadInv.step {h : List EcuTurn} (hinv : SimInv sim) (hdown : DownloadInv h sim)
    (hlen : i.req.length ≤ ecusimMaxPdu) :
    DownloadInv (h ++ [turn ecusimStep sim i]) (ecusimStep sim i).1 := by
  have hregions : (ecusimStep sim i).1.flash.regions = defaultRegions := (hinv.step i).regions
  have hturn := flashTurn sim i
  intro hmode
  generalize hsim' : (ecusimStep sim i).1 = sim' at hturn hmode hregions ⊢
  generalize hxfer : sim'.xfer = xfer' at hturn hmode
  generalize hflash : sim'.flash = flash' at hturn
  cases hturn with
  | unchanged quiet =>
      obtain ⟨x, post, address, memSize, hsince, hrange, hd⟩ := hdown hmode
      refine ⟨x, post ++ [turn ecusimStep sim i], address, memSize, ?_, hrange, ?_⟩
      · rw [sinceDownload_snoc_neg h quiet.download, hsince]
        rfl
      · rw [acceptedBlocks_snoc, if_neg quiet.data]
        exact hd.keep hxfer hflash
  | download pos idle parse erase =>
      rename_i address memSize
      obtain ⟨hne, r, hfind, -, rfl⟩ := udsFlashErase_eq_ok.mp erase
      refine ⟨turn ecusimStep sim i, [], address, memSize, sinceDownload_snoc_pos h pos, parse,
        ⟨0x01, .start hxfer (by decide) hregions hne hinv.regions hfind⟩, ?_⟩
      rw [hflash]
      exact .erase _ _ _
  | upload _ _ _ => cases hmode
  | write pos mode room write =>
      obtain ⟨x, post, address, memSize, hsince, hrange, hd⟩ := hdown mode
      have hnot : ¬Positive .requestDownload (turn ecusimStep sim i) :=
        not_positive_of_ne pos.1 (by decide)
      have hshort : (i.req.drop 2).length < 2 ^ 32 := by
        rw [List.length_drop]
        unfold ecusimMaxPdu at hlen
        omega
      refine ⟨x, post ++ [turn ecusimStep sim i], address, memSize, ?_, hrange, ?_⟩
      · rw [sinceDownload_snoc_neg h hnot, hsince]
        rfl
      · rw [acceptedBlocks_snoc, if_pos pos]
        exact hd.block hshort room write hxfer hflash
  | read _ mode _ =>
      have hdownload : sim.xfer.mode = .download := hmode
      rw [mode] at hdownload
      cases hdownload
  | exit _ _ => cases hmode

end Step

theorem downloadInv_of_run (ecuId : UInt8) (now : Timespec) {inputs : List Input}
    (hfit : Fitting inputs) :
    DownloadInv (turnsFrom ecusimStep (ecusimInit ecuId now) inputs)
      (runFrom ecusimStep (ecusimInit ecuId now) inputs) := by
  have hrun : SimInv (runFrom ecusimStep (ecusimInit ecuId now) inputs) ∧
      DownloadInv (turnsFrom ecusimStep (ecusimInit ecuId now) inputs)
        (runFrom ecusimStep (ecusimInit ecuId now) inputs) := by
    apply run_invariant ecusimStep (C := fun x => x.input.req.length ≤ ecusimMaxPdu)
      (fun h sim => SimInv sim ∧ DownloadInv h sim)
    · exact ⟨SimInv.init ecuId now, fun hmode => by cases hmode⟩
    · intro h sim i ⟨hinv, hdown⟩ hlen
      exact ⟨hinv.step i, hdown.step hinv hlen⟩
    · intro x hx
      exact hfit x.input (input_mem_of_turn ecusimStep hx)
  exact hrun.2

/-! ## Transfer Exit -/

/-- A Transfer Exit after the run that ends a download certifies it: the blocks
accepted since the matching Request Download fill the declared range. -/
def CertifiesDownload (ecuId : UInt8) (now : Timespec) (inputs : List Input) (i : Input) : Prop :=
  (runFrom ecusimStep (ecusimInit ecuId now) inputs).xfer.mode = .download →
    Positive .requestTransferExit
        (turn ecusimStep (runFrom ecusimStep (ecusimInit ecuId now) inputs) i) →
      ∃ x post address memSize,
        sinceDownload (turnsFrom ecusimStep (ecusimInit ecuId now) inputs) = some (x, post) ∧
          declaredRange x = some (address, memSize) ∧
            (acceptedBlocks post).flatten.length = memSize.toNat ∧
              (ecusimStep (runFrom ecusimStep (ecusimInit ecuId now) inputs) i).1.flash.data.load
                address.toNat memSize.toNat = (acceptedBlocks post).flatten

theorem flash_of_transferExit {sim : EcuSimulator} {i : Input}
    (h : Positive .requestTransferExit (turn ecusimStep sim i)) :
    (ecusimStep sim i).1.flash = sim.flash := by
  have hreq : i.req.head? = some Service.requestTransferExit.sid := h.1
  rw [ecusimStep_of_head sim hreq]
  exact serve_flash sim i.env i.req ecusimMaxPdu _ (by decide) (by decide)

/-- When a Transfer Exit ends a download, the blocks accepted since the matching
Request Download are in the flash in their order, and the rest of the declared
range is erased; they fill the range exactly if the session counted all of it. -/
theorem transferExit_image {ecuId : UInt8} {now : Timespec} {inputs : List Input}
    (hfit : Fitting inputs) {sim : EcuSimulator}
    (hrun : runFrom ecusimStep (ecusimInit ecuId now) inputs = sim)
    (hmode : sim.xfer.mode = .download) {i : Input}
    (hexit : Positive .requestTransferExit (turn ecusimStep sim i)) :
    ∃ x post address memSize,
      sinceDownload (turnsFrom ecusimStep (ecusimInit ecuId now) inputs) = some (x, post) ∧
        declaredRange x = some (address, memSize) ∧
          (acceptedBlocks post).flatten.length ≤ memSize.toNat ∧
            ((acceptedBlocks post).flatten.length = memSize.toNat ↔
              sim.xfer.transferred = sim.xfer.totalLength) ∧
              Image (ecusimStep sim i).1.flash.data address.toNat memSize.toNat
                (acceptedBlocks post).flatten := by
  have hinv := downloadInv_of_run ecuId now hfit
  rw [hrun] at hinv
  obtain ⟨x, post, address, memSize, hsince, hrange, hdown⟩ := hinv hmode
  obtain ⟨seq, hunder⟩ := hdown.underway
  refine ⟨x, post, address, memSize, hsince, hrange, hunder.offset_le, ?_, ?_⟩
  · rw [← UInt32.toNat_inj, hunder.toNat_transferred, hunder.toNat_totalLength]
  · rw [flash_of_transferExit hexit]
    exact hdown.image

/-- Three bytes are announced, two sent, and the download ended. -/
theorem transferExit_image_twoOfThree :
    ∃ x post address memSize,
      sinceDownload (turnsFrom ecusimStep (ecusimInit 1 .zero) twoOfThree) = some (x, post) ∧
        declaredRange x = some (address, memSize) ∧
          (acceptedBlocks post).flatten.length ≤ memSize.toNat ∧
            ((acceptedBlocks post).flatten.length = memSize.toNat ↔
              (runFrom ecusimStep (ecusimInit 1 .zero) twoOfThree).xfer.transferred =
                (runFrom ecusimStep (ecusimInit 1 .zero) twoOfThree).xfer.totalLength) ∧
              Image (ecusimStep (runFrom ecusimStep (ecusimInit 1 .zero) twoOfThree)
                ⟨⟨fun _ => .zero, fun _ => 0⟩, [0x37]⟩).1.flash.data address.toNat memSize.toNat
                (acceptedBlocks post).flatten :=
  transferExit_image (by decide) rfl (by decide) (by decide)

/-- A download of three bytes is ended before the first block. -/
theorem transferExit_certifies_fails :
    ¬CertifiesDownload 1 .zero (schedule [(0, [0x34, 0x00, 0x11, 0x05, 0x03])])
      ⟨⟨fun _ => .zero, fun _ => 0⟩, [0x37]⟩ := by
  intro h
  obtain ⟨x, post, address, memSize, hsince, hrange, hlen, -⟩ := h (by decide) (by decide)
  have hpost := sinceDownload_snoc_pos []
    (x := turn ecusimStep (ecusimInit 1 .zero)
      ⟨⟨fun _ => ⟨0, 0⟩, fun _ => 0⟩, [0x34, 0x00, 0x11, 0x05, 0x03]⟩) (by decide)
  obtain ⟨rfl, rfl⟩ := Prod.mk.inj (Option.some.inj (hsince.symm.trans hpost))
  obtain ⟨-, rfl⟩ := Prod.mk.inj (Option.some.inj hrange)
  exact absurd hlen (by decide)

/-! ## Who may change the flash -/

def ChangesFlash (sim : EcuSimulator) (i : Input) : Prop :=
  ∃ a, (ecusimStep sim i).1.flash.data a ≠ sim.flash.data a

/-- The programming session is active and some level unlocked. -/
def Authorised (sim : EcuSimulator) : Prop :=
  sim.session.type = .programming ∧ ∃ level, udsCoreSecIsUnlocked sim.security level = true

/-- The turn starts a download or sends it a block. -/
def Downloads (sim : EcuSimulator) (i : Input) : Prop :=
  (sim.xfer.mode = .idle ∧ Positive .requestDownload (turn ecusimStep sim i)) ∨
    (sim.xfer.mode = .download ∧ Positive .transferData (turn ecusimStep sim i))

/-- The flash service that a request is for sees transfer session and flash, but
neither session nor security state. -/
theorem flash_of_services (sim : EcuSimulator) (i : Input) (session : UdsCoreSession)
    (security : UdsCoreSecurity) :
    (ecusimStep { sim with session := session, security := security } i).1.flash =
      (ecusimStep sim i).1.flash := by
  rcases ecusimStep_cases sim i with ⟨svc, hreq⟩ | ⟨hno, hsame⟩
  · rw [ecusimStep_of_head sim hreq, ecusimStep_of_head _ hreq]
    by_cases h34 : svc = .requestDownload
    · subst h34
      simp only [serve]
      split <;> rfl
    · by_cases h36 : svc = .transferData
      · subst h36
        simp only [serve]
        split <;> rfl
      · rw [serve_flash _ _ _ _ _ h34 h36, serve_flash _ _ _ _ _ h34 h36]
  · rcases ecusimStep_cases { sim with session := session, security := security } i with
      ⟨svc, hreq⟩ | ⟨-, hsame'⟩
    · exact absurd hreq (hno svc)
    · rw [hsame, hsame']

theorem changed_of_erase {flash flash' : UdsFlashMemory} {address length : UInt32} {a : Nat}
    (herase : udsFlashErase flash address length = .ok flash')
    (hchange : flash'.data a ≠ flash.data a) :
    address.toNat ≤ a ∧ a < address.toNat + length.toNat ∧
      ∃ r ∈ flash.regions, r.isProtected = false ∧ r.baseAddress.toNat ≤ a ∧ a < r.limit := by
  obtain ⟨-, r, hfind, hr, rfl⟩ := udsFlashErase_eq_ok.mp herase
  obtain ⟨hmem, hholds⟩ := findRegion_eq_some hfind
  rw [holds_iff] at hholds
  have hin : address.toNat ≤ a ∧ a < address.toNat + length.toNat := by
    by_contra hout
    exact hchange (Mem.fill_of_not_mem _ _ _ (by omega))
  exact ⟨hin.1, hin.2, r, hmem, hr, by omega, by omega⟩

theorem changed_of_write {flash flash' : UdsFlashMemory} {address : UInt32} {data : List UInt8}
    {a : Nat} (hlen : data.length < 2 ^ 32) (hwrite : udsFlashWrite flash address data = .ok flash')
    (hchange : flash'.data a ≠ flash.data a) :
    address.toNat ≤ a ∧ a < address.toNat + data.length ∧
      ∃ r ∈ flash.regions, r.isProtected = false ∧ r.baseAddress.toNat ≤ a ∧ a < r.limit := by
  obtain ⟨-, r, hfind, hr, rfl⟩ := udsFlashWrite_eq_ok.mp hwrite
  obtain ⟨hmem, hholds⟩ := findRegion_eq_some hfind
  rw [holds_iff, UInt32.toNat_ofNat_of_lt' hlen] at hholds
  have hin : address.toNat ≤ a ∧ a < address.toNat + data.length := by
    by_contra hout
    rcases Nat.lt_or_ge a address.toNat with hlow | hlow
    · exact hchange (Mem.store_of_lt _ _ _ hlow)
    · exact hchange (Mem.store_of_ge _ _ _ (by omega))
  exact ⟨hin.1, hin.2, r, hmem, hr, by omega, by omega⟩

/-- Where a turn may change the flash: in the declared range of a download, and
in an unprotected region. -/
structure MayChange (sim : EcuSimulator) (xfer : UdsXferSession) (a : Nat) : Prop where
  mode : xfer.mode = .download
  low : xfer.address.toNat ≤ a
  high : a < xfer.address.toNat + xfer.totalLength.toNat
  inRegion : ∃ r ∈ sim.flash.regions, r.isProtected = false ∧ r.baseAddress.toNat ≤ a ∧ a < r.limit

theorem mayChange_of_turn {sim : EcuSimulator} {i : Input} (hxfer : XferInv sim)
    (hlen : i.req.length ≤ ecusimMaxPdu) {a : Nat}
    (hchange : (ecusimStep sim i).1.flash.data a ≠ sim.flash.data a) :
    Downloads sim i ∧ MayChange sim (ecusimStep sim i).1.xfer a := by
  have hturn := flashTurn sim i
  generalize (ecusimStep sim i).1.xfer = xfer' at hturn ⊢
  generalize (ecusimStep sim i).1.flash = flash' at hturn hchange
  cases hturn with
  | unchanged _ => exact absurd rfl hchange
  | download pos idle _ erase =>
      obtain ⟨hlow, hhigh, hregion⟩ := changed_of_erase erase hchange
      exact ⟨Or.inl ⟨idle, pos⟩, rfl, hlow, hhigh, hregion⟩
  | upload _ _ _ => exact absurd rfl hchange
  | write pos mode room write =>
      obtain ⟨m, address, len, offset, seq, hunder⟩ := hxfer (by simp [mode])
      have hshort : (i.req.drop 2).length < 2 ^ 32 := by
        rw [List.length_drop]
        unfold ecusimMaxPdu at hlen
        omega
      have hend := (hunder.room hshort).mp room
      obtain ⟨hlow, hhigh, hregion⟩ := changed_of_write hshort write hchange
      rw [hunder.toNat_position] at hlow hhigh
      refine ⟨Or.inr ⟨mode, pos⟩, mode, ?_, ?_, hregion⟩
      · change sim.xfer.address.toNat ≤ a
        rw [hunder.toNat_address]
        omega
      · change a < sim.xfer.address.toNat + sim.xfer.totalLength.toNat
        rw [hunder.toNat_address, hunder.toNat_totalLength]
        omega
  | read _ _ _ => exact absurd rfl hchange
  | exit _ _ => exact absurd rfl hchange

/-- A byte of the flash changes only when a download is started or sent a block,
only within the declared range and an unprotected region, and in every session
and security state alike. -/
theorem flash_changed {ecuId : UInt8} {now : Timespec} {inputs : List Input}
    (hfit : Fitting inputs) {sim : EcuSimulator}
    (hrun : runFrom ecusimStep (ecusimInit ecuId now) inputs = sim) {i : Input}
    (hlen : i.req.length ≤ ecusimMaxPdu) {a : Nat}
    (hchange : (ecusimStep sim i).1.flash.data a ≠ sim.flash.data a) :
    Downloads sim i ∧ MayChange sim (ecusimStep sim i).1.xfer a ∧
      ∀ session security,
        (ecusimStep { sim with session := session, security := security } i).1.flash =
          (ecusimStep sim i).1.flash := by
  obtain ⟨-, hxfer⟩ := xferInv_of_run ecuId now hfit
  rw [hrun] at hxfer
  obtain ⟨hdownloads, hmay⟩ := mayChange_of_turn hxfer hlen hchange
  exact ⟨hdownloads, hmay, flash_of_services sim i⟩

/-- In the default session, with nothing unlocked, a block is written. -/
def unauthorisedBlock : Input := ⟨⟨fun _ => ⟨1, 0⟩, fun _ => 0⟩, [0x36, 0x01, 0xAA]⟩

theorem flash_changed_unauthorised :
    Downloads (runFrom ecusimStep (ecusimInit 1 .zero)
        (schedule [(0, [0x34, 0x00, 0x11, 0x05, 0x03])])) unauthorisedBlock ∧
      MayChange (runFrom ecusimStep (ecusimInit 1 .zero)
          (schedule [(0, [0x34, 0x00, 0x11, 0x05, 0x03])]))
        (ecusimStep (runFrom ecusimStep (ecusimInit 1 .zero)
          (schedule [(0, [0x34, 0x00, 0x11, 0x05, 0x03])])) unauthorisedBlock).1.xfer 5 ∧
      ∀ session security,
        (ecusimStep { runFrom ecusimStep (ecusimInit 1 .zero)
            (schedule [(0, [0x34, 0x00, 0x11, 0x05, 0x03])]) with
          session := session, security := security } unauthorisedBlock).1.flash =
          (ecusimStep (runFrom ecusimStep (ecusimInit 1 .zero)
            (schedule [(0, [0x34, 0x00, 0x11, 0x05, 0x03])])) unauthorisedBlock).1.flash :=
  flash_changed (by decide) rfl (by decide) (by decide)

/-- Flash is not changed with authorisation only. -/
theorem flash_authorisation_fails :
    ¬∀ inputs i, ChangesFlash (runFrom ecusimStep (ecusimInit 1 .zero) inputs) i →
      Authorised (runFrom ecusimStep (ecusimInit 1 .zero) inputs) := by
  intro h
  have hauthorised := h (schedule [(0, [0x34, 0x00, 0x11, 0x05, 0x03])]) unauthorisedBlock
    ⟨5, by decide⟩
  exact absurd hauthorised.1 (by decide)

end Uds.Ecusim
