import Uds.Bootloader.FlashServices
/-!
# Failed transfer requests

`uds_svc_request_upload` and the upload branch of `uds_svc_transfer_data` check the room
for the response before they change anything, and so does `uds_svc_transfer_exit`.  Both
download services erase or write first, and return `UDS_CORE_ERR_BUF` with that done.
-/

namespace Uds.Bootloader

open Uds.Base Uds.Core

/-! ## Requests -/

inductive XferRequest where
  | requestDownload (addressAndLenFmt : UInt8) (addrAndLenData : List UInt8)
  | requestUpload (addressAndLenFmt : UInt8) (addrAndLenData : List UInt8)
  | transferData (blockSeqCounter : UInt8) (data : List UInt8)
  | transferExit

def xferCall (s : UdsXferSession × UdsFlashMemory) (respSize : Nat) :
    XferRequest → (UdsXferSession × UdsFlashMemory) × Response
  | .requestDownload fmt data => udsSvcRequestDownload s.1 s.2 fmt data respSize
  | .requestUpload fmt data =>
    let out := udsSvcRequestUpload s.1 s.2 fmt data respSize
    ((out.1, s.2), out.2)
  | .transferData seq data => udsSvcTransferData s.1 s.2 seq data respSize
  | .transferExit =>
    let out := udsSvcTransferExit s.1 respSize
    ((out.1, s.2), out.2)

/-- A call that fails leaves session and flash as they were. -/
def AtomicOnError (s : UdsXferSession × UdsFlashMemory) (respSize : Nat) (request : XferRequest) :
    Prop :=
  ∀ e, (xferCall s respSize request).2 = .error e → (xferCall s respSize request).1 = s

/-- There is no room for the response to a download request that passes every other
check, and the flash does not hold already what the call leaves there.  Only a block
whose length is a multiple of 2³² does not move the position in the transfer. -/
def CommitsFirst (s : UdsXferSession × UdsFlashMemory) (respSize : Nat) : XferRequest → Prop
  | .requestDownload fmt data =>
    respSize < 4 ∧ s.1.mode = .idle ∧
      ∃ address memSize, parseAddrLenFmt fmt data = some (address, memSize) ∧ memSize ≠ 0 ∧
        (∃ r, findRegion s.2 address memSize = some r ∧ r.isProtected = false) ∧
          ∃ a, address.toNat ≤ a ∧ a < address.toNat + memSize.toNat ∧
            s.2.data a ≠ udsFlashEraseValue
  | .transferData seq data =>
    respSize < 2 ∧ s.1.mode = .download ∧ seq = s.1.blockSeq ∧ data ≠ [] ∧
      UInt32.ofNat data.length ≤ s.1.remaining ∧
        (∃ r, findRegion s.2 (s.1.address + s.1.transferred) (UInt32.ofNat data.length) = some r ∧
          r.isProtected = false) ∧
          (UInt32.ofNat data.length = 0 →
            s.2.data.load (s.1.address + s.1.transferred).toNat data.length ≠ data)
  | .requestUpload _ _ => False
  | .transferExit => False

/-! ## Without room for the response -/

section NoRoom

variable {xfer : UdsXferSession} {flash flash' : UdsFlashMemory} {respSize : Nat}

theorem requestDownload_errBuf {fmt : UInt8} {data : List UInt8} {address memSize : UInt32}
    (hidle : xfer.mode = .idle) (hparse : parseAddrLenFmt fmt data = some (address, memSize))
    (herase : udsFlashErase flash address memSize = .ok flash') (hroom : respSize < 4) :
    udsSvcRequestDownload xfer flash fmt data respSize = ((xfer, flash'), .error .errBuf) := by
  have hvalid : udsFlashAddressValid flash address memSize = true := by
    obtain ⟨hlen, r, hfind, -, -⟩ := udsFlashErase_eq_ok.mp herase
    exact (udsFlashAddressValid_iff flash address memSize).mpr ⟨hlen, r, hfind⟩
  unfold udsSvcRequestDownload
  simp only [hidle, hparse, hvalid, herase, hroom, ne_eq, not_true_eq_false, Bool.not_true,
    Bool.false_eq_true, if_true, if_false]

theorem transferData_errBuf {data : List UInt8} (hmode : xfer.mode = .download)
    (hfits : UInt32.ofNat data.length ≤ xfer.remaining)
    (hwrite : udsFlashWrite flash (xfer.address + xfer.transferred) data = .ok flash')
    (hroom : respSize < 2) :
    udsSvcTransferData xfer flash xfer.blockSeq data respSize =
      (({ xfer with transferred := xfer.transferred + UInt32.ofNat data.length }, flash'),
        .error .errBuf) := by
  have hne : ¬data.length = 0 := by
    rw [List.length_eq_zero_iff]
    exact (udsFlashWrite_eq_ok.mp hwrite).1
  have hnot : ¬UInt32.ofNat data.length > xfer.remaining := UInt32.not_lt.mpr hfits
  unfold udsSvcTransferData transferDownload
  rw [if_neg (by simp [hmode]), if_neg (by simp), if_pos hmode, if_neg hne, if_neg hnot, hwrite]
  exact if_pos hroom

end NoRoom

/-! ## When nothing is changed -/

section Unchanged

variable {flash flash' : UdsFlashMemory} {address : UInt32}

theorem flash_eq_of_data {flash flash' : UdsFlashMemory} (hregions : flash'.regions = flash.regions)
    (hdata : flash'.data = flash.data) : flash' = flash := by
  cases flash
  cases flash'
  cases hregions
  cases hdata
  rfl

theorem erase_eq_self_iff {length : UInt32} (h : udsFlashErase flash address length = .ok flash') :
    flash' = flash ↔ ¬∃ a, address.toNat ≤ a ∧ a < address.toNat + length.toNat ∧
      flash.data a ≠ udsFlashEraseValue := by
  obtain ⟨-, r, -, -, rfl⟩ := udsFlashErase_eq_ok.mp h
  have hfill := Mem.fill_eq_self_iff flash.data address.toNat length.toNat
    (x := udsFlashEraseValue)
  constructor
  · intro heq ⟨a, hlow, hhigh, hne⟩
    exact hne (hfill.mp (congrArg UdsFlashMemory.data heq) a hlow hhigh)
  · intro hnone
    refine flash_eq_of_data rfl (hfill.mpr ?_)
    intro a hlow hhigh
    by_contra hne
    exact hnone ⟨a, hlow, hhigh, hne⟩

theorem write_eq_self_iff {data : List UInt8} (h : udsFlashWrite flash address data = .ok flash') :
    flash' = flash ↔ flash.data.load address.toNat data.length = data := by
  obtain ⟨-, r, -, -, rfl⟩ := udsFlashWrite_eq_ok.mp h
  rw [← Mem.store_eq_self_iff]
  constructor
  · intro heq
    exact congrArg UdsFlashMemory.data heq
  · intro heq
    exact flash_eq_of_data rfl heq

theorem transferred_eq_self_iff (xfer : UdsXferSession) (n : UInt32) :
    { xfer with transferred := xfer.transferred + n } = xfer ↔ n = 0 := by
  constructor
  · intro heq
    have htransferred := congrArg UdsXferSession.transferred heq
    simpa using htransferred
  · rintro rfl
    simp

end Unchanged

/-! ## The services -/

section Services

variable (xfer : UdsXferSession) (flash : UdsFlashMemory) (respSize : Nat) (data : List UInt8)

theorem requestDownload_atomic_iff (fmt : UInt8) :
    AtomicOnError (xfer, flash) respSize (.requestDownload fmt data) ↔
      ¬CommitsFirst (xfer, flash) respSize (.requestDownload fmt data) := by
  change (∀ e, (udsSvcRequestDownload xfer flash fmt data respSize).2 = .error e →
    (udsSvcRequestDownload xfer flash fmt data respSize).1 = (xfer, flash)) ↔ _
  constructor
  · rintro hatomic ⟨hroom, hidle, address, memSize, hparse, hlen, ⟨r, hfind, hr⟩, hdirty⟩
    have herase := udsFlashErase_eq_ok.mpr ⟨hlen, r, hfind, hr, rfl⟩
    have hcall := requestDownload_errBuf hidle hparse herase hroom
    have hsame := hatomic .errBuf (by rw [hcall])
    rw [hcall] at hsame
    exact (erase_eq_self_iff herase).mp (congrArg Prod.snd hsame) hdirty
  · intro hnot e herr
    rcases requestDownload_cases xfer flash fmt data respSize with
      ⟨e', h⟩ | ⟨address, memSize, flash', hidle, hparse, herase, ⟨hroom, h⟩ | h⟩
    · exact congrArg Prod.fst h
    · have hsame : flash' = flash := by
        rw [erase_eq_self_iff herase]
        intro hdirty
        obtain ⟨hlen, r, hfind, hr, -⟩ := udsFlashErase_eq_ok.mp herase
        exact hnot ⟨hroom, hidle, address, memSize, hparse, hlen, ⟨r, hfind, hr⟩, hdirty⟩
      rw [hsame] at h
      exact congrArg Prod.fst h
    · rw [h] at herr
      cases herr

theorem transferData_atomic_iff (seq : UInt8) :
    AtomicOnError (xfer, flash) respSize (.transferData seq data) ↔
      ¬CommitsFirst (xfer, flash) respSize (.transferData seq data) := by
  change (∀ e, (udsSvcTransferData xfer flash seq data respSize).2 = .error e →
    (udsSvcTransferData xfer flash seq data respSize).1 = (xfer, flash)) ↔ _
  constructor
  · rintro hatomic ⟨hroom, hmode, rfl, hne, hfits, ⟨r, hfind, hr⟩, hdirty⟩
    have hwrite := udsFlashWrite_eq_ok.mpr ⟨hne, r, hfind, hr, rfl⟩
    have hcall := transferData_errBuf hmode hfits hwrite hroom
    have hsame := hatomic .errBuf (by rw [hcall])
    rw [hcall] at hsame
    have hzero := (transferred_eq_self_iff xfer _).mp (congrArg Prod.fst hsame)
    exact hdirty hzero ((write_eq_self_iff hwrite).mp (congrArg Prod.snd hsame))
  · intro hnot e herr
    rcases transferData_cases xfer flash seq data respSize with
      ⟨e', h⟩ | ⟨flash', hmode, hseq, hfits, hwrite, ⟨hroom, h⟩ | h⟩ | ⟨bytes, -, -, -, -, h⟩
    · exact congrArg Prod.fst h
    · obtain ⟨hne, r, hfind, hr, -⟩ := udsFlashWrite_eq_ok.mp hwrite
      have hclean : UInt32.ofNat data.length = 0 ∧
          flash.data.load (xfer.address + xfer.transferred).toNat data.length = data := by
        by_contra hdirty
        exact hnot ⟨hroom, hmode, hseq, hne, hfits, ⟨r, hfind, hr⟩,
          fun hzero hload => hdirty ⟨hzero, hload⟩⟩
      rw [(transferred_eq_self_iff xfer _).mpr hclean.1,
        (write_eq_self_iff hwrite).mpr hclean.2] at h
      exact congrArg Prod.fst h
    · rw [h] at herr
      cases herr
    · rw [h] at herr
      cases herr

theorem requestUpload_atomic (fmt : UInt8) :
    AtomicOnError (xfer, flash) respSize (.requestUpload fmt data) := by
  intro e herr
  change (udsSvcRequestUpload xfer flash fmt data respSize).2 = .error e at herr
  rcases requestUpload_cases xfer flash fmt data respSize with ⟨e', h⟩ | ⟨_, _, -, -, -, h⟩
  · exact congrArg (fun out => (out.1, flash)) h
  · rw [h] at herr
    cases herr

theorem transferExit_atomic : AtomicOnError (xfer, flash) respSize .transferExit := by
  intro e herr
  change (udsSvcTransferExit xfer respSize).2 = .error e at herr
  rcases transferExit_cases xfer respSize with ⟨e', h⟩ | ⟨-, h⟩
  · exact congrArg (fun out => (out.1, flash)) h
  · rw [h] at herr
    cases herr

end Services

/-- A transfer service is atomic on error except where a download commits first. -/
theorem xfer_atomic_iff (s : UdsXferSession × UdsFlashMemory) (respSize : Nat)
    (request : XferRequest) :
    AtomicOnError s respSize request ↔ ¬CommitsFirst s respSize request := by
  cases request with
  | requestDownload fmt data => exact requestDownload_atomic_iff s.1 s.2 respSize data fmt
  | requestUpload fmt data =>
      exact iff_of_true (requestUpload_atomic s.1 s.2 respSize data fmt) id
  | transferData seq data => exact transferData_atomic_iff s.1 s.2 respSize data seq
  | transferExit => exact iff_of_true (transferExit_atomic s.1 s.2 respSize) id

/-- The response to a block has no room, but the block is written and counted. -/
theorem xfer_not_atomic : ¬∀ s respSize request, AtomicOnError s respSize request := by
  intro hclaim
  have hsame := hclaim (startXfer .download 0 4, udsFlashInit [⟨0, 4, false⟩]) 1
    (.transferData 1 [0xAA]) .errBuf rfl
  exact absurd (congrArg (fun s => s.1.transferred) hsame) (by decide)

end Uds.Bootloader
