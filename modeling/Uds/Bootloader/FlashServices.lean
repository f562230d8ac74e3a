import Uds.Bootloader.Flash
/-!
# Flash programming services

Services 0x34 to 0x37 (`flash_services.c`) over one transfer session.  A call
that fails can still have changed the state, so every service returns the new
state next to its response.
-/

namespace Uds.Bootloader

open Uds.Base Uds.Core

def flashMaxBlockData : UInt16 := 15

inductive UdsXferMode where
  | idle
  | download
  | upload
  deriving DecidableEq

structure UdsXferSession where
  mode : UdsXferMode
  address : UInt32
  totalLength : UInt32
  transferred : UInt32
  blockSeq : UInt8
  maxBlockSize : UInt16
  deriving DecidableEq

/-- The all-zero session, which is idle. -/
def udsXferInit : UdsXferSession := ⟨.idle, 0, 0, 0, 0, 0⟩

/-- One step of the loops that decode a big-endian field. -/
def shiftIn (acc : UInt32) (b : UInt8) : UInt32 := (acc <<< 8) ||| b.toUInt32

def decodeBe (bytes : List UInt8) : UInt32 := bytes.foldl shiftIn 0

/-- Address and memory size behind a format byte: the low nibble is the width of
the address, the high nibble that of the size. -/
def parseAddrLenFmt (fmt : UInt8) (data : List UInt8) : Option (UInt32 × UInt32) :=
  let addrBytes := (fmt &&& 0x0F).toNat
  let sizeBytes := ((fmt >>> 4) &&& 0x0F).toNat
  if addrBytes < 1 ∨ addrBytes > 4 ∨ sizeBytes < 1 ∨ sizeBytes > 4 then none
  else if data.length < addrBytes + sizeBytes then none
  else
    some (decodeBe (data.take addrBytes), decodeBe ((data.drop addrBytes).take sizeBytes))

/-- The session that an accepted 0x34 or 0x35 request starts. -/
def startXfer (mode : UdsXferMode) (address memSize : UInt32) : UdsXferSession where
  mode := mode
  address := address
  totalLength := memSize
  transferred := 0
  blockSeq := 0x01
  maxBlockSize := flashMaxBlockData

def udsSvcRequestDownload (xfer : UdsXferSession) (flash : UdsFlashMemory)
    (addressAndLenFmt : UInt8) (addrAndLenData : List UInt8) (respSize : Nat) :
    (UdsXferSession × UdsFlashMemory) × Response :=
  if xfer.mode ≠ .idle then ((xfer, flash), .error (.errNrc .conditionsNotCorrect))
  else
    match parseAddrLenFmt addressAndLenFmt addrAndLenData with
    | none => ((xfer, flash), .error (.errNrc .incorrectMsgLenOrFormat))
    | some (address, memSize) =>
      if !udsFlashAddressValid flash address memSize then
        ((xfer, flash), .error (.errNrc .requestOutOfRange))
      else
        match udsFlashErase flash address memSize with
        | .error _ => ((xfer, flash), .error (.errNrc .generalProgrammingFailure))
        | .ok flash =>
          if respSize < 4 then ((xfer, flash), .error .errBuf)
          else
            ((startXfer .download address memSize, flash),
              .ok [0x74, 0x20, 0x00, flashMaxBlockData.toUInt8])

def udsSvcRequestUpload (xfer : UdsXferSession) (flash : UdsFlashMemory)
    (addressAndLenFmt : UInt8) (addrAndLenData : List UInt8) (respSize : Nat) :
    UdsXferSession × Response :=
  if xfer.mode ≠ .idle then (xfer, .error (.errNrc .conditionsNotCorrect))
  else
    match parseAddrLenFmt addressAndLenFmt addrAndLenData with
    | none => (xfer, .error (.errNrc .incorrectMsgLenOrFormat))
    | some (address, memSize) =>
      if !udsFlashAddressValid flash address memSize then
        (xfer, .error (.errNrc .requestOutOfRange))
      else if respSize < 4 then (xfer, .error .errBuf)
      else
        (startXfer .upload address memSize, .ok [0x75, 0x20, 0x00, flashMaxBlockData.toUInt8])

/-- The block sequence counter wraps from 0xFF to 0x01. -/
def nextBlockSeq (seq : UInt8) : UInt8 := if seq = 0xFF then 0x01 else seq + 1

/-- The bytes still to be transferred. -/
def UdsXferSession.remaining (xfer : UdsXferSession) : UInt32 :=
  xfer.totalLength - xfer.transferred

/-- The number of bytes that the next upload block reads. -/
def UdsXferSession.toRead (xfer : UdsXferSession) : UInt32 :=
  if xfer.remaining < xfer.maxBlockSize.toUInt32 then xfer.remaining
  else xfer.maxBlockSize.toUInt32

theorem UdsXferSession.toRead_le_maxBlockSize (xfer : UdsXferSession) :
    xfer.toRead.toNat ≤ xfer.maxBlockSize.toNat := by
  unfold UdsXferSession.toRead
  split
  · rename_i hlt
    have hlt := UInt32.lt_iff_toNat_lt.mp hlt
    rw [UInt16.toNat_toUInt32] at hlt
    omega
  · rw [UInt16.toNat_toUInt32]

/-- The download branch of `uds_svc_transfer_data`. -/
def transferDownload (xfer : UdsXferSession) (flash : UdsFlashMemory) (blockSeqCounter : UInt8)
    (data : List UInt8) (respSize : Nat) : (UdsXferSession × UdsFlashMemory) × Response :=
  if data.length = 0 then ((xfer, flash), .error .errParam)
  else if UInt32.ofNat data.length > xfer.remaining then
    ((xfer, flash), .error (.errNrc .transferDataSuspended))
  else
    match udsFlashWrite flash (xfer.address + xfer.transferred) data with
    | .error _ => ((xfer, flash), .error (.errNrc .generalProgrammingFailure))
    | .ok flash =>
      let xfer := { xfer with transferred := xfer.transferred + UInt32.ofNat data.length }
      if respSize < 2 then ((xfer, flash), .error .errBuf)
      else
        (({ xfer with blockSeq := nextBlockSeq xfer.blockSeq }, flash),
          .ok [0x76, blockSeqCounter])

/-- The upload branch of `uds_svc_transfer_data`. -/
def transferUpload (xfer : UdsXferSession) (flash : UdsFlashMemory) (blockSeqCounter : UInt8)
    (respSize : Nat) : UdsXferSession × Response :=
  if respSize < (2 + xfer.toRead).toNat then (xfer, .error .errBuf)
  else
    match udsFlashRead flash (xfer.address + xfer.transferred) xfer.toRead.toNat with
    | .error _ => (xfer, .error (.errNrc .generalProgrammingFailure))
    | .ok bytes =>
      ({ xfer with
          transferred := xfer.transferred + xfer.toRead
          blockSeq := nextBlockSeq xfer.blockSeq },
        .ok ([0x76, blockSeqCounter] ++ bytes))

def udsSvcTransferData (xfer : UdsXferSession) (flash : UdsFlashMemory)
    (blockSeqCounter : UInt8) (data : List UInt8) (respSize : Nat) :
    (UdsXferSession × UdsFlashMemory) × Response :=
  if xfer.mode = .idle then ((xfer, flash), .error (.errNrc .conditionsNotCorrect))
  else if blockSeqCounter ≠ xfer.blockSeq then
    ((xfer, flash), .error (.errNrc .wrongBlockSequenceCounter))
  else if xfer.mode = .download then transferDownload xfer flash blockSeqCounter data respSize
  else
    let out := transferUpload xfer flash blockSeqCounter respSize
    ((out.1, flash), out.2)

def udsSvcTransferExit (xfer : UdsXferSession) (respSize : Nat) : UdsXferSession × Response :=
  if xfer.mode = .idle then (xfer, .error (.errNrc .conditionsNotCorrect))
  else if respSize < 1 then (xfer, .error .errBuf)
  else (udsXferInit, .ok [0x77])

/-! ## What a call does -/

section Calls

variable (xfer : UdsXferSession) (flash : UdsFlashMemory) (fmt seq : UInt8)
  (data : List UInt8) (respSize : Nat)

/-- A download is refused, or its range is erased and the session started; with
no room for the response only the range is erased. -/
theorem requestDownload_cases :
    (∃ e, udsSvcRequestDownload xfer flash fmt data respSize = ((xfer, flash), .error e)) ∨
      ∃ address memSize flash', xfer.mode = .idle ∧
        parseAddrLenFmt fmt data = some (address, memSize) ∧
          udsFlashErase flash address memSize = .ok flash' ∧
            ((respSize < 4 ∧ udsSvcRequestDownload xfer flash fmt data respSize =
                ((xfer, flash'), .error .errBuf)) ∨
              udsSvcRequestDownload xfer flash fmt data respSize =
                ((startXfer .download address memSize, flash'),
                  .ok [0x74, 0x20, 0x00, flashMaxBlockData.toUInt8])) := by
  unfold udsSvcRequestDownload
  by_cases hidle : xfer.mode = .idle
  · rw [if_neg (by simpa using hidle)]
    cases hparse : parseAddrLenFmt fmt data with
    | none => exact Or.inl ⟨_, rfl⟩
    | some range =>
        obtain ⟨address, memSize⟩ := range
        simp only
        cases hvalid : udsFlashAddressValid flash address memSize with
        | false => exact Or.inl ⟨_, rfl⟩
        | true =>
            cases herase : udsFlashErase flash address memSize with
            | error e => exact Or.inl ⟨_, rfl⟩
            | ok flash' =>
                apply Or.inr
                refine ⟨address, memSize, flash', hidle, rfl, herase, ?_⟩
                by_cases hsize : respSize < 4
                · exact Or.inl ⟨hsize, by simp [hsize]⟩
                · exact Or.inr (by simp [hsize])
  · rw [if_pos hidle]
    exact Or.inl ⟨_, rfl⟩

/-- An upload is refused, or the session started. -/
theorem requestUpload_cases :
    (∃ e, udsSvcRequestUpload xfer flash fmt data respSize = (xfer, .error e)) ∨
      ∃ address memSize, xfer.mode = .idle ∧
        parseAddrLenFmt fmt data = some (address, memSize) ∧
          udsFlashAddressValid flash address memSize = true ∧
            udsSvcRequestUpload xfer flash fmt data respSize =
              (startXfer .upload address memSize,
                .ok [0x75, 0x20, 0x00, flashMaxBlockData.toUInt8]) := by
  unfold udsSvcRequestUpload
  by_cases hidle : xfer.mode = .idle
  · rw [if_neg (by simpa using hidle)]
    cases hparse : parseAddrLenFmt fmt data with
    | none => exact Or.inl ⟨_, rfl⟩
    | some range =>
        obtain ⟨address, memSize⟩ := range
        simp only
        cases hvalid : udsFlashAddressValid flash address memSize with
        | false => exact Or.inl ⟨_, rfl⟩
        | true =>
            by_cases hsize : respSize < 4
            · exact Or.inl ⟨_, by simp [hsize]; rfl⟩
            · exact Or.inr ⟨address, memSize, hidle, rfl, hvalid, by simp [hsize]⟩
  · rw [if_pos hidle]
    exact Or.inl ⟨_, rfl⟩

/-- The session after an accepted block of `n` bytes. -/
def UdsXferSession.advance (xfer : UdsXferSession) (n : UInt32) : UdsXferSession :=
  { xfer with transferred := xfer.transferred + n, blockSeq := nextBlockSeq xfer.blockSeq }

/-- A block is refused, written or read; with no room for the response to a
download block it is written, but the counter stays. -/
theorem transferData_cases :
    (∃ e, udsSvcTransferData xfer flash seq data respSize = ((xfer, flash), .error e)) ∨
      (∃ flash', xfer.mode = .download ∧ seq = xfer.blockSeq ∧
        UInt32.ofNat data.length ≤ xfer.remaining ∧
          udsFlashWrite flash (xfer.address + xfer.transferred) data = .ok flash' ∧
            ((respSize < 2 ∧ udsSvcTransferData xfer flash seq data respSize =
                (({ xfer with transferred := xfer.transferred + UInt32.ofNat data.length }, flash'),
                  .error .errBuf)) ∨
              udsSvcTransferData xfer flash seq data respSize =
                ((xfer.advance (UInt32.ofNat data.length), flash'), .ok [0x76, seq]))) ∨
      ∃ bytes, xfer.mode = .upload ∧ seq = xfer.blockSeq ∧ (2 + xfer.toRead).toNat ≤ respSize ∧
        udsFlashRead flash (xfer.address + xfer.transferred) xfer.toRead.toNat = .ok bytes ∧
          udsSvcTransferData xfer flash seq data respSize =
            ((xfer.advance xfer.toRead, flash), .ok ([0x76, seq] ++ bytes)) := by
  unfold udsSvcTransferData
  cases hmode : xfer.mode with
  | idle => exact Or.inl ⟨_, rfl⟩
  | download =>
      by_cases hseq : seq = xfer.blockSeq
      · rw [if_neg (by simp), if_neg (by simpa using hseq), if_pos rfl]
        unfold transferDownload
        by_cases hempty : data.length = 0
        · exact Or.inl ⟨_, by rw [if_pos hempty]⟩
        · by_cases hroom : UInt32.ofNat data.length > xfer.remaining
          · exact Or.inl ⟨_, by rw [if_neg hempty, if_pos hroom]⟩
          · rw [if_neg hempty, if_neg hroom]
            cases hwrite : udsFlashWrite flash (xfer.address + xfer.transferred) data with
            | error e => exact Or.inl ⟨_, rfl⟩
            | ok flash' =>
                apply Or.inr
                apply Or.inl
                refine ⟨flash', rfl, hseq, UInt32.not_lt.mp hroom, rfl, ?_⟩
                by_cases hsize : respSize < 2
                · exact Or.inl ⟨hsize, by simp [hsize, ← hmode]⟩
                · exact Or.inr (by simp [hsize, UdsXferSession.advance])
      · exact Or.inl ⟨_, by rw [if_neg (by simp), if_pos hseq]⟩
  | upload =>
      by_cases hseq : seq = xfer.blockSeq
      · rw [if_neg (by simp), if_neg (by simpa using hseq), if_neg (by simp)]
        unfold transferUpload
        by_cases hsize : respSize < (2 + xfer.toRead).toNat
        · exact Or.inl ⟨_, by rw [if_pos hsize]⟩
        · rw [if_neg hsize]
          cases hread : udsFlashRead flash (xfer.address + xfer.transferred)
            xfer.toRead.toNat with
          | error e => exact Or.inl ⟨_, rfl⟩
          | ok bytes =>
              exact Or.inr (Or.inr ⟨bytes, rfl, hseq, by omega, rfl, by
                simp [UdsXferSession.advance]⟩)
      · exact Or.inl ⟨_, by rw [if_neg (by simp), if_pos hseq]⟩

/-- An exit is refused, or clears the session. -/
theorem transferExit_cases :
    (∃ e, udsSvcTransferExit xfer respSize = (xfer, .error e)) ∨
      (xfer.mode ≠ .idle ∧ udsSvcTransferExit xfer respSize = (udsXferInit, .ok [0x77])) := by
  unfold udsSvcTransferExit
  by_cases hidle : xfer.mode = .idle
  · exact Or.inl ⟨_, if_pos hidle⟩
  · rw [if_neg hidle]
    by_cases hsize : respSize < 1
    · exact Or.inl ⟨_, if_pos hsize⟩
    · exact Or.inr ⟨hidle, if_neg hsize⟩

/-! ## What the services do to the transfer session -/

theorem requestDownload_xfer :
    (udsSvcRequestDownload xfer flash fmt data respSize).1.1 = xfer ∨
      ∃ address memSize, (udsSvcRequestDownload xfer flash fmt data respSize).1.1 =
        startXfer .download address memSize := by
  rcases requestDownload_cases xfer flash fmt data respSize with
    ⟨e, h⟩ | ⟨address, memSize, flash', -, -, -, ⟨-, h⟩ | h⟩
  · exact Or.inl (by rw [h])
  · exact Or.inl (by rw [h])
  · exact Or.inr ⟨address, memSize, by rw [h]⟩

theorem requestUpload_xfer :
    (udsSvcRequestUpload xfer flash fmt data respSize).1 = xfer ∨
      ∃ address memSize, (udsSvcRequestUpload xfer flash fmt data respSize).1 =
        startXfer .upload address memSize := by
  rcases requestUpload_cases xfer flash fmt data respSize with
    ⟨e, h⟩ | ⟨address, memSize, -, -, -, h⟩
  · exact Or.inl (by rw [h])
  · exact Or.inr ⟨address, memSize, by rw [h]⟩

/-- Blocks move the position of a transfer, but not what is transferred. -/
theorem transferData_xfer :
    (udsSvcTransferData xfer flash seq data respSize).1.1 = xfer ∨
      (xfer.mode ≠ .idle ∧
        ∃ transferred blockSeq, (udsSvcTransferData xfer flash seq data respSize).1.1 =
          { xfer with transferred := transferred, blockSeq := blockSeq }) := by
  rcases transferData_cases xfer flash seq data respSize with
    ⟨e, h⟩ | ⟨flash', hmode, -, -, -, ⟨-, h⟩ | h⟩ | ⟨bytes, hmode, -, -, -, h⟩
  · exact Or.inl (by rw [h])
  · exact Or.inr ⟨by simp [hmode], _, xfer.blockSeq, by rw [h]⟩
  · exact Or.inr ⟨by simp [hmode], _, _, by rw [h]; rfl⟩
  · exact Or.inr ⟨by simp [hmode], _, _, by rw [h]; rfl⟩

theorem transferExit_xfer :
    (udsSvcTransferExit xfer respSize).1 = xfer ∨
      (udsSvcTransferExit xfer respSize).1 = udsXferInit := by
  rcases transferExit_cases xfer respSize with ⟨e, h⟩ | ⟨-, h⟩
  · exact Or.inl (by rw [h])
  · exact Or.inr (by rw [h])

/-! ## What the services do to the region table -/

theorem udsFlashErase_regions {flash flash' : UdsFlashMemory} {address length : UInt32}
    (h : udsFlashErase flash address length = .ok flash') : flash'.regions = flash.regions := by
  obtain ⟨-, r, -, -, heq⟩ := udsFlashErase_eq_ok.mp h
  rw [heq]

theorem udsFlashWrite_regions {flash flash' : UdsFlashMemory} {address : UInt32}
    {bytes : List UInt8} (h : udsFlashWrite flash address bytes = .ok flash') :
    flash'.regions = flash.regions := by
  obtain ⟨-, r, -, -, heq⟩ := udsFlashWrite_eq_ok.mp h
  rw [heq]

theorem requestDownload_regions :
    (udsSvcRequestDownload xfer flash fmt data respSize).1.2.regions = flash.regions := by
  rcases requestDownload_cases xfer flash fmt data respSize with
    ⟨e, h⟩ | ⟨address, memSize, flash', -, -, herase, ⟨-, h⟩ | h⟩
  · rw [h]
  · rw [h]
    exact udsFlashErase_regions herase
  · rw [h]
    exact udsFlashErase_regions herase

theorem transferData_regions :
    (udsSvcTransferData xfer flash seq data respSize).1.2.regions = flash.regions := by
  rcases transferData_cases xfer flash seq data respSize with
    ⟨e, h⟩ | ⟨flash', -, -, -, hwrite, ⟨-, h⟩ | h⟩ | ⟨bytes, -, -, -, -, h⟩
  · rw [h]
  · rw [h]
    exact udsFlashWrite_regions hwrite
  · rw [h]
    exact udsFlashWrite_regions hwrite
  · rw [h]

end Calls

end Uds.Bootloader
