import Uds.Base.Machine
import Uds.Base.Memory
import Uds.PyEcu.Simulator
import Uds.Tools.RoundTrip
/-!
# Flash sessions of the Python simulator

The flash of `EcuSimulator` is a `bytearray`, which a slice assignment resizes when
its bounds are off.  They never are: an active transfer stays inside the flash.  So
the flash is a memory of fixed size, and `UdsFlashService` reads back what it has
stored there.
-/

namespace Uds.PyEcu

open Uds.Base Uds.Bootloader Uds.Tools

/-! ## The flash as a memory -/

/-- The byte at every address; there is nothing behind the flash. -/
def flashMem (flash : List UInt8) : Mem UInt8 := fun a => flash.getD a 0

theorem flashMem_apply (flash : List UInt8) (a : Nat) : flashMem flash a = flash.getD a 0 := rfl

section Slices

variable {flash bytes : List UInt8} {start n : Nat}

theorem length_storeFlash (h : start + bytes.length ≤ flash.length) :
    (storeFlash flash start bytes).length = flash.length := by
  simp only [storeFlash, List.length_append, List.length_take, List.length_drop]
  omega

theorem flashMem_storeFlash (h : start + bytes.length ≤ flash.length) :
    flashMem (storeFlash flash start bytes) = (flashMem flash).store start bytes := by
  have htake : (flash.take start).length = start := by
    rw [List.length_take]
    omega
  funext a
  rw [flashMem_apply, storeFlash, List.append_assoc]
  by_cases hbelow : a < start
  · rw [Mem.store_of_lt _ _ _ hbelow, List.getD_append _ _ _ _ (by omega), flashMem_apply,
      List.getD_eq_getElem?_getD, List.getElem?_take_of_lt hbelow, List.getD_eq_getElem?_getD]
  · obtain ⟨k, rfl⟩ := Nat.exists_eq_add_of_le (Nat.le_of_not_lt hbelow)
    rw [List.getD_append_right _ _ _ _ (by omega), htake, Nat.add_sub_cancel_left]
    by_cases hinside : k < bytes.length
    · rw [List.getD_append _ _ _ _ hinside, List.getD_eq_getElem _ _ hinside,
        Mem.store_add _ _ _ hinside]
    · rw [Mem.store_of_ge _ _ _ (by omega), flashMem_apply,
        List.getD_append_right _ _ _ _ (by omega), List.getD_eq_getElem?_getD,
        List.getElem?_drop, List.getD_eq_getElem?_getD]
      congr 2
      omega

theorem slice_eq_load (h : start + n ≤ flash.length) :
    (flash.drop start).take n = (flashMem flash).load start n := by
  apply List.ext_getElem
  · rw [Mem.length_load, List.length_take, List.length_drop]
    omega
  · intro i hi hi'
    rw [Mem.length_load] at hi'
    rw [Mem.getElem_load, List.getElem_take, List.getElem_drop]
    exact (List.getD_eq_getElem _ _ (by omega)).symm

end Slices

/-! ## Every run of requests -/

/-- The flash has its size, and an active transfer lies in it. -/
def FlashInv (ecu : EcuState) : Prop :=
  ecu.flash.length = 262144 ∧
    (ecu.xferMode ≠ 0 → (0 ≤ ecu.xferOffset ∧ ecu.xferOffset ≤ ecu.xferSize) ∧
      ecu.xferAddress + ecu.xferSize ≤ 262144 ∧
      1 ≤ ecu.xferExpectedSn ∧ ecu.xferExpectedSn ≤ 255)

section Invariant

variable {ecu : EcuState} (draws : Draws) (req : List UInt8)

theorem flashInv_init (monotonic : Rat) : FlashInv (EcuState.init monotonic) :=
  ⟨List.length_replicate, fun h => absurd rfl h⟩

theorem flashInv_svcDsc (h : FlashInv ecu) : FlashInv (svcDsc ecu draws req).1 := by
  unfold svcDsc
  dsimp only
  split_ifs <;> exact h

theorem flashInv_svcTesterPresent (h : FlashInv ecu) :
    FlashInv (svcTesterPresent ecu draws req).1 := by
  unfold svcTesterPresent
  dsimp only
  split_ifs <;> exact h

theorem flashInv_drawSeed (h : FlashInv ecu) (subFn : UInt8) :
    FlashInv (drawSeed ecu draws subFn).1 := by
  unfold drawSeed
  dsimp only
  split_ifs <;> exact h

theorem flashInv_requestSeed (h : FlashInv ecu) (subFn : UInt8) :
    FlashInv (requestSeed ecu draws subFn).1 := by
  unfold requestSeed
  split_ifs
  · exact h
  · have hreset : FlashInv { ecu with locked := false, failCount := 0 } := h
    exact flashInv_drawSeed draws hreset subFn
  · exact flashInv_drawSeed draws h subFn

theorem flashInv_sendKey (h : FlashInv ecu) (subFn : UInt8) :
    FlashInv (sendKey ecu draws req subFn).1 := by
  unfold sendKey
  dsimp only
  split
  · exact h
  · split_ifs <;> exact h

theorem flashInv_svcSecurityAccess (h : FlashInv ecu) :
    FlashInv (svcSecurityAccess ecu draws req).1 := by
  unfold svcSecurityAccess
  dsimp only
  split_ifs
  · exact h
  · exact flashInv_requestSeed draws h _
  · exact flashInv_sendKey draws req h _

theorem flashInv_svcReadDid (h : FlashInv ecu) : FlashInv (svcReadDid ecu req).1 := by
  unfold svcReadDid
  split
  · exact h
  · split <;> exact h

theorem flashInv_svcWriteDid (h : FlashInv ecu) : FlashInv (svcWriteDid ecu req).1 := by
  unfold svcWriteDid
  dsimp only
  split
  · exact h
  · split
    · exact h
    · split_ifs <;> exact h

theorem flashInv_svcEcuReset (h : FlashInv ecu) : FlashInv (svcEcuReset ecu req).1 := by
  unfold svcEcuReset
  dsimp only
  split_ifs <;> exact h

theorem flashInv_svcClearDtc (h : FlashInv ecu) : FlashInv (svcClearDtc ecu req).1 := by
  unfold svcClearDtc
  dsimp only
  split_ifs <;> exact h

theorem flashInv_svcReadDtc (h : FlashInv ecu) : FlashInv (svcReadDtc ecu req).1 := by
  unfold svcReadDtc
  dsimp only
  split_ifs <;> exact h

theorem parseTransferRequest_le {address size : Nat}
    (h : parseTransferRequest req = .ok (address, size)) : address + size ≤ 262144 := by
  unfold parseTransferRequest at h
  dsimp only at h
  split_ifs at h with _ _ _ hrange
  cases h
  rw [not_or, Nat.not_lt, Nat.not_lt] at hrange
  exact hrange.2

theorem flashInv_startTransfer (h : FlashInv ecu) (mode : Nat) {address size : Nat}
    (hrange : address + size ≤ 262144) : FlashInv (startTransfer ecu mode address size) :=
  ⟨h.1, fun _ => ⟨⟨Nat.zero_le _, Nat.zero_le _⟩, hrange, le_rfl, by simp [startTransfer]⟩⟩

theorem flashInv_svcRequestDownload (h : FlashInv ecu) :
    FlashInv (svcRequestDownload ecu req).1 := by
  unfold svcRequestDownload
  split
  · exact h
  · rename_i address size hparse
    have hrange := parseTransferRequest_le req hparse
    have hstart := flashInv_startTransfer h 0x34 hrange
    refine ⟨?_, hstart.2⟩
    change (storeFlash ecu.flash (address - flashBase) (List.replicate size 0)).length = 262144
    have hflash := h.1
    rw [length_storeFlash]
    · exact hflash
    · rw [List.length_replicate, flashBase]
      omega

theorem flashInv_svcRequestUpload (h : FlashInv ecu) : FlashInv (svcRequestUpload ecu req).1 := by
  unfold svcRequestUpload
  split
  · exact h
  · rename_i address size hparse
    exact flashInv_startTransfer h 0x35 (parseTransferRequest_le req hparse)

theorem nextSn_range {sn : Nat} : 1 ≤ nextSn sn ∧ nextSn sn ≤ 255 := by
  unfold nextSn
  split <;> omega

theorem flashInv_svcTransferData (h : FlashInv ecu) : FlashInv (svcTransferData ecu req).1 := by
  unfold svcTransferData
  dsimp only
  split
  · exact h
  · rename_i hactive
    obtain ⟨⟨-, hoffset⟩, hrange, -⟩ := h.2 hactive
    split
    · exact h
    · split
      · exact h
      · split
        · generalize hchunk : (req.drop 2).take (ecu.xferSize - ecu.xferOffset) = chunk
          have hlen : chunk.length ≤ ecu.xferSize - ecu.xferOffset := by
            rw [← hchunk, List.length_take]
            omega
          have hflash := h.1
          refine ⟨?_, fun _ => ⟨⟨Nat.zero_le _, ?_⟩, hrange, nextSn_range⟩⟩
          · dsimp only
            rw [length_storeFlash]
            · exact hflash
            · rw [flashBase]
              omega
          · dsimp only
            omega
        · refine ⟨h.1, fun _ => ⟨⟨Nat.zero_le _, ?_⟩, hrange, nextSn_range⟩⟩
          dsimp only
          omega

theorem flashInv_svcTransferExit (h : FlashInv ecu) : FlashInv (svcTransferExit ecu).1 := by
  unfold svcTransferExit
  split
  · exact h
  · exact ⟨h.1, fun hactive => absurd rfl hactive⟩

theorem flashInv_dispatch (h : FlashInv ecu) : FlashInv (dispatch ecu draws req).1 := by
  apply dispatch_rule ecu draws req (P := fun out => FlashInv out.1)
  · exact h
  · exact fun _ => h
  · exact flashInv_svcDsc draws req h
  · exact flashInv_svcTesterPresent draws req h
  · exact flashInv_svcSecurityAccess draws req h
  · exact flashInv_svcReadDid req h
  · exact flashInv_svcWriteDid req h
  · exact flashInv_svcEcuReset req h
  · exact flashInv_svcClearDtc req h
  · exact flashInv_svcReadDtc req h
  · exact flashInv_svcRequestDownload req h
  · exact flashInv_svcRequestUpload req h
  · exact flashInv_svcTransferData req h
  · exact flashInv_svcTransferExit h

end Invariant

/-- One request, with what its dispatch draws. -/
def dispatchStep (ecu : EcuState) (input : Draws × List UInt8) : EcuState × Option (List UInt8) :=
  dispatch ecu input.1 input.2

theorem flashInv_of_reachable {monotonic : Rat} {ecu : EcuState}
    (h : Reachable dispatchStep (EcuState.init monotonic) ecu) : FlashInv ecu :=
  Reachable.invariant dispatchStep FlashInv (flashInv_init monotonic)
    (fun _ input hinv => flashInv_dispatch input.1 input.2 hinv) h

/-! ## The client and the simulator -/

/-- The far end of the client's transport. -/
structure PyLink where
  ecu : EcuState
  /-- How many requests have been dispatched. -/
  dispatched : Nat
  /-- The responses that have not been received yet. -/
  responses : List (List UInt8)

/-- A reliable transport; dispatch `n` draws `draws n`. -/
def pyTransport (draws : Nat → Draws) : Transport PyLink where
  send req := ⟨fun link =>
    let out := dispatch link.ecu (draws link.dispatched) req
    let resp := out.2.getD []
    (.ok (),
      { ecu := out.1
        dispatched := link.dispatched + 1
        responses := link.responses ++ (if resp.length > 0 then [resp] else []) })⟩
  recv := ⟨fun link =>
    match link.responses with
    | [] => (.error .udsTimeoutError, link)
    | resp :: rest => (.ok resp, { link with responses := rest })⟩

/-- Address and length fit the flash and the widths that the request gives them. -/
structure Sendable (address len addrLen sizeLen : Nat) : Prop where
  addrLen_pos : 1 ≤ addrLen
  addrLen_lt : addrLen < 16
  sizeLen_pos : 1 ≤ sizeLen
  sizeLen_lt : sizeLen < 16
  address_lt : address < 256 ^ addrLen
  len_lt : len < 256 ^ sizeLen
  len_pos : 0 < len
  inFlash : address + len ≤ 262144

/-- Nothing waits to be received, and the flash holds `mem`. -/
structure Resting (mem : Mem UInt8) (link : PyLink) : Prop where
  responses : link.responses = []
  length : link.ecu.flash.length = 262144
  flash : flashMem link.ecu.flash = mem

/-- A transfer that has come to `offset` and expects block `sn`. -/
structure Transferring (mode address size offset sn : Nat) (mem : Mem UInt8) (link : PyLink) :
    Prop extends Resting mem link where
  mode : link.ecu.xferMode = mode
  address : link.ecu.xferAddress = address
  size : link.ecu.xferSize = size
  offset : link.ecu.xferOffset = offset
  sn : link.ecu.xferExpectedSn = sn

section Requests

variable (draws : Nat → Draws) {link : PyLink}

theorem request_dispatched {data resp : List UInt8} {ecu' : EcuState} {b : UInt8}
    (hempty : link.responses = [])
    (hdispatch : dispatch link.ecu (draws link.dispatched) data = (ecu', some resp))
    (hhead : resp.head? = some b) (hb : b ≠ sidNrc) :
    (request (pyTransport draws) data).run link =
      (.ok resp, ⟨ecu', link.dispatched + 1, []⟩) := by
  have hlen : resp.length > 0 := by
    cases resp with
    | nil => cases hhead
    | cons => exact Nat.succ_pos _
  have hsend : ((pyTransport draws).send data).run link =
      (.ok (), ⟨ecu', link.dispatched + 1, [resp]⟩) := by
    simp only [pyTransport, hdispatch, Option.getD_some, if_pos hlen, hempty, List.nil_append]
  apply request_run _ hsend rfl
  rw [hhead]
  exact fun h => hb (Option.some.inj h)

variable {address len addrLen sizeLen : Nat}

theorem parseTransferRequest_encoded (h : Sendable address len addrLen sizeLen) (sid : UInt8) :
    parseTransferRequest ([sid, 0x00, formatByte addrLen sizeLen] ++ bytesBE addrLen address ++
      bytesBE sizeLen len) = .ok (address, len) := by
  obtain ⟨ha, ha', hs, hs', haddr, hlen, -, hrange⟩ := h
  generalize hreq : [sid, 0x00, formatByte addrLen sizeLen] ++ bytesBE addrLen address ++
    bytesBE sizeLen len = req
  have hlength : req.length = 3 + addrLen + sizeLen := by
    rw [← hreq, List.length_append, List.length_append, length_bytesBE, length_bytesBE]
    rfl
  have hfmt : (req.getD 2 0).toNat = sizeLen * 16 + addrLen := by
    rw [← hreq]
    exact toNat_formatByte ha' hs'
  have hlow : (sizeLen * 16 + addrLen) &&& 0x0F = addrLen := by
    rw [and_0F]
    omega
  have hhigh : ((sizeLen * 16 + addrLen) >>> 4) &&& 0x0F = sizeLen := by
    rw [and_0F, shr_4]
    omega
  have haddress : (req.drop 3).take addrLen = bytesBE addrLen address := by
    rw [← hreq]
    exact List.take_left' (length_bytesBE addrLen address)
  have hsize : (req.drop (3 + addrLen)).take sizeLen = bytesBE sizeLen len := by
    rw [← hreq, List.drop_left' (by rw [List.length_append, length_bytesBE]; rfl)]
    exact List.take_of_length_le (length_bytesBE sizeLen len).le
  have hwithin : ¬(address < flashBase ∨ address + len > flashBase + flashSize) := by
    unfold flashBase flashSize
    omega
  unfold parseTransferRequest
  simp only [hfmt, hlow, hhigh, haddress, hsize, natBE_bytesBE _ _ haddr, natBE_bytesBE _ _ hlen]
  rw [if_neg (by omega), if_neg (by omega), if_neg (by omega), if_neg hwithin]

theorem requestDownload_run {mem : Mem UInt8} (h : Sendable address len addrLen sizeLen)
    (hrest : Resting mem link) :
    ∃ link', (requestDownload (pyTransport draws) address len addrLen sizeLen).run link =
        (.ok 257, link') ∧
      Transferring 0x34 address len 0 1 (mem.store address (List.replicate len 0)) link' := by
  have hparse := parseTransferRequest_encoded h 0x34
  have hdispatch : dispatch link.ecu (draws link.dispatched)
      ([0x34, 0x00, formatByte addrLen sizeLen] ++ bytesBE addrLen address ++
        bytesBE sizeLen len) =
      ({ startTransfer link.ecu 0x34 address len with
          flash := storeFlash link.ecu.flash (address - flashBase) (List.replicate len 0) },
        some [0x74, 0x20, 0x01, 0x01]) := by
    change svcRequestDownload link.ecu _ = _
    unfold svcRequestDownload
    rw [hparse]
    rfl
  have hfits : address - flashBase + (List.replicate len (0 : UInt8)).length ≤
      link.ecu.flash.length := by
    have hrange := h.inFlash
    rw [List.length_replicate, hrest.length, flashBase]
    omega
  refine ⟨_, requestTransfer_run h.address_lt h.len_lt (show natBE [0x01, 0x01] = 257 by decide)
    (request_dispatched draws hrest.responses hdispatch rfl (by decide)), ⟨rfl, ?_, ?_⟩,
    rfl, rfl, rfl, rfl, rfl⟩
  · exact (length_storeFlash hfits).trans hrest.length
  · have hflash := flashMem_storeFlash hfits
    rw [hrest.flash] at hflash
    exact hflash

theorem requestUpload_run {mem : Mem UInt8} (h : Sendable address len addrLen sizeLen)
    (hrest : Resting mem link) :
    ∃ link', (requestUpload (pyTransport draws) address len addrLen sizeLen).run link =
        (.ok 257, link') ∧ Transferring 0x35 address len 0 1 mem link' := by
  have hparse := parseTransferRequest_encoded h 0x35
  have hdispatch : dispatch link.ecu (draws link.dispatched)
      ([0x35, 0x00, formatByte addrLen sizeLen] ++ bytesBE addrLen address ++
        bytesBE sizeLen len) =
      (startTransfer link.ecu 0x35 address len, some [0x75, 0x20, 0x01, 0x01]) := by
    change svcRequestUpload link.ecu _ = _
    unfold svcRequestUpload
    rw [hparse]
    rfl
  exact ⟨_, requestTransfer_run h.address_lt h.len_lt (show natBE [0x01, 0x01] = 257 by decide)
    (request_dispatched draws hrest.responses hdispatch rfl (by decide)),
    ⟨rfl, hrest.length, hrest.flash⟩, rfl, rfl, rfl, rfl, rfl⟩

variable {size offset sn : Nat} {mem : Mem UInt8}

theorem toNat_sn (sn : Nat) : (UInt8.ofNat sn).toNat = sn &&& 0xFF := by
  rw [and_FF]
  exact UInt8.toNat_ofNat'

theorem downloadBlock_run {chunk : List UInt8} (hrange : address + size ≤ 262144)
    (hxfer : Transferring 0x34 address size offset sn mem link)
    (hend : offset + chunk.length ≤ size) :
    ∃ link', (transferData (pyTransport draws) sn chunk).run link = (.ok [], link') ∧
      Transferring 0x34 address size (offset + chunk.length) (nextBlockSn sn)
        (mem.store (address + offset) chunk) link' := by
  have htake : chunk.take (size - offset) = chunk := List.take_of_length_le (by omega)
  have hdispatch : dispatch link.ecu (draws link.dispatched) ([0x36, UInt8.ofNat sn] ++ chunk) =
      ({ link.ecu with
          flash := storeFlash link.ecu.flash (address - flashBase + offset) chunk
          xferOffset := offset + chunk.length
          xferExpectedSn := nextSn sn }, some ([0x76, UInt8.ofNat sn] ++ [])) := by
    have hmode : ¬link.ecu.xferMode = 0 := by
      rw [hxfer.mode]
      decide
    have hlength : ¬([0x36, UInt8.ofNat sn] ++ chunk).length < 2 := by
      rw [List.length_append]
      exact Nat.not_lt.mpr (Nat.le_add_right 2 _)
    have hcounter : ¬(([0x36, UInt8.ofNat sn] ++ chunk).getD 1 0).toNat ≠
        link.ecu.xferExpectedSn &&& 0xFF := by
      rw [hxfer.sn]
      exact not_not.mpr (toNat_sn sn)
    have hchunk : (([0x36, UInt8.ofNat sn] ++ chunk).drop 2).take
        (link.ecu.xferSize - link.ecu.xferOffset) = chunk := by
      rw [hxfer.size, hxfer.offset]
      exact htake
    change svcTransferData link.ecu _ = _
    unfold svcTransferData
    simp only [hchunk]
    rw [if_neg hmode, if_neg hlength, if_neg hcounter, if_pos hxfer.mode, hxfer.address,
      hxfer.offset, hxfer.sn]
    rfl
  have hfits : address - flashBase + offset + chunk.length ≤ link.ecu.flash.length := by
    rw [hxfer.length, flashBase]
    omega
  refine ⟨_, transferData_run (request_dispatched draws hxfer.responses hdispatch rfl (by decide)),
    ⟨rfl, ?_, ?_⟩, hxfer.mode, hxfer.address, hxfer.size, rfl, rfl⟩
  · exact (length_storeFlash hfits).trans hxfer.length
  · have hflash := flashMem_storeFlash hfits
    rw [hxfer.flash] at hflash
    exact hflash

theorem uploadBlock_run {k : Nat} (hrange : address + size ≤ 262144)
    (hxfer : Transferring 0x35 address size offset sn mem link)
    (hoff : offset ≤ size) (hk : k = min 256 (size - offset)) :
    ∃ link', (transferData (pyTransport draws) sn []).run link =
        (.ok (mem.load (address + offset) k), link') ∧
      Transferring 0x35 address size (offset + k) (nextBlockSn sn) mem link' := by
  have hslice : (link.ecu.flash.drop (address - flashBase + offset)).take k =
      mem.load (address + offset) k := by
    have hlength := hxfer.length
    rw [slice_eq_load (by rw [hlength, flashBase]; omega), hxfer.flash]
    rfl
  have hdispatch : dispatch link.ecu (draws link.dispatched) ([0x36, UInt8.ofNat sn] ++ []) =
      ({ link.ecu with
          xferOffset := offset + k
          xferExpectedSn := nextSn sn },
        some ([0x76, UInt8.ofNat sn] ++ mem.load (address + offset) k)) := by
    have hactive : ¬link.ecu.xferMode = 0 := by
      rw [hxfer.mode]
      decide
    have hupload : ¬link.ecu.xferMode = 0x34 := by
      rw [hxfer.mode]
      decide
    have hcounter : ¬(([0x36, UInt8.ofNat sn] ++ []).getD 1 0).toNat ≠
        link.ecu.xferExpectedSn &&& 0xFF := by
      rw [hxfer.sn]
      exact not_not.mpr (toNat_sn sn)
    have hsize : min flashBlockSize (link.ecu.xferSize - link.ecu.xferOffset) = k := by
      rw [hxfer.size, hxfer.offset, hk, flashBlockSize]
    change svcTransferData link.ecu _ = _
    unfold svcTransferData
    simp only [hsize]
    rw [if_neg hactive, if_neg (by simp), if_neg hcounter, if_neg hupload, hxfer.address,
      hxfer.offset, hxfer.sn, hslice]
    rfl
  exact ⟨_, transferData_run (request_dispatched draws hxfer.responses hdispatch rfl (by decide)),
    ⟨rfl, hxfer.length, hxfer.flash⟩, hxfer.mode, hxfer.address, hxfer.size, rfl, rfl⟩

theorem transferExit_dispatched {mode : Nat} (hmode : mode ≠ 0)
    (hxfer : Transferring mode address size offset sn mem link) :
    ∃ link', (transferExit (pyTransport draws)).run link = (.ok (), link') ∧ Resting mem link' := by
  have hdispatch : dispatch link.ecu (draws link.dispatched) [0x37] =
      ({ link.ecu with xferMode := 0, xferOffset := 0 }, some [0x77]) := by
    have hactive : ¬link.ecu.xferMode = 0 := by
      rw [hxfer.mode]
      exact hmode
    change svcTransferExit link.ecu = _
    unfold svcTransferExit
    rw [if_neg hactive]
  exact ⟨_, transferExit_run (request_dispatched draws hxfer.responses hdispatch rfl (by decide)),
    rfl, hxfer.length, hxfer.flash⟩

end Requests

/-! ## Whole transfers -/

section Transfers

variable (draws : Nat → Draws) {link : PyLink} {mem : Mem UInt8} {address addrLen sizeLen : Nat}

theorem download_stores {data : List UInt8} (h : Sendable address data.length addrLen sizeLen)
    (hrest : Resting mem link) :
    ∃ link', (download (pyTransport draws) address data addrLen sizeLen).run link =
      (.ok (), link') ∧ Resting (mem.store address data) link' := by
  have hrange := h.inFlash
  obtain ⟨started, hrun, hxfer⟩ := requestDownload_run draws h hrest
  generalize hbase : mem.store address (List.replicate data.length 0) = base at hxfer
  have hpos : 0 < max 1 (257 - 1) := by decide
  obtain ⟨sn, loaded, hloop, hend⟩ := downloadLoop_rule (pyTransport draws) hpos
    (fun offset sn link => Transferring 0x34 address data.length offset sn
      (base.store address (data.take offset)) link)
    (by
      intro offset sn link chunk hxfer hne hchunk
      have hpos := List.length_pos_of_ne_nil hne
      have hfits := hchunk.length_le
      rw [List.length_drop] at hfits
      obtain ⟨link', hblock, hxfer'⟩ := downloadBlock_run draws hrange hxfer
        (show offset + chunk.length ≤ data.length by omega)
      refine ⟨[], link', hblock, ?_⟩
      rwa [Mem.store_take_add base address data hchunk (by omega)] at hxfer')
    (Nat.zero_le data.length) (show Transferring 0x34 address data.length 0 1
      (base.store address (data.take 0)) started by
        rwa [List.take_zero, Mem.store_nil])
  obtain ⟨link', hexit, hrest'⟩ := transferExit_dispatched draws (by decide) hend
  refine ⟨link', ?_, ?_⟩
  · rw [download, Py.run_bind hrun, Py.run_bind hloop]
    exact hexit
  · rwa [List.take_length, ← hbase,
      Mem.store_store_covered _ _ _ _ (List.length_replicate).le] at hrest'

theorem upload_loads {len fuel : Nat} (h : Sendable address len addrLen sizeLen)
    (hfuel : len ≤ fuel) (hrest : Resting mem link) :
    ∃ link', (upload (pyTransport draws) fuel address len addrLen sizeLen).run link =
      (.ok (mem.load address len), link') ∧ Resting mem link' := by
  have hrange := h.inFlash
  obtain ⟨started, hrun, hxfer⟩ := requestUpload_run draws h hrest
  obtain ⟨result, sn, loaded, hloop, hlen, hresult, hend⟩ :=
    uploadLoop_rule (pyTransport draws)
      (fun result sn link => result = mem.load address result.length ∧
        Transferring 0x35 address len result.length sn mem link)
      (by
        rintro result sn link ⟨hresult, hxfer⟩ hmore
        generalize hk : min 256 (len - result.length) = k
        obtain ⟨link', hblock, hxfer'⟩ := uploadBlock_run draws hrange hxfer
          (Nat.le_of_lt hmore) hk.symm
        have hlen : (result ++ mem.load (address + result.length) k).length =
            result.length + k := by
          rw [List.length_append, Mem.length_load]
        refine ⟨_, link', hblock, ?_, by omega, ?_, ?_⟩
        · apply List.ne_nil_of_length_pos
          rw [Mem.length_load]
          omega
        · rw [hlen, Mem.load_add, ← hresult]
        · rwa [hlen])
      (show ([] : List UInt8).length ≤ len from Nat.zero_le len) hfuel
      (show [] = mem.load address 0 ∧ Transferring 0x35 address len 0 1 mem started from
        ⟨rfl, hxfer⟩)
  obtain ⟨link', hexit, hrest'⟩ := transferExit_dispatched draws (by decide) hend
  refine ⟨link', ?_, hrest'⟩
  rw [upload, Py.run_bind hrun, Py.run_bind hloop, Py.run_bind hexit, Py.run_pure, hresult, hlen,
    List.take_of_length_le (Mem.length_load mem address len).le]

/-- One call of `download`. -/
structure Download where
  address : Nat
  data : List UInt8
  addrLen : Nat
  sizeLen : Nat

def Download.Fits (d : Download) : Prop := Sendable d.address d.data.length d.addrLen d.sizeLen

/-- The calls one after the other. -/
def downloads {σ : Type} (transport : Transport σ) : List Download → Py σ Unit
  | [] => pure ()
  | d :: ds => do
    download transport d.address d.data d.addrLen d.sizeLen
    downloads transport ds

/-- The downloads applied in order. -/
def image (mem : Mem UInt8) (ds : List Download) : Mem UInt8 :=
  mem.storeAll (ds.map fun d => (d.address, d.data))

theorem downloads_store {ds : List Download} (hds : ∀ d ∈ ds, d.Fits) (hrest : Resting mem link) :
    ∃ link', (downloads (pyTransport draws) ds).run link = (.ok (), link') ∧
      Resting (image mem ds) link' := by
  induction ds generalizing link mem with
  | nil => exact ⟨link, rfl, hrest⟩
  | cons d ds ih =>
      obtain ⟨mid, hrun, hmid⟩ := download_stores draws (hds d (.head ds)) hrest
      obtain ⟨link', hrest', hend⟩ := ih (fun d hd => hds d (.tail _ hd)) hmid
      refine ⟨link', ?_, hend⟩
      rw [downloads, Py.run_bind hrun]
      exact hrest'

theorem flashMem_init (monotonic : Rat) :
    flashMem (EcuState.init monotonic).flash = fun _ => 0 := by
  funext a
  change (List.replicate flashSize (0 : UInt8)).getD a 0 = 0
  rw [List.getD_eq_getElem?_getD, List.getElem?_replicate]
  split <;> rfl

/-- In every run the flash keeps its size and an active transfer lies in it; after any
downloads to a new simulator, an upload returns what they have made of the zeros. -/
theorem flash_sessions (monotonic : Rat) :
    (∀ ecu, Reachable dispatchStep (EcuState.init monotonic) ecu → FlashInv ecu) ∧
    ∀ (draws : Nat → Draws) (ds : List Download) (address len addrLen sizeLen fuel : Nat),
      (∀ d ∈ ds, d.Fits) → Sendable address len addrLen sizeLen → len ≤ fuel →
      ∃ link, (do
          downloads (pyTransport draws) ds
          upload (pyTransport draws) fuel address len addrLen sizeLen).run
            ⟨EcuState.init monotonic, 0, []⟩ =
        (.ok ((image (fun _ => 0) ds).load address len), link) := by
  refine ⟨fun ecu h => flashInv_of_reachable h, ?_⟩
  intro draws ds address len addrLen sizeLen fuel hds hrange hfuel
  have hrest : Resting (fun _ => 0) ⟨EcuState.init monotonic, 0, []⟩ :=
    ⟨rfl, List.length_replicate, flashMem_init monotonic⟩
  obtain ⟨mid, hrun, hmid⟩ := downloads_store draws hds hrest
  obtain ⟨link, hupload, -⟩ := upload_loads draws hrange hfuel hmid
  refine ⟨link, ?_⟩
  rw [Py.run_bind hrun]
  exact hupload

/-- Two overlapping downloads, read back together. -/
theorem flash_sessions_overlapping :
    ∃ link, (do
        downloads (pyTransport fun _ => ⟨0, #v[1, 2, 3, 4]⟩)
          [⟨5, [9, 8, 7], 1, 1⟩, ⟨6, [6, 6], 4, 2⟩]
        upload (pyTransport fun _ => ⟨0, #v[1, 2, 3, 4]⟩) 5 4 5 1 1).run
          ⟨EcuState.init 0, 0, []⟩ =
      (.ok [0, 9, 6, 6, 0], link) :=
  (flash_sessions 0).2 (fun _ => ⟨0, #v[1, 2, 3, 4]⟩) [⟨5, [9, 8, 7], 1, 1⟩, ⟨6, [6, 6], 4, 2⟩]
    4 5 1 1 5
    (List.forall_mem_cons.mpr ⟨by constructor <;> decide,
      List.forall_mem_singleton.mpr (by constructor <;> decide)⟩)
    (by constructor <;> decide) (by decide)

end Transfers

end Uds.PyEcu
