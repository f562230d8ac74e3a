import Uds.Bootloader.Programming
import Uds.Ecusim.Transfers
import Uds.Tools.EcuLink
import Uds.Tools.Flash
/-!
# Flash programming round trip

`UdsFlashService` against the C simulator.  Each block the client sends is the
one the session expects next, so a download stores its data and nothing else,
and an upload of the same range reads it back.
-/

namespace Uds.Tools

open Uds.Base Uds.Core Uds.Bootloader Uds.Ecusim

/-- Address and length fit the widths that the request gives them. -/
structure Encodable (address len addrLen sizeLen : Nat) : Prop where
  addrLen_pos : 1 ≤ addrLen
  addrLen_le : addrLen ≤ 4
  sizeLen_pos : 1 ≤ sizeLen
  sizeLen_le : sizeLen ≤ 4
  address_lt : address < 256 ^ addrLen
  len_lt : len < 256 ^ sizeLen

/-! ## One request of the client -/

section Client

variable {σ : Type} {transport : Transport σ} {s s' : σ}

theorem requestTransfer_run {sid hi lo : UInt8} {name : String}
    {address len addrLen sizeLen maxBlockLen : Nat} (haddr : address < 256 ^ addrLen)
    (hlen : len < 256 ^ sizeLen) (hmax : natBE [hi, lo] = maxBlockLen)
    (hreq : (request transport ([sid, 0x00, formatByte addrLen sizeLen] ++
      bytesBE addrLen address ++ bytesBE sizeLen len)).run s =
        (.ok [sid + 0x40, 0x20, hi, lo], s')) :
    (requestTransfer transport sid name address len addrLen sizeLen).run s =
      (.ok maxBlockLen, s') := by
  unfold formatByte at hreq
  unfold requestTransfer
  rw [Py.run_bind (toBytes_run haddr s), Py.run_bind (toBytes_run hlen s)]
  have hmblLen : (([sid + 0x40, 0x20, hi, lo].getD 1 0).toNat >>> 4) &&& 0x0F = 2 := by
    rw [List.getD_cons_succ, List.getD_cons_zero]
    decide
  rw [Py.run_bind hreq, if_neg (by simp), if_neg (by simp)]
  simp only [hmblLen]
  rw [if_neg (by simp), ← hmax]
  rfl

theorem transferData_run {blockSn : Nat} {data bytes : List UInt8}
    (hreq : (request transport ([0x36, UInt8.ofNat blockSn] ++ data)).run s =
      (.ok ([0x76, UInt8.ofNat blockSn] ++ bytes), s')) :
    (transferData transport blockSn data).run s = (.ok bytes, s') := by
  have hmask : UInt8.ofNat (blockSn &&& 0xFF) = UInt8.ofNat blockSn := by
    rw [and_FF]
    exact UInt8.ofNat_mod_size
  unfold transferData
  rw [hmask, Py.run_bind hreq, if_neg (by simp)]
  rfl

theorem transferExit_run (hreq : (request transport [0x37]).run s = (.ok [0x77], s')) :
    (transferExit transport).run s = (.ok (), s') := by
  unfold transferExit
  rw [Py.run_bind hreq, if_neg (by simp), Py.run_pure]

end Client

theorem nextBlockSeq_ofNat {sn : Nat} (h : sn ≤ 0xFF) :
    nextBlockSeq (UInt8.ofNat sn) = UInt8.ofNat (nextBlockSn sn) := by
  unfold nextBlockSeq nextBlockSn
  by_cases hlast : sn = 0xFF
  · subst hlast
    rfl
  · have hne : UInt8.ofNat sn ≠ 0xFF := by
      intro heq
      have hval := congrArg UInt8.toNat heq
      rw [UInt8.toNat_ofNat_of_lt' (show sn < 2 ^ 8 by omega)] at hval
      exact hlast hval
    rw [if_neg hne, if_neg (by omega)]
    exact (UInt8.ofNat_add sn 1).symm

theorem nextBlockSn_le {sn : Nat} (h : sn ≤ 0xFF) : nextBlockSn sn ≤ 0xFF := by
  unfold nextBlockSn
  split <;> omega

/-! ## Against the simulator -/

/-- After any run of requests, every range inside the array can be programmed. -/
theorem programmable_of_reachable {ecuId : UInt8} {now : Timespec} {sim : EcuSimulator}
    {address len : Nat} (h : Reachable ecusimStep (ecusimInit ecuId now) sim)
    (hend : address + len ≤ udsFlashMaxSize) : Programmable sim.flash.regions address len := by
  rw [(simInv_of_reachable h).regions]
  exact programmable_defaultRegions hend

section Rounds

variable (envs : Nat → Env) {sim : EcuSimulator} {n : Nat} {address len addrLen sizeLen : Nat}

theorem serve_requestDownload (henc : Encodable address len addrLen sizeLen)
    (hprog : Programmable sim.flash.regions address len) (hlen : 0 < len)
    (hidle : sim.xfer.mode = .idle) :
    serve sim (envs n) ([0x34, 0x00, formatByte addrLen sizeLen] ++ bytesBE addrLen address ++
        bytesBE sizeLen len) ecusimMaxPdu .requestDownload =
      ({ sim with
          xfer := xferAt .download address len 0 0x01
          flash := { sim.flash with
            data := sim.flash.data.fill address len udsFlashEraseValue } },
        .ok [0x74, 0x20, 0x00, 0x0F]) := by
  have hparse := parseAddrLenFmt_encoded henc.addrLen_pos henc.addrLen_le henc.sizeLen_pos
    henc.sizeLen_le henc.address_lt henc.len_lt
  have hsize : 4 ≤ ecusimMaxPdu := by decide
  have haccept := requestDownload_accepted hprog hidle hlen hparse hsize
  simp only [serve, List.cons_append, List.nil_append, List.length_cons,
    List.getD_cons_succ, List.getD_cons_zero, List.drop_succ_cons, List.drop_zero, haccept]
  rw [if_neg (by omega)]

theorem serve_requestUpload (henc : Encodable address len addrLen sizeLen)
    (hprog : Programmable sim.flash.regions address len) (hlen : 0 < len)
    (hidle : sim.xfer.mode = .idle) :
    serve sim (envs n) ([0x35, 0x00, formatByte addrLen sizeLen] ++ bytesBE addrLen address ++
        bytesBE sizeLen len) ecusimMaxPdu .requestUpload =
      ({ sim with xfer := xferAt .upload address len 0 0x01 },
        .ok [0x75, 0x20, 0x00, 0x0F]) := by
  have hparse := parseAddrLenFmt_encoded henc.addrLen_pos henc.addrLen_le henc.sizeLen_pos
    henc.sizeLen_le henc.address_lt henc.len_lt
  have hsize : 4 ≤ ecusimMaxPdu := by decide
  have haccept := requestUpload_accepted hprog hidle hlen hparse hsize
  simp only [serve, List.cons_append, List.nil_append, List.length_cons,
    List.getD_cons_succ, List.getD_cons_zero, List.drop_succ_cons, List.drop_zero, haccept]
  rw [if_neg (by omega)]

theorem requestDownload_run (henc : Encodable address len addrLen sizeLen)
    (hprog : Programmable sim.flash.regions address len) (hlen : 0 < len)
    (hidle : sim.xfer.mode = .idle) :
    (requestDownload (ecuTransport envs) address len addrLen sizeLen).run ⟨sim, n, []⟩ =
      (.ok 15,
        ⟨{ sim with
            xfer := xferAt .download address len 0 0x01
            flash := { sim.flash with
              data := sim.flash.data.fill address len udsFlashEraseValue } }, n + 1, []⟩) := by
  apply requestTransfer_run henc.address_lt henc.len_lt (show natBE [0x00, 0x0F] = 15 by decide)
  exact request_served .requestDownload (serve_requestDownload envs henc hprog hlen hidle) rfl

theorem requestUpload_run (henc : Encodable address len addrLen sizeLen)
    (hprog : Programmable sim.flash.regions address len) (hlen : 0 < len)
    (hidle : sim.xfer.mode = .idle) :
    (requestUpload (ecuTransport envs) address len addrLen sizeLen).run ⟨sim, n, []⟩ =
      (.ok 15, ⟨{ sim with xfer := xferAt .upload address len 0 0x01 }, n + 1, []⟩) := by
  apply requestTransfer_run henc.address_lt henc.len_lt (show natBE [0x00, 0x0F] = 15 by decide)
  exact request_served .requestUpload (serve_requestUpload envs henc hprog hlen hidle) rfl

variable {offset sn : Nat}

theorem serve_transferDownload {chunk : List UInt8}
    (hprog : Programmable sim.flash.regions address len)
    (hxfer : sim.xfer = xferAt .download address len offset (UInt8.ofNat sn)) (hsn : sn ≤ 0xFF)
    (hchunk : chunk ≠ []) (hend : offset + chunk.length ≤ len) :
    serve sim (envs n) ([0x36, UInt8.ofNat sn] ++ chunk) ecusimMaxPdu .transferData =
      ({ sim with
          xfer := xferAt .download address len (offset + chunk.length)
            (UInt8.ofNat (nextBlockSn sn))
          flash := { sim.flash with
            data := sim.flash.data.store (address + offset) chunk } },
        .ok ([0x76, UInt8.ofNat sn] ++ [])) := by
  have hsize : 2 ≤ ecusimMaxPdu := by decide
  have haccept := transferDownload_accepted (UInt8.ofNat sn) hprog hchunk hend hsize
  rw [nextBlockSeq_ofNat hsn, ← hxfer] at haccept
  simp only [serve, List.cons_append, List.nil_append, List.length_cons, List.getD_cons_succ,
    List.getD_cons_zero, List.drop_succ_cons, List.drop_zero, haccept]
  rw [if_neg (by omega)]

theorem serve_transferUpload {k : Nat} (hprog : Programmable sim.flash.regions address len)
    (hxfer : sim.xfer = xferAt .upload address len offset (UInt8.ofNat sn)) (hsn : sn ≤ 0xFF)
    (hpos : offset < len) (hk : k = min 15 (len - offset)) :
    serve sim (envs n) ([0x36, UInt8.ofNat sn] ++ []) ecusimMaxPdu .transferData =
      ({ sim with
          xfer := xferAt .upload address len (offset + k) (UInt8.ofNat (nextBlockSn sn)) },
        .ok ([0x76, UInt8.ofNat sn] ++ sim.flash.data.load (address + offset) k)) := by
  have hsize : 17 ≤ ecusimMaxPdu := by decide
  have haccept := transferUpload_accepted (UInt8.ofNat sn) hprog [] hk hpos hsize
  rw [nextBlockSeq_ofNat hsn, ← hxfer] at haccept
  simp only [serve, List.cons_append, List.nil_append, List.length_cons, List.getD_cons_succ,
    List.getD_cons_zero, List.drop_succ_cons, List.drop_zero, haccept]
  rw [if_neg (by decide)]

/-- One block of a download. -/
theorem downloadBlock_run {chunk : List UInt8} (hprog : Programmable sim.flash.regions address len)
    (hxfer : sim.xfer = xferAt .download address len offset (UInt8.ofNat sn)) (hsn : sn ≤ 0xFF)
    (hchunk : chunk ≠ []) (hend : offset + chunk.length ≤ len) :
    (transferData (ecuTransport envs) sn chunk).run ⟨sim, n, []⟩ =
      (.ok [],
        ⟨{ sim with
            xfer := xferAt .download address len (offset + chunk.length)
              (UInt8.ofNat (nextBlockSn sn))
            flash := { sim.flash with
              data := sim.flash.data.store (address + offset) chunk } }, n + 1, []⟩) := by
  apply transferData_run
  exact request_served .transferData (serve_transferDownload envs hprog hxfer hsn hchunk hend) rfl

/-- One block of an upload. -/
theorem uploadBlock_run {k : Nat} (hprog : Programmable sim.flash.regions address len)
    (hxfer : sim.xfer = xferAt .upload address len offset (UInt8.ofNat sn)) (hsn : sn ≤ 0xFF)
    (hpos : offset < len) (hk : k = min 15 (len - offset)) :
    (transferData (ecuTransport envs) sn []).run ⟨sim, n, []⟩ =
      (.ok (sim.flash.data.load (address + offset) k),
        ⟨{ sim with
            xfer := xferAt .upload address len (offset + k) (UInt8.ofNat (nextBlockSn sn)) },
          n + 1, []⟩) := by
  apply transferData_run
  exact request_served .transferData (serve_transferUpload envs hprog hxfer hsn hpos hk) rfl

theorem transferExit_served (hactive : sim.xfer.mode ≠ .idle) :
    (transferExit (ecuTransport envs)).run ⟨sim, n, []⟩ =
      (.ok (), ⟨{ sim with xfer := udsXferInit }, n + 1, []⟩) := by
  have hserve : serve sim (envs n) [0x37] ecusimMaxPdu .requestTransferExit =
      ({ sim with xfer := udsXferInit }, .ok [0x77]) := by
    simp only [serve, udsSvcTransferExit]
    rw [if_neg hactive, if_neg (by decide)]
  apply transferExit_run
  exact request_served .requestTransferExit hserve rfl

end Rounds

/-! ## The loops -/

section Loops

variable (envs : Nat → Env) {address : Nat}

theorem downloadLoop_run {chunkSize : Nat} (hpos : 0 < chunkSize) {data : List UInt8}
    {sim : EcuSimulator} {n : Nat} (hprog : Programmable sim.flash.regions address data.length)
    (hxfer : sim.xfer = xferAt .download address data.length 0 (UInt8.ofNat 1)) :
    ∃ n' seq, (downloadLoop (ecuTransport envs) chunkSize hpos data 0 1).run ⟨sim, n, []⟩ =
      (.ok (),
        ⟨{ sim with
            xfer := xferAt .download address data.length data.length seq
            flash := { sim.flash with data := sim.flash.data.store address data } }, n', []⟩) := by
  obtain ⟨sn, link, hloop, -, loaded, n', hlink, hloaded⟩ :=
    downloadLoop_rule (ecuTransport envs) hpos
      (fun offset sn link => sn ≤ 0xFF ∧ ∃ loaded n', link = ⟨loaded, n', []⟩ ∧
        loaded = { sim with
          xfer := xferAt .download address data.length offset (UInt8.ofNat sn)
          flash := { sim.flash with
            data := sim.flash.data.store address (data.take offset) } })
      (by
        rintro offset sn link chunk ⟨hsn, loaded, n', rfl, hloaded⟩ hne hchunk
        have hpos := List.length_pos_of_ne_nil hne
        have hfits := hchunk.length_le
        rw [List.length_drop] at hfits
        have hregions : Programmable loaded.flash.regions address data.length := by
          rw [hloaded]
          exact hprog
        have hxfer : loaded.xfer =
            xferAt .download address data.length offset (UInt8.ofNat sn) := by
          rw [hloaded]
        have hblock := downloadBlock_run envs (n := n') hregions hxfer hsn hne (by omega)
        refine ⟨[], _, hblock, nextBlockSn_le hsn, _, n' + 1, rfl, ?_⟩
        rw [hloaded, Mem.store_take_add _ _ _ hchunk (by omega)])
      (Nat.zero_le data.length)
      ⟨show 1 ≤ 0xFF by decide, sim, n, rfl, by rw [← hxfer, List.take_zero, Mem.store_nil]⟩
  refine ⟨n', UInt8.ofNat sn, ?_⟩
  rw [hloop, hlink, hloaded, List.take_length]

theorem uploadLoop_run {fuel len n : Nat} {sim : EcuSimulator} (hfuel : len ≤ fuel)
    (hprog : Programmable sim.flash.regions address len)
    (hxfer : sim.xfer = xferAt .upload address len 0 (UInt8.ofNat 1)) :
    ∃ n' seq, (uploadLoop (ecuTransport envs) len fuel [] 1).run ⟨sim, n, []⟩ =
      (.ok (sim.flash.data.load address len),
        ⟨{ sim with xfer := xferAt .upload address len len seq }, n', []⟩) := by
  obtain ⟨result, sn, link, hloop, hlen, hresult, -, read, n', hlink, hread⟩ :=
    uploadLoop_rule (ecuTransport envs)
      (fun result sn link => result = sim.flash.data.load address result.length ∧ sn ≤ 0xFF ∧
        ∃ read n', link = ⟨read, n', []⟩ ∧ read = { sim with
          xfer := xferAt .upload address len result.length (UInt8.ofNat sn) })
      (by
        rintro result sn link ⟨hresult, hsn, read, n', rfl, hread⟩ hmore
        generalize hk : min 15 (len - result.length) = k
        have hregions : Programmable read.flash.regions address len := by
          rw [hread]
          exact hprog
        have hxfer : read.xfer =
            xferAt .upload address len result.length (UInt8.ofNat sn) := by
          rw [hread]
        have hblock := uploadBlock_run envs (n := n') hregions hxfer hsn hmore hk.symm
        have hflash : read.flash = sim.flash := by rw [hread]
        have hlen : (result ++ sim.flash.data.load (address + result.length) k).length =
            result.length + k := by
          rw [List.length_append, Mem.length_load]
        rw [hflash] at hblock
        refine ⟨_, _, hblock, ?_, by omega, ?_, nextBlockSn_le hsn, _, n' + 1, rfl, ?_⟩
        · apply List.ne_nil_of_length_pos
          rw [Mem.length_load]
          omega
        · rw [hlen, Mem.load_add, ← hresult]
        · rw [hread, hlen])
      (show ([] : List UInt8).length ≤ len from Nat.zero_le len) hfuel
      ⟨rfl, show 1 ≤ 0xFF by decide, sim, n, rfl, by rw [List.length_nil, ← hxfer]⟩
  refine ⟨n', UInt8.ofNat sn, ?_⟩
  rw [hlen] at hresult hread
  rw [hloop, hlink, hread, hresult]

end Loops

/-! ## Whole transfers -/

section Transfers

variable (envs : Nat → Env) {sim : EcuSimulator} {n address addrLen sizeLen : Nat}

theorem download_run {data : List UInt8} (henc : Encodable address data.length addrLen sizeLen)
    (hprog : Programmable sim.flash.regions address data.length) (hdata : data ≠ [])
    (hidle : sim.xfer.mode = .idle) :
    ∃ n', (download (ecuTransport envs) address data addrLen sizeLen).run ⟨sim, n, []⟩ =
      (.ok (),
        ⟨{ sim with
            xfer := udsXferInit
            flash := { sim.flash with
              data := (sim.flash.data.fill address data.length udsFlashEraseValue).store
                address data } }, n', []⟩) := by
  have hlen : 0 < data.length := List.length_pos_of_ne_nil hdata
  have hstart := requestDownload_run envs (n := n) henc hprog hlen hidle
  generalize hsim : ({ sim with
    xfer := xferAt .download address data.length 0 0x01
    flash := { sim.flash with
      data := sim.flash.data.fill address data.length udsFlashEraseValue } } :
        EcuSimulator) = started at hstart
  have hxfer : started.xfer = xferAt .download address data.length 0 (UInt8.ofNat 1) := by
    rw [← hsim]
    rfl
  have hregions : Programmable started.flash.regions address data.length := by
    rw [← hsim]
    exact hprog
  have hpos : 0 < max 1 (15 - 1) := by decide
  obtain ⟨n', seq, hloop⟩ := downloadLoop_run envs (n := n + 1) hpos hregions hxfer
  refine ⟨n' + 1, ?_⟩
  rw [download, Py.run_bind hstart, Py.run_bind hloop, transferExit_served envs (by simp)]
  rw [← hsim]

theorem upload_run {fuel : Nat} {data : List UInt8} (hfuel : data.length ≤ fuel)
    (henc : Encodable address data.length addrLen sizeLen)
    (hprog : Programmable sim.flash.regions address data.length) (hdata : data ≠ [])
    (hidle : sim.xfer.mode = .idle) (hload : sim.flash.data.load address data.length = data) :
    ∃ n', (upload (ecuTransport envs) fuel address data.length addrLen sizeLen).run
        ⟨sim, n, []⟩ = (.ok data, ⟨{ sim with xfer := udsXferInit }, n', []⟩) := by
  have hlen : 0 < data.length := List.length_pos_of_ne_nil hdata
  have hstart := requestUpload_run envs (n := n) henc hprog hlen hidle
  generalize hsim : ({ sim with xfer := xferAt .upload address data.length 0 0x01 } :
    EcuSimulator) = started at hstart
  have hxfer : started.xfer = xferAt .upload address data.length ([] : List UInt8).length
      (UInt8.ofNat 1) := by
    rw [← hsim]
    rfl
  have hflash : started.flash = sim.flash := by rw [← hsim]
  rw [← hflash] at hprog hload
  obtain ⟨n', seq, hloop⟩ := uploadLoop_run envs (n := n + 1) hfuel hprog hxfer
  rw [hload] at hloop
  have hexit : (transferExit (ecuTransport envs)).run
      ⟨{ started with xfer := xferAt .upload address data.length data.length seq }, n', []⟩ =
        (.ok (), ⟨{ started with xfer := udsXferInit }, n' + 1, []⟩) :=
    transferExit_served envs (by simp)
  refine ⟨n' + 1, ?_⟩
  rw [upload, Py.run_bind hstart, Py.run_bind hloop, Py.run_bind hexit, Py.run_pure,
    List.take_length, ← hsim]

/-- A download completes, stores its data and nothing else and ends the
transfer; an upload of the same range then returns the data. -/
theorem download_upload_roundTrip {data : List UInt8}
    (henc : Encodable address data.length addrLen sizeLen)
    (hprog : Programmable sim.flash.regions address data.length) (hdata : data ≠ [])
    (hidle : sim.xfer.mode = .idle) :
    ∃ link : EcuLink,
      (download (ecuTransport envs) address data addrLen sizeLen).run ⟨sim, n, []⟩ =
          (.ok (), link) ∧
        link.sim.flash.data.load address data.length = data ∧
        (∀ a, a < address ∨ address + data.length ≤ a →
          link.sim.flash.data a = sim.flash.data a) ∧
        link.sim.xfer.mode = .idle ∧
        ∀ fuel ≥ data.length, ∃ link' : EcuLink,
          (upload (ecuTransport envs) fuel address data.length addrLen sizeLen).run link =
            (.ok data, link') := by
  obtain ⟨n', hdownload⟩ := download_run envs (n := n) henc hprog hdata hidle
  have hload := Mem.load_store (sim.flash.data.fill address data.length udsFlashEraseValue)
    address data
  refine ⟨_, hdownload, hload, ?_, rfl, ?_⟩
  · intro a ha
    calc
      _ = sim.flash.data.fill address data.length udsFlashEraseValue a := by
        rcases ha with hbelow | habove
        · exact Mem.store_of_lt _ _ _ hbelow
        · exact Mem.store_of_ge _ _ _ habove
      _ = sim.flash.data a := Mem.fill_of_not_mem _ _ _ ha
  · intro fuel hfuel
    exact Exists.imp' _ (fun _ h => h) (upload_run envs hfuel henc hprog hdata rfl hload)

end Transfers

/-- Three bytes at address 5 of a freshly started ECU. -/
theorem download_upload_roundTrip_threeBytes :
    ∃ link : EcuLink,
      (download (ecuTransport fun _ => ⟨fun _ => .zero, fun _ => 0⟩) 5 [9, 8, 7] 1 1).run
          ⟨ecusimInit 1 .zero, 0, []⟩ = (.ok (), link) ∧
        link.sim.flash.data.load 5 3 = [9, 8, 7] ∧
        (∀ a, a < 5 ∨ 5 + 3 ≤ a → link.sim.flash.data a = 0xFF) ∧
        link.sim.xfer.mode = .idle ∧
        ∀ fuel ≥ 3, ∃ link' : EcuLink,
          (upload (ecuTransport fun _ => ⟨fun _ => .zero, fun _ => 0⟩) fuel 5 3 1 1).run link =
            (.ok [9, 8, 7], link') :=
  download_upload_roundTrip _
    ⟨by decide, by decide, by decide, by decide, by decide, by decide⟩
    (programmable_of_reachable ⟨[], rfl⟩ (by decide)) (by decide) rfl

end Uds.Tools
