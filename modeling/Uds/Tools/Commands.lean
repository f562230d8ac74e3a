import Uds.Tools.Data
import Uds.Tools.Dialog
import Uds.Tools.Dtc
import Uds.Tools.Flash
import Uds.Tools.Matching
import Uds.Tools.Security
import Uds.Tools.Session
import Uds.Tools.UploadProgress
/-!
# The commands of the tools

The services of the Python tools, what `diag_cli.py` and `flash_tool.py` do with them, and
scripts of commands.  They are programs that use the client, and what they send to the C
simulator fits into its buffer.
-/

namespace Uds.Tools

open Uds.Base Uds.Ecusim Uds.Bootloader

/-- The dialog does over every transport what the service does. -/
def Speaks {α : Type} (d : Dialog (Except PyError α)) (f : ∀ {σ : Type}, Transport σ → Py σ α) :
    Prop :=
  ∀ {σ : Type} (transport : Transport σ) (s : σ), d.run transport s = (f transport).run s

/-- The service is a program whose messages to a simulator in one of these states fit. -/
def Suits {α : Type} (envs : Nat → Env) (pre : EcuSimulator × Nat → Prop)
    (f : ∀ {σ : Type}, Transport σ → Py σ α) : Prop :=
  ∃ d, Speaks d f ∧ ∀ s, pre s → d.Fits (ecuAnswer envs) s

/-- The link to a simulator at rest. -/
def linkAt (s : EcuSimulator × Nat) : EcuLink := ⟨s.1, s.2, []⟩

section Suits

variable {α β : Type} {envs : Nat → Env} {pre : EcuSimulator × Nat → Prop}

theorem suits_pure (a : α) : Suits envs pre fun _ => pure a :=
  ⟨.ret (.ok a), fun _ _ => rfl, fun _ _ => trivial⟩

theorem suits_raise (e : PyError) : Suits (α := α) envs pre fun _ => Py.raise e :=
  ⟨.ret (.error e), fun _ _ => rfl, fun _ _ => trivial⟩

theorem suits_request {data : List UInt8}
    (h : ∀ s, pre s → 1 ≤ data.length ∧ data.length ≤ 4095) :
    Suits envs pre fun transport => request transport data :=
  ⟨.request data .ret, fun _ _ => rfl, fun s hs => ⟨h s hs, trivial⟩⟩

theorem Suits.bind {f : ∀ {σ : Type}, Transport σ → Py σ α}
    {g : ∀ {σ : Type}, α → Transport σ → Py σ β} (hf : Suits envs pre f)
    (hg : ∀ a, Suits envs
      (fun s' => ∃ s, pre s ∧ (f (ecuTransport envs)).run (linkAt s) = (.ok a, linkAt s'))
      fun transport => g a transport) :
    Suits envs pre fun transport => f transport >>= fun a => g a transport := by
  obtain ⟨d, hd, hdfits⟩ := hf
  choose k hk hkfits using hg
  refine ⟨d.andThen k, fun transport s => ?_, fun s hs => (hdfits s hs).bind ?_⟩
  · rw [Dialog.andThen, Dialog.run_bind, hd transport s]
    cases hrun : (f transport).run s with
    | mk result s' =>
        cases result with
        | ok a =>
            rw [Py.run_bind hrun]
            exact hk a transport s'
        | error e =>
            rw [Py.run_bind_error hrun]
            rfl
  · have hrun := run_ecuTransport envs d (hdfits s hs)
    rw [hd] at hrun
    cases hresult : (d.play (ecuAnswer envs) s).1 with
    | ok a =>
        rw [hresult] at hrun
        exact hkfits a _ ⟨s, hs, hrun⟩
    | error e => trivial

theorem Suits.ite {p : Prop} [Decidable p] {f g : ∀ {σ : Type}, Transport σ → Py σ α}
    (hf : Suits envs pre f) (hg : Suits envs pre g) :
    Suits envs pre fun transport => if p then f transport else g transport := by
  by_cases h : p
  · simp only [if_pos h]
    exact hf
  · simp only [if_neg h]
    exact hg

/-! ## Bytes -/

theorem suits_toBytes (n width : Nat) : Suits envs pre fun _ => toBytes n width :=
  .ite (suits_pure _) (suits_raise _)

theorem suits_bytes (ns : List Nat) : Suits envs pre fun _ => bytes ns :=
  .ite (suits_pure _) (suits_raise _)

theorem length_of_toBytes {σ : Type} {n width : Nat} {s s' : σ} {bs : List UInt8}
    (h : (toBytes n width).run s = (.ok bs, s')) : bs.length = width := by
  unfold toBytes at h
  split at h
  · cases h
    exact length_bytesBE width n
  · cases h

theorem length_of_bytes {σ : Type} {ns : List Nat} {s s' : σ} {bs : List UInt8}
    (h : (bytes ns).run s = (.ok bs, s')) : bs.length = ns.length := by
  unfold bytes at h
  split at h
  · cases h
    exact List.length_map ..
  · cases h

theorem suits_bytes_request {ns : List Nat} {f : List UInt8 → ∀ {σ : Type}, Transport σ → Py σ α}
    (hpos : 1 ≤ ns.length) (hle : ns.length ≤ 4095)
    (hf : ∀ response pre, Suits envs pre fun transport => f response transport) :
    Suits envs pre fun transport =>
      bytes ns >>= fun req => request transport req >>= fun response => f response transport := by
  refine (suits_bytes ns).bind fun req => (suits_request ?_).bind fun response => hf response _
  rintro s ⟨_, -, hreq⟩
  rw [length_of_bytes hreq]
  exact ⟨hpos, hle⟩

/-! ## Services -/

theorem suits_changeSession (sessionType : Nat) :
    Suits envs pre fun transport => changeSession transport sessionType :=
  suits_bytes_request (by simp) (by simp) fun _ _ => .ite (suits_raise _) (suits_pure _)

theorem suits_testerPresent (suppress : Bool) :
    Suits envs pre fun transport => testerPresent transport suppress := by
  unfold testerPresent
  refine .ite ⟨.send [0x3E, 0x80] .ret, fun _ _ => rfl, fun s _ => ⟨by decide, rfl, trivial⟩⟩ ?_
  exact (suits_request fun _ _ => by decide).bind fun _ => suits_pure ()

theorem suits_ecuReset (resetType : Nat) :
    Suits envs pre fun transport => ecuReset transport resetType :=
  suits_bytes_request (by simp) (by simp) fun _ _ => suits_pure ()

theorem suits_commControl (controlType commType : Nat) :
    Suits envs pre fun transport => commControl transport controlType commType :=
  suits_bytes_request (by simp) (by simp) fun _ _ => suits_pure ()

theorem suits_clear (group : Nat) : Suits envs pre fun transport => clear transport group := by
  refine (suits_toBytes group 3).bind fun groupBytes => (suits_request ?_).bind
    fun _ => suits_pure ()
  rintro s ⟨_, -, hbytes⟩
  rw [List.length_append, length_of_toBytes hbytes]
  decide

theorem suits_write (didId : Nat) {data : List UInt8} (hdata : data.length ≤ 4092) :
    Suits envs pre fun transport => write transport didId data := by
  refine (suits_toBytes didId 2).bind fun did => (suits_request ?_).bind fun _ => suits_pure ()
  rintro s ⟨_, -, hdid⟩
  rw [List.length_append, List.length_append, length_of_toBytes hdid]
  simp only [List.length_cons, List.length_nil]
  omega

theorem suits_didsToBytes (dids : List Nat) : Suits envs pre fun _ => didsToBytes dids := by
  induction dids generalizing pre with
  | nil => exact suits_pure []
  | cons did dids ih =>
      exact (suits_toBytes did 2).bind fun didId => ih.bind fun rest => suits_pure _

theorem length_of_didsToBytes {σ : Type} {dids : List Nat} {s s' : σ} {ids : List UInt8}
    (h : (didsToBytes dids).run s = (.ok ids, s')) : ids.length = 2 * dids.length := by
  induction dids generalizing ids s with
  | nil =>
      cases h
      rfl
  | cons did dids ih =>
      obtain ⟨didId, s₁, hdid, h⟩ := Py.run_bind_ok h
      obtain ⟨rest, s₂, hrest, h⟩ := Py.run_bind_ok h
      cases h
      rw [List.length_append, length_of_toBytes hdid, ih hrest, List.length_cons]
      omega

theorem suits_readDids {dids : List Nat} (hdids : dids.length ≤ 2047) :
    Suits envs pre fun transport => readDids transport dids := by
  refine (suits_didsToBytes dids).bind fun ids => (suits_request ?_).bind fun response => ?_
  · rintro s ⟨_, -, hids⟩
    rw [List.length_cons, length_of_didsToBytes hids]
    omega
  · refine .ite (suits_raise _) ?_
    split <;> exact suits_pure _

theorem suits_readCount (statusMask : Nat) :
    Suits envs pre fun transport => readCount transport statusMask :=
  suits_bytes_request (by simp) (by simp) fun _ _ => .ite (suits_raise _) (suits_pure _)

theorem suits_readByStatus (statusMask : Nat) :
    Suits envs pre fun transport => readByStatus transport statusMask :=
  suits_bytes_request (by simp) (by simp) fun _ _ => .ite (suits_raise _) (suits_pure _)

theorem suits_readAll : Suits envs pre fun transport => readAll transport :=
  (suits_request fun _ _ => by decide).bind fun _ => .ite (suits_raise _) (suits_pure _)

theorem suits_unlock (level : Nat) : Suits envs pre fun transport => unlock transport level := by
  unfold unlock
  refine (suits_bytes _).bind fun seedRequest => (suits_request ?_).bind fun seedResponse => ?_
  · rintro s ⟨_, -, hreq⟩
    rw [length_of_bytes hreq]
    exact ⟨Nat.succ_pos _, show 2 ≤ 4095 by decide⟩
  · refine .ite (suits_raise _) (.ite (suits_pure _) ?_)
    refine (suits_bytes _).bind fun keyHead => (suits_request ?_).bind fun keyResponse =>
      .ite (suits_raise _) (suits_pure _)
    rintro s ⟨s₁, ⟨s₂, -, hseed⟩, hhead⟩
    have hanswer := length_ecuAnswer_le envs s₂ seedRequest
    obtain ⟨hdispatch, -⟩ := request_answered hseed
    change (ecusimDispatch s₂.1 (envs s₂.2) seedRequest ecusimMaxPdu).2.length ≤ 4095 at hanswer
    rw [hdispatch] at hanswer
    rw [List.length_append, length_of_bytes hhead, computeKey, List.length_mapIdx, List.length_drop]
    simp only [List.length_cons, List.length_nil]
    change seedResponse.length ≤ 4095 at hanswer
    omega

/-! ## Flash -/

theorem suits_requestTransfer (sid : UInt8) (name : String) (address size : Nat)
    {addrLen sizeLen : Nat} (hlen : addrLen + sizeLen ≤ 4092) :
    Suits envs pre fun transport =>
      requestTransfer transport sid name address size addrLen sizeLen := by
  unfold requestTransfer
  refine (suits_toBytes _ _).bind fun addressBytes => (suits_toBytes _ _).bind
    fun sizeBytes => (suits_request ?_).bind fun response => ?_
  · rintro s ⟨_, ⟨_, -, haddress⟩, hsize⟩
    simp only [List.length_append, length_of_toBytes haddress, length_of_toBytes hsize,
      List.length_cons, List.length_nil]
    omega
  · refine .ite (suits_raise _) (.ite (suits_raise _) ?_)
    exact .ite (suits_raise _) (suits_pure _)

theorem suits_transferData (blockSn : Nat) {data : List UInt8}
    (h : ∀ s, pre s → data.length ≤ 4093) :
    Suits envs pre fun transport => transferData transport blockSn data := by
  unfold transferData
  refine (suits_request fun s hs => ?_).bind fun _ => .ite (suits_raise _) (suits_pure _)
  have hdata := h s hs
  rw [List.length_append]
  simp only [List.length_cons, List.length_nil]
  omega

theorem suits_transferExit : Suits envs pre fun transport => transferExit transport :=
  (suits_request fun _ _ => by decide).bind fun _ => .ite (suits_raise _) (suits_pure _)

theorem suits_downloadLoop {chunkSize : Nat} (hpos : 0 < chunkSize) (data : List UInt8) (n : Nat)
    {offset : Nat} (hn : data.length - offset ≤ n) (blockSn : Nat)
    (h : ∀ s, pre s → chunkSize ≤ 4093) :
    Suits envs pre fun transport => downloadLoop transport chunkSize hpos data offset blockSn := by
  induction n generalizing offset blockSn pre with
  | zero =>
      unfold downloadLoop
      simp only [if_neg (show ¬offset < data.length by omega)]
      exact suits_pure ()
  | succ n ih =>
      by_cases hmore : offset < data.length
      · have hless : data.length - (offset + ((data.drop offset).take chunkSize).length) ≤ n := by
          rw [List.length_take, List.length_drop]
          omega
        unfold downloadLoop
        simp only [if_pos hmore]
        refine (suits_transferData _ fun s hs => ?_).bind fun _ => ih hless _ fun s hs => ?_
        · exact (List.length_take_le ..).trans (h s hs)
        · obtain ⟨s₁, hs₁, -⟩ := hs
          exact h s₁ hs₁
      · unfold downloadLoop
        simp only [if_neg hmore]
        exact suits_pure ()

theorem suits_uploadLoop (length fuel : Nat) (result : List UInt8) (blockSn : Nat) :
    Suits envs pre fun transport => uploadLoop transport length fuel result blockSn := by
  induction fuel generalizing result blockSn pre with
  | zero =>
      unfold uploadLoop
      exact .ite (suits_raise _) (suits_pure _)
  | succ fuel ih =>
      unfold uploadLoop
      refine .ite ?_ (suits_pure _)
      exact (suits_transferData _ fun _ _ => Nat.zero_le _).bind fun chunk => ih _ _

theorem suits_upload (fuel address length : Nat) {addrLen sizeLen : Nat}
    (hlen : addrLen + sizeLen ≤ 4092) :
    Suits envs pre fun transport => upload transport fuel address length addrLen sizeLen := by
  unfold upload
  refine (suits_requestTransfer 0x35 "RequestUpload" address length hlen).bind fun _ => ?_
  refine (suits_uploadLoop length fuel [] 1).bind fun result => ?_
  exact suits_transferExit.bind fun _ => suits_pure _

theorem response_of_requestDownload {sim sim' : EcuSimulator} {env : Env} {req resp : List UInt8}
    (h : serve sim env req ecusimMaxPdu .requestDownload = (sim', .ok resp)) :
    resp = [0x74, 0x20, 0x00, 0x0F] := by
  unfold serve at h
  simp only at h
  split at h
  · cases h
  · have hresp := congrArg Prod.snd h
    rcases requestDownload_cases sim.xfer sim.flash (req.getD 2 0) (req.drop 3) ecusimMaxPdu with
      ⟨e, hcase⟩ | ⟨_, _, _, -, -, -, ⟨-, hcase⟩ | hcase⟩
    · rw [hcase] at hresp
      cases hresp
    · rw [hcase] at hresp
      cases hresp
    · rw [hcase] at hresp
      exact (Except.ok.inj hresp).symm

theorem state_of_toBytes {σ : Type} {n width : Nat} {s s' : σ} {bs : List UInt8}
    (h : (toBytes n width).run s = (.ok bs, s')) : s' = s := by
  unfold toBytes at h
  split at h <;> cases h
  rfl

theorem response_of_requestTransfer {sid : UInt8} {name : String}
    {address size addrLen sizeLen maxBlockLen : Nat} {s : EcuSimulator × Nat} {link : EcuLink}
    (h : (requestTransfer (ecuTransport envs) sid name address size addrLen sizeLen).run
      (linkAt s) = (.ok maxBlockLen, link)) :
    ∃ args response,
      (request (ecuTransport envs) (sid :: args)).run (linkAt s) = (.ok response, link) ∧
        response.head? = some (sid + 0x40) ∧
          maxBlockLen = natBE ((response.drop 2).take
            (((response.getD 1 0).toNat >>> 4) &&& 0x0F)) := by
  obtain ⟨addressBytes, s₁, haddress, h⟩ := Py.run_bind_ok h
  obtain rfl := state_of_toBytes haddress
  obtain ⟨sizeBytes, s₂, hsize, h⟩ := Py.run_bind_ok h
  obtain rfl := state_of_toBytes hsize
  obtain ⟨response, link', hrequest, h⟩ := Py.run_bind_ok h
  split at h
  · exact absurd h Py.run_raise_ne
  · rename_i hhead
    split at h
    · exact absurd h Py.run_raise_ne
    · simp only at h
      split at h
      · exact absurd h Py.run_raise_ne
      · cases h
        exact ⟨_, response, hrequest, not_ne_iff.mp hhead, rfl⟩

theorem maxBlockLen_of_requestDownload {address size addrLen sizeLen maxBlockLen : Nat}
    {s : EcuSimulator × Nat} {link : EcuLink}
    (h : (requestDownload (ecuTransport envs) address size addrLen sizeLen).run (linkAt s) =
      (.ok maxBlockLen, link)) : maxBlockLen = 15 := by
  obtain ⟨args, response, hrequest, hhead, hlen⟩ := response_of_requestTransfer h
  have hserve := (serve_of_request .requestDownload hrequest hhead).1
  obtain rfl := response_of_requestDownload hserve
  exact hlen

theorem suits_download (address : Nat) (data : List UInt8) {addrLen sizeLen : Nat}
    (hlen : addrLen + sizeLen ≤ 4092) :
    Suits envs pre fun transport => download transport address data addrLen sizeLen := by
  unfold download
  refine (suits_requestTransfer 0x34 "RequestDownload" address data.length hlen).bind
    fun maxBlockLen => ?_
  refine (suits_downloadLoop _ data _ le_rfl 1 ?_).bind fun _ => suits_transferExit
  rintro s ⟨s₁, -, hrun⟩
  obtain rfl := maxBlockLen_of_requestDownload hrun
  decide

/-! ## The bound of an upload -/

theorem mode_of_requestUpload {sim sim' : EcuSimulator} {env : Env} {req resp : List UInt8}
    (h : serve sim env req ecusimMaxPdu .requestUpload = (sim', .ok resp)) :
    sim'.xfer.mode = .upload := by
  unfold serve at h
  simp only at h
  split at h
  · cases h
  · rcases requestUpload_cases sim.xfer sim.flash (req.getD 2 0) (req.drop 3) ecusimMaxPdu with
      ⟨e, hcase⟩ | ⟨_, _, -, -, -, hcase⟩
    · rw [hcase] at h
      cases h
    · rw [hcase] at h
      cases h
      rfl

theorem content_of_transferData {sim sim' : EcuSimulator} {env : Env} {req resp : List UInt8}
    (hmode : sim.xfer.mode = .upload)
    (h : serve sim env req ecusimMaxPdu .transferData = (sim', .ok resp)) :
    sim'.xfer.mode = .upload ∧ 1 ≤ (resp.drop 2).length := by
  unfold serve at h
  simp only at h
  split at h
  · cases h
  · rcases transferData_cases sim.xfer sim.flash (req.getD 1 0) (req.drop 2) ecusimMaxPdu with
      ⟨e, hcase⟩ | ⟨_, hdownload, -⟩ | ⟨bytes, -, -, -, hread, hcase⟩
    · rw [hcase] at h
      cases h
    · rw [hmode] at hdownload
      cases hdownload
    · rw [hcase] at h
      cases h
      -- the flash refuses to read nothing
      obtain ⟨hpos, -, -, rfl⟩ := udsFlashRead_eq_ok.mp hread
      exact ⟨hmode, Nat.succ_le_of_lt (by simpa using Nat.pos_of_ne_zero hpos)⟩

theorem length_le_contentLength {sn n : Nat} {sim : EcuSimulator} {responses : List (List UInt8)}
    (h : Answered (ecuTransport envs) sn ⟨sim, n, []⟩ responses)
    (hmode : sim.xfer.mode = .upload) : responses.length ≤ contentLength responses := by
  induction responses generalizing sn n sim with
  | nil => exact Nat.zero_le _
  | cons response responses ih =>
      cases h with
      | cons hrequest hpositive hrest =>
          obtain ⟨hserve, hlink⟩ := serve_of_request .transferData hrequest hpositive
          obtain ⟨hmode', hcontent⟩ := content_of_transferData hmode hserve
          rw [hlink] at hrest
          have hblocks := ih hrest hmode'
          rw [contentLength_cons, List.length_cons]
          omega

/-- The loop of an upload from a simulator takes as many rounds as bytes at most; with more
rounds allowed it comes to the same. -/
theorem upload_of_le {address length addrLen sizeLen fuel : Nat} (s : EcuSimulator × Nat)
    (hfuel : length ≤ fuel) :
    (upload (ecuTransport envs) fuel address length addrLen sizeLen).run (linkAt s) =
      (upload (ecuTransport envs) length address length addrLen sizeLen).run (linkAt s) := by
  apply upload_bounded _ hfuel
  rintro ⟨size, link, responses, hrun, hanswered, hlen, hless⟩
  obtain ⟨args, response, hrequest, hhead, -⟩ := response_of_requestTransfer hrun
  obtain ⟨hserve, hlink⟩ := serve_of_request .requestUpload hrequest hhead
  rw [hlink] at hanswered
  have hblocks := length_le_contentLength hanswered (mode_of_requestUpload hserve)
  omega

/-! ## Commands -/

/-- `download` of `flash_tool.py`, without the progress bar. -/
def flashDownload {σ : Type} (transport : Transport σ) (address : Nat) (data : List UInt8)
    (addrLen sizeLen unlockLevel : Nat) : Py σ Unit := do
  let _ ← changeSession transport 0x02
  let _ ← unlock transport unlockLevel
  download transport address data addrLen sizeLen

theorem suits_flashDownload (address : Nat) (data : List UInt8) {addrLen sizeLen : Nat}
    (hlen : addrLen + sizeLen ≤ 4092) (unlockLevel : Nat) :
    Suits envs pre fun transport =>
      flashDownload transport address data addrLen sizeLen unlockLevel :=
  (suits_changeSession 0x02).bind fun _ => (suits_unlock unlockLevel).bind fun _ =>
    suits_download address data hlen

/-- A command of `diag_cli.py` or `flash_tool.py`, or another call of a service. -/
inductive Command where
  | session (sessionType : Nat)
  | testerPresent (suppress : Bool)
  | readDid (dids : List Nat)
  | writeDid (did : Nat) (data : List UInt8)
  | readDtc (statusMask : Nat)
  | readDtcCount (statusMask : Nat)
  | readAllDtc
  | clearDtc (group : Nat)
  | reset (resetType : Nat)
  | commControl (controlType commType : Nat)
  | unlock (level : Nat)
  | download (address : Nat) (data : List UInt8) (addrLen sizeLen unlockLevel : Nat)
  | upload (address length addrLen sizeLen : Nat)

/-- What a command that does not fail has to print. -/
inductive Output where
  | none
  | session (info : SessionInfo)
  | dids (result : DidDict)
  | dtcs (result : List DtcRecord)
  | count (result : Nat)
  | unlocked (result : Bool)
  | file (data : List UInt8)

namespace Command

def run {σ : Type} (transport : Transport σ) : Command → Py σ Output
  | session sessionType => do
    let info ← changeSession transport sessionType
    pure (.session info)
  | testerPresent suppress => do
    let _ ← Tools.testerPresent transport suppress
    pure .none
  | readDid dids => do
    let result ← readDids transport dids
    pure (.dids result)
  | writeDid did data => do
    let _ ← write transport did data
    pure .none
  | readDtc statusMask => do
    let dtcs ← readByStatus transport statusMask
    pure (.dtcs dtcs)
  | readDtcCount statusMask => do
    let count ← readCount transport statusMask
    pure (.count count)
  | readAllDtc => do
    let dtcs ← readAll transport
    pure (.dtcs dtcs)
  | clearDtc group => do
    let _ ← clear transport group
    pure .none
  | reset resetType => do
    let _ ← ecuReset transport resetType
    pure .none
  | commControl controlType commType => do
    let _ ← Tools.commControl transport controlType commType
    pure .none
  | unlock level => do
    let unlocked ← Tools.unlock transport level
    pure (.unlocked unlocked)
  | download address data addrLen sizeLen unlockLevel => do
    let _ ← flashDownload transport address data addrLen sizeLen unlockLevel
    pure .none
  | upload address length addrLen sizeLen => do
    -- `upload_of_le`: more rounds than bytes make no difference
    let data ← Tools.upload transport length address length addrLen sizeLen
    pure (.file data)

/-- The requests of the command have the length of a PDU. -/
def Sized : Command → Prop
  | readDid dids => dids.length ≤ 2047
  | writeDid _ data => data.length ≤ 4092
  | download _ _ addrLen sizeLen _ => addrLen + sizeLen ≤ 4092
  | upload _ _ addrLen sizeLen => addrLen + sizeLen ≤ 4092
  | _ => True

end Command

theorem suits_command {command : Command} (h : command.Sized) :
    Suits envs pre fun transport => command.run transport := by
  cases command with
  | session sessionType => exact (suits_changeSession sessionType).bind fun _ => suits_pure _
  | testerPresent suppress => exact (suits_testerPresent suppress).bind fun _ => suits_pure _
  | readDid dids => exact (suits_readDids h).bind fun _ => suits_pure _
  | writeDid did data => exact (suits_write did h).bind fun _ => suits_pure _
  | readDtc statusMask => exact (suits_readByStatus statusMask).bind fun _ => suits_pure _
  | readDtcCount statusMask => exact (suits_readCount statusMask).bind fun _ => suits_pure _
  | readAllDtc => exact suits_readAll.bind fun _ => suits_pure _
  | clearDtc group => exact (suits_clear group).bind fun _ => suits_pure _
  | reset resetType => exact (suits_ecuReset resetType).bind fun _ => suits_pure _
  | commControl controlType commType =>
      exact (suits_commControl controlType commType).bind fun _ => suits_pure _
  | unlock level => exact (suits_unlock level).bind fun _ => suits_pure _
  | download address data addrLen sizeLen unlockLevel =>
      exact (suits_flashDownload address data h unlockLevel).bind fun _ => suits_pure _
  | upload address length addrLen sizeLen =>
      exact (suits_upload length address length h).bind fun _ => suits_pure _

end Suits

/-! ## Scripts -/

/-- Somebody who gives one command after the other, and looks at the results. -/
inductive Script where
  | done
  | command (command : Command) (next : Except PyError Output → Script)

namespace Script

/-- The results of all commands. -/
def run {σ : Type} (transport : Transport σ) :
    Script → σ → List (Except PyError Output) × σ
  | done, s => ([], s)
  | command c next, s =>
    let out := (c.run transport).run s
    let rest := (next out.1).run transport out.2
    (out.1 :: rest.1, rest.2)

def Sized : Script → Prop
  | done => True
  | command c next => c.Sized ∧ ∀ result, (next result).Sized

end Script

/-- A script is a program that uses the client. -/
theorem dialog_of_script (envs : Nat → Env) {script : Script} (h : script.Sized) :
    ∃ d : Dialog (List (Except PyError Output)),
      (∀ {σ : Type} (transport : Transport σ) (s : σ),
        d.run transport s = script.run transport s) ∧ ∀ s, d.Fits (ecuAnswer envs) s := by
  induction script with
  | done => exact ⟨.ret [], fun _ _ => rfl, fun _ => trivial⟩
  | command c next ih =>
      obtain ⟨hc, hnext⟩ := h
      have hsuits : Suits envs (fun _ => True) fun transport => c.run transport :=
        suits_command hc
      obtain ⟨d, hd, hdfits⟩ := hsuits
      choose k hk hkfits using fun result => ih result (hnext result)
      refine ⟨d.bind fun result => (k result).bind fun results => .ret (result :: results), ?_, ?_⟩
      · intro σ transport s
        rw [Dialog.run_bind, hd transport s, Dialog.run_bind, hk]
        rfl
      · exact fun s => (hdfits s trivial).bind ((hkfits _ _).bind trivial)

end Uds.Tools
