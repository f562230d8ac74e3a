import Mathlib.Data.List.Infix
import Uds.Base.Bytes
import Uds.Ecusim.Runs
/-!
# The format of responses

A positive response starts with the service identifier plus 0x40 and, for the
services that echo a parameter, with the bytes that followed the identifier in
the request.  Every service checks its response against the capacity of the
buffer before it succeeds.
-/

namespace Uds.Ecusim

open Uds.Base Uds.Core Uds.Bootloader

/-- The outcome of a service that sends nothing but responses that start with
`start` and fit into `respSize` bytes. -/
def Sends (respSize : Nat) (start : List UInt8) : Response → Prop
  | .ok resp => start <+: resp ∧ resp.length ≤ respSize
  | .error _ => True

theorem Sends.of_prefix {respSize : Nat} {start start' : List UInt8} {r : Response}
    (h : Sends respSize start' r) (hstart : start <+: start') : Sends respSize start r := by
  cases r with
  | ok resp => exact ⟨hstart.trans h.1, h.2⟩
  | error e => trivial

theorem Sends.of_le {respSize : Nat} {start resp : List UInt8} (hstart : start <+: resp)
    (h : resp.length ≤ respSize) : Sends respSize start (.ok resp) :=
  ⟨hstart, h⟩

/-! ## Services of the core -/

section Core

variable (respSize : Nat)

theorem sends_dsc (sess : UdsCoreSession) (sessionType : UInt8) (now : Timespec) :
    Sends respSize [0x50, sessionType] (udsCoreDsc sess sessionType respSize now).2 := by
  unfold udsCoreDsc
  split
  · trivial
  · by_cases hsize : respSize < 6
    · rw [if_pos hsize]
      trivial
    · rw [if_neg hsize]
      exact .of_le (List.prefix_append [0x50, sessionType] _) (Nat.not_lt.mp hsize)

theorem sends_testerPresent (sess : UdsCoreSession) (subFn : UInt8) (now : Timespec) :
    (udsCoreTesterPresent sess subFn respSize now).2 = .ok [] ∨
      Sends respSize [0x7E] (udsCoreTesterPresent sess subFn respSize now).2 := by
  unfold udsCoreTesterPresent
  simp only
  split
  · exact Or.inr trivial
  · split
    · exact Or.inl rfl
    · by_cases hsize : respSize < 2
      · rw [if_pos hsize]
        exact Or.inr trivial
      · rw [if_neg hsize]
        exact Or.inr (.of_le (List.prefix_append [0x7E] _) (Nat.not_lt.mp hsize))

theorem sends_requestSeed (sec : UdsCoreSecurity) (subFn : UInt8) (clock : Nat → Timespec)
    (rand : Nat → UInt8) :
    Sends respSize [0x67, subFn] (udsCoreSecRequestSeed sec subFn respSize clock rand).2 := by
  unfold udsCoreSecRequestSeed issueSeed
  split
  · trivial
  · by_cases hsize : respSize < 2 + udsCoreSeedLen
    · rw [if_pos hsize]
      trivial
    · rw [if_neg hsize]
      simp only
      split
      · trivial
      · split
        · exact .of_le (List.prefix_append [0x67, subFn] _) (by simp; omega)
        · exact .of_le (List.prefix_append [0x67, subFn] _) (by simp; omega)

theorem sends_sendKey (sec : UdsCoreSecurity) (subFn : UInt8) (key : List UInt8)
    (clock : Nat → Timespec) :
    Sends respSize [0x67, subFn] (udsCoreSecSendKey sec subFn key respSize clock).2 := by
  cases hout : (udsCoreSecSendKey sec subFn key respSize clock).2 with
  | error e => trivial
  | ok resp =>
      have hresp := sendKey_ok sec subFn key respSize clock hout
      have hsize : ¬respSize < 2 := by
        intro hsize
        unfold udsCoreSecSendKey at hout
        simp only [hsize, if_true] at hout
        split_ifs at hout
      rw [hresp]
      exact .of_le List.prefix_rfl (Nat.not_lt.mp hsize)

theorem sends_readDidLoop (reg : UdsDidRegistry) (dids : List UInt16) (resp : List UInt8)
    (h : resp.length ≤ respSize) :
    Sends respSize resp (readDidLoop reg respSize dids resp) := by
  induction dids generalizing resp with
  | nil => exact .of_le List.prefix_rfl h
  | cons did dids ih =>
      unfold readDidLoop
      cases didFind reg did with
      | none => trivial
      | some entry =>
          simp only
          by_cases hroom : resp.length + (2 + entry.data.length) > respSize
          · rw [if_pos hroom]
            trivial
          · rw [if_neg hroom]
            have hnext := ih (resp ++ [(did >>> 8).toUInt8, (did &&& 0xFF).toUInt8] ++ entry.data)
              (by simp only [List.length_append, List.length_cons, List.length_nil]; omega)
            rw [List.append_assoc] at hnext
            rw [List.append_assoc]
            exact hnext.of_prefix (List.prefix_append _ _)

/-- The first record repeats the first identifier. -/
theorem sends_readDid (reg : UdsDidRegistry) (did : UInt16) (dids : List UInt16) :
    Sends respSize [0x62, (did >>> 8).toUInt8, (did &&& 0xFF).toUInt8]
      (udsSvcReadDid reg (did :: dids) respSize) := by
  unfold udsSvcReadDid
  rw [if_neg (by simp)]
  split
  · trivial
  · unfold readDidLoop
    cases didFind reg did with
    | none => trivial
    | some entry =>
        simp only
        by_cases hroom : [(0x62 : UInt8)].length + (2 + entry.data.length) > respSize
        · rw [if_pos hroom]
          trivial
        · rw [if_neg hroom]
          have hrest := sends_readDidLoop respSize reg dids
            ([(0x62 : UInt8)] ++ [(did >>> 8).toUInt8, (did &&& 0xFF).toUInt8] ++ entry.data)
            (by simp only [List.length_append, List.length_cons, List.length_nil] at hroom ⊢; omega)
          exact hrest.of_prefix (List.prefix_append _ _)

theorem sends_writeDid (reg : UdsDidRegistry) (didId : UInt16) (data : List UInt8)
    (sessionType : UInt8) (securityUnlocked : Bool) :
    Sends respSize [0x6E, (didId >>> 8).toUInt8, (didId &&& 0xFF).toUInt8]
      (udsSvcWriteDid reg didId data sessionType securityUnlocked respSize).2 := by
  unfold udsSvcWriteDid
  split
  · trivial
  · split_ifs with hw hs hsec hlen hsize
    · trivial
    · trivial
    · trivial
    · trivial
    · trivial
    · exact .of_le List.prefix_rfl (Nat.not_lt.mp hsize)

theorem sends_ecuReset (resetType : UInt8) :
    Sends respSize [0x51, resetType] (udsSvcEcuReset resetType respSize) := by
  unfold udsSvcEcuReset
  split_ifs with htype hsize
  · trivial
  · trivial
  · exact .of_le List.prefix_rfl (Nat.not_lt.mp hsize)

theorem sends_commControl (controlType commType : UInt8) :
    Sends respSize [0x68, controlType] (udsSvcCommControl controlType commType respSize) := by
  unfold udsSvcCommControl
  split_ifs with hcontrol hcomm hsize
  · trivial
  · trivial
  · trivial
  · exact .of_le List.prefix_rfl (Nat.not_lt.mp hsize)

theorem sends_clearDtc (reg : UdsDtcRegistry) (groupOfDtc : UInt32) :
    Sends respSize [0x54] (udsSvcClearDtc reg groupOfDtc respSize).2 := by
  unfold udsSvcClearDtc
  by_cases hsize : respSize < 1
  · rw [if_pos hsize]
    trivial
  · rw [if_neg hsize]
    simp only
    split
    · trivial
    · exact .of_le List.prefix_rfl (Nat.not_lt.mp hsize)

theorem sends_dtcRecordLoop (keep : UdsDtcEntry → Bool) (reg : UdsDtcRegistry)
    (resp : List UInt8) (h : resp.length ≤ respSize) :
    Sends respSize resp (dtcRecordLoop keep respSize reg resp) := by
  induction reg generalizing resp with
  | nil => exact .of_le List.prefix_rfl h
  | cons e reg ih =>
      unfold dtcRecordLoop
      split
      · exact ih resp h
      · by_cases hroom : resp.length + 4 > respSize
        · rw [if_pos hroom]
          trivial
        · rw [if_neg hroom]
          have hlen : (resp ++ dtcRecord e).length = resp.length + 4 := List.length_append
          have hnext := ih (resp ++ dtcRecord e) (by omega)
          exact hnext.of_prefix (List.prefix_append _ _)

theorem sends_readDtc (reg : UdsDtcRegistry) (subFn : UInt8) (reqData : List UInt8) :
    Sends respSize [0x59, subFn] (udsSvcReadDtc reg subFn reqData respSize) := by
  unfold udsSvcReadDtc
  simp only
  by_cases h01 : subFn = 0x01
  · subst h01
    rw [if_pos rfl]
    split_ifs with hsize
    · trivial
    · exact .of_le (List.prefix_append [0x59, 0x01] _) (Nat.not_lt.mp hsize)
  · rw [if_neg h01]
    by_cases h02 : subFn = 0x02
    · subst h02
      rw [if_pos rfl]
      split_ifs with hsize
      · trivial
      · have hloop := sends_dtcRecordLoop respSize
          (fun e => e.status &&& reqData.getD 0 0xFF ≠ 0) reg [0x59, 0x02, reqData.getD 0 0xFF]
          (Nat.not_lt.mp hsize)
        exact hloop.of_prefix (List.prefix_append [0x59, 0x02] _)
    · rw [if_neg h02]
      by_cases h0A : subFn = 0x0A
      · subst h0A
        rw [if_pos rfl]
        split_ifs with hsize
        · trivial
        · have hloop := sends_dtcRecordLoop respSize (fun _ => true) reg [0x59, 0x0A, 0xFF]
            (Nat.not_lt.mp hsize)
          exact hloop.of_prefix (List.prefix_append [0x59, 0x0A] _)
      · rw [if_neg h0A]
        trivial

end Core

/-! ## Flash services -/

section Flash

variable (respSize : Nat)

theorem sends_requestDownload (xfer : UdsXferSession) (flash : UdsFlashMemory) (fmt : UInt8)
    (data : List UInt8) :
    Sends respSize [0x74] (udsSvcRequestDownload xfer flash fmt data respSize).2 := by
  unfold udsSvcRequestDownload
  split
  · trivial
  · split
    · trivial
    · split
      · trivial
      · split
        · trivial
        · by_cases hsize : respSize < 4
          · rw [if_pos hsize]
            trivial
          · rw [if_neg hsize]
            exact .of_le (List.prefix_append [0x74] _) (Nat.not_lt.mp hsize)

theorem sends_requestUpload (xfer : UdsXferSession) (flash : UdsFlashMemory) (fmt : UInt8)
    (data : List UInt8) :
    Sends respSize [0x75] (udsSvcRequestUpload xfer flash fmt data respSize).2 := by
  unfold udsSvcRequestUpload
  split
  · trivial
  · split
    · trivial
    · split
      · trivial
      · by_cases hsize : respSize < 4
        · rw [if_pos hsize]
          trivial
        · rw [if_neg hsize]
          exact .of_le (List.prefix_append [0x75] _) (Nat.not_lt.mp hsize)

/-- The 32-bit sum that an upload block checks the capacity against. -/
theorem toNat_two_add_toRead (xfer : UdsXferSession) :
    (2 + xfer.toRead).toNat = 2 + xfer.toRead.toNat := by
  have hread := xfer.toRead_le_maxBlockSize
  have hmax := xfer.maxBlockSize.toNat_lt
  have htwo : (2 : UInt32).toNat = 2 := rfl
  rw [UInt32.toNat_add, htwo, Nat.mod_eq_of_lt (by omega)]

theorem sends_transferData (xfer : UdsXferSession) (flash : UdsFlashMemory) (seq : UInt8)
    (data : List UInt8) :
    Sends respSize [0x76, seq] (udsSvcTransferData xfer flash seq data respSize).2 := by
  by_cases hsize : respSize < 2
  · -- both branches check the capacity before they succeed
    rcases transferData_cases xfer flash seq data respSize with
      ⟨e, h⟩ | ⟨flash', hmode, hseq, hroom, hwrite, -⟩ | ⟨bytes, -, -, hfits, -, -⟩
    · rw [h]
      trivial
    · have hne := (udsFlashWrite_eq_ok.mp hwrite).1
      unfold udsSvcTransferData transferDownload
      rw [if_neg (by simp [hmode]), if_neg (by simpa using hseq), if_pos hmode,
        if_neg (by simpa using hne), if_neg (UInt32.not_lt.mpr hroom)]
      simp only [hwrite, hsize, if_true]
      trivial
    · have hsum := toNat_two_add_toRead xfer
      omega
  · rcases transferData_cases xfer flash seq data respSize with
      ⟨e, h⟩ | ⟨flash', -, -, -, -, ⟨hshort, -⟩ | h⟩ | ⟨bytes, -, -, hfits, hread, h⟩
    · rw [h]
      trivial
    · exact absurd hshort hsize
    · rw [h]
      exact .of_le List.prefix_rfl (Nat.not_lt.mp hsize)
    · have hsum := toNat_two_add_toRead xfer
      have hlen : bytes.length = xfer.toRead.toNat := by
        rw [(udsFlashRead_eq_ok.mp hread).2.2.2, Mem.length_load]
      rw [h]
      apply Sends.of_le (List.prefix_append [0x76, seq] _)
      rw [List.length_append, hlen]
      change 2 + _ ≤ _
      omega

theorem sends_transferExit (xfer : UdsXferSession) :
    Sends respSize [0x77] (udsSvcTransferExit xfer respSize).2 := by
  unfold udsSvcTransferExit
  split
  · trivial
  · by_cases hsize : respSize < 1
    · rw [if_pos hsize]
      trivial
    · rw [if_neg hsize]
      exact .of_le List.prefix_rfl (Nat.not_lt.mp hsize)

end Flash

/-! ## Echoed parameters -/

/-- How many bytes after the identifier a positive response repeats. -/
def Service.echoed : Service → Nat
  | diagnosticSessionControl => 1
  | securityAccess => 1
  | ecuReset => 1
  | communicationControl => 1
  | readDtcInformation => 1
  | transferData => 1
  | readDataByIdentifier => 2
  | writeDataByIdentifier => 2
  | _ => 0

/-- A positive response to `req`: the identifier plus 0x40, then the parameters
that `req` starts with. -/
def Echoes (svc : Service) (req resp : List UInt8) : Prop :=
  ∃ params more rest, params.length = svc.echoed ∧ req = svc.sid :: (params ++ more) ∧
    resp = (svc.sid + 0x40) :: (params ++ rest)

/-- The outcome of a service that sends only echoing responses within the
capacity. -/
def Echoing (respSize : Nat) (svc : Service) (req : List UInt8) : Response → Prop
  | .ok resp => resp ≠ [] → Echoes svc req resp ∧ resp.length ≤ respSize
  | .error _ => True

theorem Sends.echoing {respSize : Nat} {r : Response} (svc : Service) (params more : List UInt8)
    (hparams : params.length = svc.echoed)
    (h : Sends respSize ((svc.sid + 0x40) :: params) r) :
    Echoing respSize svc (svc.sid :: (params ++ more)) r := by
  cases r with
  | error e => trivial
  | ok resp =>
      obtain ⟨⟨rest, hrest⟩, hlen⟩ := h
      intro _
      exact ⟨⟨params, more, rest, hparams, rfl, hrest.symm⟩, hlen⟩

theorem toNat_did (hi lo : UInt8) :
    ((hi.toUInt16 <<< 8) ||| lo.toUInt16).toNat = hi.toNat * 2 ^ 8 + lo.toNat := by
  have hhi := hi.toNat_lt
  have hlo := lo.toNat_lt
  have height : (8 : UInt16).toNat % 16 = 8 := rfl
  have hshift : (hi.toUInt16 <<< 8).toNat = hi.toNat <<< 8 := by
    rw [UInt16.toNat_shiftLeft, UInt8.toNat_toUInt16, height]
    apply Nat.mod_eq_of_lt
    rw [Nat.shiftLeft_eq]
    omega
  rw [UInt16.toNat_or, hshift, UInt8.toNat_toUInt16, shl_or _ _ 8 hlo]

theorem did_high (hi lo : UInt8) :
    (((hi.toUInt16 <<< 8) ||| lo.toUInt16) >>> 8).toUInt8 = hi := by
  have hhi := hi.toNat_lt
  have hlo := lo.toNat_lt
  have height : (8 : UInt16).toNat % 16 = 8 := rfl
  apply UInt8.toNat_inj.mp
  rw [UInt16.toNat_toUInt8, UInt16.toNat_shiftRight, toNat_did, height, shr_8]
  omega

theorem did_low (hi lo : UInt8) :
    (((hi.toUInt16 <<< 8) ||| lo.toUInt16) &&& 0xFF).toUInt8 = lo := by
  have hlo := lo.toNat_lt
  have hmask : (0xFF : UInt16).toNat = 0xFF := rfl
  apply UInt8.toNat_inj.mp
  rw [UInt16.toNat_toUInt8, UInt16.toNat_and, toNat_did, hmask, and_FF]
  omega

section Dispatch

variable (sim : EcuSimulator) (env : Env) (respSz : Nat)

theorem echoing_securityAccess (args : List UInt8) :
    Echoing respSz .securityAccess (Service.securityAccess.sid :: args)
      (serve sim env (Service.securityAccess.sid :: args) respSz .securityAccess).2 := by
  cases args with
  | nil => trivial
  | cons subFn more =>
      by_cases hodd : subFn &&& 0x01 ≠ 0
      · rw [serve_requestSeed sim env (Service.securityAccess.sid :: subFn :: more) respSz (by simp)
          hodd]
        exact (sends_requestSeed respSz _ _ _ _).echoing _ [subFn] more rfl
      · have heven : subFn &&& 0x01 = 0 := by simpa using hodd
        by_cases hshort : (Service.securityAccess.sid :: subFn :: more).length < 2 + udsCoreSeedLen
        · have hrefused := serve_securityAccess_short sim env
            (Service.securityAccess.sid :: subFn :: more) respSz (Or.inr ⟨heven, hshort⟩)
          rw [hrefused]
          trivial
        · have hkey := serve_sendKey sim env (Service.securityAccess.sid :: subFn :: more) respSz
            (Nat.not_lt.mp hshort) heven
          rw [hkey.2]
          exact (sends_sendKey respSz _ _ _ _).echoing _ [subFn] more rfl

theorem echoing_readDataByIdentifier (args : List UInt8) :
    Echoing respSz .readDataByIdentifier (Service.readDataByIdentifier.sid :: args)
      (serve sim env (Service.readDataByIdentifier.sid :: args) respSz
        .readDataByIdentifier).2 := by
  match args with
  | [] => trivial
  | [_] => trivial
  | hi :: lo :: more =>
      simp only [serve]
      split
      · trivial
      · split
        · trivial
        · have hread := sends_readDid respSz sim.didReg ((hi.toUInt16 <<< 8) ||| lo.toUInt16)
            (didListOf more)
          rw [did_high, did_low] at hread
          exact hread.echoing .readDataByIdentifier [hi, lo] more rfl

theorem echoing_writeDataByIdentifier (args : List UInt8) :
    Echoing respSz .writeDataByIdentifier (Service.writeDataByIdentifier.sid :: args)
      (serve sim env (Service.writeDataByIdentifier.sid :: args) respSz
        .writeDataByIdentifier).2 := by
  match args with
  | [] => trivial
  | [_] => trivial
  | hi :: lo :: more =>
      simp only [serve]
      split
      · trivial
      · have hwrite := sends_writeDid respSz sim.didReg ((hi.toUInt16 <<< 8) ||| lo.toUInt16)
          more sim.session.type.code (udsCoreSecIsUnlocked sim.security 0x01)
        rw [did_high, did_low] at hwrite
        exact hwrite.echoing .writeDataByIdentifier [hi, lo] more rfl

/-- Whatever a service sends repeats the parameters of the request. -/
theorem echoing_serve (svc : Service) (args : List UInt8) :
    Echoing respSz svc (svc.sid :: args) (serve sim env (svc.sid :: args) respSz svc).2 := by
  cases svc with
  | securityAccess => exact echoing_securityAccess sim env respSz args
  | readDataByIdentifier => exact echoing_readDataByIdentifier sim env respSz args
  | writeDataByIdentifier => exact echoing_writeDataByIdentifier sim env respSz args
  | diagnosticSessionControl =>
      cases args with
      | nil => trivial
      | cons sessionType more => exact (sends_dsc respSz _ _ _).echoing _ [sessionType] more rfl
  | testerPresent =>
      cases args with
      | nil => trivial
      | cons subFn more =>
          rcases sends_testerPresent respSz sim.session subFn (env.clock 0) with hsup | hsends
          · change Echoing _ _ _ (udsCoreTesterPresent sim.session subFn respSz (env.clock 0)).2
            rw [hsup]
            exact fun hne => absurd rfl hne
          · exact hsends.echoing .testerPresent [] (subFn :: more) rfl
  | ecuReset =>
      cases args with
      | nil => trivial
      | cons resetType more =>
          rw [serve_ecuReset_response sim env (Service.ecuReset.sid :: resetType :: more) respSz
            (by simp)]
          exact (sends_ecuReset respSz _).echoing _ [resetType] more rfl
  | communicationControl =>
      match args with
      | [] => trivial
      | [_] => trivial
      | controlType :: commType :: more =>
          exact (sends_commControl respSz _ _).echoing _ [controlType] (commType :: more) rfl
  | clearDiagnosticInformation =>
      simp only [serve]
      split
      · trivial
      · exact (sends_clearDtc respSz _ _).echoing _ [] args rfl
  | readDtcInformation =>
      cases args with
      | nil => trivial
      | cons subFn more =>
          simp only [serve]
          split
          · trivial
          · split
            · trivial
            · exact (sends_readDtc respSz _ _ _).echoing _ [subFn] more rfl
  | requestDownload =>
      simp only [serve]
      split
      · trivial
      · exact (sends_requestDownload respSz _ _ _ _).echoing _ [] args rfl
  | requestUpload =>
      simp only [serve]
      split
      · trivial
      · exact (sends_requestUpload respSz _ _ _ _).echoing _ [] args rfl
  | transferData =>
      cases args with
      | nil => trivial
      | cons seq more => exact (sends_transferData respSz _ _ _ _).echoing _ [seq] more rfl
  | requestTransferExit => exact (sends_transferExit respSz _).echoing _ [] args rfl

end Dispatch

/-! ## Responses of the dispatcher -/

/-- A negative response to a request for `sid`. -/
def Negative (sid : UInt8) (resp : List UInt8) : Prop := ∃ nrc, nrc ≠ 0 ∧ resp = [0x7F, sid, nrc]

/-- What is sent is the echoing response of a service, or names an NRC. -/
theorem reply_cases {sid : UInt8} {r : Response} (h : reply sid r ≠ []) :
    (∃ nrc : UdsNrc, r = .error (.errNrc nrc) ∧ reply sid r = [0x7F, sid, nrc.code]) ∨
      r = .ok (reply sid r) := by
  cases r with
  | ok resp => exact Or.inr rfl
  | error e =>
      cases e with
      | errNrc nrc => exact Or.inl ⟨nrc, rfl, reply_error sid nrc⟩
      | errParam => exact absurd rfl h
      | errBuf => exact absurd rfl h

/-- A non-empty response is negative, or echoes the request within the capacity. -/
theorem ecusimDispatch_format (sim : EcuSimulator) (env : Env) (sid : UInt8)
    (args : List UInt8) (respSz : Nat)
    (h : (ecusimDispatch sim env (sid :: args) respSz).2 ≠ []) :
    Negative sid (ecusimDispatch sim env (sid :: args) respSz).2 ∨
      ∃ svc : Service, svc.sid = sid ∧
        Echoes svc (sid :: args) (ecusimDispatch sim env (sid :: args) respSz).2 ∧
          (ecusimDispatch sim env (sid :: args) respSz).2.length ≤ respSz := by
  cases hsid : Service.ofSid sid with
  | none =>
      rw [ecusimDispatch_unknown hsid]
      exact Or.inl ⟨_, UdsNrc.code_ne_zero _, rfl⟩
  | some svc =>
      obtain rfl := sid_of_ofSid hsid
      rw [ecusimDispatch_sid] at h ⊢
      rcases reply_cases h with ⟨nrc, -, hneg⟩ | hok
      · exact Or.inl ⟨nrc.code, nrc.code_ne_zero, hneg⟩
      · have hecho := echoing_serve sim env respSz svc args
        rw [hok] at hecho
        obtain ⟨hechoes, hlen⟩ := hecho h
        exact Or.inr ⟨svc, rfl, hechoes, hlen⟩

/-- A response fits into the buffer of `ecusim_run`. -/
theorem length_ecusimDispatch_le (sim : EcuSimulator) (env : Env) (req : List UInt8) :
    (ecusimDispatch sim env req ecusimMaxPdu).2.length ≤ 4095 := by
  cases req with
  | nil => exact Nat.zero_le _
  | cons sid args =>
      by_cases hnone : (ecusimDispatch sim env (sid :: args) ecusimMaxPdu).2 = []
      · rw [hnone]
        exact Nat.zero_le _
      · rcases ecusimDispatch_format sim env sid args ecusimMaxPdu hnone with
          ⟨nrc, -, hresp⟩ | ⟨svc, -, -, hlen⟩
        · rw [hresp]
          exact show 3 ≤ 4095 by decide
        · exact hlen

end Uds.Ecusim
