import Uds.Base.Bytes
import Uds.Ecusim.Invariant
/-!
# Every request is answered

A service that fails without an NRC makes the dispatcher send nothing.  With the
4095 byte buffer of the simulator that happens in one place: a download block
without data, which `uds_svc_transfer_data` rejects as a bad parameter.  The
other silent case is meant: a Tester Present with its response suppressed.
-/

namespace Uds.Ecusim

open Uds.Base Uds.Core Uds.Bootloader

/-- The dispatcher sends something for this outcome of a service. -/
def Answers : Response → Prop
  | .ok resp => resp ≠ []
  | .error (.errNrc _) => True
  | .error _ => False

theorem reply_ne_nil (sid : UInt8) (r : Response) : reply sid r ≠ [] ↔ Answers r := by
  cases r with
  | ok resp => rfl
  | error e =>
      cases e with
      | errNrc nrc => simp [reply_error, Answers]
      | errParam => simp [reply, Answers]
      | errBuf => simp [reply, Answers]

theorem answers_cons (b : UInt8) (resp : List UInt8) : Answers (.ok (b :: resp)) :=
  List.cons_ne_nil b resp

/-! ## Services of the core -/

section Core

variable {respSize : Nat}

theorem answers_dsc (sess : UdsCoreSession) (sessionType : UInt8) (now : Timespec)
    (h : 6 ≤ respSize) : Answers (udsCoreDsc sess sessionType respSize now).2 := by
  unfold udsCoreDsc
  split
  · trivial
  · rw [if_neg (by omega)]
    exact answers_cons _ _

theorem suppress_iff (subFn : UInt8) (h : subFn &&& 0x7F = 0) :
    subFn &&& 0x80 ≠ 0 ↔ subFn = 0x80 := by
  have hlow : subFn.toNat % 128 = 0 := by
    rw [← and_7F]
    simpa using congrArg UInt8.toNat h
  have hlt := subFn.toNat_lt
  constructor
  · intro hhigh
    by_cases hzero : subFn.toNat = 0
    · have heq : subFn = 0 := UInt8.toNat_inj.mp hzero
      rw [heq] at hhigh
      exact absurd rfl hhigh
    · apply UInt8.toNat_inj.mp
      change subFn.toNat = 128
      omega
  · rintro rfl
    decide

theorem answers_testerPresent (sess : UdsCoreSession) (subFn : UInt8) (now : Timespec)
    (h : 2 ≤ respSize) :
    Answers (udsCoreTesterPresent sess subFn respSize now).2 ↔ subFn ≠ 0x80 := by
  unfold udsCoreTesterPresent
  by_cases hlow : subFn &&& 0x7F = 0
  · have hsuppress := suppress_iff subFn hlow
    by_cases hhigh : subFn &&& 0x80 ≠ 0
    · have heq : subFn = 0x80 := hsuppress.mp hhigh
      subst heq
      exact ⟨fun hempty => absurd rfl hempty, fun hne => absurd rfl hne⟩
    · have hne : subFn ≠ 0x80 := fun heq => hhigh (hsuppress.mpr heq)
      have hfits : ¬respSize < 2 := by omega
      simp [hlow, hhigh, hfits, Answers, hne]
  · have hne : subFn ≠ 0x80 := by
      rintro rfl
      exact hlow rfl
    simp [hlow, Answers, hne]

theorem answers_requestSeed (sec : UdsCoreSecurity) (subFn : UInt8) (clock : Nat → Timespec)
    (rand : Nat → UInt8) (h : 2 + udsCoreSeedLen ≤ respSize) :
    Answers (udsCoreSecRequestSeed sec subFn respSize clock rand).2 := by
  unfold udsCoreSecRequestSeed issueSeed
  split
  · trivial
  · rw [if_neg (by omega)]
    simp only
    split
    · trivial
    · split <;> exact answers_cons _ _

theorem answers_sendKey (sec : UdsCoreSecurity) (subFn : UInt8) (key : List UInt8)
    (clock : Nat → Timespec) (hkey : key.length ≠ 0) (h : 2 ≤ respSize) :
    Answers (udsCoreSecSendKey sec subFn key respSize clock).2 := by
  simp only [udsCoreSecSendKey, verifyKey]
  rw [if_neg hkey]
  split
  · trivial
  · rw [if_neg (by omega)]
    repeat (first | trivial | exact answers_cons _ _ | split)

theorem answers_readDidLoop (reg : UdsDidRegistry) (hreg : ∀ e ∈ reg, e.data.length ≤ didDataSize)
    (dids : List UInt16) (resp : List UInt8) (hresp : resp ≠ [])
    (h : resp.length + (2 + didDataSize) * dids.length ≤ respSize) :
    Answers (readDidLoop reg respSize dids resp) := by
  induction dids generalizing resp with
  | nil => exact hresp
  | cons did dids ih =>
      unfold readDidLoop
      cases hfind : didFind reg did with
      | none => trivial
      | some entry =>
          have hentry := hreg entry (mem_of_didFind hfind)
          rw [List.length_cons, Nat.mul_succ] at h
          simp only
          rw [if_neg (by omega)]
          apply ih
          · simp
          · simp only [List.length_append, List.length_cons, List.length_nil]
            omega

theorem answers_writeDid (reg : UdsDidRegistry) (didId : UInt16) (data : List UInt8)
    (sessionType : UInt8) (securityUnlocked : Bool) (h : 3 ≤ respSize) :
    Answers (udsSvcWriteDid reg didId data sessionType securityUnlocked respSize).2 := by
  unfold udsSvcWriteDid
  split
  · trivial
  · split
    · trivial
    · split
      · trivial
      · split
        · trivial
        · split
          · trivial
          · rw [if_neg (by omega)]
            exact answers_cons _ _

theorem answers_ecuReset (resetType : UInt8) (h : 2 ≤ respSize) :
    Answers (udsSvcEcuReset resetType respSize) := by
  unfold udsSvcEcuReset
  split
  · trivial
  · rw [if_neg (by omega)]
    exact answers_cons _ _

theorem answers_commControl (controlType commType : UInt8) (h : 2 ≤ respSize) :
    Answers (udsSvcCommControl controlType commType respSize) := by
  unfold udsSvcCommControl
  split
  · trivial
  · split
    · trivial
    · rw [if_neg (by omega)]
      exact answers_cons _ _

theorem answers_clearDtc (reg : UdsDtcRegistry) (groupOfDtc : UInt32) (h : 1 ≤ respSize) :
    Answers (udsSvcClearDtc reg groupOfDtc respSize).2 := by
  unfold udsSvcClearDtc
  rw [if_neg (by omega)]
  simp only
  split
  · trivial
  · exact answers_cons _ _

theorem answers_dtcRecordLoop (keep : UdsDtcEntry → Bool) (reg : UdsDtcRegistry)
    (resp : List UInt8) (hresp : resp ≠ []) (h : resp.length + 4 * reg.length ≤ respSize) :
    Answers (dtcRecordLoop keep respSize reg resp) := by
  induction reg generalizing resp with
  | nil => exact hresp
  | cons e reg ih =>
      rw [List.length_cons] at h
      unfold dtcRecordLoop
      split
      · exact ih resp hresp (by omega)
      · rw [if_neg (by omega)]
        apply ih
        · simp [hresp]
        · simp only [dtcRecord, List.length_append, List.length_cons, List.length_nil]
          omega

theorem answers_readDtc (reg : UdsDtcRegistry) (subFn : UInt8) (reqData : List UInt8)
    (h : 6 + 4 * reg.length ≤ respSize) : Answers (udsSvcReadDtc reg subFn reqData respSize) := by
  unfold udsSvcReadDtc
  simp only
  split
  · rw [if_neg (by omega)]
    exact answers_cons _ _
  · split
    · rw [if_neg (by omega)]
      apply answers_dtcRecordLoop
      · exact List.cons_ne_nil _ _
      · simp only [List.length_cons, List.length_nil]
        omega
    · split
      · rw [if_neg (by omega)]
        apply answers_dtcRecordLoop
        · exact List.cons_ne_nil _ _
        · simp only [List.length_cons, List.length_nil]
          omega
      · trivial

end Core

/-! ## Flash services -/

section Flash

variable {respSize : Nat}

theorem answers_requestDownload (xfer : UdsXferSession) (flash : UdsFlashMemory) (fmt : UInt8)
    (data : List UInt8) (h : 4 ≤ respSize) :
    Answers (udsSvcRequestDownload xfer flash fmt data respSize).2 := by
  unfold udsSvcRequestDownload
  split
  · trivial
  · split
    · trivial
    · split
      · trivial
      · split
        · trivial
        · rw [if_neg (by omega)]
          exact answers_cons _ _

theorem answers_requestUpload (xfer : UdsXferSession) (flash : UdsFlashMemory) (fmt : UInt8)
    (data : List UInt8) (h : 4 ≤ respSize) :
    Answers (udsSvcRequestUpload xfer flash fmt data respSize).2 := by
  unfold udsSvcRequestUpload
  split
  · trivial
  · split
    · trivial
    · split
      · trivial
      · rw [if_neg (by omega)]
        exact answers_cons _ _

theorem answers_transferDownload (xfer : UdsXferSession) (flash : UdsFlashMemory) (seq : UInt8)
    (data : List UInt8) (h : 2 ≤ respSize) :
    Answers (transferDownload xfer flash seq data respSize).2 ↔ data ≠ [] := by
  unfold transferDownload
  by_cases hdata : data = []
  · simp [hdata, Answers]
  · rw [if_neg (by simpa using hdata)]
    simp only [ne_eq, hdata, not_false_eq_true, iff_true]
    split
    · trivial
    · split
      · trivial
      · rw [if_neg (by omega)]
        exact answers_cons _ _

theorem toRead_le {xfer : UdsXferSession} (h : xfer.maxBlockSize = flashMaxBlockData) :
    xfer.toRead.toNat ≤ 15 := by
  have hle := xfer.toRead_le_maxBlockSize
  rwa [h] at hle

theorem answers_transferUpload (xfer : UdsXferSession) (flash : UdsFlashMemory) (seq : UInt8)
    (hmax : xfer.maxBlockSize = flashMaxBlockData) (h : 17 ≤ respSize) :
    Answers (transferUpload xfer flash seq respSize).2 := by
  have hread := toRead_le hmax
  have hadd : (2 + xfer.toRead).toNat = 2 + xfer.toRead.toNat := by
    have htwo : (2 : UInt32).toNat = 2 := rfl
    rw [UInt32.toNat_add, htwo, Nat.mod_eq_of_lt (by omega)]
  unfold transferUpload
  rw [if_neg (by omega)]
  split
  · trivial
  · exact answers_cons _ _

theorem answers_transferData (xfer : UdsXferSession) (flash : UdsFlashMemory) (seq : UInt8)
    (data : List UInt8) (hmax : xfer.mode ≠ .idle → xfer.maxBlockSize = flashMaxBlockData)
    (h : 17 ≤ respSize) :
    Answers (udsSvcTransferData xfer flash seq data respSize).2 ↔
      ¬(xfer.mode = .download ∧ seq = xfer.blockSeq ∧ data = []) := by
  unfold udsSvcTransferData
  by_cases hidle : xfer.mode = .idle
  · simp [hidle, Answers]
  · by_cases hseq : seq = xfer.blockSeq
    · by_cases hdown : xfer.mode = .download
      · have hdata : Answers (transferDownload xfer flash seq data respSize).2 ↔ data ≠ [] :=
          answers_transferDownload xfer flash seq data (by omega)
        simpa [hidle, hseq, hdown] using hdata
      · have hup := answers_transferUpload xfer flash seq (hmax hidle) h
        simpa [hidle, hseq, hdown] using hup
    · simp [hidle, hseq, Answers]

theorem answers_transferExit (xfer : UdsXferSession) (h : 1 ≤ respSize) :
    Answers (udsSvcTransferExit xfer respSize).2 := by
  unfold udsSvcTransferExit
  split
  · trivial
  · rw [if_neg (by omega)]
    exact answers_cons _ _

end Flash

/-! ## The dispatcher -/

/-- Tester Present with its response suppressed. -/
def SuppressedTesterPresent (req : List UInt8) : Prop :=
  req.head? = some 0x3E ∧ req.getD 1 0 = 0x80

/-- A block of a download that carries the expected counter and no data. -/
def EmptyBlock (sim : EcuSimulator) (req : List UInt8) : Prop :=
  sim.xfer.mode = .download ∧ req = [0x36, sim.xfer.blockSeq]

theorem length_didListOf (bytes : List UInt8) : (didListOf bytes).length = bytes.length / 2 := by
  induction bytes using didListOf.induct with
  | case1 hi lo rest ih =>
      simp only [didListOf, List.length_cons, ih]
      omega
  | case2 bytes hshort =>
      match bytes, hshort with
      | [], _ => rfl
      | [_], _ => simp [didListOf]
      | hi :: lo :: rest, hshort => exact absurd rfl (hshort hi lo rest)

section Serve

variable {sim : EcuSimulator} (env : Env) (req : List UInt8)

theorem answers_serve_securityAccess :
    Answers (serve sim env req ecusimMaxPdu .securityAccess).2 := by
  simp only [serve]
  split
  · trivial
  · split
    · exact answers_requestSeed _ _ _ _ (by decide)
    · split
      · trivial
      · have hkey : (req.drop 2).length ≠ 0 := by
          rw [List.length_drop]
          unfold udsCoreSeedLen at *
          omega
        have hanswer : Answers (udsCoreSecSendKey sim.security (req.getD 1 0) (req.drop 2)
            ecusimMaxPdu env.clock).2 := answers_sendKey _ _ _ _ hkey (by decide)
        split <;> rename_i hout <;> rw [hout] at hanswer <;> exact hanswer

theorem answers_serve_readDataByIdentifier (hinv : SimInv sim) :
    Answers (serve sim env req ecusimMaxPdu .readDataByIdentifier).2 := by
  simp only [serve]
  split
  · trivial
  · split
    · trivial
    · have hlen : (didListOf (req.drop 1)).length = (req.length - 1) / 2 := by
        rw [length_didListOf, List.length_drop]
      unfold udsSvcReadDid
      rw [if_neg (by omega), if_neg (by decide)]
      apply answers_readDidLoop sim.didReg hinv.didData
      · exact List.cons_ne_nil _ _
      · unfold didDataSize ecusimMaxPdu
        rw [hlen, List.length_singleton]
        omega

theorem answers_serve_ecuReset : Answers (serve sim env req ecusimMaxPdu .ecuReset).2 := by
  simp only [serve]
  split
  · trivial
  · have hanswer : Answers (udsSvcEcuReset (req.getD 1 0) ecusimMaxPdu) :=
      answers_ecuReset _ (by decide)
    split <;> rename_i hout <;> rw [hout] at hanswer <;> exact hanswer

theorem answers_serve_readDtcInformation (hinv : SimInv sim) :
    Answers (serve sim env req ecusimMaxPdu .readDtcInformation).2 := by
  simp only [serve]
  split
  · trivial
  · split
    · trivial
    · apply answers_readDtc
      have hdtcs := hinv.dtcs
      unfold ecusimMaxDtcs at hdtcs
      unfold ecusimMaxPdu
      omega

theorem answers_serve (hinv : SimInv sim) (svc : Service) (h3E : svc ≠ .testerPresent)
    (h36 : svc ≠ .transferData) : Answers (serve sim env req ecusimMaxPdu svc).2 := by
  cases svc with
  | testerPresent => contradiction
  | transferData => contradiction
  | diagnosticSessionControl =>
      simp only [serve]
      split
      · trivial
      · exact answers_dsc _ _ _ (by decide)
  | securityAccess => exact answers_serve_securityAccess env req
  | readDataByIdentifier => exact answers_serve_readDataByIdentifier env req hinv
  | writeDataByIdentifier =>
      simp only [serve]
      split
      · trivial
      · exact answers_writeDid _ _ _ _ _ (by decide)
  | ecuReset => exact answers_serve_ecuReset env req
  | communicationControl =>
      simp only [serve]
      split
      · trivial
      · exact answers_commControl _ _ (by decide)
  | clearDiagnosticInformation =>
      simp only [serve]
      split
      · trivial
      · exact answers_clearDtc _ _ (by decide)
  | readDtcInformation => exact answers_serve_readDtcInformation env req hinv
  | requestDownload =>
      simp only [serve]
      split
      · trivial
      · exact answers_requestDownload _ _ _ _ (by decide)
  | requestUpload =>
      simp only [serve]
      split
      · trivial
      · exact answers_requestUpload _ _ _ _ (by decide)
  | requestTransferExit => exact answers_transferExit _ (by decide)

end Serve

theorem answers_serve_testerPresent (sim : EcuSimulator) (env : Env) (req : List UInt8) :
    Answers (serve sim env req ecusimMaxPdu .testerPresent).2 ↔ req.getD 1 0 ≠ 0x80 := by
  simp only [serve]
  by_cases hshort : req.length < 2
  · have hzero : req.getD 1 0 = 0 := by
      rw [List.getD_eq_getElem?_getD, List.getElem?_eq_none (by omega)]
      rfl
    rw [if_pos hshort, hzero]
    exact ⟨fun _ => by decide, fun _ => trivial⟩
  · rw [if_neg hshort]
    exact answers_testerPresent _ _ _ (by decide)

theorem answers_serve_transferData {sim : EcuSimulator} (hinv : SimInv sim) (env : Env)
    (args : List UInt8) :
    Answers (serve sim env (0x36 :: args) ecusimMaxPdu .transferData).2 ↔
      ¬EmptyBlock sim (0x36 :: args) := by
  simp only [serve, EmptyBlock]
  cases args with
  | nil => simp [Answers, badLength]
  | cons seq data =>
      rw [if_neg (by simp)]
      have hanswer : Answers (udsSvcTransferData sim.xfer sim.flash seq data ecusimMaxPdu).2 ↔ _ :=
        answers_transferData sim.xfer sim.flash seq data hinv.active (by decide)
      simpa using hanswer

/-- In every reachable state, a non-empty request other than a suppressed Tester
Present is answered exactly when it is not an empty download block. -/
theorem ecusimDispatch_answers_iff {ecuId : UInt8} {now : Timespec} {sim : EcuSimulator}
    (hreach : Reachable ecusimStep (ecusimInit ecuId now) sim) (env : Env) {req : List UInt8}
    (hne : req ≠ []) :
    (¬SuppressedTesterPresent req → (ecusimDispatch sim env req ecusimMaxPdu).2 ≠ []) ↔
      ¬EmptyBlock sim req := by
  have hinv := simInv_of_reachable hreach
  obtain ⟨sid, args, rfl⟩ := List.exists_cons_of_ne_nil hne
  cases hsid : Service.ofSid sid with
  | none =>
      rw [ecusimDispatch_unknown hsid]
      have hempty : ¬EmptyBlock sim (sid :: args) := by
        rintro ⟨-, heq⟩
        obtain ⟨rfl, -⟩ := List.cons_eq_cons.mp heq
        cases hsid
      exact ⟨fun _ => hempty, fun _ _ => List.cons_ne_nil _ _⟩
  | some svc =>
      have hsvc := sid_of_ofSid hsid
      subst hsvc
      rw [ecusimDispatch_sid, reply_ne_nil]
      by_cases h3E : svc = .testerPresent
      · subst h3E
        have hempty : ¬EmptyBlock sim (Service.testerPresent.sid :: args) := by
          rintro ⟨-, heq⟩
          exact absurd (List.cons_eq_cons.mp heq).1 (by decide)
        refine ⟨fun _ => hempty, fun _ hsup => ?_⟩
        rw [answers_serve_testerPresent]
        intro hsub
        exact hsup ⟨rfl, hsub⟩
      · have hsup : ¬SuppressedTesterPresent (svc.sid :: args) := by
          rintro ⟨hhead, -⟩
          exact h3E (sid_injective (Option.some.inj hhead))
        by_cases h36 : svc = .transferData
        · subst h36
          have hanswer := answers_serve_transferData hinv env args
          exact ⟨fun h => hanswer.mp (h hsup), fun h _ => hanswer.mpr h⟩
        · have hempty : ¬EmptyBlock sim (svc.sid :: args) := by
            rintro ⟨-, heq⟩
            exact h36 (sid_injective (List.cons_eq_cons.mp heq).1)
          exact ⟨fun _ => hempty, fun _ _ => answers_serve env _ hinv svc h3E h36⟩

theorem ecusimDispatch_answers_iff_testerPresent :
    (¬SuppressedTesterPresent [0x3E, 0x00] →
        (ecusimDispatch (ecusimInit 1 .zero) ⟨fun _ => .zero, fun _ => 0⟩ [0x3E, 0x00]
          ecusimMaxPdu).2 ≠ []) ↔
      ¬EmptyBlock (ecusimInit 1 .zero) [0x3E, 0x00] :=
  ecusimDispatch_answers_iff ⟨[], rfl⟩ _ (by decide)

/-- Three bytes announced, then a first block without data. -/
theorem ecusimDispatch_silent :
    ∃ sim, Reachable ecusimStep (ecusimInit 1 .zero) sim ∧
      ¬SuppressedTesterPresent [0x36, 0x01] ∧
        (ecusimDispatch sim ⟨fun _ => .zero, fun _ => 0⟩ [0x36, 0x01] ecusimMaxPdu).2 = [] := by
  refine ⟨_, ⟨schedule [(0, [0x34, 0x00, 0x11, 0x05, 0x03])], rfl⟩, ?_, by decide⟩
  rintro ⟨hhead, -⟩
  exact absurd hhead (by decide)

end Uds.Ecusim
