import Uds.Tools.Commands
import Uds.Tools.RoundTrip
/-!
# The flash tool and the simulator

`download` of `flash_tool.py`: change the session, unlock, transfer.  What its unlocking
comes to is a function of the simulator, its clock and its random bytes, and decides what
the tool comes to.
-/

namespace Uds.Tools

open Uds.Base Uds.Core Uds.Bootloader Uds.Ecusim

section Requests

variable (envs : Nat → Env) {sim : EcuSimulator} {n : Nat}

theorem request_serve (svc : Service) (args : List UInt8) :
    (request (ecuTransport envs) (svc.sid :: args)).run ⟨sim, n, []⟩ =
      (outcome (reply svc.sid (serve sim (envs n) (svc.sid :: args) ecusimMaxPdu svc).2),
        ⟨(serve sim (envs n) (svc.sid :: args) ecusimMaxPdu svc).1, n + 1, []⟩) := by
  rw [request_outcome]
  unfold ecuAnswer
  rw [ecusimDispatch_sid]

theorem outcome_reply_error (sid : UInt8) {nrc : UdsNrc} (h : nrc ≠ .responsePending) :
    outcome (reply sid (.error (.errNrc nrc))) = .error (.udsNrcError nrc.code sid "") := by
  have hcode : ([0x7F, sid, nrc.code].getD 2 0 : UInt8) ≠ nrcResponsePending :=
    fun heq => h (UdsNrc.code_injective heq)
  rw [reply_error, outcome, if_neg (List.cons_ne_nil _ _), if_pos ⟨le_rfl, rfl⟩, if_neg hcode]
  rfl

theorem request_refused (n : Nat) (svc : Service) {args : List UInt8} {sim' : EcuSimulator}
    {nrc : UdsNrc}
    (hserve : serve sim (envs n) (svc.sid :: args) ecusimMaxPdu svc = (sim', .error (.errNrc nrc)))
    (hnrc : nrc ≠ .responsePending) :
    (request (ecuTransport envs) (svc.sid :: args)).run ⟨sim, n, []⟩ =
      (.error (.udsNrcError nrc.code svc.sid ""), ⟨sim', n + 1, []⟩) := by
  rw [request_serve, hserve, outcome_reply_error svc.sid hnrc]

/-! ## The session -/

theorem natBE_hi_lo (x : UInt16) : natBE [(x >>> 8).toUInt8, (x &&& 0xFF).toUInt8] = x.toNat := by
  have hhigh := toNat_didHigh x
  have hlow := toNat_didLow x
  unfold didHigh at hhigh
  unfold didLow at hlow
  simp only [natBE, List.foldl_cons, List.foldl_nil, hhigh, hlow]
  omega

theorem dsc_response (sess : UdsCoreSession) {sessionType : UInt8} {type : UdsSessionType}
    (now : Timespec) (htype : UdsSessionType.ofCode sessionType = some type) :
    (udsCoreDsc sess sessionType ecusimMaxPdu now).2 =
      .ok ([0x50, sessionType] ++ [(sess.cfg.p2Ms >>> 8).toUInt8, (sess.cfg.p2Ms &&& 0xFF).toUInt8]
        ++ [((sess.cfg.p2StarMs / 10) >>> 8).toUInt8,
          ((sess.cfg.p2StarMs / 10) &&& 0xFF).toUInt8]) := by
  unfold udsCoreDsc
  rw [htype]
  simp only
  rw [if_neg (by decide)]
  rfl

theorem bytes_pair {a b : Nat} (ha : a < 256) (hb : b < 256) {σ : Type} (s : σ) :
    (bytes [a, b]).run s = (.ok [UInt8.ofNat a, UInt8.ofNat b], s) := by
  apply bytes_run
  intro m hm
  rcases List.mem_pair.mp hm with rfl | rfl
  · exact ha
  · exact hb

theorem changeSession_run (sim : EcuSimulator) (n : Nat) {sessionType : Nat}
    {type : UdsSessionType} (hlt : sessionType < 256)
    (htype : UdsSessionType.ofCode (UInt8.ofNat sessionType) = some type) :
    (changeSession (ecuTransport envs) sessionType).run ⟨sim, n, []⟩ =
      (.ok ⟨sessionType, sim.session.cfg.p2Ms.toNat, sim.session.cfg.p2StarMs.toNat / 10 * 10⟩,
        ⟨{ sim with
            session := (udsCoreDsc sim.session (UInt8.ofNat sessionType) ecusimMaxPdu
              ((envs n).clock 0)).1 }, n + 1, []⟩) := by
  have hserve : serve sim (envs n) [0x10, UInt8.ofNat sessionType] ecusimMaxPdu
      .diagnosticSessionControl =
        ({ sim with
            session := (udsCoreDsc sim.session (UInt8.ofNat sessionType) ecusimMaxPdu
              ((envs n).clock 0)).1 },
          (udsCoreDsc sim.session (UInt8.ofNat sessionType) ecusimMaxPdu ((envs n).clock 0)).2) :=
    rfl
  rw [dsc_response sim.session _ htype] at hserve
  have htype' : (UInt8.ofNat sessionType).toNat = sessionType := UInt8.toNat_ofNat_of_lt' hlt
  have hstar : (sim.session.cfg.p2StarMs / 10).toNat = sim.session.cfg.p2StarMs.toNat / 10 := by
    rw [UInt16.toNat_div]
    rfl
  have hbytes : (bytes [0x10, sessionType]).run (⟨sim, n, []⟩ : EcuLink) =
      (.ok [0x10, UInt8.ofNat sessionType], ⟨sim, n, []⟩) := bytes_pair (by decide) hlt _
  have hrequest := request_served .diagnosticSessionControl hserve rfl
  change (request (ecuTransport envs) [0x10, UInt8.ofNat sessionType]).run _ = _ at hrequest
  rw [changeSession, Py.run_bind hbytes, Py.run_bind hrequest, if_neg (by simp)]
  simp only [List.cons_append, List.nil_append, List.getD_cons_succ, List.getD_cons_zero,
    List.drop_succ_cons, List.drop_zero, List.take_succ_cons, List.take_zero, natBE_hi_lo, htype',
    hstar]
  rfl

end Requests

/-! ## Unlocking -/

instance (sec : UdsCoreSecurity) (now : Timespec) : Decidable (sec.LockedAt now) :=
  inferInstanceAs (Decidable (_ ∧ _))

section Unlock

variable (envs : Nat → Env) {sim : EcuSimulator} {n level : Nat}

/-- The security state after a request for a seed. -/
def seeded (sec : UdsCoreSecurity) (env : Env) (level : Nat) : UdsCoreSecurity :=
  (udsCoreSecRequestSeed sec (UInt8.ofNat level) ecusimMaxPdu env.clock env.rand).1

theorem seeded_eq (sec : UdsCoreSecurity) {env : Env} (hodd : level % 2 = 1)
    (hlocked : ¬sec.LockedAt (env.clock 0)) (hlevel : sec.unlockedLevel ≠ UInt8.ofNat level) :
    seeded sec env level =
      { (checkLocked sec (env.clock 0)).1 with
          seed := Vector.ofFn fun i => env.rand i
          seedValid := true
          pendingLevel := UInt8.ofNat level
          seedTs := env.clock 1 } := by
  have hcheck : (checkLocked sec (env.clock 0)).2 = false := by
    rw [← checkLocked_snd] at hlocked
    exact Bool.eq_false_iff.mpr hlocked
  unfold seeded udsCoreSecRequestSeed
  rw [if_neg (not_even_of_odd (odd_of_mod hodd)), if_neg (by decide)]
  simp only [hcheck]
  rw [if_neg (by decide), issueSeed, checkLocked_unlockedLevel, if_neg hlevel]

theorem checkLocked_of_not_locked {sec : UdsCoreSecurity} (h : sec.locked = false)
    (now : Timespec) : checkLocked sec now = (sec, false) := by
  rcases checkLocked_cases sec now with ⟨⟨hlocked, -⟩, -⟩ | ⟨-, heq⟩ | ⟨hlocked, -⟩
  · rw [h] at hlocked
    cases hlocked
  · exact heq
  · rw [h] at hlocked
    cases hlocked

theorem locked_of_checkLocked {sec : UdsCoreSecurity} {now : Timespec}
    (h : ¬sec.LockedAt now) : (checkLocked sec now).1.locked = false := by
  rcases checkLocked_cases sec now with ⟨hlocked, -⟩ | ⟨hnot, heq⟩ | ⟨-, -, heq⟩
  · exact absurd hlocked h
  · rw [heq]
    exact hnot
  · rw [heq]

theorem sendKey_computed {sec : UdsCoreSecurity} (env : Env) (hodd : level % 2 = 1)
    (hlevel : level ≤ 253) (hlocked : sec.locked = false) (hvalid : sec.seedValid = true)
    (hpending : sec.pendingLevel = UInt8.ofNat level) :
    udsCoreSecSendKey sec (UInt8.ofNat (level + 1)) (computeKey sec.seed.toList) ecusimMaxPdu
        env.clock =
      if (env.clock 1).sec - sec.seedTs.sec ≥ udsCoreSeedTimeoutSecs then
        ({ sec with seedValid := false }, .error (.errNrc .requestSequenceError))
      else
        ({ sec with seedValid := false, failCount := 0, unlockedLevel := UInt8.ofNat level },
          .ok [0x67, UInt8.ofNat (level + 1)]) := by
  have hlen : (computeKey sec.seed.toList).length = udsCoreSeedLen := by
    rw [computeKey, List.length_mapIdx, Vector.length_toList]
  have hsub : UInt8.ofNat (level + 1) - 1 = UInt8.ofNat level := by
    rw [UInt8.ofNat_add]
    exact UInt8.add_sub_cancel ..
  have heven : ¬(UInt8.ofNat (level + 1) = 0 ∨ UInt8.ofNat (level + 1) &&& 0x01 ≠ 0) := by
    rintro (hzero | hbit)
    · have hval := congrArg UInt8.toNat hzero
      rw [UInt8.toNat_ofNat_of_lt' (show level + 1 < 2 ^ 8 by omega)] at hval
      cases hval
    · exact hbit (even_of_mod hodd)
  have hkey : keyMismatch (computeKey sec.seed.toList) (udsCoreSecComputeKey sec.seed.toList) = 0 :=
    (keyMismatch_eq_zero rfl).mpr rfl
  unfold udsCoreSecSendKey
  rw [if_neg (by rw [hlen]; decide), if_neg heven, if_neg (by decide),
    checkLocked_of_not_locked hlocked]
  simp only [Bool.false_eq_true, if_false]
  unfold verifyKey seedExpired
  rw [hsub, if_neg (by simp [hvalid, hpending])]
  by_cases hold : (env.clock 1).sec - sec.seedTs.sec ≥ udsCoreSeedTimeoutSecs
  · rw [if_pos (by simp [hold]), if_pos hold]
  · rw [if_neg (by simp [hvalid, hold]), if_neg hold, if_neg (by simp [hlen]),
      if_neg (by simp [hkey])]

section Key

variable {env : Env} {key : List UInt8} {sec : UdsCoreSecurity}

theorem serve_key_accepted (sim : EcuSimulator) {resp : List UInt8} (hodd : level % 2 = 1)
    (hlen : key.length = udsCoreSeedLen)
    (h : udsCoreSecSendKey sim.security (UInt8.ofNat (level + 1)) key ecusimMaxPdu env.clock =
      (sec, .ok resp)) :
    serve sim env ([0x27, UInt8.ofNat (level + 1)] ++ key) ecusimMaxPdu .securityAccess =
      ({ sim with
          security := sec
          session := { sim.session with securityLevel := sec.unlockedLevel } }, .ok resp) := by
  simp only [serve, List.cons_append, List.nil_append, List.length_cons, List.getD_cons_succ,
    List.getD_cons_zero, List.drop_succ_cons, List.drop_zero, h]
  rw [if_neg (by omega), if_neg (not_not.mpr (even_of_mod hodd)), if_neg (by omega)]

theorem serve_key_refused (sim : EcuSimulator) {e : UdsCoreError} (hodd : level % 2 = 1)
    (hlen : key.length = udsCoreSeedLen)
    (h : udsCoreSecSendKey sim.security (UInt8.ofNat (level + 1)) key ecusimMaxPdu env.clock =
      (sec, .error e)) :
    serve sim env ([0x27, UInt8.ofNat (level + 1)] ++ key) ecusimMaxPdu .securityAccess =
      ({ sim with security := sec }, .error e) := by
  simp only [serve, List.cons_append, List.nil_append, List.length_cons, List.getD_cons_succ,
    List.getD_cons_zero, List.drop_succ_cons, List.drop_zero, h]
  rw [if_neg (by omega), if_neg (not_not.mpr (even_of_mod hodd)), if_neg (by omega)]

end Key

theorem unlock_of_seed {σ : Type} {transport : Transport σ} {seed : List UInt8} {s s₁ : σ}
    (hlevel : level ≤ 253)
    (hseed : (request transport [0x27, UInt8.ofNat level]).run s =
      (.ok ([0x67, UInt8.ofNat level] ++ seed), s₁)) (hnot : ¬∀ b ∈ seed, b = 0) :
    (unlock transport level).run s =
      (do
        let keyResponse ←
          request transport ([0x27, UInt8.ofNat (level + 1)] ++ computeKey seed)
        if keyResponse.length < 2 ∨ keyResponse.getD 0 0 ≠ 0x67 then
          Py.raise (.udsProtocolError ("Unexpected SA key response: " ++ hex keyResponse))
        else pure true : Py σ Bool).run s₁ := by
  have hall : ¬seed.all (fun b => b = 0) = true := by simpa using hnot
  unfold unlock
  rw [Py.run_bind (bytes_sidSa (by omega) s), Py.run_bind hseed, if_neg (by simp)]
  simp only [List.cons_append, List.nil_append, List.drop_succ_cons, List.drop_zero]
  rw [if_neg hall, Py.run_bind (bytes_sidSa (by omega) s₁)]
  rfl

theorem unlock_outcome (hodd : level % 2 = 1) (hlevel : level ≤ 253) :
    (unlock (ecuTransport envs) level).run ⟨sim, n, []⟩ =
      if sim.security.LockedAt ((envs n).clock 0) then
        (.error (.udsNrcError 0x36 0x27 ""), ⟨sim, n + 1, []⟩)
      else if sim.security.unlockedLevel = UInt8.ofNat level ∨
          ∀ i < udsCoreSeedLen, (envs n).rand i = 0 then
        (.ok true, ⟨{ sim with security := seeded sim.security (envs n) level }, n + 1, []⟩)
      else if ((envs (n + 1)).clock 1).sec - ((envs n).clock 1).sec ≥ udsCoreSeedTimeoutSecs then
        (.error (.udsNrcError 0x24 0x27 ""),
          ⟨{ sim with
              security := { seeded sim.security (envs n) level with seedValid := false } },
            n + 2, []⟩)
      else
        (.ok true,
          ⟨{ sim with
              security := { seeded sim.security (envs n) level with
                seedValid := false
                failCount := 0
                unlockedLevel := UInt8.ofNat level }
              session := { sim.session with securityLevel := UInt8.ofNat level } },
            n + 2, []⟩) := by
  have hsize : 2 + udsCoreSeedLen ≤ ecusimMaxPdu := by decide
  have hserve := serve_seed sim (envs n) hodd
  by_cases hlocked : sim.security.LockedAt ((envs n).clock 0)
  · rw [if_pos hlocked]
    rw [requestSeed_refused hlocked (odd_of_mod hodd) hsize] at hserve
    have hrequest := request_refused envs n .securityAccess hserve (by decide)
    change (request (ecuTransport envs) [0x27, UInt8.ofNat level]).run _ = _ at hrequest
    rw [unlock, Py.run_bind (bytes_sidSa (by omega) _), Py.run_bind_error hrequest]
    rfl
  · rw [if_neg hlocked]
    have hsent := hserve
    rw [requestSeed_sent hlocked (odd_of_mod hodd) hsize] at hsent
    have hrequest := request_served .securityAccess hsent rfl
    change (request (ecuTransport envs) [0x27, UInt8.ofNat level]).run _ = _ at hrequest
    by_cases hzero : sim.security.unlockedLevel = UInt8.ofNat level ∨
        ∀ i < udsCoreSeedLen, (envs n).rand i = 0
    · rw [if_pos hzero]
      exact unlock_of_zero hlevel hrequest ((sentSeed_eq_zero ..).mpr hzero)
    · rw [if_neg hzero]
      obtain ⟨hlevel', hrand⟩ := not_or.mp hzero
      have hseed := seeded_eq sim.security hodd hlocked hlevel'
      have hsentSeed : sentSeed sim.security (UInt8.ofNat level) (envs n).rand =
          (seeded sim.security (envs n) level).seed.toList := by
        rw [sentSeed, if_neg hlevel', hseed]
      have hvalid : (seeded sim.security (envs n) level).seedValid = true := by rw [hseed]
      have hpending : (seeded sim.security (envs n) level).pendingLevel = UInt8.ofNat level := by
        rw [hseed]
      have hts : (seeded sim.security (envs n) level).seedTs = (envs n).clock 1 := by rw [hseed]
      have hfree : (seeded sim.security (envs n) level).locked = false := by
        rw [hseed]
        exact locked_of_checkLocked hlocked
      have hkey := sendKey_computed (envs (n + 1)) hodd hlevel hfree hvalid hpending
      have hnot : ¬∀ b ∈ (seeded sim.security (envs n) level).seed.toList, b = 0 := by
        rw [← hsentSeed]
        exact mt (sentSeed_eq_zero ..).mp hzero
      have hlen : (computeKey (seeded sim.security (envs n) level).seed.toList).length =
          udsCoreSeedLen := by
        rw [computeKey, List.length_mapIdx, Vector.length_toList]
      rw [hsentSeed] at hrequest
      rw [unlock_of_seed hlevel hrequest hnot, ← hts]
      by_cases hold : ((envs (n + 1)).clock 1).sec -
          (seeded sim.security (envs n) level).seedTs.sec ≥ udsCoreSeedTimeoutSecs
      · rw [if_pos hold] at hkey ⊢
        have hrefused := request_refused envs (n + 1) .securityAccess
          (serve_key_refused { sim with security := seeded sim.security (envs n) level }
            hodd hlen hkey) (by decide)
        exact Py.run_bind_error hrefused
      · rw [if_neg hold] at hkey ⊢
        have hserved := request_served .securityAccess
          (serve_key_accepted { sim with security := seeded sim.security (envs n) level }
            hodd hlen hkey) rfl
        exact Py.run_bind hserved

/-! ## The tool -/

/-- The key of this level reaches the simulator in time, or none is needed. -/
def Unlocks (envs : Nat → Env) (sim : EcuSimulator) (n level : Nat) : Prop :=
  ¬sim.security.LockedAt ((envs n).clock 0) ∧
    (sim.security.unlockedLevel = UInt8.ofNat level ∨ (∀ i < udsCoreSeedLen, (envs n).rand i = 0) ∨
      ((envs (n + 1)).clock 1).sec - ((envs n).clock 1).sec < udsCoreSeedTimeoutSecs)

theorem unlock_ends (sim : EcuSimulator) (n : Nat) (hodd : level % 2 = 1) (hlevel : level ≤ 253) :
    ∃ result sim' n', (unlock (ecuTransport envs) level).run ⟨sim, n, []⟩ =
        (result, ⟨sim', n', []⟩) ∧
      sim'.flash = sim.flash ∧ sim'.xfer = sim.xfer ∧
        ((∃ e, result = .error e) ∧ ¬Unlocks envs sim n level ∨
          result = .ok true ∧ Unlocks envs sim n level) := by
  rw [unlock_outcome envs hodd hlevel]
  unfold Unlocks
  by_cases hlocked : sim.security.LockedAt ((envs n).clock 0)
  · rw [if_pos hlocked]
    exact ⟨_, _, _, rfl, rfl, rfl, Or.inl ⟨⟨_, rfl⟩, fun h => h.1 hlocked⟩⟩
  · rw [if_neg hlocked]
    by_cases hzero : sim.security.unlockedLevel = UInt8.ofNat level ∨
        ∀ i < udsCoreSeedLen, (envs n).rand i = 0
    · rw [if_pos hzero]
      refine ⟨_, _, _, rfl, rfl, rfl, Or.inr ⟨rfl, hlocked, ?_⟩⟩
      rcases hzero with hsame | hrand
      · exact Or.inl hsame
      · exact Or.inr (Or.inl hrand)
    · rw [if_neg hzero]
      obtain ⟨hsame, hrand⟩ := not_or.mp hzero
      by_cases hold : ((envs (n + 1)).clock 1).sec - ((envs n).clock 1).sec ≥
          udsCoreSeedTimeoutSecs
      · rw [if_pos hold]
        refine ⟨_, _, _, rfl, rfl, rfl, Or.inl ⟨⟨_, rfl⟩, ?_⟩⟩
        rintro ⟨-, h | h | hage⟩
        · exact hsame h
        · exact hrand h
        · omega
      · rw [if_neg hold]
        exact ⟨_, _, _, rfl, rfl, rfl, Or.inr ⟨rfl, hlocked, Or.inr (Or.inr (by omega))⟩⟩

/-- The simulator after the tool has changed its session. -/
def programming (sim : EcuSimulator) (now : Timespec) : EcuSimulator :=
  { sim with session := (udsCoreDsc sim.session 0x02 ecusimMaxPdu now).1 }

variable {address addrLen sizeLen : Nat} {data : List UInt8}

/-- A simulator that lets the tool unlock it is programmed, and reads back the same; one that
does not keeps its flash. -/
theorem flashDownload_upload_outcome (fuel : Nat) (hodd : level % 2 = 1) (hlevel : level ≤ 253)
    (henc : Encodable address data.length addrLen sizeLen)
    (hprog : Programmable sim.flash.regions address data.length) (hdata : data ≠ [])
    (hidle : sim.xfer.mode = .idle) (hfuel : data.length ≤ fuel) :
    ∃ result sim' n',
      (flashDownload (ecuTransport envs) address data addrLen sizeLen level >>= fun _ =>
        upload (ecuTransport envs) fuel address data.length addrLen sizeLen).run ⟨sim, n, []⟩ =
          (result, ⟨sim', n', []⟩) ∧
      (Unlocks envs (programming sim ((envs n).clock 0)) (n + 1) level →
        result = .ok data ∧ sim'.flash.data =
          (sim.flash.data.fill address data.length udsFlashEraseValue).store address data) ∧
      (¬Unlocks envs (programming sim ((envs n).clock 0)) (n + 1) level →
        (∃ e, result = .error e) ∧ sim'.flash = sim.flash) := by
  have htype : UdsSessionType.ofCode (UInt8.ofNat 0x02) = some .programming := rfl
  have hchange := changeSession_run envs sim n (by decide) htype
  change (changeSession (ecuTransport envs) 0x02).run ⟨sim, n, []⟩ =
    (_, ⟨programming sim ((envs n).clock 0), n + 1, []⟩) at hchange
  obtain ⟨unlocked, sim₁, n₁, hunlock, hflash, hxfer, hend⟩ :=
    unlock_ends envs (programming sim ((envs n).clock 0)) (n + 1) hodd hlevel
  rcases hend with ⟨⟨e, rfl⟩, hnot⟩ | ⟨rfl, hunlocks⟩
  · refine ⟨.error e, sim₁, n₁, ?_, fun h => absurd h hnot, fun _ => ⟨⟨e, rfl⟩, hflash⟩⟩
    apply Py.run_bind_error
    rw [flashDownload, Py.run_bind hchange, Py.run_bind_error hunlock]
  · have hdata' : (sim₁.flash.data.fill address data.length udsFlashEraseValue).store address data =
        (sim.flash.data.fill address data.length udsFlashEraseValue).store address data := by
      rw [hflash]
      rfl
    obtain ⟨n₂, hdownload⟩ := download_run envs (n := n₁) henc (hflash ▸ hprog) hdata
      (hxfer ▸ hidle)
    generalize hsim : ({ sim₁ with
      xfer := udsXferInit
      flash := { sim₁.flash with
        data := (sim₁.flash.data.fill address data.length udsFlashEraseValue).store
          address data } } : EcuSimulator) = sim₂ at hdownload
    have hprog₂ : Programmable sim₂.flash.regions address data.length := by
      rw [← hsim]
      exact hflash ▸ hprog
    have hidle₂ : sim₂.xfer.mode = .idle := by
      rw [← hsim]
      rfl
    have hdata₂ : sim₂.flash.data =
        (sim₁.flash.data.fill address data.length udsFlashEraseValue).store address data := by
      rw [← hsim]
    have hload : sim₂.flash.data.load address data.length = data := by
      rw [hdata₂]
      exact Mem.load_store _ address data
    obtain ⟨n₃, hupload⟩ := upload_run envs (n := n₂) hfuel henc hprog₂ hdata hidle₂ hload
    refine ⟨.ok data, { sim₂ with xfer := udsXferInit }, n₃, ?_,
      fun _ => ⟨rfl, hdata₂.trans hdata'⟩, fun h => absurd hunlocks h⟩
    have htool : (flashDownload (ecuTransport envs) address data addrLen sizeLen level).run
        ⟨sim, n, []⟩ = (.ok (), ⟨sim₂, n₂, []⟩) := by
      rw [flashDownload, Py.run_bind hchange, Py.run_bind hunlock]
      exact hdownload
    rw [Py.run_bind htool]
    exact hupload

end Unlock

end Uds.Tools
