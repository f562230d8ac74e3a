import Uds.Base.Machine
import Uds.Ecusim.Dispatch
/-!
# Runs of the simulator

Runs of requests through `ecusim_dispatch` with the response buffer of
`ecusim_run`, what a positive response tells about the service behind it, and
which part of the state each service can touch.
-/

namespace Uds.Ecusim

open Uds.Base Uds.Core Uds.Bootloader

structure Input where
  env : Env
  req : List UInt8

/-- Requests dispatched at the given seconds, where `rand()` returns zero bytes. -/
def schedule (requests : List (Int × List UInt8)) : List Input :=
  requests.map fun r => ⟨⟨fun _ => ⟨r.1, 0⟩, fun _ => 0⟩, r.2⟩

def ecusimStep (sim : EcuSimulator) (i : Input) : EcuSimulator × List UInt8 :=
  ecusimDispatch sim i.env i.req ecusimMaxPdu

abbrev EcuTurn := Turn EcuSimulator Input (List UInt8)

/-- The request of a turn is for `svc`. -/
def Requests (svc : Service) (x : EcuTurn) : Prop := x.input.req.head? = some svc.sid

/-- The turn answers a request for `svc` positively. -/
def Positive (svc : Service) (x : EcuTurn) : Prop :=
  Requests svc x ∧ x.output.head? = some (svc.sid + 0x40)

instance (svc : Service) (x : EcuTurn) : Decidable (Requests svc x) :=
  inferInstanceAs (Decidable (_ = _))

instance (svc : Service) (x : EcuTurn) : Decidable (Positive svc x) :=
  inferInstanceAs (Decidable (_ ∧ _))

/-- The sub-function byte of the request. -/
def subFn (x : EcuTurn) : UInt8 := x.input.req.getD 1 0

/-! ## The `switch` -/

theorem ofSid_sid (svc : Service) : Service.ofSid svc.sid = some svc := by
  cases svc <;> decide

theorem sid_of_ofSid {sid : UInt8} {svc : Service} (h : Service.ofSid sid = some svc) :
    svc.sid = sid := by
  simpa using List.find?_some h

theorem sid_injective {svc svc' : Service} (h : svc.sid = svc'.sid) : svc = svc' := by
  have heq := ofSid_sid svc
  rw [h, ofSid_sid] at heq
  exact (Option.some.inj heq).symm

theorem ecusimDispatch_sid (sim : EcuSimulator) (env : Env) (svc : Service)
    (args : List UInt8) (respSz : Nat) :
    ecusimDispatch sim env (svc.sid :: args) respSz =
      ((serve sim env (svc.sid :: args) respSz svc).1,
        reply svc.sid (serve sim env (svc.sid :: args) respSz svc).2) := by
  unfold ecusimDispatch
  simp only [ofSid_sid]

theorem ecusimDispatch_unknown {sid : UInt8} (h : Service.ofSid sid = none)
    (sim : EcuSimulator) (env : Env) (args : List UInt8) (respSz : Nat) :
    ecusimDispatch sim env (sid :: args) respSz =
      (sim, [0x7F, sid, UdsNrc.serviceNotSupported.code]) := by
  unfold ecusimDispatch
  simp only [h, buildNrc]

theorem ecusimDispatch_of_head (sim : EcuSimulator) (env : Env) {req : List UInt8}
    {svc : Service} (h : req.head? = some svc.sid) (respSz : Nat) :
    ecusimDispatch sim env req respSz =
      ((serve sim env req respSz svc).1, reply svc.sid (serve sim env req respSz svc).2) := by
  obtain ⟨args, hreq⟩ := List.head?_eq_some_iff.mp h
  rw [hreq, ecusimDispatch_sid]

theorem ecusimStep_of_head (sim : EcuSimulator) {i : Input} {svc : Service}
    (h : i.req.head? = some svc.sid) :
    ecusimStep sim i =
      ((serve sim i.env i.req ecusimMaxPdu svc).1,
        reply svc.sid (serve sim i.env i.req ecusimMaxPdu svc).2) :=
  ecusimDispatch_of_head sim i.env h ecusimMaxPdu

/-- A dispatch runs one service, or leaves the simulator alone. -/
theorem ecusimStep_cases (sim : EcuSimulator) (i : Input) :
    (∃ svc : Service, i.req.head? = some svc.sid) ∨
      ((∀ svc : Service, i.req.head? ≠ some svc.sid) ∧ (ecusimStep sim i).1 = sim) := by
  cases hreq : i.req with
  | nil =>
      apply Or.inr
      constructor
      · simp
      · simp [ecusimStep, ecusimDispatch, hreq]
  | cons sid args =>
      cases hsid : Service.ofSid sid with
      | some svc => exact Or.inl ⟨svc, by simp [sid_of_ofSid hsid]⟩
      | none =>
          apply Or.inr
          constructor
          · intro svc hsvc
            have heq : sid = svc.sid := by simpa using hsvc
            rw [heq, ofSid_sid] at hsid
            cases hsid
          · rw [ecusimStep, hreq, ecusimDispatch_unknown hsid]

theorem reply_error (sid : UInt8) (nrc : UdsNrc) :
    reply sid (.error (.errNrc nrc)) = [0x7F, sid, nrc.code] := by
  rw [reply, if_pos nrc.code_ne_zero, buildNrc]

/-- A negative response names the NRC of a failed service, unless a positive one
starts like it. -/
theorem error_of_reply {sid : UInt8} {r : Response} {nrc : UdsNrc}
    (h : reply sid r = [0x7F, sid, nrc.code])
    (hok : ∀ resp, r = .ok resp → resp.head? ≠ some 0x7F) : r = .error (.errNrc nrc) := by
  cases r with
  | ok resp =>
      have hresp : resp = [0x7F, sid, nrc.code] := h
      exact absurd (by rw [hresp]; rfl) (hok resp rfl)
  | error e =>
      cases e with
      | errNrc nrc' =>
          rw [reply_error] at h
          have hcode : nrc'.code = nrc.code := by simpa using h
          rw [UdsNrc.code_injective hcode]
      | errParam => cases h
      | errBuf => cases h

theorem sid_add_ne (svc : Service) : svc.sid + 0x40 ≠ 0x7F := by
  cases svc <;> decide

theorem ok_of_reply {svc : Service} {r : Response}
    (h : (reply svc.sid r).head? = some (svc.sid + 0x40)) : r = .ok (reply svc.sid r) := by
  cases r with
  | ok resp => rfl
  | error e =>
      cases e with
      | errNrc nrc =>
          rw [reply_error] at h
          exact absurd (by simpa using h.symm) (sid_add_ne svc)
      | errParam => simp [reply] at h
      | errBuf => simp [reply] at h

theorem serve_of_positive {svc : Service} {sim : EcuSimulator} {i : Input}
    (h : Positive svc (turn ecusimStep sim i)) :
    (serve sim i.env i.req ecusimMaxPdu svc).2 = .ok (ecusimStep sim i).2 := by
  obtain ⟨hreq, hresp⟩ := h
  change i.req.head? = some svc.sid at hreq
  change (ecusimStep sim i).2.head? = some (svc.sid + 0x40) at hresp
  rw [ecusimStep_of_head sim hreq] at hresp ⊢
  exact ok_of_reply hresp

theorem positive_of_ok {svc : Service} {sim : EcuSimulator} {i : Input} {resp : List UInt8}
    (hreq : i.req.head? = some svc.sid)
    (h : (serve sim i.env i.req ecusimMaxPdu svc).2 = .ok ((svc.sid + 0x40) :: resp)) :
    Positive svc (turn ecusimStep sim i) := by
  refine ⟨hreq, ?_⟩
  change (ecusimStep sim i).2.head? = _
  rw [ecusimStep_of_head sim hreq, h]
  rfl

/-- A service that fails makes the turn positive for no service. -/
theorem not_positive_of_error {svc : Service} {sim : EcuSimulator} {i : Input}
    {e : UdsCoreError} (hreq : i.req.head? = some svc.sid)
    (h : (serve sim i.env i.req ecusimMaxPdu svc).2 = .error e) (svc' : Service) :
    ¬Positive svc' (turn ecusimStep sim i) := by
  intro hpos
  have hsame : svc = svc' := sid_injective (Option.some.inj (hreq.symm.trans hpos.1))
  have hok := serve_of_positive hpos
  rw [← hsame, h] at hok
  cases hok

/-- A turn is positive for no service but the one it requests. -/
theorem not_positive_of_ne {svc svc' : Service} {sim : EcuSimulator} {i : Input}
    (hreq : i.req.head? = some svc.sid) (hne : svc ≠ svc') :
    ¬Positive svc' (turn ecusimStep sim i) := fun hpos =>
  hne (sid_injective (Option.some.inj (hreq.symm.trans hpos.1)))

/-! ## What a service leaves alone -/

section Frame

variable (sim : EcuSimulator) (env : Env) (req : List UInt8) (respSz : Nat) (svc : Service)

/-- Only 0x27 and 0x11 touch the security state. -/
theorem serve_security (h27 : svc ≠ .securityAccess) (h11 : svc ≠ .ecuReset) :
    (serve sim env req respSz svc).1.security = sim.security := by
  cases svc with
  | securityAccess => contradiction
  | ecuReset => contradiction
  | requestTransferExit => rfl
  | _ => simp only [serve]; split <;> first | rfl | split <;> rfl

/-- A reset either is refused and changes nothing, or starts session and
security afresh. -/
theorem serve_ecuReset_cases :
    (∃ e, serve sim env req respSz .ecuReset = (sim, .error e)) ∨
      serve sim env req respSz .ecuReset =
        ({ sim with
            session := udsCoreSessionInit sim.ecuId none (env.clock 0)
            security := udsCoreSecurityInit }, .ok [0x51, req.getD 1 0]) := by
  simp only [serve, udsSvcEcuReset]
  split_ifs
  · exact Or.inl ⟨_, rfl⟩
  · exact Or.inl ⟨_, rfl⟩
  · exact Or.inl ⟨_, rfl⟩
  · exact Or.inr rfl

theorem serve_ecuReset_response (hlen : 2 ≤ req.length) :
    (serve sim env req respSz .ecuReset).2 = udsSvcEcuReset (req.getD 1 0) respSz := by
  simp only [serve]
  rw [if_neg (by omega)]
  cases udsSvcEcuReset (req.getD 1 0) respSz <;> rfl

/-- A request for a seed is one call of `uds_core_sec_request_seed`. -/
theorem serve_requestSeed (hlen : 2 ≤ req.length) (hodd : req.getD 1 0 &&& 0x01 ≠ 0) :
    serve sim env req respSz .securityAccess =
      ({ sim with
          security := (udsCoreSecRequestSeed sim.security (req.getD 1 0) respSz env.clock
            env.rand).1 },
        (udsCoreSecRequestSeed sim.security (req.getD 1 0) respSz env.clock env.rand).2) := by
  simp only [serve]
  rw [if_neg (by omega), if_pos hodd]

/-- A request with a key is one call of `uds_core_sec_send_key`. -/
theorem serve_sendKey (hlen : 2 + udsCoreSeedLen ≤ req.length)
    (heven : req.getD 1 0 &&& 0x01 = 0) :
    (serve sim env req respSz .securityAccess).1.security =
        (udsCoreSecSendKey sim.security (req.getD 1 0) (req.drop 2) respSz env.clock).1 ∧
      (serve sim env req respSz .securityAccess).2 =
        (udsCoreSecSendKey sim.security (req.getD 1 0) (req.drop 2) respSz env.clock).2 := by
  simp only [serve]
  rw [if_neg (by omega), if_neg (by simpa using heven), if_neg (by omega)]
  cases hout : (udsCoreSecSendKey sim.security (req.getD 1 0) (req.drop 2) respSz
    env.clock).2 <;> exact ⟨rfl, rfl⟩

theorem serve_securityAccess_short (h : req.length < 2 ∨
    (req.getD 1 0 &&& 0x01 = 0 ∧ req.length < 2 + udsCoreSeedLen)) :
    serve sim env req respSz .securityAccess = (sim, badLength) := by
  simp only [serve]
  rcases h with h | ⟨heven, h⟩
  · rw [if_pos h]
  · by_cases hshort : req.length < 2
    · rw [if_pos hshort]
    · rw [if_neg hshort, if_neg (by simpa using heven), if_pos h]

end Frame

/-! ## What a turn does to the security state -/

/-- The security state is left alone, reset, or handed to one call of
`security.c`. -/
theorem security_of_turn (sim : EcuSimulator) (i : Input) :
    ((ecusimStep sim i).1.security = sim.security ∧
        ¬Positive .ecuReset (turn ecusimStep sim i)) ∨
      (Positive .ecuReset (turn ecusimStep sim i) ∧
        (ecusimStep sim i).1.security = udsCoreSecurityInit) ∨
      (Requests .securityAccess (turn ecusimStep sim i) ∧
        (ecusimStep sim i).1.security =
          (udsCoreSecRequestSeed sim.security (i.req.getD 1 0) ecusimMaxPdu i.env.clock
            i.env.rand).1) ∨
      (Requests .securityAccess (turn ecusimStep sim i) ∧
        (ecusimStep sim i).1.security =
          (udsCoreSecSendKey sim.security (i.req.getD 1 0) (i.req.drop 2) ecusimMaxPdu
            i.env.clock).1 ∧
        (ecusimStep sim i).2 = reply 0x27
          (udsCoreSecSendKey sim.security (i.req.getD 1 0) (i.req.drop 2) ecusimMaxPdu
            i.env.clock).2) := by
  rcases ecusimStep_cases sim i with ⟨svc, hreq⟩ | ⟨hno, hsame⟩
  · have hstep := ecusimStep_of_head sim hreq
    by_cases h27 : svc = .securityAccess
    · subst h27
      have hreset : ¬Positive .ecuReset (turn ecusimStep sim i) := fun hpos =>
        absurd (hreq.symm.trans hpos.1) (by decide)
      rw [hstep]
      by_cases hshort : i.req.length < 2 ∨
          (i.req.getD 1 0 &&& 0x01 = 0 ∧ i.req.length < 2 + udsCoreSeedLen)
      · rw [serve_securityAccess_short sim i.env i.req ecusimMaxPdu hshort]
        exact Or.inl ⟨rfl, hreset⟩
      · by_cases heven : i.req.getD 1 0 &&& 0x01 = 0
        · have hkey := serve_sendKey sim i.env i.req ecusimMaxPdu
            (by by_contra hlt; exact hshort (Or.inr ⟨heven, by omega⟩)) heven
          exact Or.inr (Or.inr (Or.inr ⟨hreq, hkey.1, congrArg (reply 0x27) hkey.2⟩))
        · have hseed := serve_requestSeed sim i.env i.req ecusimMaxPdu
            (by by_contra hlt; exact hshort (Or.inl (by omega))) heven
          exact Or.inr (Or.inr (Or.inl ⟨hreq, by rw [hseed]⟩))
    · by_cases h11 : svc = .ecuReset
      · subst h11
        rcases serve_ecuReset_cases sim i.env i.req ecusimMaxPdu with ⟨e, herr⟩ | hok
        · have hnot := not_positive_of_error hreq (congrArg Prod.snd herr) .ecuReset
          exact Or.inl ⟨by rw [hstep, herr], hnot⟩
        · have hpos : Positive .ecuReset (turn ecusimStep sim i) :=
            positive_of_ok hreq (congrArg Prod.snd hok)
          exact Or.inr (Or.inl ⟨hpos, by rw [hstep, hok]⟩)
      · have hsame := serve_security sim i.env i.req ecusimMaxPdu svc h27 h11
        exact Or.inl ⟨by rw [hstep, hsame], not_positive_of_ne hreq h11⟩
  · exact Or.inl ⟨by rw [hsame], fun hpos => hno .ecuReset hpos.1⟩

end Uds.Ecusim
