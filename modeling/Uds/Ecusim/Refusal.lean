import Uds.Ecusim.ResponseFormat
/-!
# Refused requests

A service that fails with an NRC leaves everything as it was, except the
bookkeeping of failed keys and lockouts.  That holds in every state, including
those where a service changes something before it fails for another reason.
-/

namespace Uds.Ecusim

open Uds.Base Uds.Core Uds.Bootloader

/-! ## Services that fail with an NRC -/

theorem dsc_refused {sess : UdsCoreSession} {sessionType : UInt8} {respSize : Nat}
    {now : Timespec} {nrc : UdsNrc}
    (h : (udsCoreDsc sess sessionType respSize now).2 = .error (.errNrc nrc)) :
    (udsCoreDsc sess sessionType respSize now).1 = sess := by
  unfold udsCoreDsc at h ⊢
  cases htype : UdsSessionType.ofCode sessionType with
  | none => rfl
  | some type =>
      simp only [htype] at h
      split at h <;> cases h

theorem testerPresent_refused {sess : UdsCoreSession} {subFn : UInt8} {respSize : Nat}
    {now : Timespec} {nrc : UdsNrc}
    (h : (udsCoreTesterPresent sess subFn respSize now).2 = .error (.errNrc nrc)) :
    (udsCoreTesterPresent sess subFn respSize now).1 = sess := by
  unfold udsCoreTesterPresent at h ⊢
  simp only at h ⊢
  by_cases hsub : subFn &&& 0x7F ≠ 0
  · rw [if_pos hsub]
  · rw [if_neg hsub] at h
    split_ifs at h
    cases h

theorem clearDtc_refused {reg : UdsDtcRegistry} {groupOfDtc : UInt32} {respSize : Nat}
    {nrc : UdsNrc} (h : (udsSvcClearDtc reg groupOfDtc respSize).2 = .error (.errNrc nrc)) :
    (udsSvcClearDtc reg groupOfDtc respSize).1 = reg := by
  unfold udsSvcClearDtc at h ⊢
  by_cases hsize : respSize < 1
  · rw [if_pos hsize]
  · rw [if_neg hsize] at h ⊢
    simp only at h ⊢
    split at h
    · rename_i hmissing
      rw [if_pos hmissing]
      obtain ⟨-, hfound⟩ := Bool.and_eq_true_iff.mp hmissing
      rw [Bool.not_eq_true', List.any_eq_false] at hfound
      calc
        reg.map _ = reg.map id := List.map_congr_left fun e he => if_neg (hfound e he)
        _ = reg := List.map_id reg
    · cases h

theorem requestDownload_refused_state {xfer : UdsXferSession} {flash : UdsFlashMemory}
    {fmt : UInt8} {data : List UInt8} {respSize : Nat} {nrc : UdsNrc}
    (h : (udsSvcRequestDownload xfer flash fmt data respSize).2 = .error (.errNrc nrc)) :
    (udsSvcRequestDownload xfer flash fmt data respSize).1 = (xfer, flash) := by
  rcases requestDownload_cases xfer flash fmt data respSize with
    ⟨e, heq⟩ | ⟨address, memSize, flash', -, -, -, ⟨-, heq⟩ | heq⟩
  · rw [heq]
  · rw [heq] at h
    cases h
  · rw [heq] at h
    cases h

theorem requestUpload_refused_state {xfer : UdsXferSession} {flash : UdsFlashMemory}
    {fmt : UInt8} {data : List UInt8} {respSize : Nat} {nrc : UdsNrc}
    (h : (udsSvcRequestUpload xfer flash fmt data respSize).2 = .error (.errNrc nrc)) :
    (udsSvcRequestUpload xfer flash fmt data respSize).1 = xfer := by
  rcases requestUpload_cases xfer flash fmt data respSize with
    ⟨e, heq⟩ | ⟨address, memSize, -, -, -, heq⟩
  · rw [heq]
  · rw [heq] at h
    cases h

theorem transferData_refused {xfer : UdsXferSession} {flash : UdsFlashMemory} {seq : UInt8}
    {data : List UInt8} {respSize : Nat} {nrc : UdsNrc}
    (h : (udsSvcTransferData xfer flash seq data respSize).2 = .error (.errNrc nrc)) :
    (udsSvcTransferData xfer flash seq data respSize).1 = (xfer, flash) := by
  rcases transferData_cases xfer flash seq data respSize with
    ⟨e, heq⟩ | ⟨flash', -, -, -, -, ⟨-, heq⟩ | heq⟩ | ⟨bytes, -, -, -, -, heq⟩
  · rw [heq]
  · rw [heq] at h
    cases h
  · rw [heq] at h
    cases h
  · rw [heq] at h
    cases h

theorem transferExit_refused {xfer : UdsXferSession} {respSize : Nat} {nrc : UdsNrc}
    (h : (udsSvcTransferExit xfer respSize).2 = .error (.errNrc nrc)) :
    (udsSvcTransferExit xfer respSize).1 = xfer := by
  rcases transferExit_cases xfer respSize with ⟨e, heq⟩ | ⟨-, heq⟩
  · rw [heq]
  · rw [heq] at h
    cases h

/-! ## The dispatcher -/

section Serve

variable {sim : EcuSimulator} {env : Env} {req : List UInt8} {respSz : Nat} {nrc : UdsNrc}

theorem unchanged_after_check {c : Prop} [Decidable c] {r : Response}
    {out : EcuSimulator × Response} (h : (if c then (sim, r) else out).2 = .error (.errNrc nrc))
    (hout : out.2 = .error (.errNrc nrc) → out.1 = sim) :
    (if c then (sim, r) else out).1 = sim := by
  by_cases hc : c
  · rw [if_pos hc]
  · rw [if_neg hc] at h ⊢
    exact hout h

theorem serve_refused {svc : Service} (h27 : svc ≠ .securityAccess)
    (h : (serve sim env req respSz svc).2 = .error (.errNrc nrc)) :
    (serve sim env req respSz svc).1 = sim := by
  cases svc with
  | securityAccess => contradiction
  | diagnosticSessionControl =>
      simp only [serve] at h ⊢
      refine unchanged_after_check h fun hout => ?_
      rw [dsc_refused hout]
  | testerPresent =>
      simp only [serve] at h ⊢
      refine unchanged_after_check h fun hout => ?_
      rw [testerPresent_refused hout]
  | readDataByIdentifier =>
      simp only [serve]
      split
      · rfl
      · split <;> rfl
  | writeDataByIdentifier =>
      simp only [serve] at h ⊢
      refine unchanged_after_check h fun hout => ?_
      rw [udsSvcWriteDid_error hout]
  | ecuReset =>
      rcases serve_ecuReset_cases sim env req respSz with ⟨e, heq⟩ | heq
      · rw [heq]
      · rw [heq] at h
        cases h
  | communicationControl =>
      simp only [serve]
      split <;> rfl
  | clearDiagnosticInformation =>
      simp only [serve] at h ⊢
      refine unchanged_after_check h fun hout => ?_
      rw [clearDtc_refused hout]
  | readDtcInformation =>
      simp only [serve]
      split
      · rfl
      · split <;> rfl
  | requestDownload =>
      simp only [serve] at h ⊢
      refine unchanged_after_check h fun hout => ?_
      rw [requestDownload_refused_state hout]
  | requestUpload =>
      simp only [serve] at h ⊢
      refine unchanged_after_check h fun hout => ?_
      rw [requestUpload_refused_state hout]
  | transferData =>
      simp only [serve] at h ⊢
      refine unchanged_after_check h fun hout => ?_
      rw [transferData_refused hout]
  | requestTransferExit =>
      simp only [serve] at h ⊢
      rw [transferExit_refused h]

theorem serve_securityAccess_refused
    (h : (serve sim env req respSz .securityAccess).2 = .error (.errNrc nrc)) :
    (serve sim env req respSz .securityAccess).1 =
      { sim with security := (serve sim env req respSz .securityAccess).1.security } := by
  simp only [serve] at h ⊢
  split
  · rfl
  · split
    · rfl
    · split
      · rfl
      · rename_i hlong heven hkey
        rw [if_neg hlong, if_neg heven, if_neg hkey] at h
        split
        · rename_i resp hout
          rw [hout] at h
          cases h
        · rfl

end Serve

theorem serve_of_negative {sim : EcuSimulator} {env : Env} {svc : Service} {args : List UInt8}
    {respSz : Nat} {sid nrc : UInt8}
    (h : reply svc.sid (serve sim env (svc.sid :: args) respSz svc).2 = [0x7F, sid, nrc]) :
    sid = svc.sid ∧
      ∃ nrc' : UdsNrc, (serve sim env (svc.sid :: args) respSz svc).2 = .error (.errNrc nrc') := by
  have hne : reply svc.sid (serve sim env (svc.sid :: args) respSz svc).2 ≠ [] := by
    rw [h]
    exact List.cons_ne_nil _ _
  rcases reply_cases hne with ⟨nrc', herr, hreply⟩ | hok
  · rw [h] at hreply
    have hsid : sid = svc.sid := by
      simp only [List.cons.injEq] at hreply
      exact hreply.2.1
    exact ⟨hsid, nrc', herr⟩
  · -- a positive response starts with the identifier plus 0x40
    have hecho := echoing_serve sim env respSz svc args
    rw [hok, h] at hecho
    obtain ⟨⟨params, more, rest, -, -, hresp⟩, -⟩ := hecho (List.cons_ne_nil _ _)
    exact absurd (List.cons_eq_cons.mp hresp).1.symm (sid_add_ne svc)

/-- From any state, a negative response leaves session, registries, flash and
transfer session as they were; security bookkeeping may change, and only for
service 0x27. -/
theorem ecusimDispatch_negative (sim : EcuSimulator) (env : Env) (req : List UInt8)
    {sid nrc : UInt8} (h : (ecusimDispatch sim env req ecusimMaxPdu).2 = [0x7F, sid, nrc]) :
    (ecusimDispatch sim env req ecusimMaxPdu).1 =
        { sim with security := (ecusimDispatch sim env req ecusimMaxPdu).1.security } ∧
      (sid ≠ 0x27 → (ecusimDispatch sim env req ecusimMaxPdu).1 = sim) := by
  cases req with
  | nil => cases h
  | cons sid' args =>
      cases hsvc : Service.ofSid sid' with
      | none =>
          rw [ecusimDispatch_unknown hsvc]
          exact ⟨rfl, fun _ => rfl⟩
      | some svc =>
          obtain rfl := sid_of_ofSid hsvc
          rw [ecusimDispatch_sid] at h ⊢
          obtain ⟨rfl, nrc', herr⟩ := serve_of_negative h
          by_cases h27 : svc = .securityAccess
          · subst h27
            exact ⟨serve_securityAccess_refused herr, fun hne => absurd rfl hne⟩
          · have hsame := serve_refused h27 herr
            exact ⟨by simp only [hsame], fun _ => hsame⟩

/-- A Request Download for a range past the end of the flash. -/
theorem ecusimDispatch_negative_outOfRange :
    (ecusimDispatch (ecusimInit 1 .zero) ⟨fun _ => .zero, fun _ => 0⟩
        [0x34, 0x00, 0x44, 0x00, 0x04, 0x00, 0x00, 0x00, 0x00, 0x00, 0x01] ecusimMaxPdu).1 =
        { ecusimInit 1 .zero with
          security := (ecusimDispatch (ecusimInit 1 .zero) ⟨fun _ => .zero, fun _ => 0⟩
            [0x34, 0x00, 0x44, 0x00, 0x04, 0x00, 0x00, 0x00, 0x00, 0x00, 0x01]
              ecusimMaxPdu).1.security } ∧
      ((0x34 : UInt8) ≠ 0x27 →
        (ecusimDispatch (ecusimInit 1 .zero) ⟨fun _ => .zero, fun _ => 0⟩
          [0x34, 0x00, 0x44, 0x00, 0x04, 0x00, 0x00, 0x00, 0x00, 0x00, 0x01] ecusimMaxPdu).1 =
            ecusimInit 1 .zero) :=
  ecusimDispatch_negative _ _ _ (show _ = [0x7F, 0x34, 0x31] from rfl)

end Uds.Ecusim
