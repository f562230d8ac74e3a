import Mathlib.Tactic.SplitIfs
import Uds.Core.Nrc
/-!
# Data services

The DID registry and services 0x22, 0x2E, 0x11 and 0x28 (`data.c`).  An entry
holds its data buffer, whose length is the registered `data_len`.
-/

namespace Uds.Core

structure UdsDidEntry where
  didId : UInt16
  data : List UInt8
  writable : Bool
  minSession : UInt8
  minWriteSession : UInt8
  requiresSecurity : Bool
  deriving DecidableEq

abbrev UdsDidRegistry := List UdsDidEntry

def didFind (reg : UdsDidRegistry) (didId : UInt16) : Option UdsDidEntry :=
  reg.find? fun e => e.didId = didId

/-- Overwrite the buffer of the entry that `did_find_mut` returns. -/
def didStore (data : List UInt8) (didId : UInt16) : UdsDidRegistry → UdsDidRegistry
  | [] => []
  | e :: reg =>
    if e.didId = didId then { e with data := data } :: reg else e :: didStore data didId reg

/-- The loop of `uds_svc_read_did`; `resp` are the bytes written so far. -/
def readDidLoop (reg : UdsDidRegistry) (respSize : Nat) : List UInt16 → List UInt8 → Response
  | [], resp => .ok resp
  | did :: didList, resp =>
    match didFind reg did with
    | none => .error (.errNrc .requestOutOfRange)
    | some entry =>
      if resp.length + (2 + entry.data.length) > respSize then .error .errBuf
      else
        readDidLoop reg respSize didList
          (resp ++ [(did >>> 8).toUInt8, (did &&& 0xFF).toUInt8] ++ entry.data)

def udsSvcReadDid (reg : UdsDidRegistry) (didList : List UInt16) (respSize : Nat) : Response :=
  if didList.length = 0 then .error .errParam
  else if respSize < 1 then .error .errBuf
  else readDidLoop reg respSize didList [0x62]

def udsSvcWriteDid (reg : UdsDidRegistry) (didId : UInt16) (data : List UInt8)
    (sessionType : UInt8) (securityUnlocked : Bool) (respSize : Nat) :
    UdsDidRegistry × Response :=
  match didFind reg didId with
  | none => (reg, .error (.errNrc .requestOutOfRange))
  | some entry =>
    if !entry.writable then (reg, .error (.errNrc .requestOutOfRange))
    else if sessionType < entry.minWriteSession then (reg, .error (.errNrc .requestOutOfRange))
    else if entry.requiresSecurity && !securityUnlocked then
      (reg, .error (.errNrc .securityAccessDenied))
    else if data.length ≠ entry.data.length then
      (reg, .error (.errNrc .incorrectMsgLenOrFormat))
    else if respSize < 3 then (reg, .error .errBuf)
    else
      (didStore data didId reg,
        .ok [0x6E, (didId >>> 8).toUInt8, (didId &&& 0xFF).toUInt8])

/-- An accepted write passes every check, and stores the data. -/
theorem udsSvcWriteDid_ok {reg : UdsDidRegistry} {didId : UInt16} {data resp : List UInt8}
    {sessionType : UInt8} {securityUnlocked : Bool} {respSize : Nat}
    (h : (udsSvcWriteDid reg didId data sessionType securityUnlocked respSize).2 = .ok resp) :
    ∃ entry, didFind reg didId = some entry ∧ entry.writable = true ∧
      entry.minWriteSession ≤ sessionType ∧
        (entry.requiresSecurity = true → securityUnlocked = true) ∧
          data.length = entry.data.length ∧
            (udsSvcWriteDid reg didId data sessionType securityUnlocked respSize).1 =
              didStore data didId reg := by
  unfold udsSvcWriteDid at h ⊢
  cases hfind : didFind reg didId with
  | none => simp [hfind] at h
  | some entry =>
      simp only [hfind] at h ⊢
      refine ⟨entry, rfl, ?_⟩
      split_ifs at h ⊢ with hw hs hsec hlen
      refine ⟨by simpa using hw, UInt8.not_lt.mp hs, ?_, by simpa using hlen, rfl⟩
      intro hreq
      simpa [hreq] using hsec

theorem udsSvcWriteDid_error {reg : UdsDidRegistry} {didId : UInt16} {data : List UInt8}
    {sessionType : UInt8} {securityUnlocked : Bool} {respSize : Nat} {e : UdsCoreError}
    (h : (udsSvcWriteDid reg didId data sessionType securityUnlocked respSize).2 = .error e) :
    (udsSvcWriteDid reg didId data sessionType securityUnlocked respSize).1 = reg := by
  unfold udsSvcWriteDid at h ⊢
  cases hfind : didFind reg didId with
  | none => rfl
  | some entry =>
      simp only [hfind] at h ⊢
      split_ifs at h ⊢ <;> rfl

theorem mem_of_didFind {reg : UdsDidRegistry} {didId : UInt16} {entry : UdsDidEntry}
    (h : didFind reg didId = some entry) : entry ∈ reg :=
  List.mem_of_find?_eq_some h

/-- What holds of every entry, whatever its data, holds after a store. -/
theorem forall_didStore {p : UdsDidEntry → Prop} {data : List UInt8} {didId : UInt16}
    {reg : UdsDidRegistry} (hdata : ∀ e, p e → p { e with data := data }) (h : ∀ e ∈ reg, p e) :
    ∀ e ∈ didStore data didId reg, p e := by
  induction reg with
  | nil => exact h
  | cons e reg ih =>
      obtain ⟨hhead, htail⟩ := List.forall_mem_cons.mp h
      unfold didStore
      by_cases hid : e.didId = didId
      · rw [if_pos hid]
        exact List.forall_mem_cons.mpr ⟨hdata e hhead, htail⟩
      · rw [if_neg hid]
        exact List.forall_mem_cons.mpr ⟨hhead, ih htail⟩

def udsSvcEcuReset (resetType : UInt8) (respSize : Nat) : Response :=
  if resetType < 0x01 ∨ resetType > 0x03 then .error (.errNrc .subFunctionNotSupported)
  else if respSize < 2 then .error .errBuf
  else .ok [0x51, resetType]

def udsSvcCommControl (controlType commType : UInt8) (respSize : Nat) : Response :=
  if controlType > 0x03 then .error (.errNrc .subFunctionNotSupported)
  else if commType = 0x00 then .error (.errNrc .requestOutOfRange)
  else if respSize < 2 then .error .errBuf
  else .ok [0x68, controlType]

end Uds.Core
