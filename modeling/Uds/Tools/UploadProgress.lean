import Mathlib.Tactic.ByContra
import Uds.Tools.Flash
/-!
# Progress of an upload

The loop of `upload` goes on until enough bytes are there, and a positive response may hold
none.  The number of blocks it asks for is therefore up to the ECU.  Here the loop runs
without a bound: it ends after as many requests as a finite derivation shows, and not at all
where there is none.
-/

namespace Uds.Tools

open Uds.Base

section Ends

variable {σ : Type} (transport : Transport σ)

/-- The loop of `upload` returns or raises after exactly `k` requests. -/
inductive LoopEnds (length : Nat) : List UInt8 → Nat → σ → Nat → Prop where
  | done {result : List UInt8} {sn : Nat} {s : σ} (hdone : length ≤ result.length) :
      LoopEnds length result sn s 0
  | raises {result : List UInt8} {sn : Nat} {s s' : σ} {e : PyError}
      (hmore : result.length < length)
      (hrun : (transferData transport sn []).run s = (.error e, s')) :
      LoopEnds length result sn s 1
  | next {result chunk : List UInt8} {sn k : Nat} {s s' : σ} (hmore : result.length < length)
      (hrun : (transferData transport sn []).run s = (.ok chunk, s'))
      (hrest : LoopEnds length (result ++ chunk) (nextBlockSn sn) s' k) :
      LoopEnds length result sn s (k + 1)

/-- `upload` returns or raises after exactly `k` TransferData requests; the exit request after
the loop does one or the other. -/
def UploadEnds (address length addrLen sizeLen : Nat) (s : σ) (k : Nat) : Prop :=
  match (requestUpload transport address length addrLen sizeLen).run s with
  | (.ok _, s') => LoopEnds transport length [] 1 s' k
  | (.error _, _) => k = 0

/-- The ECU answers TransferData requests with the counters from `sn` on positively. -/
inductive Answered : Nat → σ → List (List UInt8) → Prop where
  | nil (sn : Nat) (s : σ) : Answered sn s []
  | cons {sn : Nat} {s s' : σ} {response : List UInt8} {responses : List (List UInt8)}
      (hrun : (request transport [0x36, UInt8.ofNat (sn &&& 0xFF)]).run s = (.ok response, s'))
      (hpositive : response.head? = some 0x76) (hrest : Answered (nextBlockSn sn) s' responses) :
      Answered sn s (response :: responses)

/-- The bytes of content in the responses to TransferData requests. -/
def contentLength (responses : List (List UInt8)) : Nat :=
  (responses.map fun response => (response.drop 2).length).sum

/-- The ECU accepts the upload and answers the first `n` requests positively, but with fewer
than `length` bytes of content together. -/
def Starved (address length addrLen sizeLen : Nat) (s : σ) (n : Nat) : Prop :=
  ∃ size s' responses,
    (requestUpload transport address length addrLen sizeLen).run s = (.ok size, s') ∧
      Answered transport 1 s' responses ∧ responses.length = n ∧
        contentLength responses < length

end Ends

section Progress

variable {σ : Type} {transport : Transport σ} {length : Nat}

theorem transferData_ok_iff {sn : Nat} {s s' : σ} {chunk : List UInt8} :
    (transferData transport sn []).run s = (.ok chunk, s') ↔
      ∃ response, (request transport [0x36, UInt8.ofNat (sn &&& 0xFF)]).run s =
        (.ok response, s') ∧ response.head? = some 0x76 ∧ chunk = response.drop 2 := by
  unfold transferData
  rw [List.append_nil]
  constructor
  · intro h
    obtain ⟨response, s₁, hrequest, hrest⟩ := Py.run_bind_ok h
    by_cases hpositive : response.head? = some 0x76
    · rw [if_neg (by simpa using hpositive), Py.run_pure] at hrest
      obtain ⟨hchunk, rfl⟩ := Prod.mk.inj hrest
      exact ⟨response, hrequest, hpositive, (Except.ok.inj hchunk).symm⟩
    · rw [if_pos hpositive] at hrest
      exact absurd hrest Py.run_raise_ne
  · rintro ⟨response, hrequest, hpositive, rfl⟩
    rw [Py.run_bind hrequest, if_neg (by simpa using hpositive), Py.run_pure]

theorem contentLength_cons (response : List UInt8) (responses : List (List UInt8)) :
    contentLength (response :: responses) =
      (response.drop 2).length + contentLength responses := by
  unfold contentLength
  rw [List.map_cons, List.sum_cons]

theorem loopEnds_next_iff {result chunk : List UInt8} {sn n : Nat} {s s' : σ}
    (hmore : result.length < length)
    (hrun : (transferData transport sn []).run s = (.ok chunk, s')) :
    (∃ k ≤ n + 1, LoopEnds transport length result sn s k) ↔
      ∃ k ≤ n, LoopEnds transport length (result ++ chunk) (nextBlockSn sn) s' k := by
  constructor
  · rintro ⟨k, hk, hends⟩
    cases hends with
    | done hdone => omega
    | raises _ hrun' =>
        rw [hrun] at hrun'
        cases hrun'
    | next _ hrun' hrest =>
        rw [hrun] at hrun'
        cases hrun'
        exact ⟨_, by omega, hrest⟩
  · rintro ⟨k, hk, hends⟩
    exact ⟨k + 1, by omega, .next hmore hrun hends⟩

theorem answered_cons_iff {sn : Nat} {s s' : σ} {chunk response : List UInt8}
    {responses : List (List UInt8)}
    (hrun : (transferData transport sn []).run s = (.ok chunk, s')) :
    Answered transport sn s (response :: responses) ↔
      (request transport [0x36, UInt8.ofNat (sn &&& 0xFF)]).run s = (.ok response, s') ∧
        response.head? = some 0x76 ∧ chunk = response.drop 2 ∧
          Answered transport (nextBlockSn sn) s' responses := by
  constructor
  · intro h
    cases h with
    | cons hrequest hpositive hrest =>
        rw [transferData_ok_iff.mpr ⟨_, hrequest, hpositive, rfl⟩] at hrun
        cases hrun
        exact ⟨hrequest, hpositive, rfl, hrest⟩
  · exact fun h => .cons h.1 h.2.1 h.2.2.2

theorem not_answered_of_error {sn : Nat} {s s' : σ} {e : PyError}
    (hrun : (transferData transport sn []).run s = (.error e, s')) {response : List UInt8}
    {responses : List (List UInt8)} : ¬Answered transport sn s (response :: responses) := by
  intro h
  cases h with
  | cons hrequest hpositive _ =>
      rw [transferData_ok_iff.mpr ⟨_, hrequest, hpositive, rfl⟩] at hrun
      cases hrun

theorem missing_succ_iff {result chunk : List UInt8} {sn n : Nat} {s s' : σ}
    (hrun : (transferData transport sn []).run s = (.ok chunk, s')) :
    (∃ responses, Answered transport sn s responses ∧ responses.length = n + 1 ∧
        result.length + contentLength responses < length) ↔
      ∃ responses, Answered transport (nextBlockSn sn) s' responses ∧ responses.length = n ∧
        (result ++ chunk).length + contentLength responses < length := by
  constructor
  · rintro ⟨responses, hanswered, hlen, hmissing⟩
    cases responses with
    | nil => cases hlen
    | cons response responses =>
        obtain ⟨-, -, rfl, hrest⟩ := (answered_cons_iff hrun).mp hanswered
        refine ⟨responses, hrest, Nat.succ.inj hlen, ?_⟩
        rw [contentLength_cons] at hmissing
        rw [List.length_append]
        omega
  · rintro ⟨responses, hanswered, hlen, hmissing⟩
    obtain ⟨response, hrequest, hpositive, rfl⟩ := transferData_ok_iff.mp hrun
    have hall := (answered_cons_iff hrun).mpr ⟨hrequest, hpositive, rfl, hanswered⟩
    refine ⟨response :: responses, hall, congrArg (· + 1) hlen, ?_⟩
    rw [List.length_append] at hmissing
    rw [contentLength_cons]
    omega

/-- The loop ends within `n` requests unless `n` positive responses leave bytes missing.
Induction on `n`: a response either ends the loop or leaves it with what was missing less the
content of the response. -/
theorem loopEnds_within_iff (n : Nat) (result : List UInt8) (sn : Nat) (s : σ) :
    (∃ k ≤ n, LoopEnds transport length result sn s k) ↔
      ¬∃ responses, Answered transport sn s responses ∧ responses.length = n ∧
        result.length + contentLength responses < length := by
  induction n generalizing result sn s with
  | zero =>
      constructor
      · rintro ⟨k, hk, hends⟩ ⟨responses, -, hnil, hmissing⟩
        rw [List.length_eq_zero_iff.mp hnil, contentLength, List.map_nil, List.sum_nil] at hmissing
        have hzero : k = 0 := by omega
        subst hzero
        cases hends with
        | done hdone => omega
      · intro hnone
        refine ⟨0, le_rfl, .done ?_⟩
        by_contra hmissing
        exact hnone ⟨[], .nil sn s, rfl, Nat.lt_of_not_le hmissing⟩
  | succ n ih =>
      by_cases hmore : result.length < length
      · cases hrun : (transferData transport sn []).run s with
        | mk out s' =>
            cases out with
            | error e =>
                refine iff_of_true ⟨1, by omega, .raises hmore hrun⟩ ?_
                rintro ⟨responses, hanswered, hlen, -⟩
                cases responses with
                | nil => cases hlen
                | cons => exact not_answered_of_error hrun hanswered
            | ok chunk => rw [loopEnds_next_iff hmore hrun, missing_succ_iff hrun, ih]
      · refine iff_of_true ⟨0, by omega, .done (Nat.le_of_not_lt hmore)⟩ ?_
        rintro ⟨responses, -, -, hmissing⟩
        omega

theorem uploadEnds_within_iff (address addrLen sizeLen n : Nat) (s : σ) :
    (∃ k ≤ n, UploadEnds transport address length addrLen sizeLen s k) ↔
      ¬Starved transport address length addrLen sizeLen s n := by
  unfold UploadEnds Starved
  cases hrun : (requestUpload transport address length addrLen sizeLen).run s with
  | mk out s' =>
      cases out with
      | error e =>
          refine iff_of_true ⟨0, Nat.zero_le _, rfl⟩ ?_
          rintro ⟨size, s₁, responses, hok, -⟩
          cases hok
      | ok size =>
          simp only
          rw [loopEnds_within_iff]
          apply not_congr
          constructor
          · rintro ⟨responses, hanswered, hlen, hmissing⟩
            rw [List.length_nil, Nat.zero_add] at hmissing
            exact ⟨size, s', responses, rfl, hanswered, hlen, hmissing⟩
          · rintro ⟨size', s₁, responses, hok, hanswered, hlen, hmissing⟩
            cases hok
            refine ⟨responses, hanswered, hlen, ?_⟩
            rwa [List.length_nil, Nat.zero_add]

/-! ## The bounded loop -/

theorem uploadLoop_of_ends {result : List UInt8} {sn k : Nat} {s : σ}
    (h : LoopEnds transport length result sn s k) {fuel : Nat} (hfuel : k ≤ fuel) :
    (uploadLoop transport length fuel result sn).run s =
      (uploadLoop transport length k result sn).run s := by
  induction h generalizing fuel with
  | done hdone =>
      cases fuel with
      | zero => rfl
      | succ fuel =>
          rw [uploadLoop, if_neg (by omega), uploadLoop, if_neg (by omega)]
  | raises hmore hrun =>
      cases fuel with
      | zero => omega
      | succ fuel =>
          rw [uploadLoop, if_pos hmore, Py.run_bind_error hrun, uploadLoop, if_pos hmore,
            Py.run_bind_error hrun]
  | next hmore hrun hrest ih =>
      cases fuel with
      | zero => omega
      | succ fuel =>
          rw [uploadLoop, if_pos hmore, Py.run_bind hrun, uploadLoop, if_pos hmore,
            Py.run_bind hrun]
          exact ih (by omega)

theorem uploadLoop_outOfFuel {fuel : Nat} {result : List UInt8} {sn : Nat} {s : σ}
    (h : ¬∃ k ≤ fuel, LoopEnds transport length result sn s k) :
    ((uploadLoop transport length fuel result sn).run s).1 = .error .outOfFuel := by
  induction fuel generalizing result sn s with
  | zero =>
      have hmore : result.length < length := by
        by_contra hdone
        exact h ⟨0, le_rfl, .done (Nat.le_of_not_lt hdone)⟩
      rw [uploadLoop, if_pos hmore]
      rfl
  | succ fuel ih =>
      have hmore : result.length < length := by
        by_contra hdone
        exact h ⟨0, by omega, .done (Nat.le_of_not_lt hdone)⟩
      cases hrun : (transferData transport sn []).run s with
      | mk out s' =>
          cases out with
          | error e => exact absurd ⟨1, by omega, .raises hmore hrun⟩ h
          | ok chunk =>
              rw [loopEnds_next_iff hmore hrun] at h
              rw [uploadLoop, if_pos hmore, Py.run_bind hrun]
              exact ih h

/-- An upload that is not starved does not depend on the bound of its loop. -/
theorem upload_bounded {address addrLen sizeLen n fuel : Nat} {s : σ}
    (h : ¬Starved transport address length addrLen sizeLen s n) (hfuel : n ≤ fuel) :
    (upload transport fuel address length addrLen sizeLen).run s =
      (upload transport n address length addrLen sizeLen).run s := by
  obtain ⟨k, hk, hends⟩ := (uploadEnds_within_iff address addrLen sizeLen n s).mpr h
  unfold UploadEnds at hends
  unfold upload
  cases hrun : (requestUpload transport address length addrLen sizeLen).run s with
  | mk out s' =>
      rw [hrun] at hends
      cases out with
      | error e => rw [Py.run_bind_error hrun, Py.run_bind_error hrun]
      | ok size =>
          have hlong := uploadLoop_of_ends hends (Nat.le_trans hk hfuel)
          have hshort := uploadLoop_of_ends hends hk
          rw [Py.run_bind hrun, Py.run_bind hrun]
          exact Py.run_bind_congr (hlong.trans hshort.symm)

/-- A starved upload uses its bound up. -/
theorem upload_outOfFuel {address addrLen sizeLen n : Nat} {s : σ}
    (h : Starved transport address length addrLen sizeLen s n) :
    ((upload transport n address length addrLen sizeLen).run s).1 = .error .outOfFuel := by
  obtain ⟨size, s', responses, hrun, hanswered, hlen, hmissing⟩ := h
  have hends : ¬∃ k ≤ n, LoopEnds transport length [] 1 s' k := by
    rw [loopEnds_within_iff]
    intro hnone
    refine hnone ⟨responses, hanswered, hlen, ?_⟩
    rwa [List.length_nil, Nat.zero_add]
  have hout := uploadLoop_outOfFuel hends
  unfold upload
  rw [Py.run_bind hrun]
  cases hloop : (uploadLoop transport length n [] 1).run s' with
  | mk out s'' =>
      rw [hloop] at hout
      cases hout
      rw [Py.run_bind_error hloop]

theorem loop_endless {result : List UInt8} {sn : Nat} {s : σ} (I : Nat → σ → Prop)
    (hempty : ∀ sn s, I sn s → ∃ s', (transferData transport sn []).run s = (.ok [], s') ∧
      I (nextBlockSn sn) s') (h : I sn s) (hmore : result.length < length) (k : Nat) :
    ¬LoopEnds transport length result sn s k := by
  intro hends
  induction hends with
  | done hdone => omega
  | raises _ hrun =>
      obtain ⟨s', hrun', -⟩ := hempty _ _ h
      rw [hrun] at hrun'
      cases hrun'
  | next _ hrun _ ih =>
      obtain ⟨s', hrun', hnext⟩ := hempty _ _ h
      rw [hrun] at hrun'
      cases hrun'
      exact ih hnext (by rwa [List.append_nil])

end Progress

/-- An upload ends within `length` TransferData requests exactly if it is not starved. -/
theorem upload_progress_iff {σ : Type} (transport : Transport σ)
    (address length addrLen sizeLen : Nat) (s : σ) :
    (∃ k ≤ length, UploadEnds transport address length addrLen sizeLen s k) ↔
      ¬Starved transport address length addrLen sizeLen s length :=
  uploadEnds_within_iff address addrLen sizeLen length s

/-! ## An ECU that sends no content -/

/-- It remembers the last request, accepts an upload and answers every block with its counter. -/
def emptyBlocks : Transport (List UInt8) where
  send data := ⟨fun _ => (.ok (), data)⟩
  recv := ⟨fun last => (.ok (if last.head? = some 0x35 then [0x75, 0x10, 0x11]
    else [0x76, last.getD 1 0]), last)⟩

theorem transferData_emptyBlocks (sn : Nat) (last : List UInt8) :
    ∃ last', (transferData emptyBlocks sn []).run last = (.ok [], last') :=
  ⟨_, transferData_ok_iff.mpr ⟨_, rfl, rfl, rfl⟩⟩

/-- An upload of one byte from it does not end after any number of requests. -/
theorem upload_endless :
    ¬∀ (transport : Transport (List UInt8)) (address length addrLen sizeLen : Nat)
      (s : List UInt8), ∃ k ≤ length, UploadEnds transport address length addrLen sizeLen s k := by
  intro hclaim
  obtain ⟨k, -, hends⟩ := hclaim emptyBlocks 0x08010000 1 4 2 []
  refine loop_endless (fun _ _ => True) ?_ trivial Nat.one_pos k hends
  intro sn last _
  obtain ⟨last', hrun⟩ := transferData_emptyBlocks sn last
  exact ⟨last', hrun, trivial⟩

end Uds.Tools
