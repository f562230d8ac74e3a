import Uds.Base.Machine
import Uds.Bootloader.FlashServices
/-!
# Retransmitted blocks

A tester that loses a positive response sends the block again.  A transfer session keeps
only the counter it waits for next, so `uds_svc_transfer_data` takes the repeat for a block
out of order: it is refused with `wrongBlockSequenceCounter`, in a download and in an upload,
and nothing changes.
-/

namespace Uds.Bootloader

open Uds.Base Uds.Core

theorem nextBlockSeq_ne (seq : UInt8) : nextBlockSeq seq ≠ seq := by
  unfold nextBlockSeq
  by_cases hwrap : seq = 0xFF
  · rw [if_pos hwrap, hwrap]
    decide
  · rw [if_neg hwrap]
    intro hsame
    have hnat := congrArg UInt8.toNat hsame
    have hlt := seq.toNat_lt
    rw [UInt8.toNat_add] at hnat
    change (seq.toNat + 1) % 256 = seq.toNat at hnat
    omega

section Blocks

variable {xfer : UdsXferSession} {flash : UdsFlashMemory} {seq : UInt8} {data : List UInt8}
  {respSize : Nat} {resp : List UInt8}

theorem transferData_of_wrong_counter (hactive : xfer.mode ≠ .idle) (hseq : seq ≠ xfer.blockSeq) :
    udsSvcTransferData xfer flash seq data respSize =
      ((xfer, flash), .error (.errNrc .wrongBlockSequenceCounter)) := by
  unfold udsSvcTransferData
  rw [if_neg hactive, if_pos hseq]

theorem transferData_accepted
    (haccepted : (udsSvcTransferData xfer flash seq data respSize).2 = .ok resp) :
    seq = xfer.blockSeq ∧ xfer.mode ≠ .idle ∧
      (udsSvcTransferData xfer flash seq data respSize).1.1.mode = xfer.mode ∧
        (udsSvcTransferData xfer flash seq data respSize).1.1.blockSeq = nextBlockSeq seq ∧
          (xfer.mode = .download → resp = [0x76, seq]) := by
  rcases transferData_cases xfer flash seq data respSize with
    ⟨e, h⟩ | ⟨flash', hmode, hseq, -, -, ⟨-, h⟩ | h⟩ | ⟨bytes, hmode, hseq, -, -, h⟩
  · rw [h] at haccepted
    cases haccepted
  · rw [h] at haccepted
    cases haccepted
  · rw [h] at haccepted ⊢
    cases haccepted
    refine ⟨hseq, by simp [hmode], rfl, ?_, fun _ => rfl⟩
    rw [hseq]
    rfl
  · rw [h]
    refine ⟨hseq, by simp [hmode], rfl, ?_, fun hdownload => ?_⟩
    · rw [hseq]
      rfl
    · rw [hmode] at hdownload
      cases hdownload

/-- The session after an accepted block refuses every block that has its counter, whatever
the data. -/
theorem transferData_again
    (haccepted : (udsSvcTransferData xfer flash seq data respSize).2 = .ok resp)
    (data' : List UInt8) (respSize' : Nat) :
    udsSvcTransferData (udsSvcTransferData xfer flash seq data respSize).1.1
        (udsSvcTransferData xfer flash seq data respSize).1.2 seq data' respSize' =
      ((udsSvcTransferData xfer flash seq data respSize).1,
        .error (.errNrc .wrongBlockSequenceCounter)) := by
  obtain ⟨-, hactive, hmode, hnext, -⟩ := transferData_accepted haccepted
  apply transferData_of_wrong_counter
  · rwa [hmode]
  · rw [hnext]
    exact (nextBlockSeq_ne seq).symm

end Blocks

/-! ## Repeats -/

/-- One repeat of a block: the data and the room for the response may differ. -/
def repeatBlock (seq : UInt8) (s : UdsXferSession × UdsFlashMemory) (block : List UInt8 × Nat) :
    (UdsXferSession × UdsFlashMemory) × Response :=
  udsSvcTransferData s.1 s.2 seq block.1 block.2

/-- However often the last block is repeated, no repeat is accepted and the state is the one
after the block. -/
theorem repeats_refused {s : UdsXferSession × UdsFlashMemory} {seq : UInt8} {data : List UInt8}
    {respSize : Nat} {resp : List UInt8}
    (haccepted : (udsSvcTransferData s.1 s.2 seq data respSize).2 = .ok resp)
    (blocks : List (List UInt8 × Nat)) :
    runFrom (repeatBlock seq) (udsSvcTransferData s.1 s.2 seq data respSize).1 blocks =
        (udsSvcTransferData s.1 s.2 seq data respSize).1 ∧
      ∀ x ∈ turnsFrom (repeatBlock seq) (udsSvcTransferData s.1 s.2 seq data respSize).1 blocks,
        x.output = .error (.errNrc .wrongBlockSequenceCounter) := by
  induction blocks with
  | nil => exact ⟨rfl, fun x hx => absurd hx List.not_mem_nil⟩
  | cons block blocks ih =>
      have hrefused : repeatBlock seq (udsSvcTransferData s.1 s.2 seq data respSize).1 block =
          ((udsSvcTransferData s.1 s.2 seq data respSize).1,
            .error (.errNrc .wrongBlockSequenceCounter)) :=
        transferData_again haccepted block.1 block.2
      simp only [runFrom, turnsFrom, turn]
      rw [hrefused]
      refine ⟨ih.1, fun x hx => ?_⟩
      rcases List.mem_cons.mp hx with rfl | hrest
      · rfl
      · exact ih.2 x hrest

/-- The block, repeated at once, gets its positive response again and changes nothing. -/
def RepeatAnswered (s : UdsXferSession × UdsFlashMemory) (seq : UInt8) (data : List UInt8)
    (respSize : Nat) : Prop :=
  let s' := (udsSvcTransferData s.1 s.2 seq data respSize).1
  udsSvcTransferData s'.1 s'.2 seq data respSize = (s', .ok [0x76, seq])

/-- No accepted download block is answered again. -/
theorem retransmission_refused (s : UdsXferSession × UdsFlashMemory) (seq : UInt8)
    (data : List UInt8) (respSize : Nat) (resp : List UInt8) (hdownload : s.1.mode = .download)
    (haccepted : (udsSvcTransferData s.1 s.2 seq data respSize).2 = .ok resp) :
    resp = [0x76, seq] ∧ ¬RepeatAnswered s seq data respSize ∧
      udsSvcTransferData (udsSvcTransferData s.1 s.2 seq data respSize).1.1
          (udsSvcTransferData s.1 s.2 seq data respSize).1.2 seq data respSize =
        ((udsSvcTransferData s.1 s.2 seq data respSize).1,
          .error (.errNrc .wrongBlockSequenceCounter)) := by
  have hagain := transferData_again haccepted data respSize
  refine ⟨(transferData_accepted haccepted).2.2.2.2 hdownload, ?_, hagain⟩
  intro hanswered
  have hsame := congrArg Prod.snd (hagain.symm.trans hanswered)
  cases hsame

/-- The last block of a download of two bytes, sent twice. -/
theorem retransmission_refused_last_block :
    ∃ s', udsSvcTransferData (startXfer .download 0 2) (udsFlashInit [⟨0, 4, false⟩]) 1
        [0xAA, 0xBB] 8 = (s', .ok [0x76, 1]) ∧
      udsSvcTransferData s'.1 s'.2 1 [0xAA, 0xBB] 8 =
        (s', .error (.errNrc .wrongBlockSequenceCounter)) :=
  ⟨_, rfl, (retransmission_refused (startXfer .download 0 2, udsFlashInit [⟨0, 4, false⟩])
    1 [0xAA, 0xBB] 8 [0x76, 1] rfl rfl).2.2⟩

/-- The first block of a download, sent again after its response was lost. -/
theorem retransmission_not_idempotent :
    ¬∀ (s : UdsXferSession × UdsFlashMemory) (seq : UInt8) (data : List UInt8) (respSize : Nat),
      s.1.mode = .download →
        (∃ resp, (udsSvcTransferData s.1 s.2 seq data respSize).2 = .ok resp) →
          RepeatAnswered s seq data respSize := by
  intro hclaim
  have hanswered := hclaim (startXfer .download 0 4, udsFlashInit [⟨0, 4, false⟩]) 1 [0xAA] 8 rfl
    ⟨[0x76, 1], rfl⟩
  have hsame := congrArg (fun out => out.2) hanswered
  exact absurd hsame (by decide)

end Uds.Bootloader
