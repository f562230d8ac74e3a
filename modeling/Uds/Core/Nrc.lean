/-!
# Service results

The negative response codes of `uds_nrc.h`, the return codes of the service
functions, and the monotonic clock they read.  A service function returns its
positive response bytes or the reason why it has none; an NRC is set exactly
when the return code is `UDS_CORE_ERR_NRC`.
-/

namespace Uds.Core

inductive UdsNrc where
  | generalReject
  | serviceNotSupported
  | subFunctionNotSupported
  | incorrectMsgLenOrFormat
  | responseTooLong
  | busyRepeatRequest
  | conditionsNotCorrect
  | requestSequenceError
  | noResponseFromSubnet
  | failurePreventsExec
  | requestOutOfRange
  | securityAccessDenied
  | invalidKey
  | exceededNumberOfAttempts
  | requiredTimeDelayNotExpired
  | uploadDownloadNotAccepted
  | transferDataSuspended
  | generalProgrammingFailure
  | wrongBlockSequenceCounter
  | responsePending
  | subFunctionNotSupportedInSession
  | serviceNotSupportedInSession
  deriving DecidableEq

namespace UdsNrc

/-- The byte that stands for a code on the wire. -/
def code : UdsNrc → UInt8
  | generalReject => 0x10
  | serviceNotSupported => 0x11
  | subFunctionNotSupported => 0x12
  | incorrectMsgLenOrFormat => 0x13
  | responseTooLong => 0x14
  | busyRepeatRequest => 0x21
  | conditionsNotCorrect => 0x22
  | requestSequenceError => 0x24
  | noResponseFromSubnet => 0x25
  | failurePreventsExec => 0x26
  | requestOutOfRange => 0x31
  | securityAccessDenied => 0x33
  | invalidKey => 0x35
  | exceededNumberOfAttempts => 0x36
  | requiredTimeDelayNotExpired => 0x37
  | uploadDownloadNotAccepted => 0x70
  | transferDataSuspended => 0x71
  | generalProgrammingFailure => 0x72
  | wrongBlockSequenceCounter => 0x73
  | responsePending => 0x78
  | subFunctionNotSupportedInSession => 0x7E
  | serviceNotSupportedInSession => 0x7F

theorem code_ne_zero (nrc : UdsNrc) : nrc.code ≠ 0 := by
  cases nrc <;> decide

theorem code_injective {a b : UdsNrc} (h : a.code = b.code) : a = b := by
  cases a <;> cases b <;> first | rfl | exact absurd h (by decide)

end UdsNrc

inductive UdsCoreError where
  | errParam
  | errNrc (nrc : UdsNrc)
  | errBuf
  deriving DecidableEq

/-- What a service function leaves: response bytes on `UDS_CORE_OK`, otherwise
the error. -/
abbrev Response := Except UdsCoreError (List UInt8)

/-- A reading of the monotonic clock. -/
structure Timespec where
  sec : Int
  nsec : Int
  deriving DecidableEq

/-- A later or equal reading. -/
instance : LE Timespec where
  le a b := a.sec < b.sec ∨ (a.sec = b.sec ∧ a.nsec ≤ b.nsec)

instance (a b : Timespec) : Decidable (a ≤ b) :=
  inferInstanceAs (Decidable (a.sec < b.sec ∨ (a.sec = b.sec ∧ a.nsec ≤ b.nsec)))

theorem Timespec.sec_le {a b : Timespec} (h : a ≤ b) : a.sec ≤ b.sec := by
  rcases h with hlt | ⟨heq, -⟩
  · exact Int.le_of_lt hlt
  · exact Int.le_of_eq heq

theorem Timespec.le_trans {a b c : Timespec} (hab : a ≤ b) (hbc : b ≤ c) : a ≤ c := by
  change a.sec < c.sec ∨ (a.sec = c.sec ∧ a.nsec ≤ c.nsec)
  rcases hab with hab | ⟨hab, hab'⟩
  · exact Or.inl (Int.lt_of_lt_of_le hab (sec_le hbc))
  · rcases hbc with hbc | ⟨hbc, hbc'⟩
    · exact Or.inl (by omega)
    · exact Or.inr ⟨by omega, by omega⟩

/-- The all-zero `struct timespec`. -/
def Timespec.zero : Timespec := ⟨0, 0⟩

end Uds.Core
