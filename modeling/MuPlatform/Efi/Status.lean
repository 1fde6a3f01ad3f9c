import Mathlib.Data.Nat.Basic

/-!
# EFI status codes

The status codes the modelled drivers return or inspect, and the `EFI_ERROR` test.  In the
UEFI encoding errors have the high bit set and warnings do not, so a warning such as
`EFI_WARN_DELETE_FAILURE` is not an error.
-/

namespace MuPlatform

/-- `EFI_STATUS`. -/
inductive EfiStatus
  | success
  | warnDeleteFailure
  | loadError
  | invalidParameter
  | unsupported
  | badBufferSize
  | bufferTooSmall
  | notReady
  | deviceError
  | writeProtected
  | outOfResources
  | volumeCorrupted
  | volumeFull
  | noMedia
  | mediaChanged
  | notFound
  | accessDenied
  | noResponse
  | timeout
  | notStarted
  | alreadyStarted
  | aborted
  | protocolError
  | securityViolation
  | crcError
  deriving DecidableEq, Repr

namespace EfiStatus

/-- `EFI_ERROR (Status)`. -/
def isError : EfiStatus → Bool
  | success => false
  | warnDeleteFailure => false
  | _ => true

@[simp] lemma isError_success : success.isError = false := rfl

lemma ne_success_of_isError {s : EfiStatus} (h : s.isError = true) : s ≠ success := by
  rintro rfl
  simp at h

end EfiStatus

end MuPlatform
