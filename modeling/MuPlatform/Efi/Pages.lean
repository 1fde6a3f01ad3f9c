import MuPlatform.Base.Ledger
import MuPlatform.Efi.Status

/-!
# Pages

What `AllocatePages` grants and `FreePages` takes back: a run of pages with its number of pages.
The boot services free what they granted, so a run counts as returned only with the number of pages
it was allocated with.
-/

namespace MuPlatform

/-- An error of a boot service. -/
abbrev EfiError := { status : EfiStatus // status.isError = true }

/-- A run of pages, from its base address. -/
structure PageRun where
  base : ℕ
  pages : ℕ
  deriving DecidableEq, Repr

/-- The size of a page. -/
def pageBytes : ℕ := 4096

/-- `EFI_SIZE_TO_PAGES`. -/
def efiSizeToPages (size : ℕ) : ℕ :=
  size / pageBytes + if size % pageBytes = 0 then 0 else 1

lemma le_efiSizeToPages (size : ℕ) : size ≤ efiSizeToPages size * pageBytes := by
  unfold efiSizeToPages pageBytes
  split <;> omega

lemma efiSizeToPages_pos {size : ℕ} (h : 0 < size) : 0 < efiSizeToPages size := by
  have hle := le_efiSizeToPages size
  by_contra hzero
  rw [Nat.eq_zero_of_not_pos hzero, Nat.zero_mul] at hle
  omega

/-- `EFI_ALLOCATE_TYPE`. -/
inductive AllocateType
  | anyPages
  | maxAddress
  | address
  deriving DecidableEq, Repr

end MuPlatform
