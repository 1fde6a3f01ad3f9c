import MuPlatform.Base.Access
import MuPlatform.BdsLib.LoadOption

/-!
# What the reader of a load option touches

The value of a `Boot####` variable comes from outside.  `BootOptionParseLoadOption` checks the
smallest size, and then trusts the terminator of the description and `FilePathListLength`.

`parseAccesses` is what the reader reads of the value.  `parseSafe_iff` says for which values the
reader stays inside and the parts it finds lie there: those it rejects, and those whose
description ends in the value and leaves room for the file path list.
-/

namespace MuPlatform
namespace BdsLib

open AuthVar (Char16String readString)

/-! ## Accesses -/

/-- What `StrSize` reads of a string at `a`, in `n` rounds at most. -/
def strSizeReads (m : ByteStore) : ℕ → ℕ → List Access
  | 0, _ => []
  | n + 1, a => .read ⟨a, 2⟩ :: if m.load16 a = 0 then [] else strSizeReads m n (a + 2)

/-- The requests that `BootOptionParseLoadOption` rejects by its checks. -/
def Rejected (allocate : Bool) (efiLoadOption efiLoadOptionSize : ℕ) (o : Option BdsLoadOption) :
    Prop :=
  efiLoadOption = 0 ∨ efiLoadOptionSize < minLoadOptionSize ∨ (o = none ∧ allocate = false)

instance (allocate : Bool) (a size : ℕ) (o : Option BdsLoadOption) :
    Decidable (Rejected allocate a size o) :=
  inferInstanceAs (Decidable (_ ∨ _ ∨ _))

/-- What `BootOptionParseLoadOption` reads: `Attributes`, `FilePathListLength` and the
description. -/
def parseAccesses (n : ℕ) (allocate : Bool) (m : ByteStore) (efiLoadOption efiLoadOptionSize : ℕ)
    (o : Option BdsLoadOption) : List Access :=
  if Rejected allocate efiLoadOption efiLoadOptionSize o then []
  else
    [.read ⟨efiLoadOption, 4⟩, .read ⟨efiLoadOption + 4, 2⟩] ++
      strSizeReads m n (efiLoadOption + descriptionOffset)

/-! ## Safety -/

/-- The parts of an option lie in the value: the description ends there, and the file path list and
the optional data are adjacent and reach its end.  No optional data is a null pointer. -/
structure LiesIn (o : BdsLoadOption) (m : ByteStore) (value : Span) : Prop where
  description : ∃ description : Char16String,
    m.read o.description description.strSize = description.bytes ∧
      (Span.mk o.description description.strSize).Within value
  filePathList : value.lo ≤ o.filePathList
  adjacent : o.optionalData = o.filePathList + o.filePathListLength.toNat ∨
    o.optionalData = 0 ∧ o.optionalDataSize = 0
  ends : o.filePathList + o.filePathListLength.toNat + o.optionalDataSize = value.hi

/-- A call of `BootOptionParseLoadOption` reads only the value and comes back, with the parts of the
option in the value or with an error and the option as it was. -/
structure ParseSafe (arch : Arch) (allocate : Bool) (m : ByteStore) (a size : ℕ)
    (o : Option BdsLoadOption) : Prop where
  inside : ∀ n, ∀ access ∈ parseAccesses n allocate m a size o, access.Inside ⟨a, size⟩ ⟨a, 0⟩
  returns : ∃ n, (bootOptionParseLoadOption arch n allocate m a size o).isSome
  success : ∀ n o', bootOptionParseLoadOption arch n allocate m a size o = some (.success, o') →
    ∃ parsed, o' = some parsed ∧ LiesIn parsed m ⟨a, size⟩
  error : ∀ n status o', status.isError = true →
    bootOptionParseLoadOption arch n allocate m a size o = some (status, o') → o' = o

/-- The description ends in the value, and the file path list fits behind it. -/
def WellFormed (m : ByteStore) (a size : ℕ) : Prop :=
  ∃ description : Char16String,
    m.read (a + descriptionOffset) description.strSize = description.bytes ∧
      descriptionOffset + description.strSize + (m.load16 (a + 4)).toNat ≤ size

section Reads

variable {m : ByteStore} {s : Char16String} {n a : ℕ}

/-- `StrSize` does not read behind the terminator. -/
lemma strSizeReads_within (h : readString m n a = some s) :
    ∀ access ∈ strSizeReads m n a, ∃ t : Span, access = .read t ∧ t.Within ⟨a, s.strSize⟩ := by
  induction n generalizing a s with
  | zero => cases h
  | succ n ih =>
      intro access hmem
      rw [readString] at h
      rw [strSizeReads] at hmem
      by_cases hzero : m.load16 a = 0
      · rw [dif_pos hzero] at h
        rw [if_pos hzero] at hmem
        obtain rfl := (Option.some.inj h).symm
        exact ⟨_, List.mem_singleton.mp hmem, by simp [Span.Within, Char16String.strSize]⟩
      · rw [dif_neg hzero] at h
        rw [if_neg hzero] at hmem
        obtain ⟨tail, htail, rfl⟩ := Option.map_eq_some_iff.mp h
        rcases List.mem_cons.mp hmem with rfl | hmem
        · refine ⟨_, rfl, ?_⟩
          simp only [Span.Within, Char16String.strSize, List.length_cons]
          omega
        · obtain ⟨t, rfl, ht⟩ := ih htail access hmem
          refine ⟨t, rfl, ?_⟩
          simp only [Span.Within, Char16String.strSize, List.length_cons] at ht ⊢
          omega

/-- More rounds than it takes read no more. -/
lemma strSizeReads_isPrefix_add (n k a : ℕ) : strSizeReads m n a <+: strSizeReads m (n + k) a := by
  induction n generalizing a with
  | zero => exact List.nil_prefix
  | succ n ih =>
      rw [Nat.add_right_comm, strSizeReads, strSizeReads]
      split
      · exact List.prefix_rfl
      · exact (List.prefix_cons_inj _).mpr (ih (a + 2))

/-- It reads up to the terminator. -/
lemma read_terminator (h : readString m n a = some s) :
    .read ⟨a + 2 * s.chars.length, 2⟩ ∈ strSizeReads m n a := by
  induction n generalizing a s with
  | zero => cases h
  | succ n ih =>
      rw [readString] at h
      rw [strSizeReads]
      by_cases hzero : m.load16 a = 0
      · rw [dif_pos hzero] at h
        obtain rfl := (Option.some.inj h).symm
        exact List.mem_cons_self
      · rw [dif_neg hzero] at h
        obtain ⟨tail, htail, rfl⟩ := Option.map_eq_some_iff.mp h
        rw [if_neg hzero, List.length_cons, Nat.mul_add, Nat.add_comm (2 * _), ← Nat.add_assoc]
        exact List.mem_cons_of_mem _ (ih htail)

end Reads

section Parse

variable {arch : Arch} {allocate : Bool} {m : ByteStore} {a size n : ℕ} {o : Option BdsLoadOption}

lemma parse_rejected (h : Rejected allocate a size o) : ∃ status, status.isError = true ∧
    bootOptionParseLoadOption arch n allocate m a size o = some (status, o) := by
  unfold bootOptionParseLoadOption
  by_cases hnull : a = 0
  · exact ⟨_, rfl, if_pos hnull⟩
  by_cases hshort : size < minLoadOptionSize
  · exact ⟨_, rfl, (if_neg hnull).trans (if_pos hshort)⟩
  obtain ⟨rfl, rfl⟩ := (h.resolve_left hnull).resolve_left hshort
  exact ⟨_, rfl, (if_neg hnull).trans (if_neg hshort)⟩

lemma parse_accepted (h : ¬ Rejected allocate a size o) :
    bootOptionParseLoadOption arch n allocate m a size o =
      (parseLoadOption arch n m a size (o.getD .zero)).map fun o' => (.success, some o') := by
  obtain ⟨hnull, hrest⟩ := not_or.mp h
  obtain ⟨hshort, hpool⟩ := not_or.mp hrest
  unfold bootOptionParseLoadOption
  rw [if_neg hnull, if_neg hshort]
  cases o with
  | some o => rfl
  | none =>
      have hallocate : allocate = true := by simpa using hpool
      exact if_pos hallocate

/-- Where the description ends in the value, the file path list starts behind it. -/
lemma parse_parts {o o' : BdsLoadOption} {s : Char16String}
    (hs : readString m n (a + descriptionOffset) = some s)
    (hparse : parseLoadOption arch n m a size o = some o')
    (hfits : a + size < 2 ^ arch.uintnBits) (hin : descriptionOffset + s.strSize ≤ size) :
    o'.description = a + descriptionOffset ∧ o'.filePathListLength = m.load16 (a + 4) ∧
      o'.filePathList = a + (descriptionOffset + s.strSize) := by
  rw [parseLoadOption, hs, Option.map_some] at hparse
  have hlist : arch.uintn (a + descriptionOffset + s.strSize) =
      a + (descriptionOffset + s.strSize) := by
    rw [Nat.add_assoc]
    exact Arch.uintn_of_lt (by omega)
  obtain rfl := Option.some.inj hparse
  simp only [hlist]
  split
  · exact ⟨rfl, rfl, rfl⟩
  · exact ⟨rfl, rfl, rfl⟩

/-- And where the list fits, the optional data is what is left. -/
lemma parse_optionalData {o o' : BdsLoadOption} {s : Char16String}
    (hs : readString m n (a + descriptionOffset) = some s)
    (hparse : parseLoadOption arch n m a size o = some o')
    (hfits : a + size < 2 ^ arch.uintnBits)
    (hin : descriptionOffset + s.strSize + (m.load16 (a + 4)).toNat ≤ size) :
    (o'.optionalData = a + (descriptionOffset + s.strSize + (m.load16 (a + 4)).toNat) ∨
        o'.optionalData = 0 ∧ o'.optionalDataSize = 0) ∧
      descriptionOffset + s.strSize + (m.load16 (a + 4)).toNat + o'.optionalDataSize = size := by
  rw [parseLoadOption, hs, Option.map_some] at hparse
  have hbehind : arch.uintn (arch.uintn (a + descriptionOffset + s.strSize) +
      (m.load16 (a + 4)).toNat) =
        a + (descriptionOffset + s.strSize + (m.load16 (a + 4)).toNat) := by
    rw [Nat.add_assoc a, Arch.uintn_of_lt (n := a + (descriptionOffset + s.strSize)) (by omega),
      Nat.add_assoc a]
    exact Arch.uintn_of_lt (by omega)
  have hoffset : arch.uintnSub (a + (descriptionOffset + s.strSize + (m.load16 (a + 4)).toNat)) a =
      descriptionOffset + s.strSize + (m.load16 (a + 4)).toNat := by
    rw [Arch.uintnSub_of_le (by omega) (by omega)]
    omega
  obtain rfl := Option.some.inj hparse
  simp only [hbehind, hoffset]
  split
  · next heq => exact ⟨.inr ⟨rfl, rfl⟩, heq⟩
  · rw [Arch.uintnSub_of_le hin (by omega)]
    exact ⟨.inl rfl, by simp only; omega⟩

/-- A description that ends in the value is read up to its terminator. -/
lemma parseAccesses_inside {s : Char16String}
    (hs : m.read (a + descriptionOffset) s.strSize = s.bytes)
    (hin : descriptionOffset + s.strSize ≤ size) :
    ∀ access ∈ parseAccesses n allocate m a size o, access.Inside ⟨a, size⟩ ⟨a, 0⟩ := by
  intro access hmem
  rw [parseAccesses] at hmem
  split at hmem
  · cases hmem
  · next haccepted =>
    have hheader : minLoadOptionSize = 12 := rfl
    have hmin : minLoadOptionSize ≤ size :=
      Nat.le_of_not_lt (not_or.mp (not_or.mp haccepted).2).1
    rcases List.mem_append.mp hmem with hmem | hmem
    · rcases List.mem_cons.mp hmem with rfl | hmem
      · exact Access.inside_read ⟨Nat.le_refl a, by simp only; omega⟩
      · rw [List.mem_singleton.mp hmem]
        exact Access.inside_read ⟨by simp only; omega, by simp only; omega⟩
    · -- the rounds are some of those that reach the terminator
      have hmore : readString m (n + s.strSize) (a + descriptionOffset) = some s :=
        Char16String.readString_of_holds hs (by omega)
      obtain ⟨t, rfl, ht⟩ := strSizeReads_within hmore access
        ((strSizeReads_isPrefix_add n _ _).subset hmem)
      refine Access.inside_read (ht.trans ⟨?_, ?_⟩)
      · simp only
        omega
      · simp only
        omega

/-- Where the value is well formed the parts of what is parsed lie in it. -/
lemma parse_liesIn {o o' : BdsLoadOption} {s : Char16String}
    (hs : m.read (a + descriptionOffset) s.strSize = s.bytes)
    (hin : descriptionOffset + s.strSize + (m.load16 (a + 4)).toNat ≤ size)
    (hfits : a + size < 2 ^ arch.uintnBits)
    (hparse : parseLoadOption arch n m a size o = some o') : LiesIn o' m ⟨a, size⟩ := by
  obtain ⟨s', hs', -⟩ := Option.map_eq_some_iff.mp hparse
  obtain rfl := Char16String.eq_of_readString hs' hs
  obtain ⟨hdescription, hlength, hlist⟩ := parse_parts hs' hparse hfits (by omega)
  obtain ⟨hdata, hsize⟩ := parse_optionalData hs' hparse hfits hin
  refine ⟨⟨s', ?_, ?_⟩, ?_, ?_, ?_⟩
  · rw [hdescription]
    exact hs
  · rw [hdescription]
    exact ⟨by simp only; omega, by simp only; omega⟩
  · rw [hlist]
    exact Nat.le_add_right _ _
  · rw [hlist, hlength, Nat.add_assoc]
    exact hdata
  · rw [hlist, hlength]
    show _ = a + size
    omega

lemma parseSafe_of_wellFormed (hfits : a + size < 2 ^ arch.uintnBits)
    (haccepted : ¬ Rejected allocate a size o) (h : WellFormed m a size) :
    ParseSafe arch allocate m a size o := by
  obtain ⟨s, hs, hin⟩ := h
  have hfound : readString m s.strSize (a + descriptionOffset) = some s :=
    Char16String.readString_of_holds hs (by omega)
  refine ⟨fun n => parseAccesses_inside hs (by omega), ⟨s.strSize, ?_⟩,
    fun n o' hparse => ?_, fun n status o' herror hparse => ?_⟩
  · rw [parse_accepted haccepted, parseLoadOption, hfound]
    rfl
  · rw [parse_accepted haccepted] at hparse
    obtain ⟨parsed, hparsed, heq⟩ := Option.map_eq_some_iff.mp hparse
    obtain ⟨-, rfl⟩ := Prod.mk.inj heq
    exact ⟨parsed, rfl, parse_liesIn hs hin hfits hparsed⟩
  · rw [parse_accepted haccepted] at hparse
    obtain ⟨parsed, -, heq⟩ := Option.map_eq_some_iff.mp hparse
    obtain ⟨rfl, -⟩ := Prod.mk.inj heq
    cases herror

lemma wellFormed_of_parseSafe (hfits : a + size < 2 ^ arch.uintnBits)
    (haccepted : ¬ Rejected allocate a size o) (h : ParseSafe arch allocate m a size o) :
    WellFormed m a size := by
  obtain ⟨n, hreturns⟩ := h.returns
  rw [parse_accepted haccepted, Option.isSome_map] at hreturns
  obtain ⟨parsed, hparsed⟩ := Option.isSome_iff_exists.mp hreturns
  obtain ⟨s, hs, -⟩ := Option.map_eq_some_iff.mp hparsed
  -- the terminator is read, and so lies in the value
  have hterminator : Access.read ⟨a + descriptionOffset + 2 * s.chars.length, 2⟩ ∈
      parseAccesses n allocate m a size o := by
    rw [parseAccesses, if_neg haccepted]
    exact List.mem_append_right _ (read_terminator hs)
  have hin := (Access.within_of_read (by simp) (h.inside n _ hterminator)).2
  have hstring : descriptionOffset + s.strSize ≤ size := by
    simp only [Char16String.strSize] at hin ⊢
    omega
  obtain ⟨-, hlength, hlist⟩ := parse_parts hs hparsed hfits hstring
  have hsuccess := h.success n (some parsed) (by rw [parse_accepted haccepted, hparsed]; rfl)
  obtain ⟨parsed', heq, hlies⟩ := hsuccess
  obtain rfl := Option.some.inj heq
  have hends := hlies.ends
  rw [hlist, hlength, Span.hi] at hends
  exact ⟨s, Char16String.holds_of_readString hs, by simp only at hends; omega⟩

/-- The reader is safe for the values it rejects, and for the well-formed ones.  The value is an
object in memory, so that the address behind it exists. -/
theorem parseSafe_iff (hfits : a + size < 2 ^ arch.uintnBits) :
    ParseSafe arch allocate m a size o ↔ Rejected allocate a size o ∨ WellFormed m a size := by
  constructor
  · intro h
    by_cases hrejected : Rejected allocate a size o
    · exact .inl hrejected
    · exact .inr (wellFormed_of_parseSafe hfits hrejected h)
  · intro h
    by_cases hrejected : Rejected allocate a size o
    · have hparse : ∀ n, ∃ status, status.isError = true ∧
          bootOptionParseLoadOption arch n allocate m a size o = some (status, o) :=
        fun n => parse_rejected hrejected
      refine ⟨fun n access hmem => ?_, ?_, fun n o' h => ?_, fun n status o' _ h => ?_⟩
      · rw [parseAccesses, if_pos hrejected] at hmem
        cases hmem
      · obtain ⟨status, -, hreturns⟩ := hparse 0
        exact ⟨0, by rw [hreturns]; rfl⟩
      · obtain ⟨status, herror, hreturns⟩ := hparse n
        obtain ⟨rfl, -⟩ := Prod.mk.inj (Option.some.inj (hreturns.symm.trans h))
        cases herror
      · obtain ⟨status', -, hreturns⟩ := hparse n
        exact (Prod.mk.inj (Option.some.inj (hreturns.symm.trans h))).2.symm
    · exact parseSafe_of_wellFormed hfits hrejected (h.resolve_left hrejected)

end Parse

/-! ## Twelve bytes -/

/-- The smallest value at address 256: an empty description, an end node, and the given length. -/
def smallestOption (filePathListLength : UInt8) : ByteStore :=
  ByteStore.write (fun _ => 0) 256 [1, 0, 0, 0, filePathListLength, 0, 0, 0, 0x7F, 0xFF, 4, 0]

/-- The file path list, its length and the size of the optional data that the reader finds there. -/
def smallestParts (filePathListLength : UInt8) : Option (ℕ × UInt16 × ℕ) :=
  (parseLoadOption .aarch64 1 (smallestOption filePathListLength) 256 12 .zero).map fun o =>
    (o.filePathList, o.filePathListLength, o.optionalDataSize)

/-- A length of 5 is one too many.  The reader succeeds, and the size of the optional data wraps. -/
theorem not_parseSafe_lengthFive :
    smallestParts 5 = some (264, 5, 2 ^ 64 - 1) ∧
      ¬ ParseSafe .aarch64 true (smallestOption 5) 256 12 none := by
  have hparts : smallestParts 5 = some (264, 5, 2 ^ 64 - 1) := by decide
  refine ⟨hparts, fun h => ?_⟩
  obtain ⟨parsed, hparsed, heq⟩ := Option.map_eq_some_iff.mp hparts
  obtain ⟨hlist, hrest⟩ := Prod.mk.inj heq
  obtain ⟨hlength, hdata⟩ := Prod.mk.inj hrest
  have hsuccess := h.success 1 (some parsed) (by
    rw [parse_accepted (by decide), Option.getD_none, hparsed]
    rfl)
  obtain ⟨parsed', heq', hlies⟩ := hsuccess
  obtain rfl := Option.some.inj heq'
  have hends := hlies.ends
  rw [hlist, hlength, hdata] at hends
  exact absurd hends (by decide)

theorem parseSafe_iff_endNode : ParseSafe .aarch64 true (smallestOption 4) 256 12 none :=
  (parseSafe_iff (by decide)).mpr (.inr ⟨⟨[], by simp⟩, by decide, by decide⟩)

end BdsLib
end MuPlatform
