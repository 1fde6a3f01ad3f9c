import MuPlatform.Base.Arc
import MuPlatform.Base.Span
import MuPlatform.Efi.Arch
import MuPlatform.Efi.Status

/-!
# The ELF loader

`ElfCheckFile` and `ElfLoadFile` (`ElfLoader.c`) check an ELF file that lies in a buffer and turn
its program headers into a load list: what is to be copied and what is to be set to zero once the
boot services have been left.

The two classes of ELF files differ in the places and widths of the fields, so that one model serves
both.  A field is the span of its bytes in the structure.  `elfLoadFile_segments` replaces the loop
over the program headers by one over the segments of type `PT_LOAD`, and `loadSegments_spec` says
what that makes of the list.
-/

namespace MuPlatform
namespace RunAxf

/-! ## The file -/

/-- A file in a buffer of memory. -/
structure FileBuffer (arch : Arch) where
  mem : ByteStore
  base : ℕ
  size : ℕ
  fits : base + size ≤ 2 ^ arch.uintnBits

/-- `ELFCLASS32` and `ELFCLASS64`. -/
inductive ElfClass
  | class32
  | class64
  deriving DecidableEq, Repr

/-- The class of the files that are loaded. -/
def nativeClass : Arch → ElfClass
  | .arm => .class32
  | .aarch64 => .class64

/-- `EM_ARM` and `EM_AARCH64`. -/
def nativeMachine : Arch → ℕ
  | .arm => 40
  | .aarch64 => 183

/-- `ET_EXEC`. -/
def etExec : ℕ := 2

/-- `PT_LOAD`. -/
def ptLoad : ℕ := 1

/-- `e_ident[EI_CLASS]`. -/
def eiClass : Span := ⟨4, 1⟩

def eType : Span := ⟨16, 2⟩

def eMachine : Span := ⟨18, 2⟩

namespace ElfClass

/-- The class that `e_ident[EI_CLASS]` stands for. -/
def ofByte : ℕ → Option ElfClass
  | 1 => some class32
  | 2 => some class64
  | _ => none

/-! `Elf32_Ehdr` and `Elf64_Ehdr`. -/

def eEntry : ElfClass → Span
  | class32 => ⟨24, 4⟩
  | class64 => ⟨24, 8⟩

def ePhoff : ElfClass → Span
  | class32 => ⟨28, 4⟩
  | class64 => ⟨32, 8⟩

def eFlags : ElfClass → Span
  | class32 => ⟨36, 4⟩
  | class64 => ⟨48, 4⟩

def ePhentsize : ElfClass → Span
  | class32 => ⟨42, 2⟩
  | class64 => ⟨54, 2⟩

def ePhnum : ElfClass → Span
  | class32 => ⟨44, 2⟩
  | class64 => ⟨56, 2⟩

/-- `sizeof (Elf32_Ehdr)` and `sizeof (Elf64_Ehdr)`. -/
def sizeofEhdr : ElfClass → ℕ
  | class32 => 52
  | class64 => 64

/-! `Elf32_Phdr` and `Elf64_Phdr`. -/

def pType : ElfClass → Span
  | class32 => ⟨0, 4⟩
  | class64 => ⟨0, 4⟩

def pOffset : ElfClass → Span
  | class32 => ⟨4, 4⟩
  | class64 => ⟨8, 8⟩

def pVaddr : ElfClass → Span
  | class32 => ⟨8, 4⟩
  | class64 => ⟨16, 8⟩

def pFilesz : ElfClass → Span
  | class32 => ⟨16, 4⟩
  | class64 => ⟨32, 8⟩

def pMemsz : ElfClass → Span
  | class32 => ⟨20, 4⟩
  | class64 => ⟨40, 8⟩

end ElfClass

/-- The value of a field of the structure at `a`. -/
def fieldAt (m : ByteStore) (a : ℕ) (field : Span) : ℕ := m.loadNat (a + field.lo) field.len

section Check

variable (arch : Arch) (m : ByteStore) (elfImage : ℕ)

/-- `ELFMAG`. -/
def elfMag : List ℕ := [0x7F, 0x45, 0x4C, 0x46]

/-- `IS_ELF`. -/
def isElf : Bool :=
  elfMag.zipIdx.all fun (byte, i) => fieldAt m elfImage ⟨i, 1⟩ = byte

/-- The checks of `ElfCheckHeader` on a header of one class. -/
def checkProgramHeaders (c : ElfClass) : EfiStatus :=
  if fieldAt m elfImage c.ePhoff = 0 ∨ fieldAt m elfImage c.ePhentsize = 0 ∨
      fieldAt m elfImage c.ePhnum = 0 then .invalidParameter
  else .success

/-- `ElfCheckHeader`. -/
def elfCheckHeader : EfiStatus :=
  if isElf m elfImage = false then .invalidParameter
  else if fieldAt m elfImage eType ≠ etExec then .invalidParameter
  else
    match ElfClass.ofByte (fieldAt m elfImage eiClass) with
    | some c => checkProgramHeaders m elfImage c
    | none => .invalidParameter

/-- `IsArmElf` and `IsAarch64Elf`. -/
def isNativeElf : Bool :=
  ElfClass.ofByte (fieldAt m elfImage eiClass) = some (nativeClass arch) &&
    fieldAt m elfImage eMachine = nativeMachine arch

/-- `ElfCheckFile`. -/
def elfCheckFile : EfiStatus :=
  if (elfCheckHeader m elfImage).isError then .invalidParameter
  else if isNativeElf arch m elfImage then .success
  else .unsupported

end Check

/-! ## The load list -/

/-- The fields of an `Elf32_Phdr` or an `Elf64_Phdr` that the loader reads. -/
structure ProgramHeader (arch : Arch) where
  type : ℕ
  offset : ℕ
  vaddr : ℕ
  filesz : ℕ
  memsz : ℕ
  offset_lt : offset < 2 ^ arch.uintnBits
  vaddr_lt : vaddr < 2 ^ arch.uintnBits
  filesz_lt : filesz < 2 ^ arch.uintnBits
  memsz_lt : memsz < 2 ^ arch.uintnBits

/-- The data of a `RUNAXF_LOAD_LIST`. -/
structure LoadOp (arch : Arch) where
  memOffset : ℕ
  fileOffset : ℕ
  zeroes : Bool
  length : ℕ
  memOffset_lt : memOffset < 2 ^ arch.uintnBits
  length_lt : length < 2 ^ arch.uintnBits

/-- A `RUNAXF_LOAD_LIST` at an address of the pool. -/
structure RunAxfLoadList (arch : Arch) where
  address : ℕ
  op : LoadOp arch

/-- `sizeof (RUNAXF_LOAD_LIST)`. -/
def sizeofRunAxfLoadList : Arch → ℕ
  | .arm => 24
  | .aarch64 => 48

section Load

variable {arch : Arch}

lemma fieldAt_lt {m : ByteStore} {a : ℕ} {field : Span} (h : field.len = arch.uintnBytes) :
    fieldAt m a field < 2 ^ arch.uintnBits := by
  rw [← arch.pow_uintnBytes, ← h]
  exact ByteStore.loadNat_lt

lemma pOffset_len : (nativeClass arch).pOffset.len = arch.uintnBytes := by cases arch <;> rfl

lemma pVaddr_len : (nativeClass arch).pVaddr.len = arch.uintnBytes := by cases arch <;> rfl

lemma pFilesz_len : (nativeClass arch).pFilesz.len = arch.uintnBytes := by cases arch <;> rfl

lemma pMemsz_len : (nativeClass arch).pMemsz.len = arch.uintnBytes := by cases arch <;> rfl

/-- The program header at an address. -/
def programHeaderAt (arch : Arch) (m : ByteStore) (programHdr : ℕ) : ProgramHeader arch where
  type := fieldAt m programHdr (nativeClass arch).pType
  offset := fieldAt m programHdr (nativeClass arch).pOffset
  vaddr := fieldAt m programHdr (nativeClass arch).pVaddr
  filesz := fieldAt m programHdr (nativeClass arch).pFilesz
  memsz := fieldAt m programHdr (nativeClass arch).pMemsz
  offset_lt := fieldAt_lt pOffset_len
  vaddr_lt := fieldAt_lt pVaddr_len
  filesz_lt := fieldAt_lt pFilesz_len
  memsz_lt := fieldAt_lt pMemsz_len

/-- The node of the bytes of a segment that are in the file. -/
def ProgramHeader.copyOp (elfImage : ℕ) (s : ProgramHeader arch) : LoadOp arch where
  memOffset := s.vaddr
  fileOffset := arch.uintn (elfImage + s.offset)
  zeroes := false
  length := s.filesz
  memOffset_lt := s.vaddr_lt
  length_lt := s.filesz_lt

/-- The node of the `ExtraZeroes` of a segment. -/
def ProgramHeader.zeroOp (s : ProgramHeader arch) : LoadOp arch where
  memOffset := arch.uintn (s.vaddr + s.filesz)
  fileOffset := 0
  zeroes := true
  length := s.memsz - s.filesz
  memOffset_lt := arch.uintn_lt _
  length_lt := (Nat.sub_le _ _).trans_lt s.memsz_lt

/-- What `ElfLoadFile` leaves its caller with. -/
structure ElfLoaded (arch : Arch) where
  status : EfiStatus
  entryPoint : Option ℕ
  loadList : List (RunAxfLoadList arch)

section Model

-- `allocate` says where the allocations of nodes succeed, and at which address
variable (allocate : ℕ → Option ℕ) (m : ByteStore) (elfImage : ℕ)

/-- The list with a node more at its tail, if there is pool for it. -/
def insertNode (op : LoadOp arch) (list : List (RunAxfLoadList arch)) :
    Option (List (RunAxfLoadList arch)) :=
  (allocate list.length).map fun address => list ++ [⟨address, op⟩]

/-- `ElfLoadSegment`. -/
def elfLoadSegment (s : ProgramHeader arch) (list : List (RunAxfLoadList arch)) :
    EfiStatus × List (RunAxfLoadList arch) :=
  if s.memsz < s.filesz then (.invalidParameter, list)
  else
    match if s.filesz ≠ 0 then insertNode allocate (s.copyOp elfImage) list else some list with
    | none => (.outOfResources, list)
    | some list =>
      if 0 < s.memsz - s.filesz then
        match insertNode allocate s.zeroOp list with
        | none => (.outOfResources, list)
        | some list => (.success, list)
      else (.success, list)

/-- The loop of `ElfLoadFile`, over as many program headers as are left, with `ImageSize`. -/
def elfLoadLoop (ePhentsize : ℕ) : ℕ → ℕ → ℕ → List (RunAxfLoadList arch) →
    EfiStatus × ℕ × List (RunAxfLoadList arch)
  | 0, _, imageSize, list => (.success, imageSize, list)
  | n + 1, programHdr, imageSize, list =>
    let s := programHeaderAt arch m programHdr
    let next := arch.uintn (programHdr + ePhentsize)
    if s.type = ptLoad then
      match elfLoadSegment allocate elfImage s list with
      | (status, list) =>
        if status.isError then (.invalidParameter, imageSize, list)
        else elfLoadLoop ePhentsize n next (arch.uintn (imageSize + s.memsz)) list
    else elfLoadLoop ePhentsize n next imageSize list

/-- `ElfLoadFile` on an empty load list. -/
def elfLoadFile (arch : Arch) : ElfLoaded arch :=
  let c := nativeClass arch
  let loaded : EfiStatus × ℕ × List (RunAxfLoadList arch) :=
    elfLoadLoop allocate m elfImage (fieldAt m elfImage c.ePhentsize)
      (fieldAt m elfImage c.ePhnum) (arch.uintn (elfImage + fieldAt m elfImage c.ePhoff)) 0 []
  match loaded with
  | (status, imageSize, list) =>
    if status.isError then ⟨status, none, list⟩
    else if imageSize = 0 then ⟨.invalidParameter, none, list⟩
    else ⟨.success, some (fieldAt m elfImage c.eEntry), list⟩

end Model

/-! ## The segments -/

/-- The nodes of a segment. -/
def ProgramHeader.ops (elfImage : ℕ) (s : ProgramHeader arch) : List (LoadOp arch) :=
  (if s.filesz ≠ 0 then [s.copyOp elfImage] else []) ++
    if 0 < s.memsz - s.filesz then [s.zeroOp] else []

/-- Where the program headers are, from an address on. -/
def headerAddresses (arch : Arch) (ePhentsize : ℕ) : ℕ → ℕ → List ℕ
  | 0, _ => []
  | n + 1, programHdr =>
      programHdr :: headerAddresses arch ePhentsize n (arch.uintn (programHdr + ePhentsize))

/-- The addresses of the program headers of a file. -/
def programHdrs (arch : Arch) (m : ByteStore) (elfImage : ℕ) : List ℕ :=
  let c := nativeClass arch
  headerAddresses arch (fieldAt m elfImage c.ePhentsize) (fieldAt m elfImage c.ePhnum)
    (arch.uintn (elfImage + fieldAt m elfImage c.ePhoff))

/-- The segments among program headers. -/
def segmentsAt (arch : Arch) (m : ByteStore) (addresses : List ℕ) : List (ProgramHeader arch) :=
  (addresses.map (programHeaderAt arch m)).filter fun s => s.type = ptLoad

/-- The segments of a file that are loaded. -/
def segments (arch : Arch) (m : ByteStore) (elfImage : ℕ) : List (ProgramHeader arch) :=
  segmentsAt arch m (programHdrs arch m elfImage)

/-- The loop of `ElfLoadFile`, over the segments. -/
def loadSegments (allocate : ℕ → Option ℕ) (elfImage : ℕ) :
    List (ProgramHeader arch) → ℕ → List (RunAxfLoadList arch) →
      EfiStatus × ℕ × List (RunAxfLoadList arch)
  | [], imageSize, list => (.success, imageSize, list)
  | s :: segs, imageSize, list =>
    match elfLoadSegment allocate elfImage s list with
    | (status, list) =>
      if status.isError then (.invalidParameter, imageSize, list)
      else loadSegments allocate elfImage segs (arch.uintn (imageSize + s.memsz)) list

section Spec

variable {allocate : ℕ → Option ℕ} {m : ByteStore} {elfImage ePhentsize n programHdr imageSize : ℕ}
  {s : ProgramHeader arch} {segs : List (ProgramHeader arch)} {op : LoadOp arch}
  {list list' : List (RunAxfLoadList arch)} {status : EfiStatus}

/-- Headers of other types are skipped. -/
lemma elfLoadLoop_eq : elfLoadLoop allocate m elfImage ePhentsize n programHdr imageSize list =
    loadSegments allocate elfImage
      (segmentsAt arch m (headerAddresses arch ePhentsize n programHdr)) imageSize list := by
  induction n generalizing programHdr imageSize list with
  | zero => rfl
  | succ n ih =>
      rw [elfLoadLoop, headerAddresses, segmentsAt, List.map_cons]
      by_cases htype : (programHeaderAt arch m programHdr).type = ptLoad
      · rw [List.filter_cons_of_pos (by simpa using htype), loadSegments]
        simp only [htype, if_true, ih, segmentsAt]
      · rw [List.filter_cons_of_neg (by simpa using htype)]
        simp only [htype, if_false, ih, segmentsAt]

/-- `ElfLoadFile`, over the segments. -/
lemma elfLoadFile_segments : elfLoadFile allocate m elfImage arch =
    match loadSegments allocate elfImage (segments arch m elfImage) 0 [] with
    | (status, imageSize, list) =>
      if status.isError then ⟨status, none, list⟩
      else if imageSize = 0 then ⟨.invalidParameter, none, list⟩
      else ⟨.success, some (fieldAt m elfImage (nativeClass arch).eEntry), list⟩ := by
  rw [elfLoadFile, elfLoadLoop_eq]
  rfl

/-- A list grows at its tail by these operations, at the addresses that are allocated. -/
structure Grows (allocate : ℕ → Option ℕ) (list : List (RunAxfLoadList arch))
    (ops : List (LoadOp arch)) (list' : List (RunAxfLoadList arch)) : Prop where
  ops : list'.map RunAxfLoadList.op = list.map RunAxfLoadList.op ++ ops
  allocated : ∀ k, list.length ≤ k → ∀ h : k < list'.length, allocate k = some list'[k].address
  kept : list <+: list'

namespace Grows

variable {ops ops' : List (LoadOp arch)} {list'' : List (RunAxfLoadList arch)}

lemma refl (list : List (RunAxfLoadList arch)) : Grows allocate list [] list :=
  ⟨by simp, fun k hk h => absurd h (Nat.not_lt.mpr hk), List.prefix_rfl⟩

lemma length (h : Grows allocate list ops list') : list'.length = list.length + ops.length := by
  simpa using congrArg List.length h.ops

lemma trans (h : Grows allocate list ops list') (h' : Grows allocate list' ops' list'') :
    Grows allocate list (ops ++ ops') list'' := by
  refine ⟨?_, fun k hk hlt => ?_, h.kept.trans h'.kept⟩
  · rw [h'.ops, h.ops, List.append_assoc]
  · by_cases hmid : k < list'.length
    · rw [h.allocated k hk hmid, List.IsPrefix.getElem h'.kept hmid]
    · exact h'.allocated k (Nat.le_of_not_lt hmid) hlt

lemma insert (h : insertNode allocate op list = some list') : Grows allocate list [op] list' := by
  obtain ⟨address, haddress, rfl⟩ := Option.map_eq_some_iff.mp h
  refine ⟨by simp, fun k hk hlt => ?_, List.prefix_append _ _⟩
  obtain rfl : k = list.length := by
    simp only [List.length_append, List.length_singleton] at hlt
    omega
  rw [haddress, List.getElem_append_right (Nat.le_refl _)]
  simp

end Grows

lemma insertNode_none (h : insertNode allocate op list = none) : allocate list.length = none :=
  Option.map_eq_none_iff.mp h

/-- The node for the bytes of the file is appended, if there are any. -/
lemma grows_copyOp {copied : List (RunAxfLoadList arch)}
    (h : (if s.filesz ≠ 0 then insertNode allocate (s.copyOp elfImage) list else some list) =
      some copied) :
    Grows allocate list (if s.filesz ≠ 0 then [s.copyOp elfImage] else []) copied := by
  split at h
  · next hfile => exact if_pos hfile ▸ .insert h
  · next hempty => exact if_neg hempty ▸ Option.some.inj h ▸ .refl list

/-- It is not where there is no pool for it. -/
lemma copyOp_none
    (h : (if s.filesz ≠ 0 then insertNode allocate (s.copyOp elfImage) list else some list) =
      none) :
    allocate list.length = none ∧ list.length < list.length + (s.ops elfImage).length := by
  split at h
  · next hfile =>
    refine ⟨insertNode_none h, ?_⟩
    rw [ProgramHeader.ops, if_pos hfile, List.length_append, List.length_singleton]
    omega
  · cases h

/-- The nodes of a segment are appended, or those up to the first that there is no pool for. -/
lemma elfLoadSegment_spec (hrun : elfLoadSegment allocate elfImage s list = (status, list')) :
    (status = .success ∧ s.filesz ≤ s.memsz ∧ Grows allocate list (s.ops elfImage) list') ∨
    (status.isError = true ∧
      (s.memsz < s.filesz ∨ allocate list'.length = none ∧
        list'.length < list.length + (s.ops elfImage).length) ∧
      ∃ ops, ops <+: s.ops elfImage ∧ Grows allocate list ops list') := by
  unfold elfLoadSegment at hrun
  by_cases hsizes : s.memsz < s.filesz
  · rw [if_pos hsizes] at hrun
    obtain ⟨rfl, rfl⟩ := Prod.mk.inj hrun
    exact .inr ⟨rfl, .inl hsizes, [], List.nil_prefix, .refl list⟩
  rw [if_neg hsizes] at hrun
  -- first the bytes of the file
  split at hrun
  · next hnone =>
    obtain ⟨rfl, rfl⟩ := Prod.mk.inj hrun
    exact .inr ⟨rfl, .inr (copyOp_none hnone), [], List.nil_prefix, .refl list⟩
  next copied hsome =>
  have hgrown := grows_copyOp hsome
  unfold ProgramHeader.ops
  -- then the zeroes behind them
  by_cases hzeroes : 0 < s.memsz - s.filesz
  · rw [if_pos hzeroes] at hrun ⊢
    split at hrun
    · next hnone =>
      obtain ⟨rfl, rfl⟩ := Prod.mk.inj hrun
      refine .inr ⟨rfl, .inr ⟨insertNode_none hnone, ?_⟩, _, List.prefix_append _ _, hgrown⟩
      rw [hgrown.length, List.length_append, List.length_singleton]
      omega
    · next grown hinsert =>
      obtain ⟨rfl, rfl⟩ := Prod.mk.inj hrun
      exact .inl ⟨rfl, Nat.le_of_not_lt hsizes, hgrown.trans (.insert hinsert)⟩
  · rw [if_neg hzeroes] at hrun ⊢
    obtain ⟨rfl, rfl⟩ := Prod.mk.inj hrun
    rw [List.append_nil]
    exact .inl ⟨rfl, Nat.le_of_not_lt hsizes, hgrown⟩

/-- The segments of a list are appended, or their nodes up to the one that fails. -/
lemma loadSegments_spec {imageSize' : ℕ} (hsize : imageSize < 2 ^ arch.uintnBits)
    (hrun : loadSegments allocate elfImage segs imageSize list = (status, imageSize', list')) :
    (status = .success ∧ (∀ s ∈ segs, s.filesz ≤ s.memsz) ∧
      Grows allocate list (segs.flatMap (ProgramHeader.ops elfImage)) list' ∧
      imageSize' = arch.uintn (imageSize + (segs.map ProgramHeader.memsz).sum)) ∨
    (status.isError = true ∧
      ((∃ s ∈ segs, s.memsz < s.filesz) ∨ allocate list'.length = none ∧
        list'.length < list.length + (segs.flatMap (ProgramHeader.ops elfImage)).length) ∧
      ∃ ops, ops <+: segs.flatMap (ProgramHeader.ops elfImage) ∧
        Grows allocate list ops list') := by
  induction segs generalizing imageSize list with
  | nil =>
      simp only [loadSegments, Prod.mk.injEq] at hrun
      obtain ⟨rfl, rfl, rfl⟩ := hrun
      exact .inl ⟨rfl, by simp, .refl list, (Arch.uintn_of_lt hsize).symm⟩
  | cons s segs ih =>
      rw [loadSegments] at hrun
      generalize hsegment : elfLoadSegment allocate elfImage s list = segment at hrun
      obtain ⟨status', list''⟩ := segment
      rcases elfLoadSegment_spec hsegment with ⟨rfl, hle, hgrown⟩ |
        ⟨herror, hcause, ops, hops, hgrown⟩
      · rcases ih (arch.uintn_lt _) hrun with ⟨rfl, hall, hrest, hsum⟩ |
          ⟨herror, hcause, ops, hops, hrest⟩
        · refine .inl ⟨rfl, ?_, hgrown.trans hrest, ?_⟩
          · simpa using ⟨hle, hall⟩
          · rw [hsum, List.map_cons, List.sum_cons, ← Nat.add_assoc]
            exact Nat.mod_add_mod _ _ _
        · refine .inr ⟨herror, ?_, _, List.prefix_append_right_inj _ |>.mpr hops,
            hgrown.trans hrest⟩
          refine hcause.imp ?_ fun hnone => ⟨hnone.1, ?_⟩
          · rintro ⟨t, ht, hlt⟩
            exact ⟨t, List.mem_cons_of_mem s ht, hlt⟩
          · have hlt := hnone.2
            rw [hgrown.length] at hlt
            rw [List.flatMap_cons, List.length_append]
            omega
      · simp only [herror, if_true, Prod.mk.injEq] at hrun
        obtain ⟨rfl, rfl, rfl⟩ := hrun
        refine .inr ⟨rfl, ?_, ops, hops.trans (List.prefix_append _ _), hgrown⟩
        refine hcause.imp (fun hbad => ⟨s, List.mem_cons_self, hbad⟩) fun hnone => ⟨hnone.1, ?_⟩
        have hlt := hnone.2
        rw [List.flatMap_cons, List.length_append]
        omega

/-- There are nodes exactly where there are bytes. -/
lemma flatMap_ops_ne_nil (h : ∃ s ∈ segs, 0 < s.memsz) :
    segs.flatMap (ProgramHeader.ops elfImage) ≠ [] := by
  obtain ⟨s, hs, hpos⟩ := h
  rw [Ne, List.flatMap_eq_nil_iff]
  intro hnil
  have hops := hnil s hs
  unfold ProgramHeader.ops at hops
  by_cases hfile : s.filesz = 0
  · have hzeroes : 0 < s.memsz - s.filesz := by omega
    rw [if_pos hzeroes] at hops
    simp at hops
  · rw [if_pos hfile] at hops
    simp at hops

/-- What `ElfLoadFile` makes of a file. -/
inductive LoadResult (allocate : ℕ → Option ℕ) (m : ByteStore) (elfImage : ℕ)
    (segs : List (ProgramHeader arch)) (r : ElfLoaded arch) : Prop
  | success (hstatus : r.status = .success)
      (hentry : r.entryPoint = some (fieldAt m elfImage (nativeClass arch).eEntry))
      (hsizes : ∀ s ∈ segs, s.filesz ≤ s.memsz)
      (hgrown : Grows allocate [] (segs.flatMap (ProgramHeader.ops elfImage)) r.loadList)
      (hbytes : arch.uintn (segs.map ProgramHeader.memsz).sum ≠ 0)
  | error (herror : r.status.isError = true)
      (hcause : (∃ s ∈ segs, s.memsz < s.filesz) ∨
        (allocate r.loadList.length = none ∧
          r.loadList.length < (segs.flatMap (ProgramHeader.ops elfImage)).length) ∨
        arch.uintn (segs.map ProgramHeader.memsz).sum = 0)
      (hgrown : ∃ ops, ops <+: segs.flatMap (ProgramHeader.ops elfImage) ∧
        Grows allocate [] ops r.loadList)

lemma elfLoadFile_result : LoadResult allocate m elfImage (segments arch m elfImage)
    (elfLoadFile allocate m elfImage arch) := by
  rw [elfLoadFile_segments]
  generalize hrun : loadSegments allocate elfImage (segments arch m elfImage) 0 [] = outcome
  obtain ⟨status, size, list⟩ := outcome
  rcases loadSegments_spec (Nat.two_pow_pos _) hrun with ⟨rfl, hsizes, hgrown, hsum⟩ |
    ⟨herror, hcause, hgrown⟩
  · rw [Nat.zero_add] at hsum
    by_cases hzero : size = 0
    · simp only [EfiStatus.isError_success, Bool.false_eq_true, if_false, if_pos hzero]
      exact .error rfl (.inr (.inr (hsum ▸ hzero))) ⟨_, List.prefix_rfl, hgrown⟩
    · simp only [EfiStatus.isError_success, Bool.false_eq_true, if_false, if_neg hzero]
      exact .success rfl rfl hsizes hgrown (hsum ▸ hzero)
  · simp only [herror, if_true]
    refine .error herror (hcause.imp_right fun hnone => .inl ⟨hnone.1, ?_⟩) hgrown
    simpa using hnone.2

end Spec

end Load

end RunAxf
end MuPlatform
