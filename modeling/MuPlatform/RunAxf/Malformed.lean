import MuPlatform.Base.Access
import MuPlatform.RunAxf.LoadList

/-!
# Malformed ELF files

The ELF loader is not told how long the file is.  It reads the fields of the header and of the
program headers wherever these say, and takes the ranges of the segments as they are.

`fileAccesses` is what the loader reads.  `rejectsMalformed_iff` says for which files it stays
inside and takes no range from elsewhere: those that reach to the end of what the checks read, and
of the program headers up to the first that is rejected, and of the segments where all are loaded.
-/

namespace MuPlatform
namespace RunAxf

variable {arch : Arch}

/-! ## Accesses -/

/-- The read of a field of the structure at `a`. -/
def accessAt (a : ℕ) (field : Span) : Access := .read ⟨a + field.lo, field.len⟩

section Fields

variable (m : ByteStore) (elfImage : ℕ)

/-- What `IS_ELF` reads: the magic, up to the first byte that is different. -/
def magFields : List (ℕ × ℕ) → List Span
  | [] => []
  | (byte, i) :: rest =>
      ⟨i, 1⟩ :: if fieldAt m elfImage ⟨i, 1⟩ = byte then magFields rest else []

/-- What the checks of `ElfCheckHeader` on a header of one class read. -/
def programHeaderFields (c : ElfClass) : List Span :=
  c.ePhoff ::
    if fieldAt m elfImage c.ePhoff = 0 then []
    else c.ePhentsize ::
      if fieldAt m elfImage c.ePhentsize = 0 then []
      else c.ePhnum :: if fieldAt m elfImage c.ePhnum = 0 then [] else [c.eFlags]

/-- What `ElfCheckHeader` reads. -/
def checkHeaderFields : List Span :=
  magFields m elfImage elfMag.zipIdx ++
    if isElf m elfImage = false then []
    else eType ::
      if fieldAt m elfImage eType ≠ etExec then []
      else eiClass ::
        match ElfClass.ofByte (fieldAt m elfImage eiClass) with
        | some c => programHeaderFields m elfImage c
        | none => []

/-- What `ElfCheckFile` reads. -/
def checkFileFields (arch : Arch) : List Span :=
  checkHeaderFields m elfImage ++
    if (elfCheckHeader m elfImage).isError then []
    else eiClass ::
      if ElfClass.ofByte (fieldAt m elfImage eiClass) = some (nativeClass arch) then [eMachine]
      else []

/-- What `ElfLoadSegment` reads of the program header. -/
def segmentFields (c : ElfClass) : List Span := [c.pOffset, c.pVaddr, c.pFilesz, c.pMemsz]

/-- What the loop of `ElfLoadFile` reads of the program headers. -/
def loopAccesses (arch : Arch) (allocate : ℕ → Option ℕ) :
    List ℕ → List (RunAxfLoadList arch) → List Access
  | [], _ => []
  | a :: rest, list =>
    accessAt a (nativeClass arch).pType ::
      if (programHeaderAt arch m a).type = ptLoad then
        (segmentFields (nativeClass arch)).map (accessAt a) ++
          match elfLoadSegment allocate elfImage (programHeaderAt arch m a) list with
          | (status, list) =>
            if status.isError then [] else loopAccesses arch allocate rest list
      else loopAccesses arch allocate rest list

/-- What `ElfLoadFile` reads of the header. -/
def loadFields (arch : Arch) : List Span :=
  [(nativeClass arch).ePhoff, (nativeClass arch).ePhnum, (nativeClass arch).ePhentsize,
    (nativeClass arch).eEntry]

/-- What `ElfCheckFile` reads, and `ElfLoadFile` behind it. -/
def fileAccesses (arch : Arch) (allocate : ℕ → Option ℕ) : List Access :=
  (checkFileFields m elfImage arch).map (accessAt elfImage) ++
    if elfCheckFile arch m elfImage = .success then
      (loadFields arch).map (accessAt elfImage) ++
        loopAccesses m elfImage arch allocate (programHdrs arch m elfImage) []
    else []

end Fields

/-! ## Files that are long enough -/

section Extents

variable (m : ByteStore) (elfImage : ℕ)

/-- The end of the magic, or of the first byte that is different. -/
def magExtent : List (ℕ × ℕ) → ℕ
  | [] => 0
  | (byte, i) :: rest =>
      if fieldAt m elfImage ⟨i, 1⟩ = byte then max (i + 1) (magExtent rest) else i + 1

/-- How far into the file the checks of the header get. -/
def checkExtent : ℕ :=
  if isElf m elfImage = false then magExtent m elfImage elfMag.zipIdx
  else if fieldAt m elfImage eType ≠ etExec then eType.hi
  else
    match ElfClass.ofByte (fieldAt m elfImage eiClass) with
    | none => eType.hi
    | some c =>
        if fieldAt m elfImage c.ePhoff = 0 then c.ePhoff.hi
        else if fieldAt m elfImage c.ePhentsize = 0 then c.ePhentsize.hi
        else c.ePhnum.hi

/-- A header that the checks let pass. -/
structure IsExecutable (arch : Arch) : Prop where
  magic : isElf m elfImage = true
  type : fieldAt m elfImage eType = etExec
  native : ElfClass.ofByte (fieldAt m elfImage eiClass) = some (nativeClass arch)
  machine : fieldAt m elfImage eMachine = nativeMachine arch
  ePhoff : fieldAt m elfImage (nativeClass arch).ePhoff ≠ 0
  ePhentsize : fieldAt m elfImage (nativeClass arch).ePhentsize ≠ 0
  ePhnum : fieldAt m elfImage (nativeClass arch).ePhnum ≠ 0

/-- How far into a program header the loop gets. -/
def headerExtent (arch : Arch) (a : ℕ) : ℕ :=
  if (programHeaderAt arch m a).type = ptLoad then (nativeClass arch).pMemsz.hi
  else (nativeClass arch).pType.hi

/-- A segment is loaded, with `k` nodes before it. -/
def Accepted (allocate : ℕ → Option ℕ) (k : ℕ) (s : ProgramHeader arch) : Prop :=
  s.filesz ≤ s.memsz ∧ ∀ j < (s.ops elfImage).length, (allocate (k + j)).isSome

/-- The loop gets to the program header at an address, with `k` nodes before the first of those that
are left. -/
def Reached (arch : Arch) (allocate : ℕ → Option ℕ) : List ℕ → ℕ → ℕ → Prop
  | [], _, _ => False
  | a :: rest, k, reached =>
    reached = a ∨
      if (programHeaderAt arch m a).type = ptLoad then
        Accepted elfImage allocate k (programHeaderAt arch m a) ∧
          Reached arch allocate rest (k + ((programHeaderAt arch m a).ops elfImage).length) reached
      else Reached arch allocate rest k reached

/-- All segments are loaded. -/
structure Loadable (allocate : ℕ → Option ℕ) (segs : List (ProgramHeader arch)) : Prop where
  sizes : ∀ s ∈ segs, s.filesz ≤ s.memsz
  pool : ∀ k < (segs.flatMap (ProgramHeader.ops elfImage)).length, (allocate k).isSome
  bytes : arch.uintn (segs.map ProgramHeader.memsz).sum ≠ 0

end Extents

/-- The file reaches to the end of what is read, and of what is to be copied; nothing is to be
copied around the end of the address space. -/
structure LongEnough (file : FileBuffer arch) (allocate : ℕ → Option ℕ) : Prop where
  header : checkExtent file.mem file.base ≤ file.size
  programHeaders : IsExecutable file.mem file.base arch →
    ∀ a, Reached file.mem file.base arch allocate (programHdrs arch file.mem file.base) 0 a →
      file.base ≤ a ∧ a + headerExtent file.mem arch a ≤ file.base + file.size
  segments : IsExecutable file.mem file.base arch →
    Loadable file.base allocate (segments arch file.mem file.base) →
    ∀ s ∈ segments arch file.mem file.base,
      (s.filesz ≠ 0 → s.offset + s.filesz ≤ file.size) ∧ s.vaddr + s.memsz ≤ 2 ^ arch.uintnBits

/-- Only the file is read, and what is to be copied is in it and does not go around the end of the
address space; or there is an error, and the handler returns. -/
structure RejectsMalformed (env : HandlerEnvironment arch) (file : FileBuffer arch)
    (allocate : ℕ → Option ℕ) (check : EfiStatus) (r : ElfLoaded arch) : Prop where
  inside : ∀ access ∈ fileAccesses file.mem file.base arch allocate,
    access.Inside ⟨file.base, file.size⟩ ⟨file.base, 0⟩
  checked : check ≠ .success → check.isError = true
  sources : check = .success → r.status = .success → ∀ node ∈ r.loadList,
    node.op.zeroes = false →
      (Span.mk node.op.fileOffset node.op.length).Within ⟨file.base, file.size⟩
  targets : check = .success → r.status = .success → ∀ s ∈ segments arch file.mem file.base,
    s.vaddr + s.memsz ≤ 2 ^ arch.uintnBits
  otherwise : check = .success → r.status ≠ .success → r.status.isError = true ∧
    ∃ status freed, shellDynCmdRunAxfHandler env file allocate = .returned status freed

section Check

variable {m : ByteStore} {elfImage base size a : ℕ} {field : Span}

lemma inside_accessAt (hpos : 0 < field.len) :
    (accessAt a field).Inside ⟨base, size⟩ ⟨base, 0⟩ ↔
      base ≤ a + field.lo ∧ a + field.hi ≤ base + size := by
  have hwithin : (Span.mk (a + field.lo) field.len).Within ⟨base, size⟩ ↔
      base ≤ a + field.lo ∧ a + field.hi ≤ base + size := by
    unfold Span.Within Span.hi
    rw [Nat.add_assoc]
  rw [← hwithin]
  exact ⟨Access.within_of_read hpos, Access.inside_read⟩

/-- A field of the header is in the file where its end is. -/
lemma inside_accessAt_base (hpos : 0 < field.len) :
    (accessAt base field).Inside ⟨base, size⟩ ⟨base, 0⟩ ↔ field.hi ≤ size := by
  rw [inside_accessAt hpos]
  omega

/-- When `ElfCheckHeader` lets a file pass. -/
lemma elfCheckHeader_ok : (elfCheckHeader m elfImage).isError = false ↔
    isElf m elfImage = true ∧ fieldAt m elfImage eType = etExec ∧
      ∃ c, ElfClass.ofByte (fieldAt m elfImage eiClass) = some c ∧
        fieldAt m elfImage c.ePhoff ≠ 0 ∧ fieldAt m elfImage c.ePhentsize ≠ 0 ∧
        fieldAt m elfImage c.ePhnum ≠ 0 := by
  unfold elfCheckHeader
  by_cases hmagic : isElf m elfImage = false
  · simp [hmagic, EfiStatus.isError]
  rw [if_neg hmagic]
  by_cases htype : fieldAt m elfImage eType ≠ etExec
  · simp [htype, EfiStatus.isError]
  rw [if_neg htype]
  cases hclass : ElfClass.ofByte (fieldAt m elfImage eiClass) with
  | none => simp [EfiStatus.isError]
  | some c =>
      show (checkProgramHeaders m elfImage c).isError = false ↔ _
      unfold checkProgramHeaders
      by_cases hzero : fieldAt m elfImage c.ePhoff = 0 ∨ fieldAt m elfImage c.ePhentsize = 0 ∨
          fieldAt m elfImage c.ePhnum = 0
      · rw [if_pos hzero]
        refine ⟨fun h => (by cases h), ?_⟩
        rintro ⟨-, -, c', hc, hphoff, hphentsize, hphnum⟩
        obtain rfl := Option.some.inj hc
        exact (not_or.mpr ⟨hphoff, not_or.mpr ⟨hphentsize, hphnum⟩⟩ hzero).elim
      · rw [if_neg hzero]
        obtain ⟨hphoff, hrest⟩ := not_or.mp hzero
        obtain ⟨hphentsize, hphnum⟩ := not_or.mp hrest
        exact ⟨fun _ => ⟨by simpa using hmagic, not_not.mp htype, c, rfl, hphoff, hphentsize,
          hphnum⟩, fun _ => rfl⟩

/-- When `ElfCheckFile` lets a file pass. -/
lemma elfCheckFile_eq_success :
    elfCheckFile arch m elfImage = .success ↔ IsExecutable m elfImage arch := by
  unfold elfCheckFile
  by_cases hheader : (elfCheckHeader m elfImage).isError = true
  · rw [if_pos hheader]
    refine ⟨fun h => (by cases h), fun h => ?_⟩
    rw [elfCheckHeader_ok.mpr ⟨h.magic, h.type, _, h.native, h.ePhoff, h.ePhentsize, h.ePhnum⟩]
      at hheader
    cases hheader
  · rw [if_neg hheader]
    obtain ⟨hmagic, htype, c, hclass, hphoff, hphentsize, hphnum⟩ :=
      elfCheckHeader_ok.mp (by simpa using hheader)
    by_cases hnative : isNativeElf arch m elfImage = true
    · rw [if_pos hnative]
      obtain ⟨hsame, hmachine⟩ : ElfClass.ofByte (fieldAt m elfImage eiClass) =
          some (nativeClass arch) ∧ fieldAt m elfImage eMachine = nativeMachine arch := by
        simpa [isNativeElf] using hnative
      obtain rfl : c = nativeClass arch := Option.some.inj (hclass.symm.trans hsame)
      exact ⟨fun _ => ⟨hmagic, htype, hsame, hmachine, hphoff, hphentsize, hphnum⟩, fun _ => rfl⟩
    · rw [if_neg hnative]
      refine ⟨fun h => (by cases h), fun h => ?_⟩
      simp [isNativeElf, h.native, h.machine] at hnative

lemma elfCheckFile_isError (h : elfCheckFile arch m elfImage ≠ .success) :
    (elfCheckFile arch m elfImage).isError = true := by
  unfold elfCheckFile at h ⊢
  split
  · rfl
  · split
    · simp_all
    · rfl

/-- The fields of the magic. -/
lemma magFields_iff {l : List (ℕ × ℕ)} :
    (∀ field ∈ magFields m elfImage l, field.hi ≤ size) ↔ magExtent m elfImage l ≤ size := by
  induction l with
  | nil => simp [magFields, magExtent]
  | cons x rest ih =>
      obtain ⟨byte, i⟩ := x
      rw [magFields, magExtent, List.forall_mem_cons]
      split
      · rw [ih, max_le_iff]
        rfl
      · simp [Span.hi]

lemma magExtent_le : magExtent m elfImage elfMag.zipIdx ≤ 4 := by
  rw [← magFields_iff]
  simp only [elfMag, List.zipIdx_cons, List.zipIdx_nil, magFields]
  split_ifs <;> simp [Span.hi]

lemma programHeaderFields_iff {c : ElfClass} :
    (∀ field ∈ programHeaderFields m elfImage c, field.hi ≤ size) ↔
      (if fieldAt m elfImage c.ePhoff = 0 then c.ePhoff.hi
        else if fieldAt m elfImage c.ePhentsize = 0 then c.ePhentsize.hi
        else c.ePhnum.hi) ≤ size := by
  unfold programHeaderFields
  split_ifs <;>
    cases c <;> simp [Span.hi, ElfClass.ePhoff, ElfClass.ePhentsize, ElfClass.ePhnum,
      ElfClass.eFlags] <;> omega

/-- What `ElfCheckHeader` reads is in the file where this is as long as the checks get. -/
lemma checkHeaderFields_iff :
    (∀ field ∈ checkHeaderFields m elfImage, field.hi ≤ size) ↔
      checkExtent m elfImage ≤ size := by
  have hmag := @magExtent_le m elfImage
  unfold checkHeaderFields checkExtent
  rw [List.forall_mem_append, magFields_iff]
  by_cases hmagic : isElf m elfImage = false
  · rw [if_pos hmagic, if_pos hmagic]
    simp
  rw [if_neg hmagic, if_neg hmagic, List.forall_mem_cons]
  by_cases htype : fieldAt m elfImage eType ≠ etExec
  · rw [if_pos htype, if_pos htype]
    simp [eType, Span.hi]
    omega
  rw [if_neg htype, if_neg htype, List.forall_mem_cons]
  cases hclass : ElfClass.ofByte (fieldAt m elfImage eiClass) with
  | none =>
      simp [eType, eiClass, Span.hi]
      omega
  | some c =>
      show _ ∧ _ ∧ _ ∧ (∀ field ∈ programHeaderFields m elfImage c, field.hi ≤ size) ↔ _
      rw [programHeaderFields_iff]
      -- these fields lie behind the others
      have hbehind : eType.hi ≤ if fieldAt m elfImage c.ePhoff = 0 then c.ePhoff.hi
          else if fieldAt m elfImage c.ePhentsize = 0 then c.ePhentsize.hi else c.ePhnum.hi := by
        split_ifs <;> cases c <;> decide
      refine ⟨fun h => h.2.2.2, fun h => ⟨?_, hbehind.trans h, ?_, h⟩⟩
      · exact hmag.trans ((show 4 ≤ eType.hi by decide).trans (hbehind.trans h))
      · exact (show eiClass.hi ≤ eType.hi by decide).trans (hbehind.trans h)

lemma checkExtent_of_ok (h : (elfCheckHeader m elfImage).isError = false) :
    ∃ c, ElfClass.ofByte (fieldAt m elfImage eiClass) = some c ∧
      checkExtent m elfImage = c.ePhnum.hi := by
  obtain ⟨hmagic, htype, c, hclass, hphoff, hphentsize, -⟩ := elfCheckHeader_ok.mp h
  refine ⟨c, hclass, ?_⟩
  rw [checkExtent, if_neg (by simp [hmagic]), if_neg (not_not.mpr htype), hclass]
  exact (if_neg hphoff).trans (if_neg hphentsize)

lemma IsExecutable.checkExtent_eq (h : IsExecutable m elfImage arch) :
    checkExtent m elfImage = (nativeClass arch).ePhnum.hi := by
  obtain ⟨c, hclass, hextent⟩ := checkExtent_of_ok (elfCheckHeader_ok.mpr
    ⟨h.magic, h.type, _, h.native, h.ePhoff, h.ePhentsize, h.ePhnum⟩)
  obtain rfl : c = nativeClass arch := Option.some.inj (hclass.symm.trans h.native)
  exact hextent

/-- The checks of a file stay in it where it is as long as they get. -/
lemma checkFileFields_iff :
    (∀ field ∈ checkFileFields m elfImage arch, field.hi ≤ size) ↔
      checkExtent m elfImage ≤ size := by
  rw [checkFileFields, List.forall_mem_append, checkHeaderFields_iff, and_iff_left_iff_imp]
  intro hle
  split
  · simp
  · next hok =>
    obtain ⟨c, -, hextent⟩ := checkExtent_of_ok (by simpa using hok)
    have hbefore : eMachine.hi ≤ c.ePhnum.hi := by cases c <;> decide
    have hmachine : eMachine.hi ≤ size := (hbefore.trans hextent.ge).trans hle
    have hclass : eiClass.hi ≤ size := (show eiClass.hi ≤ eMachine.hi by decide).trans hmachine
    split
    · simpa using ⟨hclass, hmachine⟩
    · simpa using hclass

lemma checkFileFields_pos : ∀ field ∈ checkFileFields m elfImage arch, 0 < field.len := by
  have hmag : ∀ l : List (ℕ × ℕ), ∀ field ∈ magFields m elfImage l, 0 < field.len := by
    intro l
    induction l with
    | nil => simp [magFields]
    | cons x rest ih =>
        rw [magFields, List.forall_mem_cons]
        split
        · exact ⟨Nat.one_pos, ih⟩
        · exact ⟨Nat.one_pos, by simp⟩
  have hprogram : ∀ c, ∀ field ∈ programHeaderFields m elfImage c, 0 < field.len := by
    intro c
    unfold programHeaderFields
    split_ifs <;> cases c <;>
      simp [ElfClass.ePhoff, ElfClass.ePhentsize, ElfClass.ePhnum, ElfClass.eFlags]
  have hheader : ∀ field ∈ checkHeaderFields m elfImage, 0 < field.len := by
    rw [checkHeaderFields, List.forall_mem_append]
    refine ⟨hmag _, ?_⟩
    split_ifs
    · simp
    · simp [eType]
    · cases ElfClass.ofByte (fieldAt m elfImage eiClass) with
      | none => simp [eType, eiClass]
      | some c => simpa [eType, eiClass] using hprogram c
  rw [checkFileFields, List.forall_mem_append]
  refine ⟨hheader, ?_⟩
  split_ifs <;> simp [eiClass, eMachine]

/-- `ElfLoadFile` reads no more of the header than the checks. -/
lemma loadFields_le (h : IsExecutable m elfImage arch) (hle : checkExtent m elfImage ≤ size) :
    ∀ field ∈ loadFields arch, field.hi ≤ size := by
  rw [h.checkExtent_eq] at hle
  have hbefore : ∀ field ∈ loadFields arch, field.hi ≤ (nativeClass arch).ePhnum.hi := by
    cases arch <;> decide
  exact fun field hfield => (hbefore field hfield).trans hle

end Check

section Load

variable {m : ByteStore} {elfImage base size : ℕ} {allocate : ℕ → Option ℕ}
  {addresses : List ℕ} {list : List (RunAxfLoadList arch)} {s : ProgramHeader arch}
  {segs : List (ProgramHeader arch)}

/-- When a segment is loaded. -/
lemma elfLoadSegment_ok :
    (elfLoadSegment allocate elfImage s list).1.isError = false ↔
      Accepted elfImage allocate list.length s := by
  generalize hrun : elfLoadSegment allocate elfImage s list = outcome
  obtain ⟨status, list'⟩ := outcome
  rcases elfLoadSegment_spec hrun with ⟨rfl, hle, hgrown⟩ |
    ⟨herror, hcause, ops, -, hgrown⟩
  · refine ⟨fun _ => ⟨hle, fun j hj => ?_⟩, fun _ => rfl⟩
    rw [hgrown.allocated (list.length + j) (Nat.le_add_right _ _)
      (by rw [hgrown.length]; omega)]
    rfl
  · refine ⟨fun hok => by simp [herror] at hok, fun haccepted => ?_⟩
    rcases hcause with hlt | ⟨hnone, hlt⟩
    · exact absurd haccepted.1 (Nat.not_le.mpr hlt)
    · rw [hgrown.length] at hnone hlt
      have hsome := haccepted.2 ops.length (by omega)
      rw [hnone] at hsome
      cases hsome

lemma inside_segmentFields {a : ℕ} :
    (∀ access ∈ accessAt a (nativeClass arch).pType ::
        (segmentFields (nativeClass arch)).map (accessAt a),
      access.Inside ⟨base, size⟩ ⟨base, 0⟩) ↔
      base ≤ a ∧ a + (nativeClass arch).pMemsz.hi ≤ base + size := by
  have hpos : ∀ field ∈ (nativeClass arch).pType :: segmentFields (nativeClass arch),
      0 < field.len := by
    cases arch <;> decide
  have hfields : (∀ access ∈ accessAt a (nativeClass arch).pType ::
        (segmentFields (nativeClass arch)).map (accessAt a),
      access.Inside ⟨base, size⟩ ⟨base, 0⟩) ↔
      ∀ field ∈ (nativeClass arch).pType :: segmentFields (nativeClass arch),
        base ≤ a + field.lo ∧ a + field.hi ≤ base + size := by
    rw [← List.map_cons, List.forall_mem_map]
    exact forall₂_congr fun field hfield => inside_accessAt (hpos field hfield)
  rw [hfields]
  cases arch <;>
    simp [segmentFields, nativeClass, ElfClass.pType, ElfClass.pOffset, ElfClass.pVaddr,
      ElfClass.pFilesz, ElfClass.pMemsz, Span.hi] <;> omega

/-- The loop stays in the file where the program headers it gets to do. -/
lemma loopAccesses_iff :
    (∀ access ∈ loopAccesses m elfImage arch allocate addresses list,
      access.Inside ⟨base, size⟩ ⟨base, 0⟩) ↔
    ∀ a, Reached m elfImage arch allocate addresses list.length a →
      base ≤ a ∧ a + headerExtent m arch a ≤ base + size := by
  induction addresses generalizing list with
  | nil => simp [loopAccesses, Reached]
  | cons a rest ih =>
      rw [loopAccesses]
      simp only [Reached, forall_eq_or_imp]
      by_cases hload : (programHeaderAt arch m a).type = ptLoad
      · have hextent : headerExtent m arch a = (nativeClass arch).pMemsz.hi := if_pos hload
        rw [if_pos hload, ← List.cons_append, List.forall_mem_append, inside_segmentFields, hextent]
        simp only [if_pos hload]
        refine and_congr_right fun _ => ?_
        -- the loop goes on behind a segment that is accepted
        have haccepted := @elfLoadSegment_ok arch elfImage allocate list (programHeaderAt arch m a)
        generalize hrun : elfLoadSegment allocate elfImage (programHeaderAt arch m a) list = outcome
          at haccepted
        obtain ⟨status, list'⟩ := outcome
        rcases elfLoadSegment_spec hrun with ⟨rfl, -, hgrown⟩ | ⟨herror, -, -⟩
        · simp only [haccepted.mp rfl, true_and]
          rw [← hgrown.length]
          exact ih
        · have hrejected : ¬ Accepted elfImage allocate list.length (programHeaderAt arch m a) := by
            rw [← haccepted, herror]
            exact Bool.noConfusion
          simp [hrejected, herror]
      · have hextent : headerExtent m arch a = (nativeClass arch).pType.hi := if_neg hload
        rw [if_neg hload, List.forall_mem_cons, hextent,
          inside_accessAt (by cases arch <;> decide), ih]
        simp only [if_neg hload]
        have hlo : (nativeClass arch).pType.lo = 0 := by cases arch <;> rfl
        rw [hlo, Nat.add_zero]

/-- When `ElfLoadFile` succeeds. -/
lemma LoadResult.success_iff {r : ElfLoaded arch} (h : LoadResult allocate m elfImage segs r) :
    r.status = .success ↔ Loadable elfImage allocate segs := by
  cases h with
  | success hstatus hentry hsizes hgrown hbytes =>
      refine ⟨fun _ => ⟨hsizes, fun k hk => ?_, hbytes⟩, fun _ => hstatus⟩
      rw [hgrown.allocated k (Nat.zero_le k) (by rw [hgrown.length]; simpa using hk)]
      rfl
  | error herror hcause =>
      refine ⟨fun hok => by simp [hok] at herror, fun hloadable => ?_⟩
      rcases hcause with ⟨s, hs, hlt⟩ | ⟨hnone, hlt⟩ | hzero
      · exact absurd (hloadable.sizes s hs) (Nat.not_le.mpr hlt)
      · have hsome := hloadable.pool _ hlt
        rw [hnone] at hsome
        cases hsome
      · exact absurd hzero hloadable.bytes

/-- The node of a segment copies from the file where the bytes of the segment are in the file. -/
lemma copyOp_within {file : FileBuffer arch} (hfile : s.filesz ≠ 0) :
    (Span.mk (s.copyOp file.base).fileOffset (s.copyOp file.base).length).Within
      ⟨file.base, file.size⟩ ↔ s.offset + s.filesz ≤ file.size := by
  have hfits := file.fits
  have hoffset := s.offset_lt
  simp only [Span.Within, ProgramHeader.copyOp, Arch.uintn]
  by_cases hwrap : file.base + s.offset < 2 ^ arch.uintnBits
  · rw [Nat.mod_eq_of_lt hwrap]
    omega
  · have hbase : file.base + s.offset - 2 ^ arch.uintnBits < 2 ^ arch.uintnBits := by omega
    rw [Nat.mod_eq_sub_mod (by omega), Nat.mod_eq_of_lt hbase]
    omega

end Load

section Main

variable {env : HandlerEnvironment arch} {file : FileBuffer arch} {allocate : ℕ → Option ℕ}

/-- The loader stays in the file where the header and the program headers do. -/
lemma fileAccesses_iff :
    (∀ access ∈ fileAccesses file.mem file.base arch allocate,
      access.Inside ⟨file.base, file.size⟩ ⟨file.base, 0⟩) ↔
    checkExtent file.mem file.base ≤ file.size ∧ (IsExecutable file.mem file.base arch →
      ∀ a, Reached file.mem file.base arch allocate (programHdrs arch file.mem file.base) 0 a →
        file.base ≤ a ∧ a + headerExtent file.mem arch a ≤ file.base + file.size) := by
  rw [fileAccesses, List.forall_mem_append, List.forall_mem_map]
  have hcheck : (∀ field ∈ checkFileFields file.mem file.base arch,
      (accessAt file.base field).Inside ⟨file.base, file.size⟩ ⟨file.base, 0⟩) ↔
      checkExtent file.mem file.base ≤ file.size := by
    rw [← @checkFileFields_iff arch]
    exact forall₂_congr fun field hfield => inside_accessAt_base (checkFileFields_pos field hfield)
  rw [hcheck]
  refine and_congr_right fun hle => ?_
  by_cases hexecutable : IsExecutable file.mem file.base arch
  · rw [if_pos (elfCheckFile_eq_success.mpr hexecutable), List.forall_mem_append,
      List.forall_mem_map, loopAccesses_iff]
    have hheader : ∀ field ∈ loadFields arch,
        (accessAt file.base field).Inside ⟨file.base, file.size⟩ ⟨file.base, 0⟩ := by
      intro field hfield
      have hpos : 0 < field.len := by
        have hall : ∀ field ∈ loadFields arch, 0 < field.len := by cases arch <;> decide
        exact hall field hfield
      exact (inside_accessAt_base hpos).mpr (loadFields_le hexecutable hle field hfield)
    exact ⟨fun h _ => h.2, fun h => ⟨hheader, h hexecutable⟩⟩
  · rw [if_neg (mt elfCheckFile_eq_success.mp hexecutable)]
    simp [hexecutable]

lemma LongEnough.of_rejects
    (h : RejectsMalformed env file allocate (elfCheckFile arch file.mem file.base)
      (elfLoadFile allocate file.mem file.base arch)) : LongEnough file allocate := by
  obtain ⟨hheader, hprogram⟩ := fileAccesses_iff.mp h.inside
  refine ⟨hheader, hprogram, fun hexecutable hloadable s hs => ?_⟩
  have hcheck := elfCheckFile_eq_success.mpr hexecutable
  have hresult := @elfLoadFile_result arch allocate file.mem file.base
  have hsuccess := hresult.success_iff.mpr hloadable
  refine ⟨fun hfile => ?_, h.targets hcheck hsuccess s hs⟩
  have hmem : s.copyOp file.base ∈
      (elfLoadFile allocate file.mem file.base arch).loadList.map RunAxfLoadList.op := by
    cases hresult with
    | success _ _ _ hgrown =>
        rw [hgrown.ops]
        refine List.mem_append_right _ (List.mem_flatMap.mpr ⟨s, hs, ?_⟩)
        rw [ProgramHeader.ops, if_pos hfile]
        exact List.mem_append_left _ List.mem_cons_self
    | error herror => simp [hsuccess] at herror
  obtain ⟨node, hnode, hop⟩ := List.mem_map.mp hmem
  have hwithin := h.sources hcheck hsuccess node hnode (by rw [hop]; rfl)
  rw [hop] at hwithin
  exact (copyOp_within hfile).mp hwithin

/-- The loader rejects what is malformed exactly where the file is long enough for what it reads
and for what it takes. -/
theorem rejectsMalformed_iff :
    RejectsMalformed env file allocate (elfCheckFile arch file.mem file.base)
        (elfLoadFile allocate file.mem file.base arch) ↔
      LongEnough file allocate := by
  refine ⟨.of_rejects, fun h => ?_⟩
  have hresult := @elfLoadFile_result arch allocate file.mem file.base
  refine
    { inside := fileAccesses_iff.mpr ⟨h.header, h.programHeaders⟩
      checked := elfCheckFile_isError
      sources := fun hcheck hsuccess node hnode hcopy => ?_
      targets := fun hcheck hsuccess s hs =>
        (h.segments (elfCheckFile_eq_success.mp hcheck) (hresult.success_iff.mp hsuccess) s hs).2
      otherwise := fun hcheck hne => ?_ }
  · have hsegments := h.segments (elfCheckFile_eq_success.mp hcheck)
      (hresult.success_iff.mp hsuccess)
    cases hresult with
    | error herror => simp [hsuccess] at herror
    | success _ _ _ hgrown =>
        have hmem := List.mem_map_of_mem (f := RunAxfLoadList.op) hnode
        rw [hgrown.ops, List.map_nil, List.nil_append] at hmem
        obtain ⟨s, hs, hop⟩ := List.mem_flatMap.mp hmem
        rcases List.mem_append.mp hop with hop | hop
        · split at hop
          · next hfile =>
            rw [List.mem_singleton.mp hop]
            exact (copyOp_within hfile).mpr ((hsegments s hs).1 hfile)
          · cases hop
        · split at hop
          · rw [List.mem_singleton.mp hop] at hcopy
            cases hcopy
          · cases hop
  · cases hresult with
    | success hstatus => exact absurd hstatus hne
    | error herror =>
        obtain ⟨status, freed, hfinish, -⟩ := @finishRunAxf_error _ env file _ herror
        exact ⟨herror, status, freed, (handler_of_check hcheck).trans hfinish⟩

end Main

/-! ## A short file -/

/-- The small file without its last two bytes. -/
def shortBuffer : FileBuffer .aarch64 where
  mem := wordBuffer.mem
  base := 0x1000
  size := 122
  fits := by decide

/-- The file is loaded, with two bytes from behind the buffer. -/
theorem not_rejectsMalformed_short :
    (elfLoadFile wordPool shortBuffer.mem shortBuffer.base .aarch64).status = .success ∧
      ¬ RejectsMalformed shellEnvironment shortBuffer wordPool
        (elfCheckFile .aarch64 shortBuffer.mem shortBuffer.base)
        (elfLoadFile wordPool shortBuffer.mem shortBuffer.base .aarch64) := by
  have hcheck : elfCheckFile .aarch64 shortBuffer.mem shortBuffer.base = .success := by
    decide +kernel
  have hsuccess : (elfLoadFile wordPool shortBuffer.mem shortBuffer.base .aarch64).status =
      .success := by
    decide +kernel
  refine ⟨hsuccess, fun h => ?_⟩
  have hsegments := (LongEnough.of_rejects h).segments (elfCheckFile_eq_success.mp hcheck)
    (elfLoadFile_result.success_iff.mp hsuccess)
  have hout : ¬ ∀ s ∈ segments .aarch64 shortBuffer.mem shortBuffer.base,
      (s.filesz ≠ 0 → s.offset + s.filesz ≤ shortBuffer.size) ∧
        s.vaddr + s.memsz ≤ 2 ^ Arch.aarch64.uintnBits := by
    decide +kernel
  exact hout hsegments

end RunAxf
end MuPlatform
