import Mathlib.Algebra.Order.BigOperators.Group.List
import MuPlatform.Base.Ledger
import MuPlatform.RunAxf.Elf

/-!
# The load list

`ShellDynCmdRunAxfHandler` (`RunAxf.c`) has the list built from the file in memory, leaves the boot
services, and goes through the list: each node copies bytes of the file to where they belong, or
sets memory to zero.  By then UEFI may be overwritten, so the list and the file have to be out of
the way.

`processOps_reproduces` goes through the segments: what is written for one of them is not touched
for the others.  `loadsImage` is the result for a whole file, which says as well when it is
rejected and that nothing is left behind then.
-/

namespace MuPlatform
namespace RunAxf

variable {arch : Arch}

/-! ## The handler -/

/-- Where a node writes. -/
def LoadOp.target (op : LoadOp arch) : Arc (2 ^ arch.uintnBits) :=
  ⟨op.memOffset, op.length, op.memOffset_lt, op.length_lt.le⟩

/-- The addresses of a segment. -/
def ProgramHeader.target (s : ProgramHeader arch) : Arc (2 ^ arch.uintnBits) :=
  ⟨s.vaddr, s.memsz, s.vaddr_lt, s.memsz_lt.le⟩

/-- `ZeroMem` or `CopyMem`. -/
def LoadOp.process (m : ByteStore) (op : LoadOp arch) : ByteStore :=
  if op.zeroes then m.clearArc op.target else m.copyArc op.target op.fileOffset

/-- What the node writes overlaps another node. -/
def RunAxfLoadList.overwrites (node other : RunAxfLoadList arch) : Bool :=
  (List.range (sizeofRunAxfLoadList arch)).any fun i => node.op.target.Has (other.address + i)

/-- The loop over the list, which is lost where a node that is still to be read is overwritten. -/
def processLoadList : List (RunAxfLoadList arch) → ByteStore → Option ByteStore
  | [], m => some m
  | node :: rest, m =>
      if (node :: rest).any node.overwrites then none
      else processLoadList rest (node.op.process m)

/-- The loop that frees the list. -/
def freeLoadList : List (RunAxfLoadList arch) → List (Entry ℕ)
  | [] => []
  | node :: rest => .released node.address :: freeLoadList rest

/-- The `SHELL_STATUS` of the handler, once the file is in memory. -/
inductive ShellStatus
  | success
  | unsupported
  | deviceError
  deriving DecidableEq, Repr

/-- Where the handler ends: in the program, without boot services, or back in the shell. -/
inductive HandlerEnd
  | started (entryPoint : Option ℕ) (mem : Option ByteStore)
  | returned (status : ShellStatus) (freed : List (Entry ℕ))

/-- How the other calls of the handler end: `BootMonFsCheckFile` and `BootMonFsLoadFile` for a file
that is not an ELF file, and the removal of the protocols. -/
structure HandlerEnvironment (arch : Arch) where
  bootMonFsCheckFile : EfiStatus
  bootMonFsLoadFile : ElfLoaded arch
  uninstallProtocols : EfiStatus

section Model

variable (env : HandlerEnvironment arch) (file : FileBuffer arch)

/-- The part of `ShellDynCmdRunAxfHandler` behind the load list. -/
def finishRunAxf (status : ShellStatus) (loaded : ElfLoaded arch) : HandlerEnd :=
  if loaded.loadList ≠ [] ∧ loaded.status.isError = false then
    .started loaded.entryPoint (processLoadList loaded.loadList file.mem)
  else
    .returned
      (if env.uninstallProtocols.isError && decide (status = .success) then .deviceError
        else status)
      (freeLoadList loaded.loadList ++ [.released file.base])

/-- `ShellDynCmdRunAxfHandler` from the file in memory on. -/
def shellDynCmdRunAxfHandler (allocate : ℕ → Option ℕ) : HandlerEnd :=
  if (elfCheckFile arch file.mem file.base).isError = false then
    finishRunAxf env file .success (elfLoadFile allocate file.mem file.base arch)
  else if env.bootMonFsCheckFile.isError = false then
    finishRunAxf env file .success env.bootMonFsLoadFile
  else finishRunAxf env file .unsupported ⟨env.bootMonFsCheckFile, none, []⟩

end Model

/-! ## The image -/

/-- The segments lie in the file, and their targets are out of the way of each other, of the file
and of the list. -/
structure Placed (file : FileBuffer arch) (segs : List (ProgramHeader arch))
    (list : List (RunAxfLoadList arch)) : Prop where
  header : (nativeClass arch).sizeofEhdr ≤ file.size
  inFile : ∀ s ∈ segs, s.offset + s.filesz ≤ file.size
  apart : segs.Pairwise fun s t => s.target.Apart t.target
  buffer : ∀ s ∈ segs, ∀ i < file.size, ¬ s.target.Has (file.base + i)
  list : ∀ s ∈ segs, ∀ node ∈ list, ∀ i < sizeofRunAxfLoadList arch,
    ¬ s.target.Has (node.address + i)

/-- Memory has the bytes of each segment, with zeroes behind them, and nothing else is changed. -/
structure Reproduces (file : FileBuffer arch) (segs : List (ProgramHeader arch))
    (m : ByteStore) : Prop where
  segment : ∀ s ∈ segs, ∀ i < s.memsz, m (arch.uintn (s.vaddr + i)) =
    if i < s.filesz then file.mem (file.base + s.offset + i) else 0
  frame : ∀ x, (∀ s ∈ segs, ¬ s.target.Has x) → m x = file.mem x

/-- What is loaded of a file, and what becomes of it. -/
structure LoadsImage (env : HandlerEnvironment arch) (file : FileBuffer arch)
    (allocate : ℕ → Option ℕ) (segs : List (ProgramHeader arch)) (r : ElfLoaded arch) : Prop where
  /-- A load list is processed into the image. -/
  image : Placed file segs r.loadList → r.status = .success →
    ∃ m, shellDynCmdRunAxfHandler env file allocate = .started r.entryPoint (some m) ∧
      Reproduces file segs m
  /-- There is one, if there is pool for it. -/
  loads : Placed file segs r.loadList → (∀ s ∈ segs, s.filesz ≤ s.memsz) →
    (∃ s ∈ segs, 0 < s.memsz) → (∀ k, (allocate k).isSome) → r.status = .success
  /-- These files are rejected. -/
  rejects : ((∃ s ∈ segs, s.memsz < s.filesz) ∨ ∀ s ∈ segs, s.memsz = 0) →
    r.status.isError = true
  /-- The handler returns from an error, with the file and the list freed. -/
  returns : r.status.isError = true →
    ∃ status freed, shellDynCmdRunAxfHandler env file allocate = .returned status freed ∧
      Ledger.Leaves {file.base}
        (r.loadList.map (fun node => Entry.granted node.address) ++ freed) 0

section Image

variable {file : FileBuffer arch} {segs : List (ProgramHeader arch)} {s : ProgramHeader arch}
  {list : List (RunAxfLoadList arch)} {m : ByteStore} {x : ℕ}

/-- A segment is one copy and one range of zeroes, each of which may be empty. -/
lemma process_segment (hsizes : s.filesz ≤ s.memsz) :
    (s.ops file.base).foldl LoadOp.process m =
      (m.copyArc (s.target.take s.filesz hsizes) (arch.uintn (file.base + s.offset))).clearArc
        (s.target.drop s.filesz) := by
  have hcopy : (if s.filesz ≠ 0 then [s.copyOp file.base] else []).foldl LoadOp.process m =
      m.copyArc (s.target.take s.filesz hsizes) (arch.uintn (file.base + s.offset)) := by
    split
    · rfl
    · next hzero =>
      funext x
      refine (ByteStore.copyArc_off ?_).symm
      rintro ⟨-, hlt⟩
      simp only [Arc.take] at hlt
      omega
  rw [ProgramHeader.ops, List.foldl_append, hcopy]
  split
  · rfl
  · next hzero =>
    funext x
    refine (ByteStore.clearArc_off ?_).symm
    rintro ⟨-, hlt⟩
    simp only [Arc.drop, ProgramHeader.target] at hlt
    omega

lemma process_segment_off (hsizes : s.filesz ≤ s.memsz) (hx : ¬ s.target.Has x) :
    (s.ops file.base).foldl LoadOp.process m x = m x := by
  rw [process_segment hsizes, ByteStore.clearArc_off, ByteStore.copyArc_off]
  · exact fun h => hx ((Arc.has_take_iff hsizes).mp h).1
  · exact fun h => hx ((Arc.has_drop_iff hsizes).mp h).1

lemma process_segment_on (hsizes : s.filesz ≤ s.memsz) (hfile : s.offset + s.filesz ≤ file.size)
    (hx : s.target.Has x) :
    (s.ops file.base).foldl LoadOp.process m x =
      if s.target.index x < s.filesz then m (file.base + s.offset + s.target.index x) else 0 := by
  rw [process_segment hsizes]
  split
  · next hlt =>
    rw [ByteStore.clearArc_off, ByteStore.copyArc_on]
    · have hfits := file.fits
      rw [show (s.target.take s.filesz hsizes).index x = s.target.index x from rfl,
        Arch.uintn_of_lt (by omega), Nat.mod_eq_of_lt (by omega)]
    · exact (Arc.has_take_iff hsizes).mpr ⟨hx, hlt⟩
    · exact fun h => Nat.not_le.mpr hlt ((Arc.has_drop_iff hsizes).mp h).2
  · next hge =>
    exact ByteStore.clearArc_on ((Arc.has_drop_iff hsizes).mpr ⟨hx, Nat.le_of_not_lt hge⟩)

/-- The segments one after the other, from a memory with the file as it was. -/
lemma processOps_reproduces (hsizes : ∀ s ∈ segs, s.filesz ≤ s.memsz)
    (hfile : ∀ s ∈ segs, s.offset + s.filesz ≤ file.size)
    (hapart : segs.Pairwise fun s t => s.target.Apart t.target)
    (hbuffer : ∀ s ∈ segs, ∀ i < file.size, ¬ s.target.Has (file.base + i)) :
    (∀ s ∈ segs, ∀ x, s.target.Has x →
      (segs.flatMap (ProgramHeader.ops file.base)).foldl LoadOp.process m x =
        if s.target.index x < s.filesz then m (file.base + s.offset + s.target.index x) else 0) ∧
    ∀ x, (∀ s ∈ segs, ¬ s.target.Has x) →
      (segs.flatMap (ProgramHeader.ops file.base)).foldl LoadOp.process m x = m x := by
  induction segs generalizing m with
  | nil => exact ⟨by simp, fun _ _ => rfl⟩
  | cons s segs ih =>
      obtain ⟨hsize, hsizes⟩ := List.forall_mem_cons.mp hsizes
      obtain ⟨hin, hfile⟩ := List.forall_mem_cons.mp hfile
      obtain ⟨hout, hbuffer⟩ := List.forall_mem_cons.mp hbuffer
      obtain ⟨hs, hapart⟩ := List.pairwise_cons.mp hapart
      obtain ⟨hon, hoff⟩ := @ih ((s.ops file.base).foldl LoadOp.process m) hsizes hfile hapart
        hbuffer
      rw [List.flatMap_cons, List.foldl_append]
      refine ⟨fun t ht x hx => ?_, fun x hx => ?_⟩
      · rcases List.mem_cons.mp ht with rfl | ht
        · rw [hoff x fun u hu => hs u hu x hx]
          exact process_segment_on hsize hin hx
        · rw [hon t ht x hx]
          -- the bytes of the file are those that were there
          split
          · next hlt =>
            have hle := hfile t ht
            rw [Nat.add_assoc]
            exact process_segment_off hsize (hout _ (by omega))
          · rfl
      · obtain ⟨hxs, hxrest⟩ := List.forall_mem_cons.mp hx
        rw [hoff x hxrest]
        exact process_segment_off hsize hxs

/-- What is written for a segment is in its target. -/
lemma has_target_of_mem_ops {op : LoadOp arch} (hsizes : s.filesz ≤ s.memsz)
    (hop : op ∈ s.ops file.base) (hx : op.target.Has x) : s.target.Has x := by
  rcases List.mem_append.mp hop with hop | hop
  · split at hop
    · rw [List.mem_singleton.mp hop] at hx
      exact ((@Arc.has_take_iff _ s.target _ x hsizes).mp hx).1
    · cases hop
  · split at hop
    · rw [List.mem_singleton.mp hop] at hx
      exact ((@Arc.has_drop_iff _ s.target _ x hsizes).mp hx).1
    · cases hop

/-- The loop over a list that is out of the way. -/
lemma processLoadList_eq (h : ∀ node ∈ list, ∀ other ∈ list, node.overwrites other = false) :
    processLoadList list m = some ((list.map RunAxfLoadList.op).foldl LoadOp.process m) := by
  induction list generalizing m with
  | nil => rfl
  | cons node rest ih =>
      have hnone : ¬ (node :: rest).any node.overwrites = true := by
        rw [List.any_eq_true]
        rintro ⟨other, hother, hover⟩
        rw [h node List.mem_cons_self other hother] at hover
        cases hover
      rw [processLoadList, if_neg hnone]
      exact ih fun a ha b hb => h a (List.mem_cons_of_mem _ ha) b (List.mem_cons_of_mem _ hb)

/-- The nodes of the segments are out of the way of each other. -/
lemma Placed.overwrites_eq_false (h : Placed file segs list)
    (hsizes : ∀ s ∈ segs, s.filesz ≤ s.memsz)
    (hops : list.map RunAxfLoadList.op = segs.flatMap (ProgramHeader.ops file.base)) :
    ∀ node ∈ list, ∀ other ∈ list, node.overwrites other = false := by
  intro node hnode other hother
  have hmem : node.op ∈ segs.flatMap (ProgramHeader.ops file.base) :=
    hops ▸ List.mem_map_of_mem hnode
  obtain ⟨s, hs, hop⟩ := List.mem_flatMap.mp hmem
  rw [RunAxfLoadList.overwrites, List.any_eq_false]
  intro i hi
  rw [decide_eq_true_eq]
  exact fun hx => h.list s hs other hother i (List.mem_range.mp hi)
    (has_target_of_mem_ops (hsizes s hs) hop hx)

/-- Segments that leave the file out do not fill the address space. -/
lemma Placed.sum_memsz_lt (h : Placed file segs list) :
    (segs.map ProgramHeader.memsz).sum < 2 ^ arch.uintnBits := by
  have hfits := file.fits
  have hheader := h.header
  have hpos : 0 < (nativeClass arch).sizeofEhdr := by cases arch <;> decide
  have hsum := @Arc.sum_len_lt _ (file.base + 0) (segs.map ProgramHeader.target)
    (List.pairwise_map.mpr h.apart) (by omega) (by
      intro t ht
      obtain ⟨s, hs, rfl⟩ := List.mem_map.mp ht
      exact h.buffer s hs 0 (by omega))
  rw [List.map_map] at hsum
  exact hsum

/-- The pool of a list. -/
def poolOf : List (RunAxfLoadList arch) → Multiset ℕ
  | [] => 0
  | node :: rest => node.address ::ₘ poolOf rest

lemma leaves_granted {held : Multiset ℕ} :
    Ledger.Leaves held (list.map fun node => Entry.granted node.address)
      (held + poolOf list) := by
  induction list generalizing held with
  | nil => exact add_zero held
  | cons node rest ih =>
      rw [List.map_cons, poolOf, Multiset.add_cons, ← Multiset.cons_add]
      exact ih

lemma leaves_freeLoadList {held : Multiset ℕ} :
    Ledger.Leaves (held + poolOf list) (freeLoadList list) held := by
  induction list with
  | nil => exact (add_zero held).symm
  | cons node rest ih =>
      rw [poolOf, Multiset.add_cons]
      exact Ledger.Leaves.release.append ih

end Image

section Main

variable {env : HandlerEnvironment arch} {file : FileBuffer arch} {allocate : ℕ → Option ℕ}
  {segs : List (ProgramHeader arch)} {r : ElfLoaded arch}

lemma sum_memsz_eq_zero (h : ∀ s ∈ segs, s.memsz = 0) :
    (segs.map ProgramHeader.memsz).sum = 0 :=
  List.sum_eq_zero (by simpa using h)

/-- A load list that is out of the way is processed into the image. -/
lemma LoadResult.started (hresult : LoadResult allocate file.mem file.base segs r)
    (hplaced : Placed file segs r.loadList) (hsuccess : r.status = .success) :
    ∃ m, finishRunAxf env file .success r = .started r.entryPoint (some m) ∧
      Reproduces file segs m := by
  cases hresult with
  | error herror => simp [hsuccess] at herror
  | success _ hentry hsizes hgrown hbytes =>
      have hops : r.loadList.map RunAxfLoadList.op =
          segs.flatMap (ProgramHeader.ops file.base) := by
        simpa using hgrown.ops
      have hne : r.loadList ≠ [] := by
        intro hnil
        rw [hnil, List.map_nil] at hops
        have hzero : ∀ s ∈ segs, s.memsz = 0 := by
          intro s hs
          by_contra hpos
          exact flatMap_ops_ne_nil ⟨s, hs, Nat.pos_of_ne_zero hpos⟩ hops.symm
        rw [sum_memsz_eq_zero hzero] at hbytes
        exact hbytes rfl
      obtain ⟨hon, hoff⟩ := @processOps_reproduces arch file segs file.mem hsizes hplaced.inFile
        hplaced.apart hplaced.buffer
      refine ⟨_, ?_, ?_, hoff⟩
      · rw [finishRunAxf, if_pos ⟨hne, by rw [hsuccess]; rfl⟩,
          processLoadList_eq (hplaced.overwrites_eq_false hsizes hops), hops]
      · intro s hs i hi
        have hindex := @Arc.index_nth _ s.target i (hi.trans s.memsz_lt)
        have hbyte := hon s hs _ (@Arc.has_nth _ s.target i hi)
        rw [hindex] at hbyte
        exact hbyte

lemma LoadResult.status_eq_success (hresult : LoadResult allocate file.mem file.base segs r)
    (hplaced : Placed file segs r.loadList) (hsizes : ∀ s ∈ segs, s.filesz ≤ s.memsz)
    (hbytes : ∃ s ∈ segs, 0 < s.memsz) (hpool : ∀ k, (allocate k).isSome) :
    r.status = .success := by
  cases hresult with
  | success hstatus => exact hstatus
  | error _ hcause =>
      rcases hcause with ⟨s, hs, hlt⟩ | ⟨hnone, -⟩ | hzero
      · exact absurd (hsizes s hs) (Nat.not_le.mpr hlt)
      · rw [← Option.not_isSome_iff_eq_none] at hnone
        exact absurd (hpool _) hnone
      · obtain ⟨s, hs, hpos⟩ := hbytes
        rw [Arch.uintn_of_lt hplaced.sum_memsz_lt] at hzero
        have hle := List.le_sum_of_mem (List.mem_map_of_mem (f := ProgramHeader.memsz) hs)
        omega

lemma LoadResult.isError (hresult : LoadResult allocate file.mem file.base segs r)
    (hbad : (∃ s ∈ segs, s.memsz < s.filesz) ∨ ∀ s ∈ segs, s.memsz = 0) :
    r.status.isError = true := by
  cases hresult with
  | error herror => exact herror
  | success _ _ hsizes _ hbytes =>
      rcases hbad with ⟨s, hs, hlt⟩ | hzero
      · exact absurd (hsizes s hs) (Nat.not_le.mpr hlt)
      · rw [sum_memsz_eq_zero hzero] at hbytes
        exact absurd rfl hbytes

/-- The handler does not leave the boot services with an error, and frees what it has. -/
lemma finishRunAxf_error (herror : r.status.isError = true) :
    ∃ status freed, finishRunAxf env file .success r = .returned status freed ∧
      Ledger.Leaves {file.base}
        (r.loadList.map (fun node => Entry.granted node.address) ++ freed) 0 := by
  have hstay : ¬ (r.loadList ≠ [] ∧ r.status.isError = false) := by simp [herror]
  refine ⟨if env.uninstallProtocols.isError && decide (ShellStatus.success = .success)
    then .deviceError else .success, freeLoadList r.loadList ++ [.released file.base], ?_, ?_⟩
  · rw [finishRunAxf, if_neg hstay]
  refine leaves_granted.append (leaves_freeLoadList.append ?_)
  exact @Ledger.Leaves.release _ _ 0 file.base

lemma handler_of_check (hcheck : elfCheckFile arch file.mem file.base = .success) :
    shellDynCmdRunAxfHandler env file allocate =
      finishRunAxf env file .success (elfLoadFile allocate file.mem file.base arch) := by
  rw [shellDynCmdRunAxfHandler, hcheck]
  rfl

/-- A file that passes the check is loaded as it says, or rejected with nothing left behind. -/
theorem loadsImage (hcheck : elfCheckFile arch file.mem file.base = .success) :
    LoadsImage env file allocate (segments arch file.mem file.base)
      (elfLoadFile allocate file.mem file.base arch) := by
  have hresult := @elfLoadFile_result arch allocate file.mem file.base
  have hhandler := @handler_of_check _ env _ allocate hcheck
  exact
    { image := fun hplaced hsuccess => hhandler ▸ hresult.started hplaced hsuccess
      loads := hresult.status_eq_success
      rejects := hresult.isError
      returns := fun herror => hhandler ▸ finishRunAxf_error herror }

end Main

/-! ## A small file -/

/-- An ELF64 file with one segment of eight bytes, the last four of which are zeroes. -/
def wordElf : List UInt8 :=
  [0x7F, 0x45, 0x4C, 0x46, 2, 1, 1, 0] ++ List.replicate 8 0 ++ [2, 0, 183, 0, 1, 0, 0, 0] ++
    ByteStore.leBytes 8 0x80000000 ++ ByteStore.leBytes 8 64 ++ List.replicate 14 0 ++
    [56, 0, 1, 0] ++ List.replicate 6 0 ++
    ByteStore.leBytes 4 1 ++ List.replicate 4 0 ++ ByteStore.leBytes 8 120 ++
    ByteStore.leBytes 8 0x80000000 ++ List.replicate 8 0 ++ ByteStore.leBytes 8 4 ++
    ByteStore.leBytes 8 8 ++ List.replicate 8 0 ++ [1, 2, 3, 4]

/-- The file in a buffer. -/
def wordBuffer : FileBuffer .aarch64 where
  mem := ByteStore.write (fun _ => 0xFF) 0x1000 wordElf
  base := 0x1000
  size := 124
  fits := by decide

/-- Pool from 0x4000 on. -/
def wordPool (k : ℕ) : Option ℕ := some (0x4000 + 0x100 * k)

/-- A shell without a BootMonFs. -/
def shellEnvironment : HandlerEnvironment .aarch64 where
  bootMonFsCheckFile := .unsupported
  bootMonFsLoadFile := ⟨.unsupported, none, []⟩
  uninstallProtocols := .success

lemma wordBuffer_placed : Placed wordBuffer (segments .aarch64 wordBuffer.mem wordBuffer.base)
    (elfLoadFile wordPool wordBuffer.mem wordBuffer.base .aarch64).loadList where
  header := by decide
  inFile := by decide +kernel
  apart := by
    have hone : (segments .aarch64 wordBuffer.mem wordBuffer.base).length = 1 := by decide +kernel
    obtain ⟨s, hs⟩ := List.length_eq_one_iff.mp hone
    rw [hs]
    exact List.pairwise_singleton _ s
  buffer := by decide +kernel
  list := by decide +kernel

/-- The file is loaded. -/
theorem loadsImage_wordElf :
    LoadsImage shellEnvironment wordBuffer wordPool
        (segments .aarch64 wordBuffer.mem wordBuffer.base)
        (elfLoadFile wordPool wordBuffer.mem wordBuffer.base .aarch64) ∧
      Placed wordBuffer (segments .aarch64 wordBuffer.mem wordBuffer.base)
        (elfLoadFile wordPool wordBuffer.mem wordBuffer.base .aarch64).loadList ∧
      (elfLoadFile wordPool wordBuffer.mem wordBuffer.base .aarch64).status = .success :=
  ⟨loadsImage (by decide +kernel), wordBuffer_placed, by decide +kernel⟩

end RunAxf
end MuPlatform
