import MuPlatform.AuthVar.Enumeration
import MuPlatform.BdsLib.DevicePath
import MuPlatform.Efi.Arch
import MuPlatform.Efi.Status

/-!
# Load options

The load options of the boot manager (`BdsLoadOption.c`).  A `BDS_LOAD_OPTION` points to the
parts of an option: its description, its file path list and its optional data.  The packed form,
an `EFI_LOAD_OPTION`, is the value of a `Boot####` variable.  `BootOptionParseLoadOption` makes
the parts point into a packed option, and `BootOptionToLoadOptionVariable` packs the parts into
new memory, stores the variable and, for a new option, adds its index to `BootOrder`.

Memory is a store of bytes, so that the parts may point anywhere, also into the packed option
that is being replaced.  A `BdsEnvironment` says how the firmware answers the requests of a call.
Loops over memory are given a number of rounds and come to `none` where they take more.  The
assertion on `FilePathListLength` is left out, as in a release build.
-/

namespace MuPlatform
namespace BdsLib

open AuthVar (Char16String readString)

/-! ## BDS_LOAD_OPTION -/

/-- `BDS_LOAD_OPTION`; the pointers are addresses, with 0 for `NULL`. -/
structure BdsLoadOption where
  loadOptionIndex : UInt16
  loadOption : ℕ
  loadOptionSize : ℕ
  attributes : UInt32
  filePathListLength : UInt16
  description : ℕ
  filePathList : ℕ
  optionalDataSize : ℕ
  optionalData : ℕ

/-- What `AllocateZeroPool` leaves. -/
def BdsLoadOption.zero : BdsLoadOption := ⟨0, 0, 0, 0, 0, 0, 0, 0, 0⟩

/-- `sizeof(UINT32) + sizeof(UINT16)`, where the description of an `EFI_LOAD_OPTION` starts. -/
def descriptionOffset : ℕ := 6

/-- The size of the smallest `EFI_LOAD_OPTION`: an empty description and an end node. -/
def minLoadOptionSize : ℕ := 12

/-- `BootOptionParseLoadOption` behind its checks. -/
def parseLoadOption (arch : Arch) (n : ℕ) (m : ByteStore) (efiLoadOption efiLoadOptionSize : ℕ)
    (o : BdsLoadOption) : Option BdsLoadOption :=
  (readString m n (efiLoadOption + descriptionOffset)).map fun description =>
    let filePathListLength := m.load16 (efiLoadOption + 4)
    let filePathList := arch.uintn (efiLoadOption + descriptionOffset + description.strSize)
    let behind := arch.uintn (filePathList + filePathListLength.toNat)
    let parsed :=
      { o with
        loadOption := efiLoadOption
        loadOptionSize := efiLoadOptionSize
        attributes := m.load32 efiLoadOption
        filePathListLength := filePathListLength
        description := efiLoadOption + descriptionOffset
        filePathList := filePathList }
    if arch.uintnSub behind efiLoadOption = efiLoadOptionSize then
      { parsed with optionalData := 0, optionalDataSize := 0 }
    else
      { parsed with
        optionalData := behind
        optionalDataSize :=
          arch.uintnSub efiLoadOptionSize (arch.uintnSub behind efiLoadOption) }

/-- `BootOptionParseLoadOption`: the status and `*BdsLoadOption`, which is allocated where it is
`NULL`. -/
def bootOptionParseLoadOption (arch : Arch) (n : ℕ) (allocate : Bool) (m : ByteStore)
    (efiLoadOption efiLoadOptionSize : ℕ) (o : Option BdsLoadOption) :
    Option (EfiStatus × Option BdsLoadOption) :=
  if efiLoadOption = 0 then some (.invalidParameter, o)
  else if efiLoadOptionSize < minLoadOptionSize then some (.badBufferSize, o)
  else
    match o with
    | some o =>
        (parseLoadOption arch n m efiLoadOption efiLoadOptionSize o).map fun o' =>
          (.success, some o')
    | none =>
        if allocate then
          (parseLoadOption arch n m efiLoadOption efiLoadOptionSize .zero).map fun o' =>
            (.success, some o')
        else some (.outOfResources, none)

/-! ## Variables -/

/-- The variables of the boot manager: `BootOrder` as the array it is, where the empty array says
that the variable does not exist, and the `Boot####` variables. -/
structure Variables where
  bootOrder : List UInt16
  boot : UInt16 → Option (List UInt8)

/-- `SetVariable` of a `Boot####` variable, when it succeeds.  A value of no bytes deletes the
variable. -/
def Variables.setBoot (v : Variables) (index : UInt16) (value : List UInt8) : Variables :=
  { v with boot := Function.update v.boot index (if value = [] then none else some value) }

/-- How the firmware answers the requests of a call. -/
structure BdsEnvironment where
  /-- The pool for the `BootOrder` in which a free index is looked for. -/
  allocateIndexOrder : Bool
  /-- The pool for the packed option, and its address. -/
  allocateLoadOption : Option ℕ
  /-- The pool for the `BootOrder` that gets a new entry, and its reallocation. -/
  allocateBootOrder : Bool
  reallocateBootOrder : Bool
  /-- `SetVariable` of the `Boot####` variable and of `BootOrder`. -/
  setBoot : EfiStatus
  setBootOrder : EfiStatus
  /-- What memory that has been freed holds. -/
  freed : ByteStore

/-- `GetGlobalEnvironmentVariable (L"BootOrder", NULL, ..)`: the status, and the value where it is
a success. -/
def getBootOrder (allocate : Bool) (v : Variables) : EfiStatus × List UInt16 :=
  if v.bootOrder = [] then (.notFound, [])
  else if allocate then (.success, v.bootOrder)
  else (.outOfResources, [])

/-- `BootOptionAllocateBootIndex`. -/
def bootOptionAllocateBootIndex (allocate : Bool) (v : Variables) : UInt16 :=
  match getBootOrder allocate v with
  | (status, bootOrder) =>
    if status.isError then 0
    else
      match (List.range (0xFFFF + 1)).find? fun index => UInt16.ofNat index ∉ bootOrder with
      | some index => UInt16.ofNat index
      | none => 0

/-! ## BootOptionToLoadOptionVariable -/

/-- The fields of the packed option at `a`, which has been cleared. -/
def populate (n descriptionSize a : ℕ) (o : BdsLoadOption) (m : ByteStore) : Option ByteStore :=
  let m₁ := m.store32 a o.attributes
  let m₂ := m₁.store16 (a + 4) o.filePathListLength
  let m₃ := m₂.blit (a + descriptionOffset) m₂ o.description descriptionSize
  (copyNodes n m₃ (a + descriptionOffset + descriptionSize) o.filePathList).map fun (m₄, dst) =>
    let m₅ := m₄.write dst DevicePathNode.endEntire.bytes
    if o.optionalDataSize > 0 then m₅.blit (dst + 4) m₅ o.optionalData o.optionalDataSize else m₅

/-- `OldLoadOption`. -/
def BdsLoadOption.oldLoadOption (o : BdsLoadOption) : ℕ :=
  if o.loadOptionSize > 0 then o.loadOption else 0

/-- The option has no packed form yet, or has lost it: the call adds an entry to `BootOrder`. -/
def BdsLoadOption.Creates (o : BdsLoadOption) : Prop := o.oldLoadOption = 0

instance (o : BdsLoadOption) : Decidable o.Creates := inferInstanceAs (Decidable (_ = _))

/-- `LoadOptionIndex` in a call. -/
def BdsLoadOption.callIndex (o : BdsLoadOption) (env : BdsEnvironment) (v : Variables) : UInt16 :=
  if o.loadOptionSize > 0 then o.loadOptionIndex
  else bootOptionAllocateBootIndex env.allocateIndexOrder v

/-- The size of the packed option. -/
def BdsLoadOption.packedSize (o : BdsLoadOption) (description : Char16String) : ℕ :=
  descriptionOffset + description.strSize + o.filePathListLength.toNat + o.optionalDataSize

/-- `BootOptionToLoadOptionVariable` up to the packed option: the status, and the option and the
memory it leaves. -/
def packLoadOption (arch : Arch) (n : ℕ) (env : BdsEnvironment) (o : BdsLoadOption)
    (m : ByteStore) : Option (EfiStatus × BdsLoadOption × ByteStore) :=
  (readString m n o.description).bind fun description =>
    let size := arch.uintn (o.packedSize description)
    match env.allocateLoadOption with
    | none => some (.outOfResources, { o with loadOption := 0, loadOptionSize := size }, m)
    | some a =>
        (populate n description.strSize a o (m.fill a size 0)).bind fun m' =>
          let packed := { o with loadOption := a, loadOptionSize := size }
          if o.oldLoadOption = 0 then some (.success, packed, m')
          else
            (bootOptionParseLoadOption arch n true m' a size (some packed)).map fun parsed =>
              (.success, parsed.2.getD packed,
                m'.blit o.oldLoadOption env.freed o.oldLoadOption o.loadOptionSize)

/-- What a call comes to.  A write through the `NULL` of a failed `ReallocatePool` does not
return. -/
inductive Outcome
  | returned (status : EfiStatus) (o : BdsLoadOption) (m : ByteStore) (v : Variables)
  | nullWrite

/-- The part that adds the index to `BootOrder`. -/
def addToBootOrder (env : BdsEnvironment) (o : BdsLoadOption) (m : ByteStore) (v : Variables) :
    Outcome :=
  match getBootOrder env.allocateBootOrder v with
  | (status, bootOrder) =>
    if !status.isError && !env.reallocateBootOrder then .nullWrite
    else
      let extended :=
        if status.isError then [o.loadOptionIndex] else bootOrder ++ [o.loadOptionIndex]
      .returned .success o m
        (if env.setBootOrder.isError then v else { v with bootOrder := extended })

/-- `BootOptionToLoadOptionVariable`. -/
def bootOptionToLoadOptionVariable (arch : Arch) (n : ℕ) (env : BdsEnvironment)
    (o : BdsLoadOption) (m : ByteStore) (v : Variables) : Option Outcome :=
  (packLoadOption arch n env { o with loadOptionIndex := o.callIndex env v } m).map
    fun (status, packed, m') =>
      if status.isError then .returned status packed m' v
      else
        let stored :=
          if env.setBoot.isError then v
          else v.setBoot packed.loadOptionIndex (m'.read packed.loadOption packed.loadOptionSize)
        if o.oldLoadOption = 0 then addToBootOrder env packed m' stored
        else .returned .success packed m' stored

end BdsLib

end MuPlatform
