import MuPlatform.Base.Span
import MuPlatform.BdsLib.LoadOption

/-!
# Packing and parsing load options

What a load option says is a `LoadOption`: attributes, a description, a file path list and
optional data.  `LoadOption.bytes` is its packed form as the reader takes it apart, and
`LoadOption.written` the packed form that the writer leaves: the file path list up to its first
end node, an end node of a path and the optional data directly behind it, in memory that is sized
by `FilePathListLength` and was cleared before.

Both start with the same header, and the reader finds the parts by their lengths, so that an
option comes back as it was packed exactly where the two forms agree, which they do for a file
path list of a single path with a single instance (`roundTrips_iff`).
-/

namespace MuPlatform
namespace BdsLib

open AuthVar (Char16String readString)

/-! ## What a load option says -/

/-- The content of a load option. -/
structure LoadOption where
  attributes : UInt32
  description : Char16String
  paths : FilePathList
  optionalData : List UInt8

namespace LoadOption

/-- The packed form up to the description. -/
def fixed (l : LoadOption) : List UInt8 :=
  ByteStore.leBytes 4 l.attributes.toNat ++ ByteStore.leBytes 2 l.paths.bytes.length

/-- The packed form up to the file path list. -/
def header (l : LoadOption) : List UInt8 := l.fixed ++ l.description.bytes

/-- What the reader expects behind the header. -/
def body (l : LoadOption) : List UInt8 := l.paths.bytes ++ l.optionalData

/-- What the writer leaves behind the header. -/
def writtenBody (l : LoadOption) : List UInt8 :=
  l.paths.head.first.bytes ++ (DevicePathNode.endEntire.bytes ++
    (l.optionalData ++ List.replicate l.paths.rest.length 0))

def bytes (l : LoadOption) : List UInt8 := l.header ++ l.body

def written (l : LoadOption) : List UInt8 := l.header ++ l.writtenBody

variable {l : LoadOption}

lemma length_fixed : l.fixed.length = descriptionOffset := by
  simp [fixed, descriptionOffset]

lemma length_header : l.header.length = descriptionOffset + l.description.strSize := by
  rw [header, List.length_append, length_fixed, Char16String.length_bytes]

lemma length_body : l.body.length = l.paths.bytes.length + l.optionalData.length :=
  List.length_append

lemma length_firstEnd (paths : FilePathList) :
    paths.firstEnd.bytes.length = DevicePathNode.endEntire.bytes.length := by
  rw [FilePathList.firstEnd]
  split <;> rfl

lemma type_firstEnd (paths : FilePathList) : paths.firstEnd.type = endDevicePathType := by
  rw [FilePathList.firstEnd]
  split <;> rfl

lemma length_writtenBody : l.writtenBody.length = l.body.length := by
  have hend := length_firstEnd l.paths
  simp only [writtenBody, body, FilePathList.bytes_eq, List.length_append, List.length_replicate,
    hend]
  omega

lemma length_bytes (l : LoadOption) : l.bytes.length = l.header.length +
    ((nodeBytes l.paths.head.first.nodes).length + (DevicePathNode.endEntire.bytes.length +
      (l.optionalData.length + l.paths.rest.length))) := by
  rw [bytes, List.length_append, ← length_writtenBody]
  simp only [writtenBody, List.length_append, List.length_replicate, DevicePathInstance.bytes]

lemma body_pos (l : LoadOption) : 0 < l.body.length := by
  have hend : DevicePathNode.endEntire.bytes.length = 4 := rfl
  rw [← l.length_writtenBody, writtenBody, List.length_append, List.length_append]
  omega

lemma minLoadOptionSize_le (l : LoadOption) : minLoadOptionSize ≤ l.bytes.length := by
  have hend : DevicePathNode.endEntire.bytes.length = 4 := rfl
  rw [length_bytes, length_header, minLoadOptionSize, descriptionOffset, Char16String.strSize]
  omega

/-- The blank bytes that the writer leaves are not those of a second end node. -/
lemma single_of_writtenBody (h : l.writtenBody = l.body) : l.paths.IsSingle := by
  by_contra hsingle
  rw [writtenBody, body, FilePathList.bytes_eq, List.append_assoc, List.append_assoc] at h
  obtain ⟨hend, hrest⟩ := List.append_inj (List.append_cancel_left h)
    (length_firstEnd l.paths).symm
  rcases FilePathList.firstEnd_or_rest hsingle with hfirst | hmem
  · rw [hfirst] at hend
    exact absurd hend (by decide)
  · -- both sides have the same bytes that are not blank
    have hcount := congrArg (List.countP (· ≠ 0)) hrest
    rw [List.countP_append, List.countP_append, List.countP_replicate] at hcount
    have hnone : l.paths.rest.countP (· ≠ 0) = 0 := by
      simp at hcount
      simpa using hcount
    have hblank := List.countP_eq_zero.mp hnone _ hmem
    exact hblank (by decide)

/-- The two packed forms agree on a single path with a single instance, and nowhere else. -/
theorem writtenBody_eq_body_iff : l.writtenBody = l.body ↔ l.paths.IsSingle := by
  refine ⟨single_of_writtenBody, fun hsingle => ?_⟩
  rw [writtenBody, body, FilePathList.bytes_eq, hsingle.firstEnd, hsingle.rest]
  simp

end LoadOption

/-! ## An option and what it says -/

/-- The option says `l`: its fields and the parts it points to. -/
structure BdsLoadOption.Holds (o : BdsLoadOption) (m : ByteStore) (l : LoadOption) : Prop where
  attributes : o.attributes = l.attributes
  description : m.read o.description l.description.strSize = l.description.bytes
  filePathListLength : o.filePathListLength.toNat = l.paths.bytes.length
  filePathList : m.read o.filePathList l.paths.bytes.length = l.paths.bytes
  optionalDataSize : o.optionalDataSize = l.optionalData.length
  optionalData : m.read o.optionalData l.optionalData.length = l.optionalData

/-- The option `o` when its parts are those of the packed form of `l` at `b`. -/
def LoadOption.at (l : LoadOption) (b : ℕ) (o : BdsLoadOption) : BdsLoadOption :=
  { o with
    loadOption := b
    loadOptionSize := l.bytes.length
    attributes := l.attributes
    filePathListLength := UInt16.ofNat l.paths.bytes.length
    description := b + descriptionOffset
    filePathList := b + l.header.length
    optionalData := if l.optionalData = [] then 0 else b + l.header.length + l.paths.bytes.length
    optionalDataSize := l.optionalData.length }

section Reader

variable {arch : Arch} {m : ByteStore} {l : LoadOption} {b n : ℕ} {o : BdsLoadOption}
  {body : List UInt8}

lemma read_header_body (h : m.read b l.bytes.length = l.header ++ body)
    (hbody : body.length = l.body.length) :
    m.read b l.header.length = l.header ∧ m.read (b + l.header.length) body.length = body := by
  rw [LoadOption.bytes, List.length_append, ByteStore.read_append, ← hbody] at h
  exact List.append_inj h (by simp)

lemma read_header_parts (h : m.read b l.header.length = l.header)
    (hpaths : l.paths.bytes.length < 2 ^ 16) :
    m.load32 b = l.attributes ∧ (m.load16 (b + 4)).toNat = l.paths.bytes.length ∧
      m.read (b + descriptionOffset) l.description.strSize = l.description.bytes := by
  rw [LoadOption.length_header, ByteStore.read_append, LoadOption.header] at h
  obtain ⟨hfixed, hdescription⟩ := List.append_inj h (by simp [LoadOption.length_fixed])
  rw [show descriptionOffset = 4 + 2 from rfl, ByteStore.read_append, LoadOption.fixed] at hfixed
  obtain ⟨hattributes, hlength⟩ := List.append_inj hfixed (by simp)
  refine ⟨?_, ?_, hdescription⟩
  · rw [ByteStore.load32, ByteStore.loadNat, hattributes, ByteStore.leNat_leBytes,
      Nat.mod_eq_of_lt (by simpa using l.attributes.toNat_lt), UInt32.ofNat_toNat]
  · have hpaths' : l.paths.bytes.length < 256 ^ 2 := hpaths
    rw [ByteStore.load16, ByteStore.loadNat, hlength, ByteStore.leNat_leBytes,
      Nat.mod_eq_of_lt hpaths', UInt16.toNat_ofNat', Nat.mod_eq_of_lt hpaths]

/-- The reader finds the parts by the lengths in the header, whatever lies behind it. -/
lemma parseLoadOption_eq (h : m.read b l.header.length = l.header)
    (hpaths : l.paths.bytes.length < 2 ^ 16) (hb : b ≠ 0)
    (hfits : b + l.bytes.length ≤ 2 ^ arch.uintnBits) (hn : l.description.strSize ≤ 2 * n) :
    parseLoadOption arch n m b l.bytes.length o = some (l.at b o) := by
  obtain ⟨hattributes, hlength, hdescription⟩ := read_header_parts h hpaths
  have hsize : l.bytes.length = l.header.length + l.body.length := List.length_append
  have hbody := l.length_body
  have hpos := l.body_pos
  have hpathsLength : m.load16 (b + 4) = UInt16.ofNat l.paths.bytes.length := by
    rw [← hlength, UInt16.ofNat_toNat]
  have hheader : b + descriptionOffset + l.description.strSize = b + l.header.length := by
    rw [LoadOption.length_header, Nat.add_assoc]
  have hfilePathList : arch.uintn (b + l.header.length) = b + l.header.length :=
    Arch.uintn_of_lt (by omega)
  -- the end of the list, which may be the end of the address space
  have hoffset : arch.uintnSub (arch.uintn (b + l.header.length + l.paths.bytes.length)) b =
      l.header.length + l.paths.bytes.length := by
    rw [Nat.add_assoc, Arch.uintnSub_uintn_add (by omega) (by omega)]
  rw [parseLoadOption, Char16String.readString_of_holds hdescription hn, Option.map_some]
  simp only [hheader, hfilePathList, hlength, hoffset, hattributes, LoadOption.at]
  by_cases hdata : l.optionalData = []
  · have hzero : l.optionalData.length = 0 := List.length_eq_zero_iff.mpr hdata
    rw [if_pos (by omega), hpathsLength, hzero]
    simp only [hdata, if_true]
  · have hsome : 0 < l.optionalData.length := List.length_pos_iff.mpr hdata
    rw [if_neg (by omega), hpathsLength, Arch.uintn_of_lt (by omega),
      Arch.uintnSub_of_le (by omega) (by omega)]
    simp only [hdata, if_false]
    congr
    omega

/-- `BootOptionParseLoadOption` of a packed form into a new option. -/
lemma bootOptionParseLoadOption_eq (h : m.read b l.header.length = l.header)
    (hpaths : l.paths.bytes.length < 2 ^ 16) (hb : b ≠ 0)
    (hfits : b + l.bytes.length ≤ 2 ^ arch.uintnBits) (hn : l.description.strSize ≤ 2 * n)
    (o : Option BdsLoadOption) :
    bootOptionParseLoadOption arch n true m b l.bytes.length o =
      some (.success, some (l.at b (o.getD .zero))) := by
  have hmin := Nat.not_lt.mpr l.minLoadOptionSize_le
  cases o with
  | none =>
      simp only [bootOptionParseLoadOption, if_neg hb, if_neg hmin, if_true,
        parseLoadOption_eq h hpaths hb hfits hn]
      rfl
  | some o =>
      simp only [bootOptionParseLoadOption, if_neg hb, if_neg hmin,
        parseLoadOption_eq h hpaths hb hfits hn]
      rfl

/-- A parse of a packed form that ends finds its parts. -/
lemma at_of_parse {r : BdsLoadOption} (h : m.read b l.header.length = l.header)
    (hpaths : l.paths.bytes.length < 2 ^ 16) (hb : b ≠ 0)
    (hfits : b + l.bytes.length ≤ 2 ^ arch.uintnBits)
    (hparse : bootOptionParseLoadOption arch n true m b l.bytes.length none =
      some (.success, some r)) : r = l.at b .zero := by
  have hn : l.description.strSize ≤ 2 * n := by
    have hmin := Nat.not_lt.mpr l.minLoadOptionSize_le
    simp only [bootOptionParseLoadOption, if_neg hb, if_neg hmin, if_true] at hparse
    obtain ⟨o', hparsed, -⟩ := Option.map_eq_some_iff.mp hparse
    obtain ⟨description, hstring, -⟩ := Option.map_eq_some_iff.mp hparsed
    obtain rfl := Char16String.eq_of_readString hstring (read_header_parts h hpaths).2.2
    exact Char16String.strSize_le_of_readString hstring
  rw [bootOptionParseLoadOption_eq h hpaths hb hfits hn] at hparse
  cases hparse
  rfl

/-- The parts that the reader finds are those of `l` exactly where the body is that of `l`. -/
lemma holds_at_iff (h : m.read b l.bytes.length = l.header ++ body)
    (hbody : body.length = l.body.length) (hpaths : l.paths.bytes.length < 2 ^ 16) :
    (l.at b o).Holds m l ↔ body = l.body := by
  obtain ⟨hheader, hread⟩ := read_header_body h hbody
  rw [hbody, l.length_body, ByteStore.read_append] at hread
  constructor
  · intro hholds
    have hpathBytes : m.read (b + l.header.length) l.paths.bytes.length = l.paths.bytes :=
      hholds.filePathList
    have hdata : m.read (b + l.header.length + l.paths.bytes.length) l.optionalData.length =
        l.optionalData := by
      by_cases hnil : l.optionalData = []
      · simp [hnil]
      · have := hholds.optionalData
        simpa only [LoadOption.at, if_neg hnil] using this
    rw [← hread, hpathBytes, hdata, LoadOption.body]
  · rintro rfl
    obtain ⟨hpathBytes, hdata⟩ := List.append_inj hread (by simp)
    refine ⟨rfl, (read_header_parts hheader hpaths).2.2, ?_, hpathBytes, rfl, ?_⟩
    · exact UInt16.toNat_ofNat_of_lt' hpaths
    · by_cases hnil : l.optionalData = []
      · simp [hnil]
      · simpa only [LoadOption.at, if_neg hnil] using hdata

end Reader

/-! ## The writer -/

/-- The option `o`, which says `l`, can be packed at `a`: the pool gives the memory at `a`, which
is apart from what the option points to and from its old packed form. -/
structure Packs (arch : Arch) (env : BdsEnvironment) (o : BdsLoadOption) (m : ByteStore) (a : ℕ)
    (l : LoadOption) : Prop where
  allocated : env.allocateLoadOption = some a
  ne_zero : a ≠ 0
  fits : a + l.bytes.length ≤ 2 ^ arch.uintnBits
  holds : o.Holds m l
  description_apart :
    Span.Apart ⟨a, l.bytes.length⟩ ⟨o.description, l.description.strSize⟩
  filePathList_apart : Span.Apart ⟨a, l.bytes.length⟩ ⟨o.filePathList, l.paths.bytes.length⟩
  optionalData_apart : Span.Apart ⟨a, l.bytes.length⟩ ⟨o.optionalData, l.optionalData.length⟩
  old_apart : ¬ o.Creates → Span.Apart ⟨a, l.bytes.length⟩ ⟨o.oldLoadOption, o.loadOptionSize⟩

namespace Packs

variable {arch : Arch} {env : BdsEnvironment} {o : BdsLoadOption} {m : ByteStore} {a n : ℕ}
  {l : LoadOption}

lemma length_paths_lt (h : Packs arch env o m a l) : l.paths.bytes.length < 2 ^ 16 := by
  rw [← h.holds.filePathListLength]
  exact o.filePathListLength.toNat_lt

lemma packedSize_eq (h : Packs arch env o m a l) :
    o.packedSize l.description = l.bytes.length := by
  rw [BdsLoadOption.packedSize, h.holds.filePathListLength, h.holds.optionalDataSize,
    LoadOption.bytes, List.length_append, l.length_header, l.length_body]
  omega

/-- What lies off the new packed form is read as before while the form is written. -/
lemma read_off {b k size : ℕ} {bs : List UInt8} (hoff : Span.Apart ⟨a, size⟩ ⟨b, k⟩)
    (hbs : bs.length ≤ size) : ((m.fill a size 0).write a bs).read b k = m.read b k := by
  unfold Span.Apart at hoff
  simp only at hoff
  rw [ByteStore.read_write_disjoint (by omega), ByteStore.read_fill_disjoint (by omega)]

/-- The nodes of the first instance and the end node behind it are the start of the list. -/
lemma read_firstInstance (h : Packs arch env o m a l) :
    m.read o.filePathList
        (nodeBytes l.paths.head.first.nodes ++ l.paths.firstEnd.bytes).length =
      nodeBytes l.paths.head.first.nodes ++ l.paths.firstEnd.bytes := by
  have hread := h.holds.filePathList
  rw [FilePathList.bytes_eq, ← List.append_assoc, List.length_append, ByteStore.read_append]
    at hread
  exact (List.append_inj hread (by simp)).1

/-- What is written into the cleared memory, with the bytes that stay blank, is `l.written`. -/
lemma write_cleared : (m.fill a l.bytes.length 0).write a (l.header ++
    nodeBytes l.paths.head.first.nodes ++ DevicePathNode.endEntire.bytes ++ l.optionalData) =
      m.write a l.written := by
  have hsize := l.length_bytes
  rw [ByteStore.fill_eq_write, ByteStore.write_write_same, List.drop_replicate, LoadOption.written,
    LoadOption.writtenBody, DevicePathInstance.bytes]
  · congr 1
    simp only [List.append_assoc, List.append_cancel_left_eq]
    congr 1
    simp only [List.length_append]
    omega
  · simp only [List.length_append, List.length_replicate]
    omega

/-- The loop copies the nodes of the first instance behind the header. -/
lemma copyNodes_header (h : Packs arch env o m a l) :
    copyNodes n ((m.fill a l.bytes.length 0).write a l.header) (a + l.header.length)
        o.filePathList =
      if l.paths.head.first.nodes.length < n then
        some ((m.fill a l.bytes.length 0).write a
            (l.header ++ nodeBytes l.paths.head.first.nodes),
          a + l.header.length + (nodeBytes l.paths.head.first.nodes).length)
      else none := by
  have hsize := l.length_bytes
  have hpaths : l.paths.bytes.length = (nodeBytes l.paths.head.first.nodes ++
      l.paths.firstEnd.bytes).length + l.paths.rest.length := by
    rw [FilePathList.bytes_eq, ← List.append_assoc, List.length_append]
    rfl
  have hend := LoadOption.length_firstEnd l.paths
  have hapart := h.filePathList_apart
  unfold Span.Apart at hapart
  simp only [hpaths, List.length_append] at hapart
  have hread : ((m.fill a l.bytes.length 0).write a l.header).read o.filePathList
      (nodeBytes l.paths.head.first.nodes ++ l.paths.firstEnd.bytes).length =
        nodeBytes l.paths.head.first.nodes ++ l.paths.firstEnd.bytes := by
    rw [ByteStore.read_write_disjoint (by rw [List.length_append]; omega),
      ByteStore.read_fill_disjoint (by rw [List.length_append]; omega), h.read_firstInstance]
  rw [copyNodes_eq (LoadOption.type_firstEnd _) l.paths.head.first.type_ne hread
    (by rw [List.length_append]; omega), ← ByteStore.write_append]

/-- The writer leaves `l.written`. -/
lemma populate_eq (h : Packs arch env o m a l) :
    populate n l.description.strSize a o (m.fill a l.bytes.length 0) =
      if l.paths.head.first.nodes.length < n then some (m.write a l.written) else none := by
  have hsize := l.length_bytes
  have hheader := l.length_header
  have hfixed := l.length_fixed
  have hstart : a + descriptionOffset + l.description.strSize = a + l.header.length := by
    omega
  have hfields : ((m.fill a l.bytes.length 0).store32 a o.attributes).store16 (a + 4)
      o.filePathListLength = (m.fill a l.bytes.length 0).write a l.fixed := by
    rw [LoadOption.fixed, ByteStore.write_append, ByteStore.length_leBytes, h.holds.attributes,
      ← h.holds.filePathListLength]
    rfl
  -- the parts are read from the memory that is being written
  have hdescription : ((m.fill a l.bytes.length 0).write a l.fixed).read o.description
      l.description.strSize = l.description.bytes := by
    rw [read_off h.description_apart (by omega), h.holds.description]
  have hdata : ((m.fill a l.bytes.length 0).write a (l.header ++
      nodeBytes l.paths.head.first.nodes ++ DevicePathNode.endEntire.bytes)).read
        o.optionalData l.optionalData.length = l.optionalData := by
    rw [read_off h.optionalData_apart (by simp only [List.length_append]; omega),
      h.holds.optionalData]
  have hcopied : ((m.fill a l.bytes.length 0).write a l.fixed).blit (a + descriptionOffset)
      ((m.fill a l.bytes.length 0).write a l.fixed) o.description l.description.strSize =
        (m.fill a l.bytes.length 0).write a l.header := by
    rw [ByteStore.blit_eq_write, hdescription, ← hfixed, ← ByteStore.write_append,
      LoadOption.header]
  simp only [populate, hfields, hcopied, hstart, h.copyNodes_header]
  by_cases hn : l.paths.head.first.nodes.length < n
  · have hend : a + l.header.length + (nodeBytes l.paths.head.first.nodes).length =
        a + (l.header ++ nodeBytes l.paths.head.first.nodes).length := by
      rw [List.length_append, Nat.add_assoc]
    have hbehind : a + (l.header ++ nodeBytes l.paths.head.first.nodes).length + 4 =
        a + (l.header ++ nodeBytes l.paths.head.first.nodes ++
          DevicePathNode.endEntire.bytes).length := by
      rw [@List.length_append _ _ DevicePathNode.endEntire.bytes, ← Nat.add_assoc]
      rfl
    rw [if_pos hn, if_pos hn, Option.map_some, h.holds.optionalDataSize]
    simp only [hend, ← ByteStore.write_append, ByteStore.blit_eq_write, hdata, hbehind,
      write_cleared]
    split
    · rfl
    case isFalse hnone =>
      have hnil : l.optionalData = [] := List.length_eq_zero_iff.mp (by omega)
      rw [← write_cleared, hnil, List.append_nil]
  · rw [if_neg hn, if_neg hn, Option.map_none]

/-- The packed form lies in the new memory. -/
lemma read_written : (m.write a l.written).read a l.bytes.length = l.header ++ l.writtenBody := by
  have hlength : l.bytes.length = l.written.length := by
    rw [LoadOption.bytes, LoadOption.written, List.length_append, List.length_append,
      l.length_writtenBody]
  rw [hlength, ByteStore.read_write_same, LoadOption.written]

/-- What packing comes to: with enough rounds `l.written` lies in the new memory, and an option
that had a packed form has its parts there. -/
lemma packLoadOption_eq (h : Packs arch env o m a l) (hstring : l.description.strSize ≤ 2 * n)
    (hnodes : l.paths.head.first.nodes.length < n) :
    packLoadOption arch n env o m = some (if o.Creates then
      (.success, { o with loadOption := a, loadOptionSize := l.bytes.length },
        m.write a l.written)
      else (.success, l.at a o, (m.write a l.written).blit o.oldLoadOption env.freed
        o.oldLoadOption o.loadOptionSize)) := by
  have hfits := h.fits
  have hpos : 0 < a := Nat.pos_of_ne_zero h.ne_zero
  have hsize : arch.uintn (o.packedSize l.description) = l.bytes.length := by
    rw [h.packedSize_eq, Arch.uintn_of_lt (by omega)]
  rw [packLoadOption, Char16String.readString_of_holds h.holds.description hstring,
    Option.bind_some]
  simp only [hsize, h.allocated, h.populate_eq, if_pos hnodes, Option.bind_some]
  by_cases hcreates : o.Creates
  · have hold : o.oldLoadOption = 0 := hcreates
    rw [if_pos hold, if_pos hcreates]
  · have hold : ¬ o.oldLoadOption = 0 := hcreates
    have hread := @read_written m a l
    have hheader := (read_header_body hread l.length_writtenBody).1
    rw [if_neg hold, if_neg hcreates, bootOptionParseLoadOption_eq hheader h.length_paths_lt
      h.ne_zero hfits hstring]
    rfl

/-- A call that returns has had enough rounds. -/
lemma rounds_of_packLoadOption {x : EfiStatus × BdsLoadOption × ByteStore}
    (h : Packs arch env o m a l) (hpack : packLoadOption arch n env o m = some x) :
    l.description.strSize ≤ 2 * n ∧ l.paths.head.first.nodes.length < n := by
  rw [packLoadOption] at hpack
  obtain ⟨description, hstring, hrest⟩ := Option.bind_eq_some_iff.mp hpack
  obtain rfl := Char16String.eq_of_readString hstring h.holds.description
  refine ⟨Char16String.strSize_le_of_readString hstring, ?_⟩
  by_contra hnodes
  have hfits := h.fits
  have hpos : 0 < a := Nat.pos_of_ne_zero h.ne_zero
  have hsize : arch.uintn (o.packedSize l.description) = l.bytes.length := by
    rw [h.packedSize_eq, Arch.uintn_of_lt (by omega)]
  simp only [hsize, h.allocated, h.populate_eq, if_neg hnodes] at hrest
  cases hrest

/-- Where the packed form is, whether it is a new one or replaces an old one. -/
lemma packed_spec {s : EfiStatus} {o' : BdsLoadOption} {m' : ByteStore}
    (h : Packs arch env o m a l) (hpack : packLoadOption arch n env o m = some (s, o', m')) :
    o'.loadOption = a ∧ o'.loadOptionSize = l.bytes.length ∧
      m'.read a l.bytes.length = l.header ++ l.writtenBody ∧ (¬ o.Creates → o' = l.at a o) := by
  obtain ⟨hstring, hnodes⟩ := h.rounds_of_packLoadOption hpack
  rw [h.packLoadOption_eq hstring hnodes] at hpack
  by_cases hcreates : o.Creates
  · rw [if_pos hcreates] at hpack
    cases hpack
    exact ⟨rfl, rfl, read_written, fun hnot => absurd hcreates hnot⟩
  · rw [if_neg hcreates] at hpack
    cases hpack
    have hapart := h.old_apart hcreates
    unfold Span.Apart at hapart
    simp only at hapart
    refine ⟨rfl, rfl, ?_, fun _ => rfl⟩
    rw [ByteStore.blit_eq_write,
      ByteStore.read_write_disjoint (by rw [ByteStore.length_read]; omega), read_written]

end Packs

/-! ## The round trip -/

/-- Packing the option succeeds, and what is packed reads as the option, wherever it lies.  An
option that had a packed form before says the same afterwards. -/
def RoundTrips (arch : Arch) (env : BdsEnvironment) (o : BdsLoadOption) (m : ByteStore)
    (l : LoadOption) : Prop :=
  ∃ n o' m', packLoadOption arch n env o m = some (.success, o', m') ∧
    (∀ b m₁, b ≠ 0 → b + o'.loadOptionSize ≤ 2 ^ arch.uintnBits →
      m₁.read b o'.loadOptionSize = m'.read o'.loadOption o'.loadOptionSize →
      ∃ k r, bootOptionParseLoadOption arch k true m₁ b o'.loadOptionSize none =
        some (.success, some r) ∧ r.Holds m₁ l) ∧
    (¬ o.Creates → o'.Holds m' l)

section RoundTrip

variable {arch : Arch} {env : BdsEnvironment} {o : BdsLoadOption} {m : ByteStore} {a : ℕ}
  {l : LoadOption}

lemma single_of_roundTrips (h : Packs arch env o m a l) (hround : RoundTrips arch env o m l) :
    l.paths.IsSingle := by
  obtain ⟨n, o', m', hpack, hreads, -⟩ := hround
  obtain ⟨hloadOption, hsize, hread, -⟩ := h.packed_spec hpack
  have hheader := (read_header_body hread l.length_writtenBody).1
  -- the packed form is parsed where the writer has left it
  obtain ⟨k, r, hparse, hholds⟩ := hreads a m' h.ne_zero (by rw [hsize]; exact h.fits)
    (by rw [hloadOption])
  rw [hsize] at hparse
  obtain rfl := at_of_parse hheader h.length_paths_lt h.ne_zero h.fits hparse
  have hbody := (holds_at_iff hread l.length_writtenBody h.length_paths_lt).mp hholds
  exact LoadOption.single_of_writtenBody hbody

lemma roundTrips_of_single (h : Packs arch env o m a l) (hsingle : l.paths.IsSingle) :
    RoundTrips arch env o m l := by
  let n := l.description.strSize + l.paths.head.first.nodes.length + 1
  have hstring : l.description.strSize ≤ 2 * n := by omega
  have hnodes : l.paths.head.first.nodes.length < n := by omega
  have hbody : l.writtenBody = l.body := LoadOption.writtenBody_eq_body_iff.mpr hsingle
  obtain ⟨⟨s, o', m'⟩, hpack⟩ : ∃ x, packLoadOption arch n env o m = some x :=
    ⟨_, h.packLoadOption_eq hstring hnodes⟩
  have hs : s = .success := by
    rw [h.packLoadOption_eq hstring hnodes] at hpack
    split at hpack <;> (cases hpack; rfl)
  subst hs
  obtain ⟨hloadOption, hsize, hread, hat⟩ := h.packed_spec hpack
  have hholds : ∀ b m₁ o₁, m₁.read b l.bytes.length = l.header ++ l.writtenBody →
      (l.at b o₁).Holds m₁ l := fun b m₁ o₁ hread₁ =>
    (holds_at_iff hread₁ l.length_writtenBody h.length_paths_lt).mpr hbody
  refine ⟨n, o', m', hpack, ?_, ?_⟩
  · intro b m₁ hb hfits hsame
    rw [hsize] at hfits hsame ⊢
    rw [hloadOption, hread] at hsame
    have hheader := (read_header_body hsame l.length_writtenBody).1
    exact ⟨n, l.at b .zero, bootOptionParseLoadOption_eq hheader h.length_paths_lt hb hfits
      hstring none, hholds b m₁ .zero hsame⟩
  · intro hcreates
    rw [hat hcreates]
    exact hholds a m' o hread

/-- Exactly the options whose file path list is a single path with a single instance come back as
they were packed. -/
theorem roundTrips_iff (h : Packs arch env o m a l) :
    RoundTrips arch env o m l ↔ l.paths.IsSingle :=
  ⟨single_of_roundTrips h, roundTrips_of_single h⟩

end RoundTrip

/-! Options that are updated in place, from a packed form at 256. -/

/-- A firmware whose pool is at 4096. -/
def poolEnvironment : BdsEnvironment :=
  ⟨true, some 4096, true, true, .success, .success, fun _ => 0⟩

/-- The PCI node of a function of device 0. -/
def pciNode (function : UInt8) : DevicePathNode := ⟨1, 1, [function, 0], (by decide : 6 < 2 ^ 16)⟩

def pciInstance (function : UInt8) : DevicePathInstance where
  nodes := [pciNode function]
  type_ne := by
    intro node hnode
    rw [List.mem_singleton.mp hnode]
    exact (by decide : (1 : UInt8) ≠ endDevicePathType)

/-- A load option with the PCI node of function 0 in front of other instances. -/
def pciOption (others : List DevicePathInstance) : LoadOption where
  attributes := 1
  description := ⟨[0x50], by simp⟩
  paths := ⟨⟨pciInstance 0, others⟩, []⟩
  optionalData := [0xAA, 0x55]

/-- The memory with the packed form of the option. -/
def packedAt256 (l : LoadOption) : ByteStore := ByteStore.write (fun _ => 0) 256 l.bytes

lemma packs_at256 {l : LoadOption} (hpaths : l.paths.bytes.length < 2 ^ 16)
    (hsize : l.bytes.length ≤ 3840) (hdata : l.optionalData ≠ []) :
    Packs .aarch64 poolEnvironment (l.at 256 .zero) (packedAt256 l) 4096 l := by
  have hread : (packedAt256 l).read 256 l.bytes.length = l.header ++ l.body := by
    rw [packedAt256, ByteStore.read_write_same, LoadOption.bytes]
  have hbytes : l.bytes.length = l.header.length + l.body.length := List.length_append
  have hheader := l.length_header
  have hbody := l.length_body
  have hpos := l.body_pos
  refine ⟨rfl, by decide, ?_, (holds_at_iff hread rfl hpaths).mpr rfl, .inr ?_, .inr ?_, .inr ?_,
    fun _ => .inr ?_⟩
  · exact (Nat.add_le_add_left hsize 4096).trans (by decide)
  · show 256 + descriptionOffset + l.description.strSize ≤ 4096
    omega
  · show 256 + l.header.length + l.paths.bytes.length ≤ 4096
    omega
  · show (if l.optionalData = [] then 0 else 256 + l.header.length + l.paths.bytes.length) +
      l.optionalData.length ≤ 4096
    rw [if_neg hdata]
    omega
  · have hold : (l.at 256 .zero).oldLoadOption = 256 := if_pos (by show 0 < l.bytes.length; omega)
    show (l.at 256 .zero).oldLoadOption + l.bytes.length ≤ 4096
    rw [hold]
    omega

lemma packs_pciOption {others : List DevicePathInstance}
    (h : (pciOption others).bytes.length ≤ 3840 ∧ (pciOption others).paths.bytes.length < 2 ^ 16) :
    Packs .aarch64 poolEnvironment ((pciOption others).at 256 .zero)
      (packedAt256 (pciOption others)) 4096 (pciOption others) :=
  packs_at256 h.2 h.1 (List.cons_ne_nil _ _)

/-- An option with a single instance is updated. -/
theorem roundTrips_iff_pciOption :
    RoundTrips .aarch64 poolEnvironment ((pciOption []).at 256 .zero) (packedAt256 (pciOption []))
      (pciOption []) :=
  (roundTrips_iff (packs_pciOption (by decide))).mpr ⟨rfl, rfl⟩

/-- An option with a path of two instances comes back with the first one, an end node behind it
and the optional data where the second one should be. -/
theorem not_roundTrips_twoInstances :
    Packs .aarch64 poolEnvironment ((pciOption [pciInstance 1]).at 256 .zero)
        (packedAt256 (pciOption [pciInstance 1])) 4096 (pciOption [pciInstance 1]) ∧
      ¬ RoundTrips .aarch64 poolEnvironment ((pciOption [pciInstance 1]).at 256 .zero)
        (packedAt256 (pciOption [pciInstance 1])) (pciOption [pciInstance 1]) := by
  have hpacks := @packs_pciOption [pciInstance 1] (by decide)
  exact ⟨hpacks, fun hround => List.cons_ne_nil _ _ (single_of_roundTrips hpacks hround).1⟩

end BdsLib

end MuPlatform
