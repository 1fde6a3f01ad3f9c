import Mathlib.Data.UInt
import MuPlatform.Base.ByteStore
import MuPlatform.Base.Terminated
import MuPlatform.Efi.Arch

/-!
# The text of a device tree

`DumpFdt` (`ShellDumpFdt.c`) walks the structure block of a flattened device tree and prints what
it meets.  `Stored` says that a run of memory is the structure block of a tree, and
`FdtItems.text` is the text of a tree.

* `dumpFdt_stored`: the dump of a stored tree prints its text and ends.
* `items_eq_of_dumpFdt`: a tree is known from its dump, as long as no node is called `/`.

The walk trusts the blob: it is the tags it meets that end it, so the model takes fuel.
-/

namespace MuPlatform
namespace FdtPlatform

/-! ## The code -/

/-- The calls of `Print`, with their arguments.  `width` is that of the `%*s` in front. -/
inductive PrintCall
  | memreserve (addr size : UInt64)
  | beginNode (width : ℕ) (name : List UInt8)
  | endNode (width : ℕ)
  | nop (width : ℕ)
  | unknownTag (width : ℕ) (tag : UInt32)
  | propertyName (width : ℕ) (name : List UInt8)
  | string (data : List UInt8)
  | openCells
  | cell (value : UInt32) (space : Bool)
  | closeCells
  | openBytes
  | byte (value : UInt8) (space : Bool)
  | closeBytes
  | endProperty
  deriving DecidableEq

def fdtBeginNode : UInt32 := 1
def fdtEndNode : UInt32 := 2
def fdtProp : UInt32 := 3
def fdtNop : UInt32 := 4
def fdtEnd : UInt32 := 9

/-- `fdt32_to_cpu` of four bytes. -/
def fdt32ToCpu (bytes : List UInt8) : UInt32 := UInt32.ofNat (ByteStore.leNat bytes.reverse)

/-- `fdt32_to_cpu (GET_CELL (p))`. -/
def getCell (mem : ByteStore) (p : ℕ) : UInt32 := fdt32ToCpu (mem.read p 4)

/-- `ALIGN`, for `a` a power of two. -/
def align (x a : ℕ) : ℕ := (x + (a - 1)) / a * a

/-- `IsPrintableString`; any character other than the terminator counts as printable. -/
def isPrintableString (data : List UInt8) : Bool :=
  data.getLast? = some 0 && ¬ (data.takeWhile (· ≠ 0)).length + 1 < data.length

/-- The loop of `PrintData` over the cells. -/
def printCells : List UInt8 → List PrintCall
  | a :: b :: c :: d :: data =>
      .cell (fdt32ToCpu [a, b, c, d]) (data ≠ []) :: printCells data
  | _ => []

/-- The loop of `PrintData` over the bytes. -/
def printBytes : List UInt8 → List PrintCall
  | [] => []
  | a :: data => .byte a (data ≠ []) :: printBytes data

/-- `PrintData`; `%a` prints up to the terminator. -/
def printData (data : List UInt8) : List PrintCall :=
  if data = [] then []
  else if isPrintableString data then [.string (data.takeWhile (· ≠ 0))]
  else if data.length % 4 = 0 then .openCells :: printCells data ++ [.closeCells]
  else .openBytes :: printBytes data ++ [.closeBytes]

/-- The string at an address, looked for in `n` bytes. -/
def stringAt (mem : ByteStore) : ℕ → ℕ → Option (List UInt8)
  | 0, _ => none
  | n + 1, p => if mem p = 0 then some [] else (stringAt mem n (p + 1)).map (mem p :: ·)

/-- What `DumpFdt` takes from the header of the blob. -/
structure FdtHeader where
  pStruct : ℕ
  pStrings : ℕ
  version : UInt32

/-- The header at an address. -/
def FdtHeader.ofStore (mem : ByteStore) (fdtBlob : ℕ) : FdtHeader where
  pStruct := fdtBlob + (getCell mem (fdtBlob + 8)).toNat
  pStrings := fdtBlob + (getCell mem (fdtBlob + 12)).toNat
  version := getCell mem (fdtBlob + 20)

section Walk

variable (arch : Arch) (mem : ByteStore) (header : FdtHeader)

/-- Where the data of a property begins; `p` is behind the offset of its name. -/
def FdtHeader.dataStart (header : FdtHeader) (p sz : ℕ) : ℕ :=
  if header.version < 16 ∧ 8 ≤ sz then align p 8 else p

/-- The loop of `DumpFdt` from the tag at `p` on.  `depth` is a `UINTN`. -/
def dumpLoop : ℕ → ℕ → ℕ → Option (List PrintCall)
  | 0, _, _ => none
  | fuel + 1, p, depth =>
    let tag := getCell mem p
    let p := p + 4
    let width := arch.uintn (depth * 4)
    if tag = fdtEnd then some []
    else if tag = fdtBeginNode then
      match stringAt mem fuel p with
      | none => none
      | some s =>
          (dumpLoop fuel (align (p + s.length + 1) 4) (arch.uintn (depth + 1))).map
            (.beginNode width (if s = [] then [0x2F] else s) :: ·)
    else if tag = fdtEndNode then
      let depth := arch.uintnSub depth 1
      (dumpLoop fuel p depth).map (.endNode (arch.uintn (depth * 4)) :: ·)
    else if tag = fdtNop then (dumpLoop fuel p depth).map (.nop width :: ·)
    else if tag ≠ fdtProp then some [.unknownTag width tag]
    else
      let sz := (getCell mem p).toNat
      let t := header.dataStart (p + 8) sz
      match stringAt mem fuel (header.pStrings + (getCell mem (p + 4)).toNat) with
      | none => none
      | some s =>
          (dumpLoop fuel (align (t + sz) 4) depth).map fun calls =>
            .propertyName width s :: printData (mem.read t sz) ++ .endProperty :: calls

/-- What `fdt_num_mem_rsv` and `fdt_get_mem_rsv` return: for each entry an error or the entry. -/
abbrev MemReserve := List (Option (UInt64 × UInt64))

/-- The loop of `DumpFdt` over the reserved memory. -/
def dumpReserve (reserve : MemReserve) : List PrintCall :=
  reserve.filterMap fun entry => entry.map fun (addr, size) => .memreserve addr size

/-- `DumpFdt`. -/
def dumpFdt (reserve : MemReserve) (fuel fdtBlob : ℕ) : Option (List PrintCall) :=
  let header := FdtHeader.ofStore mem fdtBlob
  (dumpLoop arch mem header fuel header.pStruct 0).map (dumpReserve reserve ++ ·)

end Walk

/-! ## Trees -/

/-- The items of a node: properties, nodes and gaps. -/
inductive FdtItems
  | nil
  | nop (rest : FdtItems)
  | prop (name data : List UInt8) (rest : FdtItems)
  | node (name : List UInt8) (items rest : FdtItems)
  deriving DecidableEq

namespace FdtItems

/-- The text of items at a depth. -/
def text : FdtItems → ℕ → List PrintCall
  | nil, _ => []
  | nop rest, depth => .nop (depth * 4) :: rest.text depth
  | prop name data rest, depth =>
      .propertyName (depth * 4) name :: printData data ++ .endProperty :: rest.text depth
  | node name items rest, depth =>
      .beginNode (depth * 4) (if name = [] then [0x2F] else name) :: items.text (depth + 1) ++
        .endNode (depth * 4) :: rest.text depth

/-- How deep the nodes lie. -/
def height : FdtItems → ℕ
  | nil => 0
  | nop rest => rest.height
  | prop _ _ rest => rest.height
  | node _ items rest => max (items.height + 1) rest.height

/-- No node has the name that a node without a name is printed with. -/
def Named : FdtItems → Prop
  | nil => True
  | nop rest => rest.Named
  | prop _ _ rest => rest.Named
  | node name items rest => name ≠ [0x2F] ∧ items.Named ∧ rest.Named

end FdtItems

/-- The string at an address. -/
structure StringAt (mem : ByteStore) (p : ℕ) (s : List UInt8) : Prop where
  holds : HoldsString (fun k => mem (p + k)) s
  nonzero : ∀ c ∈ s, c ≠ 0

/-- The memory from `p` to `q` is the structure block of the items. -/
inductive Stored (mem : ByteStore) (header : FdtHeader) : ℕ → FdtItems → ℕ → Prop
  | nil (p : ℕ) : Stored mem header p .nil p
  | nop {p q rest} (htag : getCell mem p = fdtNop) (hrest : Stored mem header (p + 4) rest q) :
      Stored mem header p (.nop rest) q
  | prop {p q name data rest} (htag : getCell mem p = fdtProp)
      (hsize : (getCell mem (p + 4)).toNat = data.length)
      (hname : StringAt mem (header.pStrings + (getCell mem (p + 8)).toNat) name)
      (hdata : mem.read (header.dataStart (p + 12) data.length) data.length = data)
      (hrest : Stored mem header
        (align (header.dataStart (p + 12) data.length + data.length) 4) rest q) :
      Stored mem header p (.prop name data rest) q
  | node {p q r name items rest} (htag : getCell mem p = fdtBeginNode)
      (hname : StringAt mem (p + 4) name)
      (hitems : Stored mem header (align (p + 4 + name.length + 1) 4) items r)
      (hend : getCell mem r = fdtEndNode) (hrest : Stored mem header (r + 4) rest q) :
      Stored mem header p (.node name items rest) q

/-! ## The dump of a stored tree -/

section Dump

variable {arch : Arch} {mem : ByteStore} {header : FdtHeader} {p q n depth : ℕ}
  {name s data : List UInt8} {calls : List PrintCall} {items : FdtItems}

lemma le_align (x : ℕ) {a : ℕ} (ha : 0 < a) : x ≤ align x a := by
  have hdiv := Nat.div_add_mod (x + (a - 1)) a
  have hlt := Nat.mod_lt (x + (a - 1)) ha
  rw [Nat.mul_comm] at hdiv
  unfold align
  omega

lemma le_dataStart (header : FdtHeader) (p sz : ℕ) : p ≤ header.dataStart p sz := by
  unfold FdtHeader.dataStart
  split
  · exact le_align p (by decide)
  · exact Nat.le_refl p

lemma StringAt.tail {c : UInt8} (h : StringAt mem p (c :: s)) :
    mem p = c ∧ c ≠ 0 ∧ StringAt mem (p + 1) s := by
  refine ⟨h.holds.apply (Nat.succ_pos _), h.nonzero c List.mem_cons_self, ⟨?_, ?_⟩, ?_⟩
  · refine List.ext_getElem (by simp) fun k hk hk' => ?_
    have hget := h.holds.apply (k := k + 1) (Nat.succ_lt_succ hk')
    rw [List.getElem_map, List.getElem_range]
    rw [List.getElem_cons_succ] at hget
    rw [← hget, Nat.add_assoc, Nat.add_comm 1]
  · have hend := h.holds.2
    rw [List.length_cons] at hend
    rw [← hend]
    show mem (p + 1 + s.length) = mem (p + (s.length + 1))
    rw [Nat.add_assoc, Nat.add_comm 1]
  · exact fun c hc => h.nonzero c (List.mem_cons_of_mem _ hc)

/-- A string is found in enough bytes. -/
lemma StringAt.stringAt (h : StringAt mem p s) (hn : s.length < n) :
    stringAt mem n p = some s := by
  induction s generalizing p n with
  | nil =>
      obtain ⟨m, rfl⟩ := Nat.exists_eq_succ_of_ne_zero (Nat.ne_of_gt hn)
      exact if_pos h.holds.2
  | cons c s ih =>
      obtain ⟨m, rfl⟩ := Nat.exists_eq_succ_of_ne_zero (Nat.ne_zero_of_lt hn)
      obtain ⟨hc, hne, htail⟩ := h.tail
      rw [FdtPlatform.stringAt, hc, if_neg hne, ih htail (Nat.lt_of_succ_lt_succ hn)]
      rfl

lemma stringAt_mono {m : ℕ} (hnm : n ≤ m) (h : stringAt mem n p = some s) :
    stringAt mem m p = some s := by
  induction n generalizing m p s with
  | zero => cases h
  | succ n ih =>
      obtain ⟨m, rfl⟩ := Nat.exists_eq_succ_of_ne_zero (show m ≠ 0 by omega)
      rw [stringAt] at h ⊢
      split at h
      · rename_i hzero
        rw [if_pos hzero]
        exact h
      · rename_i hzero
        obtain ⟨s', hs', rfl⟩ := Option.map_eq_some_iff.mp h
        rw [if_neg hzero, ih (Nat.le_of_succ_le_succ hnm) hs']
        rfl

/-- More fuel does not change what a walk that ends has printed. -/
lemma dumpLoop_mono {m : ℕ} (hnm : n ≤ m) (h : dumpLoop arch mem header n p depth = some calls) :
    dumpLoop arch mem header m p depth = some calls := by
  induction n generalizing m p depth calls with
  | zero => cases h
  | succ n ih =>
      obtain ⟨m, rfl⟩ := Nat.exists_eq_succ_of_ne_zero (show m ≠ 0 by omega)
      have hnm' : n ≤ m := Nat.le_of_succ_le_succ hnm
      rw [dumpLoop] at h ⊢
      dsimp only at h ⊢
      split_ifs at h ⊢ with hend hbegin hendNode hnop hprop
      · exact h
      · split at h
        · cases h
        · rename_i s hs
          obtain ⟨rest, hrest, rfl⟩ := Option.map_eq_some_iff.mp h
          rw [stringAt_mono hnm' hs]
          dsimp only
          rw [ih hnm' hrest]
          rfl
      · obtain ⟨rest, hrest, rfl⟩ := Option.map_eq_some_iff.mp h
        rw [ih hnm' hrest]
        rfl
      · obtain ⟨rest, hrest, rfl⟩ := Option.map_eq_some_iff.mp h
        rw [ih hnm' hrest]
        rfl
      · exact h
      · split at h
        · cases h
        · rename_i s hs
          obtain ⟨rest, hrest, rfl⟩ := Option.map_eq_some_iff.mp h
          rw [stringAt_mono hnm' hs]
          dsimp only
          rw [ih hnm' hrest]
          rfl

/-- With enough fuel the walk from `p` on prints the calls and ends. -/
def Dumps (arch : Arch) (mem : ByteStore) (header : FdtHeader) (p depth : ℕ)
    (calls : List PrintCall) : Prop :=
  ∃ n₀, ∀ n, n₀ ≤ n → dumpLoop arch mem header n p depth = some calls

namespace Dumps

/-- One round of the loop, for which `m` bytes are enough to find its string. -/
lemma round (m : ℕ) {p' depth' : ℕ} {calls' : List PrintCall}
    (hrest : Dumps arch mem header p' depth' calls')
    (h : ∀ n, m < n → dumpLoop arch mem header n p' depth' = some calls' →
      dumpLoop arch mem header (n + 1) p depth = some calls) :
    Dumps arch mem header p depth calls := by
  obtain ⟨n₀, hn₀⟩ := hrest
  refine ⟨max n₀ (m + 1) + 1, fun n hn => ?_⟩
  obtain ⟨k, rfl⟩ := Nat.exists_eq_succ_of_ne_zero (show n ≠ 0 by omega)
  exact h k (by omega) (hn₀ k (by omega))

lemma ended (htag : getCell mem p = fdtEnd) : Dumps arch mem header p depth [] := by
  refine ⟨1, fun n hn => ?_⟩
  obtain ⟨k, rfl⟩ := Nat.exists_eq_succ_of_ne_zero (show n ≠ 0 by omega)
  rw [dumpLoop, htag]
  rfl

/-- A tag the loop does not know ends it. -/
lemma unknown (hend : getCell mem p ≠ fdtEnd) (hbegin : getCell mem p ≠ fdtBeginNode)
    (hendNode : getCell mem p ≠ fdtEndNode) (hnop : getCell mem p ≠ fdtNop)
    (hprop : getCell mem p ≠ fdtProp) :
    Dumps arch mem header p depth [.unknownTag (arch.uintn (depth * 4)) (getCell mem p)] := by
  refine ⟨1, fun n hn => ?_⟩
  obtain ⟨k, rfl⟩ := Nat.exists_eq_succ_of_ne_zero (show n ≠ 0 by omega)
  simp only [dumpLoop, if_neg hend, if_neg hbegin, if_neg hendNode, if_neg hnop, if_pos hprop]

lemma nop (htag : getCell mem p = fdtNop) (hrest : Dumps arch mem header (p + 4) depth calls) :
    Dumps arch mem header p depth (.nop (arch.uintn (depth * 4)) :: calls) := by
  refine hrest.round 0 fun n _ hn => ?_
  rw [dumpLoop, htag, hn]
  rfl

lemma endNode (htag : getCell mem p = fdtEndNode)
    (hrest : Dumps arch mem header (p + 4) (arch.uintnSub depth 1) calls) :
    Dumps arch mem header p depth
      (.endNode (arch.uintn (arch.uintnSub depth 1 * 4)) :: calls) := by
  refine hrest.round 0 fun n _ hn => ?_
  rw [dumpLoop, htag]
  dsimp only
  rw [hn]
  rfl

lemma beginNode (htag : getCell mem p = fdtBeginNode) (hname : StringAt mem (p + 4) name)
    (hrest : Dumps arch mem header (align (p + 4 + name.length + 1) 4) (arch.uintn (depth + 1))
      calls) :
    Dumps arch mem header p depth
      (.beginNode (arch.uintn (depth * 4)) (if name = [] then [0x2F] else name) :: calls) := by
  refine hrest.round name.length fun n hlt hn => ?_
  rw [dumpLoop, htag, hname.stringAt hlt]
  dsimp only
  rw [hn]
  rfl

lemma prop (htag : getCell mem p = fdtProp)
    (hsize : (getCell mem (p + 4)).toNat = data.length)
    (hname : StringAt mem (header.pStrings + (getCell mem (p + 8)).toNat) name)
    (hdata : mem.read (header.dataStart (p + 12) data.length) data.length = data)
    (hrest : Dumps arch mem header
      (align (header.dataStart (p + 12) data.length + data.length) 4) depth calls) :
    Dumps arch mem header p depth (.propertyName (arch.uintn (depth * 4)) name ::
      printData data ++ .endProperty :: calls) := by
  refine hrest.round name.length fun n hlt hn => ?_
  rw [dumpLoop, htag, hsize, hname.stringAt hlt]
  dsimp only
  rw [hn, hdata]
  rfl

end Dumps

/-- The nodes of a tree take space. -/
lemma Stored.height_le (h : Stored mem header p items q) : p + items.height * 8 ≤ q := by
  induction h with
  | nil p => exact Nat.le_refl p
  | nop _ _ ih =>
      unfold FdtItems.height
      omega
  | @prop p q name data rest _ _ _ _ _ ih =>
      have hstart := le_dataStart header (p + 12) data.length
      have halign := le_align (header.dataStart (p + 12) data.length + data.length)
        (show 0 < 4 by decide)
      unfold FdtItems.height
      omega
  | @node p q r name items rest _ _ _ _ _ ihItems ihRest =>
      have halign := le_align (p + 4 + name.length + 1) (show 0 < 4 by decide)
      unfold FdtItems.height
      omega

/-- The walk over stored items prints their text and goes on behind them. -/
lemma Stored.dumps (h : Stored mem header p items q)
    (hheight : (depth + items.height) * 4 < 2 ^ arch.uintnBits)
    (hrest : Dumps arch mem header q depth calls) :
    Dumps arch mem header p depth (items.text depth ++ calls) := by
  induction h generalizing depth calls with
  | nil p => exact hrest
  | nop htag _ ih =>
      have hdumps := Dumps.nop htag (ih hheight hrest)
      rwa [Arch.uintn_of_lt (by omega)] at hdumps
  | prop htag hsize hname hdata _ ih =>
      have hdumps := Dumps.prop htag hsize hname hdata (ih hheight hrest)
      rw [Arch.uintn_of_lt (by omega)] at hdumps
      simpa [FdtItems.text] using hdumps
  | node htag hname hitems hend _ ihItems ihRest =>
      unfold FdtItems.height at hheight
      have hdepth : arch.uintnSub (depth + 1) 1 = depth := by
        rw [Arch.uintnSub_of_le (by omega) (by omega), Nat.add_sub_cancel]
      have hinner : arch.uintn (depth + 1) = depth + 1 := Arch.uintn_of_lt (by omega)
      have hwidth : arch.uintn (depth * 4) = depth * 4 := Arch.uintn_of_lt (by omega)
      have hbehind := ihRest (by omega) hrest
      rw [← hdepth] at hbehind
      have hitems' := ihItems (by omega) (Dumps.endNode hend hbehind)
      rw [← hinner] at hitems'
      have hdumps := Dumps.beginNode htag hname hitems'
      rw [hinner, hdepth, hwidth] at hdumps
      simpa [FdtItems.text] using hdumps

/-- The dump of a stored tree prints its text and ends; a tag that is not one of a tree is
printed as well. -/
theorem dumpFdt_stored (arch : Arch) (mem : ByteStore) (reserve : MemReserve) (fdtBlob q : ℕ)
    (items : FdtItems)
    (hstored : Stored mem (.ofStore mem fdtBlob) (FdtHeader.ofStore mem fdtBlob).pStruct items q)
    (hq : q < 2 ^ arch.uintnBits) :
    (getCell mem q = fdtEnd → ∃ n₀, ∀ n, n₀ ≤ n →
      dumpFdt arch mem reserve n fdtBlob = some (dumpReserve reserve ++ items.text 0)) ∧
    (getCell mem q ∉ [fdtEnd, fdtBeginNode, fdtEndNode, fdtNop, fdtProp] → ∃ n₀, ∀ n, n₀ ≤ n →
      dumpFdt arch mem reserve n fdtBlob = some (dumpReserve reserve ++
        (items.text 0 ++ [.unknownTag 0 (getCell mem q)]))) := by
  have hheight := hstored.height_le
  have hrun : ∀ calls, Dumps arch mem (.ofStore mem fdtBlob) q 0 calls → ∃ n₀, ∀ n, n₀ ≤ n →
      dumpFdt arch mem reserve n fdtBlob =
        some (dumpReserve reserve ++ (items.text 0 ++ calls)) := by
    intro calls hcalls
    obtain ⟨n₀, hn₀⟩ := hstored.dumps (by omega) hcalls
    refine ⟨n₀, fun n hn => ?_⟩
    rw [dumpFdt, hn₀ n hn]
    rfl
  constructor
  · intro htag
    obtain ⟨n₀, hn₀⟩ := hrun [] (.ended htag)
    exact ⟨n₀, fun n hn => by rw [hn₀ n hn, List.append_nil]⟩
  · intro htag
    simp only [List.mem_cons, List.not_mem_nil, or_false, not_or] at htag
    obtain ⟨hend, hbegin, hendNode, hnop, hprop⟩ := htag
    have hunknown := @Dumps.unknown arch mem (.ofStore mem fdtBlob) q 0 hend hbegin hendNode hnop
      hprop
    rw [Nat.zero_mul, Arch.uintn_of_lt (Nat.two_pow_pos _)] at hunknown
    exact hrun _ hunknown

/-- A tree with a property and a node in its root, and a blob of it at an address. -/
def smallBlob (fdtBlob : ℕ) : ByteStore := fun x =>
  ([0xD0, 0x0D, 0xFE, 0xED, 0, 0, 0, 0x4E, 0, 0, 0, 0x20, 0, 0, 0, 0x4C, 0, 0, 0, 0, 0, 0, 0, 17,
    0, 0, 0, 16, 0, 0, 0, 0, 0, 0, 0, 1, 0, 0, 0, 0, 0, 0, 0, 3, 0, 0, 0, 4, 0, 0, 0, 0, 0, 0, 0, 5,
    0, 0, 0, 1, 0x63, 0, 0, 0, 0, 0, 0, 2, 0, 0, 0, 2, 0, 0, 0, 9, 0x61, 0] :
    List UInt8).getD (x - fdtBlob) 0

def smallItems : FdtItems := .node [] (.prop [0x61] [0, 0, 0, 5] (.node [0x63] .nil .nil)) .nil

set_option maxRecDepth 4000 in
lemma smallBlob_stored : Stored (smallBlob 0) (.ofStore (smallBlob 0) 0)
    (FdtHeader.ofStore (smallBlob 0) 0).pStruct smallItems 0x48 := by
  refine .node (by decide) ⟨⟨rfl, rfl⟩, by decide⟩ (.prop (by decide) (by decide)
    ⟨⟨rfl, by decide⟩, by decide⟩ (by decide) (.node (by decide) ⟨⟨rfl, by decide⟩, by decide⟩
      (.nil _) (by decide) (.nil _))) (by decide) (.nil _)

theorem dumpFdt_stored_small :
    ∃ n₀, ∀ n, n₀ ≤ n → dumpFdt .aarch64 (smallBlob 0) [some (0x1000, 0x20), none] n 0 =
      some [.memreserve 0x1000 0x20, .beginNode 0 [0x2F], .propertyName 4 [0x61], .openCells,
        .cell 5 false, .closeCells, .endProperty, .beginNode 4 [0x63], .endNode 4, .endNode 0] :=
  (dumpFdt_stored .aarch64 (smallBlob 0) [some (0x1000, 0x20), none] 0 0x48 smallItems smallBlob_stored
    (by decide)).1 (by decide)

/-- A dump that ends has printed the text. -/
lemma dumpFdt_text {reserve : MemReserve} {fdtBlob : ℕ}
    (hstored : Stored mem (.ofStore mem fdtBlob) (FdtHeader.ofStore mem fdtBlob).pStruct items q)
    (hend : getCell mem q = fdtEnd) (hq : q < 2 ^ arch.uintnBits)
    (hdump : dumpFdt arch mem reserve n fdtBlob = some calls) :
    calls = dumpReserve reserve ++ items.text 0 := by
  have hheight := hstored.height_le
  have hempty : Dumps arch mem (.ofStore mem fdtBlob) q 0 [] := .ended hend
  obtain ⟨n₀, hn₀⟩ := hstored.dumps (by omega) hempty
  obtain ⟨printed, hprinted, rfl⟩ := Option.map_eq_some_iff.mp hdump
  have hmore := dumpLoop_mono (Nat.le_max_right n₀ n) hprinted
  rw [hn₀ _ (Nat.le_max_left n₀ n), List.append_nil] at hmore
  rw [Option.some.inj hmore]

end Dump

/-! ## What the text tells of the tree -/

section Text

variable {data data' : List UInt8} {calls calls' : List PrintCall} {depth : ℕ}

lemma fdt32ToCpu_inj {bytes bytes' : List UInt8} (h : bytes.length = 4) (h' : bytes'.length = 4)
    (heq : fdt32ToCpu bytes = fdt32ToCpu bytes') : bytes = bytes' := by
  have hbound : ∀ {bytes : List UInt8}, bytes.length = 4 →
      ByteStore.leNat bytes.reverse < 2 ^ 32 := by
    intro bytes h
    have hlt := ByteStore.leNat_lt bytes.reverse
    rwa [List.length_reverse, h] at hlt
  have hnat := congrArg UInt32.toNat heq
  unfold fdt32ToCpu at hnat
  rw [UInt32.toNat_ofNat_of_lt' (hbound h), UInt32.toNat_ofNat_of_lt' (hbound h')] at hnat
  have hbytes := ByteStore.leBytes_leNat bytes.reverse
  rw [hnat, List.length_reverse, h, ← h', ← List.length_reverse, ByteStore.leBytes_leNat] at hbytes
  exact (List.reverse_inj.mp hbytes).symm

/-- Data of whole cells is known from the cells printed of it. -/
lemma printCells_inj {close : PrintCall} (hclose : ∀ value space, close ≠ .cell value space)
    (h : data.length % 4 = 0) (h' : data'.length % 4 = 0)
    (heq : printCells data ++ close :: calls = printCells data' ++ close :: calls') :
    data = data' ∧ calls = calls' := by
  fun_induction printCells data generalizing data' with
  | case1 a b c d data ih =>
      match data' with
      | a' :: b' :: c' :: d' :: data' =>
          obtain ⟨hcell, hrest⟩ := List.cons.inj heq
          have hbytes : [a, b, c, d] = [a', b', c', d'] :=
            fdt32ToCpu_inj rfl rfl (PrintCall.cell.inj hcell).1
          simp only [List.length_cons] at h h'
          obtain ⟨hdata, hcalls⟩ := ih (by omega) (by omega) hrest
          rw [hdata]
          exact ⟨congrArg (· ++ data') hbytes, hcalls⟩
      | [] => exact absurd (List.cons.inj heq).1.symm (hclose _ _)
      | [_] | [_, _] | [_, _, _] => simp at h'
  | case2 data hshort =>
      match data' with
      | a' :: b' :: c' :: d' :: data' => exact absurd (List.cons.inj heq).1 (hclose _ _)
      | [] =>
          match data with
          | [] => exact ⟨rfl, (List.cons.inj heq).2⟩
          | a :: b :: c :: d :: data => exact absurd rfl (hshort a b c d data)
          | [_] | [_, _] | [_, _, _] => simp at h
      | [_] | [_, _] | [_, _, _] => simp at h'

/-- Data is known from the bytes printed of it. -/
lemma printBytes_inj {close : PrintCall} (hclose : ∀ value space, close ≠ .byte value space)
    (heq : printBytes data ++ close :: calls = printBytes data' ++ close :: calls') :
    data = data' ∧ calls = calls' := by
  induction data generalizing data' with
  | nil =>
      cases data' with
      | nil => exact ⟨rfl, (List.cons.inj heq).2⟩
      | cons a' data' => exact absurd (List.cons.inj heq).1 (hclose _ _)
  | cons a data ih =>
      cases data' with
      | nil => exact absurd (List.cons.inj heq).1.symm (hclose _ _)
      | cons a' data' =>
          obtain ⟨hbyte, hrest⟩ := List.cons.inj heq
          obtain ⟨hdata, hcalls⟩ := ih hrest
          rw [(PrintCall.byte.inj hbyte).1, hdata]
          exact ⟨rfl, hcalls⟩

/-- A printable string is its characters and a terminator. -/
lemma eq_of_isPrintableString (h : isPrintableString data = true) :
    data.takeWhile (· ≠ 0) ++ [0] = data := by
  simp only [isPrintableString, Bool.and_eq_true, decide_eq_true_eq] at h
  obtain ⟨hlast, hlength⟩ := h
  obtain ⟨init, rfl⟩ := List.getLast?_eq_some_iff.mp hlast
  have hsplit := List.takeWhile_append_dropWhile (p := (· ≠ 0)) (l := init ++ [(0 : UInt8)])
  have hle : (init ++ [(0 : UInt8)]).takeWhile (· ≠ 0) <+: init ++ [0] := List.takeWhile_prefix _
  rcases List.prefix_concat_iff.mp hle with hall | hinit
  · -- the terminator is not a character
    have hzero := List.mem_takeWhile_imp (hall ▸ List.mem_append_right init (List.mem_singleton_self 0))
    simp at hzero
  · obtain ⟨rest, hrest⟩ := hinit
    have hlengths := congrArg List.length hrest
    simp only [List.length_append, List.length_singleton] at hlengths hlength
    obtain rfl : rest = [] := List.length_eq_zero_iff.mp (by omega)
    rw [List.append_nil] at hrest
    rw [hrest]

/-- The four forms data is printed in. -/
lemma printData_forms (data : List UInt8) :
    data = [] ∧ printData data = [] ∨
      (∃ text, data = text ++ [0] ∧ printData data = [.string text]) ∨
      data.length % 4 = 0 ∧ printData data = .openCells :: printCells data ++ [.closeCells] ∨
      printData data = .openBytes :: printBytes data ++ [.closeBytes] := by
  unfold printData
  by_cases hnil : data = []
  · exact .inl ⟨hnil, if_pos hnil⟩
  rw [if_neg hnil]
  by_cases hstring : isPrintableString data = true
  · exact .inr (.inl ⟨_, (eq_of_isPrintableString hstring).symm, if_pos hstring⟩)
  rw [if_neg hstring]
  by_cases hcells : data.length % 4 = 0
  · exact .inr (.inr (.inl ⟨hcells, if_pos hcells⟩))
  · exact .inr (.inr (.inr (if_neg hcells)))

/-- Data is known from what is printed of it. -/
lemma printData_inj
    (heq : printData data ++ .endProperty :: calls = printData data' ++ .endProperty :: calls') :
    data = data' ∧ calls = calls' := by
  rcases printData_forms data with ⟨hnil, h⟩ | ⟨text, hdata, h⟩ | ⟨hlength, h⟩ | h <;>
    rcases printData_forms data' with ⟨hnil', h'⟩ | ⟨text', hdata', h'⟩ | ⟨hlength', h'⟩ | h' <;>
    rw [h, h'] at heq <;>
    simp only [List.nil_append, List.cons_append, List.append_assoc, List.cons.injEq,
      reduceCtorEq, false_and, true_and, PrintCall.string.injEq] at heq
  · exact ⟨hnil.trans hnil'.symm, heq⟩
  · exact ⟨by rw [hdata, hdata', heq.1], heq.2⟩
  · obtain ⟨rfl, hcalls⟩ := printCells_inj (fun _ _ => PrintCall.noConfusion) hlength hlength' heq
    exact ⟨rfl, (List.cons.inj hcalls).2⟩
  · obtain ⟨rfl, hcalls⟩ := printBytes_inj (fun _ _ => PrintCall.noConfusion) heq
    exact ⟨rfl, (List.cons.inj hcalls).2⟩

/-- What comes behind the items of a node does not look like an item. -/
def Behind (calls : List PrintCall) : Prop := ∀ call ∈ calls.head?, ∃ width, call = .endNode width

lemma behind_nil : Behind [] := fun call hcall => absurd hcall (by simp)

lemma behind_endNode (width : ℕ) : Behind (.endNode width :: calls) :=
  fun _ hcall => ⟨width, (Option.some.inj hcall).symm⟩

/-- Where there are items, their text shows it. -/
lemma Behind.eq_nil {items : FdtItems} (h : Behind calls)
    (heq : calls = items.text depth ++ calls') : items = .nil := by
  cases items with
  | nil => rfl
  | nop rest => obtain ⟨_, hcall⟩ := h (.nop (depth * 4)) (by rw [heq]; rfl); cases hcall
  | prop name data rest =>
      obtain ⟨_, hcall⟩ := h (.propertyName (depth * 4) name) (by rw [heq]; rfl)
      cases hcall
  | node name items rest =>
      obtain ⟨_, hcall⟩ := h (.beginNode (depth * 4) (if name = [] then [0x2F] else name))
        (by rw [heq]; rfl)
      cases hcall

/-- The printed name of a node tells its name. -/
lemma nodeName_inj {name name' : List UInt8} (hname : name ≠ [0x2F]) (hname' : name' ≠ [0x2F])
    (heq : (if name = [] then [0x2F] else name) = if name' = [] then [0x2F] else name') :
    name = name' := by
  split at heq <;> split at heq
  · rename_i h h'
    exact h.trans h'.symm
  · exact absurd heq.symm hname'
  · exact absurd heq hname
  · exact heq

/-- Items are known from their text, and so is what comes behind it. -/
lemma text_append_inj {items items' : FdtItems} (hnamed : items.Named) (hnamed' : items'.Named)
    (hcalls : Behind calls) (hcalls' : Behind calls')
    (heq : items.text depth ++ calls = items'.text depth ++ calls') :
    items = items' ∧ calls = calls' := by
  induction items generalizing items' depth calls calls' with
  | nil =>
      obtain rfl := hcalls.eq_nil heq
      exact ⟨rfl, heq⟩
  | nop rest ih =>
      cases items' with
      | nil => cases hcalls'.eq_nil heq.symm
      | nop rest' =>
          have hnamed' : rest'.Named := hnamed'
          obtain ⟨rfl, hrest⟩ := ih hnamed hnamed' hcalls hcalls' (List.cons.inj heq).2
          exact ⟨rfl, hrest⟩
      | prop | node => cases (List.cons.inj heq).1
  | prop name data rest ih =>
      cases items' with
      | nil => cases hcalls'.eq_nil heq.symm
      | prop name' data' rest' =>
          simp only [FdtItems.text, List.cons_append, List.append_assoc, List.cons.injEq,
            PrintCall.propertyName.injEq, true_and] at heq
          obtain ⟨rfl, hdata⟩ := heq
          obtain ⟨rfl, hbehind⟩ := printData_inj hdata
          have hnamed' : rest'.Named := hnamed'
          obtain ⟨rfl, hrest⟩ := ih hnamed hnamed' hcalls hcalls' hbehind
          exact ⟨rfl, hrest⟩
      | nop | node => cases (List.cons.inj heq).1
  | node name items rest ihItems ihRest =>
      cases items' with
      | nil => cases hcalls'.eq_nil heq.symm
      | node name' items' rest' =>
          simp only [FdtItems.text, List.cons_append, List.append_assoc, List.cons.injEq,
            PrintCall.beginNode.injEq, true_and] at heq
          obtain ⟨hname, hitems, hrest⟩ := hnamed
          obtain ⟨hname', hitems', hrest'⟩ := hnamed'
          obtain rfl := nodeName_inj hname hname' heq.1
          obtain ⟨rfl, hend⟩ := ihItems hitems hitems' (behind_endNode _) (behind_endNode _) heq.2
          obtain ⟨rfl, hbehind⟩ := ihRest hrest hrest' hcalls hcalls' (List.cons.inj hend).2
          exact ⟨rfl, hbehind⟩
      | nop | prop => cases (List.cons.inj heq).1

/-- The lines of the reserved memory. -/
def PrintCall.isReserve : PrintCall → Bool
  | memreserve _ _ => true
  | _ => false

lemma dropWhile_text (reserve : MemReserve) (items : FdtItems) :
    (dumpReserve reserve ++ items.text depth).dropWhile PrintCall.isReserve =
      items.text depth := by
  rw [List.dropWhile_append_of_pos]
  · cases items <;> rfl
  · intro call hcall
    obtain ⟨entry, -, hentry⟩ := List.mem_filterMap.mp hcall
    obtain ⟨_, -, rfl⟩ := Option.map_eq_some_iff.mp hentry
    rfl

/-- Two stored trees whose dumps print the same are the same tree, wherever they are stored. -/
theorem items_eq_of_dumpFdt {arch arch' : Arch} {mem mem' : ByteStore}
    {reserve reserve' : MemReserve} {fdtBlob fdtBlob' q q' n n' : ℕ} {items items' : FdtItems}
    (hstored : Stored mem (.ofStore mem fdtBlob) (FdtHeader.ofStore mem fdtBlob).pStruct items q)
    (hstored' : Stored mem' (.ofStore mem' fdtBlob') (FdtHeader.ofStore mem' fdtBlob').pStruct
      items' q')
    (hend : getCell mem q = fdtEnd) (hend' : getCell mem' q' = fdtEnd)
    (hq : q < 2 ^ arch.uintnBits) (hq' : q' < 2 ^ arch'.uintnBits)
    (hnamed : items.Named) (hnamed' : items'.Named) (calls : List PrintCall)
    (hdump : dumpFdt arch mem reserve n fdtBlob = some calls)
    (hdump' : dumpFdt arch' mem' reserve' n' fdtBlob' = some calls) :
    items = items' := by
  have htext := dumpFdt_text hstored hend hq hdump
  have htext' := dumpFdt_text hstored' hend' hq' hdump'
  have hsame : items.text 0 = items'.text 0 := by
    rw [← dropWhile_text reserve items, ← dropWhile_text reserve' items', ← htext, ← htext']
  exact (text_append_inj hnamed hnamed' behind_nil behind_nil
    (congrArg (· ++ []) hsame)).1

set_option maxRecDepth 4000 in
theorem items_eq_of_dumpFdt_small :
    smallItems = .node [] (.prop [0x61] [0, 0, 0, 5] (.node [0x63] .nil .nil)) .nil := by
  have hstored : Stored (smallBlob 8) (.ofStore (smallBlob 8) 8)
      (FdtHeader.ofStore (smallBlob 8) 8).pStruct
      (.node [] (.prop [0x61] [0, 0, 0, 5] (.node [0x63] .nil .nil)) .nil) 0x50 :=
    .node (by decide) ⟨⟨rfl, rfl⟩, by decide⟩ (.prop (by decide) (by decide)
      ⟨⟨rfl, by decide⟩, by decide⟩ (by decide) (.node (by decide) ⟨⟨rfl, by decide⟩, by decide⟩
        (.nil _) (by decide) (.nil _))) (by decide) (.nil _)
  have hnamed : smallItems.Named := ⟨by decide, ⟨by decide, trivial, trivial⟩, trivial⟩
  have hdump : dumpFdt .aarch64 (smallBlob 0) [] 100 0 = some (smallItems.text 0) := by
    decide +kernel
  have hdump' : dumpFdt .arm (smallBlob 8) [] 100 8 = some (smallItems.text 0) := by
    decide +kernel
  exact @items_eq_of_dumpFdt .aarch64 .arm (smallBlob 0) (smallBlob 8) [] [] 0 8 0x48 0x50
    100 100 _ _ smallBlob_stored hstored (by decide) (by decide +kernel) (by decide) (by decide)
    hnamed hnamed _ hdump hdump'

end Text

end FdtPlatform

end MuPlatform
