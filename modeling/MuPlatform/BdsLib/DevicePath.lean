import MuPlatform.Base.ByteStore

/-!
# Device paths

Device paths as packed nodes in memory, with the accessors of `DevicePathLib` that the load
options use, and as data: a path is one or more instances, each but the last closed by an
end-of-instance node and the last by the node that ends the path, and a file path list is one or
more paths packed behind each other.

`IsDevicePathEndType` holds of both kinds of end nodes, so that a walk that asks for it stops
behind the first instance of the first path (`copyNodes_eq`).
-/

namespace MuPlatform
namespace BdsLib

/-! ## Nodes -/

/-- `END_DEVICE_PATH_TYPE`. -/
def endDevicePathType : UInt8 := 0x7F

/-- A node of a device path. -/
structure DevicePathNode where
  type : UInt8
  subType : UInt8
  data : List UInt8
  length_lt : 4 + data.length < 2 ^ 16

namespace DevicePathNode

/-- The node in memory: `EFI_DEVICE_PATH_PROTOCOL` and the data behind it. -/
def bytes (node : DevicePathNode) : List UInt8 :=
  node.type :: node.subType :: ByteStore.leBytes 2 (4 + node.data.length) ++ node.data

/-- The end node of a path. -/
def endEntire : DevicePathNode := ⟨endDevicePathType, 0xFF, [], by decide⟩

/-- The end node of an instance that another one follows. -/
def endInstance : DevicePathNode := ⟨endDevicePathType, 0x01, [], by decide⟩

lemma length_bytes (node : DevicePathNode) : node.bytes.length = 4 + node.data.length := by
  simp only [bytes, List.length_append, List.length_cons, ByteStore.length_leBytes]

end DevicePathNode

/-! ## Paths -/

/-- The nodes of an instance. -/
structure DevicePathInstance where
  nodes : List DevicePathNode
  type_ne : ∀ node ∈ nodes, node.type ≠ endDevicePathType

/-- The instances of a path. -/
structure DevicePath where
  first : DevicePathInstance
  others : List DevicePathInstance

/-- The paths of a file path list. -/
structure FilePathList where
  head : DevicePath
  packed : List DevicePath

/-- Nodes as they lie in memory. -/
def nodeBytes (nodes : List DevicePathNode) : List UInt8 := nodes.flatMap (·.bytes)

def DevicePathInstance.bytes (inst : DevicePathInstance) : List UInt8 := nodeBytes inst.nodes

/-- What follows an instance in its path. -/
def instancesBehind (others : List DevicePathInstance) : List UInt8 :=
  others.flatMap (fun inst => DevicePathNode.endInstance.bytes ++ inst.bytes) ++
    DevicePathNode.endEntire.bytes

def DevicePath.bytes (path : DevicePath) : List UInt8 :=
  path.first.bytes ++ instancesBehind path.others

namespace FilePathList

def bytes (paths : FilePathList) : List UInt8 :=
  paths.head.bytes ++ paths.packed.flatMap (·.bytes)

/-- The list is a single path of a single instance. -/
def IsSingle (paths : FilePathList) : Prop := paths.head.others = [] ∧ paths.packed = []

/-- The first end node of the list. -/
def firstEnd (paths : FilePathList) : DevicePathNode :=
  if paths.head.others.isEmpty then .endEntire else .endInstance

/-- The bytes behind the first end node. -/
def rest (paths : FilePathList) : List UInt8 :=
  (instancesBehind paths.head.others).drop 4 ++ paths.packed.flatMap (·.bytes)

lemma bytes_eq (paths : FilePathList) :
    paths.bytes = paths.head.first.bytes ++ (paths.firstEnd.bytes ++ paths.rest) := by
  obtain ⟨⟨first, others⟩, packed⟩ := paths
  cases others with
  | nil => simp [bytes, DevicePath.bytes, firstEnd, rest, instancesBehind,
      DevicePathNode.bytes, DevicePathNode.endEntire]
  | cons inst others => simp [bytes, DevicePath.bytes, firstEnd, rest, instancesBehind,
      DevicePathNode.bytes, DevicePathNode.endInstance]

lemma IsSingle.firstEnd {paths : FilePathList} (h : paths.IsSingle) :
    paths.firstEnd = .endEntire := by
  rw [FilePathList.firstEnd, h.1]
  rfl

lemma IsSingle.rest {paths : FilePathList} (h : paths.IsSingle) : paths.rest = [] := by
  rw [FilePathList.rest, h.1, h.2]
  rfl

/-- Behind the first of several end nodes is an end node, which is not blank. -/
lemma firstEnd_or_rest {paths : FilePathList} (h : ¬ paths.IsSingle) :
    paths.firstEnd = .endInstance ∨ endDevicePathType ∈ paths.rest := by
  obtain ⟨⟨first, others⟩, packed⟩ := paths
  cases others with
  | cons inst others => exact .inl rfl
  | nil =>
      cases packed with
      | nil => exact absurd ⟨rfl, rfl⟩ h
      | cons path packed =>
          refine .inr (List.mem_append_right _ ?_)
          rw [List.flatMap_cons, DevicePath.bytes, instancesBehind]
          simp [DevicePathNode.bytes, DevicePathNode.endEntire]

end FilePathList

/-! ## Paths in memory -/

/-- `IsDevicePathEndType`. -/
def isDevicePathEndType (m : ByteStore) (node : ℕ) : Bool := m node = endDevicePathType

/-- `DevicePathNodeLength`. -/
def devicePathNodeLength (m : ByteStore) (node : ℕ) : ℕ := (m.load16 (node + 2)).toNat

/-- The loop of `BootOptionToLoadOptionVariable` that copies the nodes at `node` to `dst`: the
memory it leaves and where the copy ends, if it takes fewer than `n` rounds. -/
def copyNodes : ℕ → ByteStore → ℕ → ℕ → Option (ByteStore × ℕ)
  | 0, _, _, _ => none
  | n + 1, m, dst, node =>
      if isDevicePathEndType m node then some (m, dst)
      else
        let nodeLength := devicePathNodeLength m node
        let m' := m.blit dst m node nodeLength
        copyNodes n m' (dst + nodeLength) (node + devicePathNodeLength m' node)

section Walk

variable {m : ByteStore} {a dst n : ℕ} {node : DevicePathNode} {nodes : List DevicePathNode}
  {behind : List UInt8}

lemma isDevicePathEndType_eq (h : m.read a node.bytes.length = node.bytes) :
    isDevicePathEndType m a = decide (node.type = endDevicePathType) := by
  have hbyte := ByteStore.apply_eq_of_read_eq h (k := 0) (by rw [node.length_bytes]; omega)
  rw [isDevicePathEndType, ← Nat.add_zero a, hbyte]
  rfl

lemma devicePathNodeLength_eq (h : m.read a node.bytes.length = node.bytes) :
    devicePathNodeLength m a = node.bytes.length := by
  have hlt := node.length_lt
  have hlt' : 4 + node.data.length < 256 ^ 2 := hlt
  have hread : m.read (a + 2) 2 = ByteStore.leBytes 2 (4 + node.data.length) := by
    rw [← ByteStore.read_drop_take (n := node.bytes.length) (by rw [node.length_bytes]; omega), h]
    simp [DevicePathNode.bytes]
  rw [devicePathNodeLength, ByteStore.load16, ByteStore.loadNat, hread, ByteStore.leNat_leBytes,
    Nat.mod_eq_of_lt hlt', UInt16.toNat_ofNat', Nat.mod_eq_of_lt hlt, node.length_bytes]

/-- The loop copies the nodes in front of the first end node, into memory off the path. -/
lemma copyNodes_eq {endNode : DevicePathNode} (hend : endNode.type = endDevicePathType)
    (hnodes : ∀ node ∈ nodes, node.type ≠ endDevicePathType)
    (hread : m.read a (nodeBytes nodes ++ endNode.bytes).length = nodeBytes nodes ++ endNode.bytes)
    (hoff : dst + (nodeBytes nodes).length ≤ a ∨
      a + (nodeBytes nodes ++ endNode.bytes).length ≤ dst) :
    copyNodes n m dst a = if nodes.length < n then
      some (m.write dst (nodeBytes nodes), dst + (nodeBytes nodes).length) else none := by
  induction nodes generalizing n m dst a with
  | nil =>
      cases n with
      | zero => rfl
      | succ n =>
          have hstop : isDevicePathEndType m a = true :=
            (isDevicePathEndType_eq hread).trans (decide_eq_true hend)
          rw [copyNodes, if_pos hstop]
          simp [nodeBytes]
  | cons node nodes ih =>
      cases n with
      | zero => rfl
      | succ n =>
          have hcons : nodeBytes (node :: nodes) = node.bytes ++ nodeBytes nodes :=
            List.flatMap_cons
          rw [hcons, List.append_assoc, List.length_append, ByteStore.read_append] at hread
          rw [hcons] at hoff
          simp only [List.length_append] at hoff
          obtain ⟨hnode, hrest⟩ := List.append_inj hread (by simp)
          have hgo : isDevicePathEndType m a = false :=
            (isDevicePathEndType_eq hnode).trans
              (decide_eq_false (hnodes node List.mem_cons_self))
          -- the node keeps its bytes when it is copied
          have hcopied : (m.write dst node.bytes).read a node.bytes.length = node.bytes := by
            rw [ByteStore.read_write_disjoint (by omega), hnode]
          have hbehind : (m.write dst node.bytes).read (a + node.bytes.length)
              (nodeBytes nodes ++ endNode.bytes).length = nodeBytes nodes ++ endNode.bytes := by
            rw [ByteStore.read_write_disjoint (by rw [List.length_append]; omega), hrest]
          rw [copyNodes, hgo, if_neg Bool.false_ne_true]
          simp only [devicePathNodeLength_eq hnode, ByteStore.blit_eq_write, hnode,
            devicePathNodeLength_eq hcopied]
          rw [ih (fun k hk => hnodes k (List.mem_cons_of_mem _ hk)) hbehind
            (by rw [List.length_append]; omega), hcons, ByteStore.write_append,
            List.length_append, ← Nat.add_assoc]
          simp only [List.length_cons, Nat.add_lt_add_iff_right]

end Walk

end BdsLib

end MuPlatform
