import MuPlatform.Base.Runs
import MuPlatform.BdsLib.RoundTrip

/-!
# BootOrder

The variables of the boot manager along a sequence of `BootOptionToLoadOptionVariable` calls, each
with its own answers of the firmware.  `BootOrder` is to have no entry twice and to name only
options that exist, and a call is to keep what is there.

A call stores `Boot####` and then, for a new option, adds its index to `BootOrder`.  It does not
look at whether the first of the two has succeeded, it takes an index that is free in `BootOrder`
but may have an option, and it starts `BootOrder` anew where it cannot read it.  A call on
consistent variables does as it should exactly where none of this happens, and a sequence of such
calls keeps the variables consistent (`bootOrder_iff`).
-/

namespace MuPlatform
namespace BdsLib

open AuthVar (Char16String readString)

/-! ## Calls -/

/-- `BootOrder` has no entry twice, and its entries name options. -/
structure Variables.Consistent (v : Variables) : Prop where
  nodup : v.bootOrder.Nodup
  named : ∀ index ∈ v.bootOrder, (v.boot index).isSome

/-- A call of `BootOptionToLoadOptionVariable`. -/
structure BootCall where
  env : BdsEnvironment
  rounds : ℕ
  memory : ByteStore
  option : BdsLoadOption

namespace BootCall

variable (arch : Arch) (c : BootCall) (v : Variables)

def outcome : Option Outcome :=
  bootOptionToLoadOptionVariable arch c.rounds c.env c.option c.memory v

/-- `UINTN` counts the bytes of the packed option. -/
def Fits : Prop :=
  ∀ description, readString c.memory c.rounds c.option.description = some description →
    c.option.packedSize description < 2 ^ arch.uintnBits

/-- The call comes to store `Boot####`, and that fails. -/
def WriteFails : Prop := c.env.allocateLoadOption.isSome ∧ c.env.setBoot.isError

/-- The call stores `Boot####`. -/
def Stores : Prop := c.env.allocateLoadOption.isSome ∧ ¬ c.env.setBoot.isError

/-- What a call should do on the variables `v`. -/
inductive DoesRight : Outcome → Prop
  | returned {status : EfiStatus} {o : BdsLoadOption} {m : ByteStore} {v' : Variables}
      (consistent : v'.Consistent)
      (isNew : c.option.Creates → c.Stores → v.boot o.loadOptionIndex = none)
      (keepsOptions : c.option.Creates → ∀ index value, v.boot index = some value →
        v'.boot index = some value)
      (keepsOrder : v.bootOrder.Sublist v'.bootOrder)
      (reports : c.WriteFails → status.isError ∧ v'.bootOrder = v.bootOrder) :
      DoesRight (.returned status o m v')

/-- `BootOrder` as the search for a free index sees it. -/
def seenOrder : List UInt16 := if c.env.allocateIndexOrder then v.bootOrder else []

/-- A new option gets an index that has no option: the first one that is not in `BootOrder` as it
is seen, or the one the option has kept from a call that lost its packed form. -/
def IndexFree : Prop :=
  if c.option.loadOptionSize > 0 then v.boot c.option.loadOptionIndex = none
  else ∃ index : UInt16, index ∉ c.seenOrder v ∧ (∀ i < index, i ∈ c.seenOrder v) ∧
    v.boot index = none

/-- `BootOrder` is extended: it does not exist, or it is read and grown, or what is to replace it
is not stored. -/
def Extends : Prop :=
  v.bootOrder = [] ∨ (c.env.allocateBootOrder ∧ c.env.reallocateBootOrder) ∨
    (¬ c.env.allocateBootOrder ∧ c.env.setBootOrder.isError)

/-- The call gets no memory for the packed option, or stores it, for a new option under a free
index that extends `BootOrder`. -/
def Good : Prop :=
  c.env.allocateLoadOption = none ∨
    (¬ c.env.setBoot.isError ∧ (c.option.Creates → c.IndexFree v ∧ c.Extends v))

end BootCall

/-- Sequences of calls that return, from consistent variables. -/
def bootSystem (arch : Arch) : System Variables BootCall where
  Init v := v.Consistent
  Step v c v' := c.Fits arch ∧ ∃ status o m, c.outcome arch v = some (.returned status o m v')

/-! ## The index of a new option -/

section Index

variable {c : BootCall} {v : Variables}

lemma firstIndex_unique {order : List UInt16} {i j : UInt16} (hi : i ∉ order)
    (hi' : ∀ k < i, k ∈ order) (hj : j ∉ order) (hj' : ∀ k < j, k ∈ order) : i = j := by
  rcases Nat.lt_trichotomy i.toNat j.toNat with h | h | h
  · exact absurd (hj' i (UInt16.lt_iff_toNat_lt.mpr h)) hi
  · exact UInt16.toNat_inj.mp h
  · exact absurd (hi' j (UInt16.lt_iff_toNat_lt.mpr h)) hj

/-- The index that is found is the first one that is not in `BootOrder`. -/
lemma firstIndex_of_find {order : List UInt16} {n : ℕ}
    (h : (List.range (0xFFFF + 1)).find? (fun i => UInt16.ofNat i ∉ order) = some n) :
    UInt16.ofNat n ∉ order ∧ ∀ k < UInt16.ofNat n, k ∈ order := by
  obtain ⟨hn, hmem, hless⟩ := List.find?_range_eq_some.mp h
  have hlt : n < 2 ^ 16 := List.mem_range.mp hmem
  refine ⟨of_decide_eq_true hn, fun k hk => ?_⟩
  have hkn : k.toNat < n := by
    have := UInt16.lt_iff_toNat_lt.mp hk
    rwa [UInt16.toNat_ofNat', Nat.mod_eq_of_lt hlt] at this
  have := hless k.toNat hkn
  simpa using this

/-- Where no index is found, `BootOrder` has them all. -/
lemma mem_of_find_none {order : List UInt16}
    (h : (List.range (0xFFFF + 1)).find? (fun i => UInt16.ofNat i ∉ order) = none)
    (index : UInt16) : index ∈ order := by
  have hlt : index.toNat < 0xFFFF + 1 := index.toNat_lt
  have := List.find?_range_eq_none.mp h index.toNat hlt
  simpa using this

/-- The index a call takes has no option exactly where the first index that is not seen in
`BootOrder` has none. -/
lemma indexFree_iff (hv : v.Consistent) :
    c.IndexFree v ↔ v.boot (c.option.callIndex c.env v) = none := by
  rw [BootCall.IndexFree, BdsLoadOption.callIndex]
  split
  · exact Iff.rfl
  rw [bootOptionAllocateBootIndex, getBootOrder, BootCall.seenOrder]
  by_cases hread : v.bootOrder ≠ [] ∧ c.env.allocateIndexOrder = true
  · obtain ⟨hsome, hallocate⟩ := hread
    simp only [if_neg hsome, hallocate, if_true, EfiStatus.isError_success, Bool.false_eq_true,
      if_false]
    split
    case h_1 n hfind =>
      obtain ⟨hnot, hfirst⟩ := firstIndex_of_find hfind
      constructor
      · rintro ⟨index, hindex, hindex', hnone⟩
        rwa [firstIndex_unique hnot hfirst hindex hindex']
      · exact fun hnone => ⟨_, hnot, hfirst, hnone⟩
    case h_2 hfind =>
      -- every index is in `BootOrder`, and names an option
      have hall := mem_of_find_none hfind
      constructor
      · rintro ⟨index, hindex, -⟩
        exact absurd (hall index) hindex
      · intro hnone
        have hzero := hv.named 0 (hall 0)
        rw [hnone] at hzero
        cases hzero
  · -- nothing is seen, and the index is 0
    have hseen : (if c.env.allocateIndexOrder = true then v.bootOrder else []) = [] := by
      split
      case isTrue h => exact not_not.mp fun hne => hread ⟨hne, h⟩
      case isFalse => rfl
    have herror : (getBootOrder c.env.allocateIndexOrder v).1.isError = true := by
      rw [getBootOrder]
      split
      · rfl
      case isFalse h => rw [if_neg fun hallocate => hread ⟨h, hallocate⟩]; rfl
    rw [getBootOrder] at herror
    simp only [hseen, herror, if_true]
    have hfirst : ∀ k < (0 : UInt16), k ∈ ([] : List UInt16) := fun k hk =>
      absurd (UInt16.lt_iff_toNat_lt.mp hk) (Nat.not_lt_zero _)
    constructor
    · rintro ⟨index, hindex, hindex', hnone⟩
      rwa [← firstIndex_unique List.not_mem_nil hfirst hindex hindex'] at hnone
    · exact fun hnone => ⟨0, List.not_mem_nil, hfirst, hnone⟩

end Index

/-! ## What a call does -/

section Cases

variable {arch : Arch} {n : ℕ} {env : BdsEnvironment} {o : BdsLoadOption} {m : ByteStore}
  {c : BootCall} {v : Variables}

/-- A parse into an option that exists keeps its index. -/
lemma bootOptionParseLoadOption_keeps {a : ℕ} {x : EfiStatus × Option BdsLoadOption}
    (h : bootOptionParseLoadOption arch n true m a o.loadOptionSize (some o) = some x) :
    ∃ o', x.2 = some o' ∧ o'.loadOptionIndex = o.loadOptionIndex ∧
      o'.loadOptionSize = o.loadOptionSize := by
  simp only [bootOptionParseLoadOption] at h
  split at h
  · cases h
    exact ⟨o, rfl, rfl, rfl⟩
  split at h
  · cases h
    exact ⟨o, rfl, rfl, rfl⟩
  obtain ⟨o', hparse, rfl⟩ := Option.map_eq_some_iff.mp h
  rw [parseLoadOption] at hparse
  obtain ⟨description, -, rfl⟩ := Option.map_eq_some_iff.mp hparse
  refine ⟨_, rfl, ?_⟩
  simp only
  split <;> exact ⟨rfl, rfl⟩

/-- Packing fails where there is no memory, and otherwise leaves an option with the same index and
the size of the packed form. -/
lemma packLoadOption_cases {x : EfiStatus × BdsLoadOption × ByteStore}
    (h : packLoadOption arch n env o m = some x) :
    (env.allocateLoadOption = none ∧ x.1 = .outOfResources) ∨
      (env.allocateLoadOption.isSome ∧ x.1 = .success ∧
        x.2.1.loadOptionIndex = o.loadOptionIndex ∧
        ∃ description, readString m n o.description = some description ∧
          x.2.1.loadOptionSize = arch.uintn (o.packedSize description)) := by
  rw [packLoadOption] at h
  obtain ⟨description, hstring, hrest⟩ := Option.bind_eq_some_iff.mp h
  cases hallocate : env.allocateLoadOption with
  | none =>
      simp only [hallocate, Option.some.injEq] at hrest
      exact .inl ⟨rfl, by rw [← hrest]⟩
  | some a =>
      simp only [hallocate] at hrest
      obtain ⟨m', -, hrest⟩ := Option.bind_eq_some_iff.mp hrest
      refine .inr ⟨rfl, ?_⟩
      split at hrest
      · cases hrest
        exact ⟨rfl, rfl, description, hstring, rfl⟩
      · obtain ⟨parsed, hparse, rfl⟩ := Option.map_eq_some_iff.mp hrest
        obtain ⟨o', ho', hindex, hsize⟩ := bootOptionParseLoadOption_keeps hparse
        simp only [ho', Option.getD_some, true_and]
        exact ⟨hindex, description, hstring, hsize⟩

/-- A call that gets no memory reports it; any other stores the option and, where it is a new one,
adds it to `BootOrder`. -/
lemma outcome_cases {x : Outcome} (hfits : c.Fits arch) (h : c.outcome arch v = some x) :
    (c.env.allocateLoadOption = none ∧
      ∃ o m, x = .returned .outOfResources o m v) ∨
    (c.env.allocateLoadOption.isSome ∧
      ∃ (packed : BdsLoadOption) (m : ByteStore) (value : List UInt8), value ≠ [] ∧
        packed.loadOptionIndex = c.option.callIndex c.env v ∧
        x = if c.option.Creates then
            addToBootOrder c.env packed m (if c.env.setBoot.isError then v
              else v.setBoot packed.loadOptionIndex value)
          else .returned .success packed m (if c.env.setBoot.isError then v
            else v.setBoot packed.loadOptionIndex value)) := by
  rw [BootCall.outcome, bootOptionToLoadOptionVariable] at h
  obtain ⟨⟨status, packed, m⟩, hpack, rfl⟩ := Option.map_eq_some_iff.mp h
  rcases packLoadOption_cases hpack with ⟨hallocate, hstatus⟩ |
    ⟨hallocate, hstatus, hindex, description, hstring, hsize⟩
  · obtain rfl : status = .outOfResources := hstatus
    exact .inl ⟨hallocate, packed, m, rfl⟩
  · obtain rfl : status = .success := hstatus
    have hpos : packed.loadOptionSize ≠ 0 := by
      have hlt := hfits description hstring
      have hsize' : packed.loadOptionSize = c.option.packedSize description :=
        hsize.trans (Arch.uintn_of_lt hlt)
      rw [hsize', BdsLoadOption.packedSize, descriptionOffset]
      omega
    refine .inr ⟨hallocate, packed, m, m.read packed.loadOption packed.loadOptionSize, ?_, hindex,
      rfl⟩
    intro hnil
    have hlength := congrArg List.length hnil
    rw [ByteStore.length_read] at hlength
    exact hpos hlength

end Cases

/-! ## Runs of calls -/

section Runs

variable {arch : Arch} {c : BootCall} {v : Variables}

lemma setBoot_boot {index : UInt16} {value : List UInt8} (h : value ≠ []) :
    (v.setBoot index value).boot = Function.update v.boot index (some value) := by
  rw [Variables.setBoot, if_neg h]

/-- Storing an option keeps what `BootOrder` names. -/
lemma Variables.Consistent.setBoot {index : UInt16} {value : List UInt8} (hv : v.Consistent)
    (h : value ≠ []) : (v.setBoot index value).Consistent where
  nodup := hv.nodup
  named i hi := by
    rw [setBoot_boot h]
    by_cases hindex : i = index
    · rw [hindex, Function.update_self]
      rfl
    · rw [Function.update_of_ne hindex]
      exact hv.named i hi

/-- A new entry of `BootOrder` is one that is not there and has an option. -/
lemma Variables.Consistent.extend {index : UInt16} (hv : v.Consistent) (hnot : index ∉ v.bootOrder)
    (hsome : (v.boot index).isSome) :
    ({ v with bootOrder := v.bootOrder ++ [index] } : Variables).Consistent where
  nodup := by
    refine List.nodup_append.mpr ⟨hv.nodup, List.nodup_singleton _, ?_⟩
    rintro i hi j hj rfl
    exact hnot (List.mem_singleton.mp hj ▸ hi)
  named i hi := by
    rcases List.mem_append.mp hi with hi | hi
    · exact hv.named i hi
    · rw [List.mem_singleton.mp hi]
      exact hsome

lemma addToBootOrder_eq (env : BdsEnvironment) (o : BdsLoadOption) (m : ByteStore)
    (v : Variables) : addToBootOrder env o m v =
      if v.bootOrder ≠ [] ∧ env.allocateBootOrder ∧ ¬ env.reallocateBootOrder then .nullWrite
      else .returned .success o m (if env.setBootOrder.isError then v else { v with
        bootOrder := (if env.allocateBootOrder then v.bootOrder else []) ++
          [o.loadOptionIndex] }) := by
  rw [addToBootOrder, getBootOrder]
  by_cases hnil : v.bootOrder = []
  · simp [hnil, EfiStatus.isError]
  · cases env.allocateBootOrder <;> cases env.reallocateBootOrder <;>
      simp [hnil, EfiStatus.isError]

/-- A call that is not to store anything does as it should. -/
lemma doesRight_noMemory {o : BdsLoadOption} {m : ByteStore} (hv : v.Consistent)
    (h : c.env.allocateLoadOption = none) :
    c.DoesRight v (.returned .outOfResources o m v) := by
  refine .returned hv (fun _ hstores => ?_) (fun _ _ _ hvalue => hvalue) (List.Sublist.refl _)
    fun hfails => ?_
  · have hsome := hstores.1
    rw [h] at hsome
    cases hsome
  · have hsome := hfails.1
    rw [h] at hsome
    cases hsome

/-- An update that is stored does as it should. -/
lemma doesRight_update {o : BdsLoadOption} {m : ByteStore} {index : UInt16} {value : List UInt8}
    (hv : v.Consistent) (hvalue : value ≠ []) (hset : ¬ c.env.setBoot.isError)
    (hcreates : ¬ c.option.Creates) :
    c.DoesRight v (.returned .success o m (v.setBoot index value)) :=
  .returned (hv.setBoot hvalue) (fun h => absurd h hcreates) (fun h => absurd h hcreates)
    (List.Sublist.refl _) (fun hfails => absurd hfails.2 hset)

/-- A new option whose index has no option keeps the options, in `BootOrder` too unless it is
started anew. -/
lemma doesRight_create_iff {packed : BdsLoadOption} {m : ByteStore} {value : List UInt8}
    (hv : v.Consistent) (hvalue : value ≠ []) (hallocate : c.env.allocateLoadOption.isSome)
    (hset : ¬ c.env.setBoot.isError) (hcreates : c.option.Creates) :
    c.DoesRight v (addToBootOrder c.env packed m (v.setBoot packed.loadOptionIndex value)) ↔
      v.boot packed.loadOptionIndex = none ∧ c.Extends v := by
  have horder : (v.setBoot packed.loadOptionIndex value).bootOrder = v.bootOrder := rfl
  rw [addToBootOrder_eq, horder]
  by_cases hnull : v.bootOrder ≠ [] ∧ c.env.allocateBootOrder ∧ ¬ c.env.reallocateBootOrder
  · rw [if_pos hnull]
    refine ⟨nofun, ?_⟩
    rintro ⟨-, hnil | ⟨-, hgrown⟩ | ⟨hunread, -⟩⟩
    · exact absurd hnil hnull.1
    · exact absurd hgrown hnull.2.2
    · exact absurd hnull.2.1 hunread
  rw [if_neg hnull]
  constructor
  · intro hright
    cases hright with
    | returned hconsistent hnew hoptions hkept hreports =>
        have hnone := hnew hcreates ⟨hallocate, hset⟩
        refine ⟨hnone, ?_⟩
        by_contra hextends
        obtain ⟨hsome, hrest⟩ := not_or.mp hextends
        obtain ⟨hgrows, hreplaces⟩ := not_or.mp hrest
        have hunread : ¬ c.env.allocateBootOrder = true := fun hread =>
          hgrows ⟨hread, not_not.mp fun hgrown => hnull ⟨hsome, hread, hgrown⟩⟩
        have hstored : ¬ c.env.setBootOrder.isError = true := fun herror =>
          hreplaces ⟨hunread, herror⟩
        -- what was read of `BootOrder` is nothing, so that the new entry is all there is
        rw [if_neg hstored, if_neg hunread, List.nil_append] at hkept
        have hmem : packed.loadOptionIndex ∈ v.bootOrder := by
          obtain ⟨index, hindex⟩ := List.exists_mem_of_ne_nil _ hsome
          rwa [← List.mem_singleton.mp (hkept.subset hindex)]
        have hnamed := hv.named _ hmem
        rw [hnone] at hnamed
        cases hnamed
  · rintro ⟨hnone, hextends⟩
    have hnot : packed.loadOptionIndex ∉ v.bootOrder := fun hmem => by
      have hnamed := hv.named _ hmem
      rw [hnone] at hnamed
      cases hnamed
    have hboot := @setBoot_boot v packed.loadOptionIndex value hvalue
    have hkeeps : ∀ index old, v.boot index = some old →
        (v.setBoot packed.loadOptionIndex value).boot index = some old := by
      intro index old hold
      have hne : index ≠ packed.loadOptionIndex := by
        rintro rfl
        rw [hnone] at hold
        cases hold
      rw [hboot, Function.update_of_ne hne, hold]
    have hnofail : ¬ c.WriteFails := fun hfails => hset hfails.2
    by_cases herror : c.env.setBootOrder.isError = true
    · rw [if_pos herror]
      exact .returned (hv.setBoot hvalue) (fun _ _ => hnone) (fun _ => hkeeps)
        (List.Sublist.refl _) fun hfails => absurd hfails hnofail
    · rw [if_neg herror]
      have hread : (if c.env.allocateBootOrder = true then v.bootOrder else []) = v.bootOrder := by
        rcases hextends with hnil | ⟨hread, -⟩ | ⟨-, herror'⟩
        · rw [hnil, ite_self]
        · rw [if_pos hread]
        · exact absurd herror' herror
      rw [hread]
      refine .returned ?_ (fun _ _ => hnone) (fun _ => hkeeps) (List.sublist_append_left _ _)
        fun hfails => absurd hfails hnofail
      refine (hv.setBoot hvalue).extend hnot ?_
      rw [hboot, Function.update_self]
      rfl

/-- A call on consistent variables does as it should exactly where it is a good one. -/
lemma doesRight_iff {x : Outcome} (hv : v.Consistent) (hfits : c.Fits arch)
    (h : c.outcome arch v = some x) : c.DoesRight v x ↔ c.Good v := by
  rcases outcome_cases hfits h with ⟨hnone, o, m, rfl⟩ |
    ⟨hsome, packed, m, value, hvalue, hindex, rfl⟩
  · exact iff_of_true (doesRight_noMemory hv hnone) (.inl hnone)
  have hmemory : c.env.allocateLoadOption ≠ none := Option.isSome_iff_ne_none.mp hsome
  by_cases hset : c.env.setBoot.isError = true
  · -- the failure of the write is not reported
    refine iff_of_false (fun hright => ?_) fun hgood => hgood.elim hmemory fun hok => hok.1 hset
    rw [if_pos hset] at hright
    split at hright
    · rw [addToBootOrder_eq] at hright
      split at hright
      · cases hright
      · cases hright with
        | returned _ _ _ _ hreports => exact absurd (hreports ⟨hsome, hset⟩).1 (by decide)
    · cases hright with
      | returned _ _ _ _ hreports => exact absurd (hreports ⟨hsome, hset⟩).1 (by decide)
  rw [if_neg hset]
  by_cases hcreates : c.option.Creates
  · rw [if_pos hcreates, doesRight_create_iff hv hvalue hsome hset hcreates, hindex,
      ← indexFree_iff hv]
    constructor
    · exact fun hok => .inr ⟨hset, fun _ => hok⟩
    · exact fun hgood => hgood.elim (fun hnone => absurd hnone hmemory) fun hok => hok.2 hcreates
  · rw [if_neg hcreates]
    exact iff_of_true (doesRight_update hv hvalue hset hcreates)
      (.inr ⟨hset, fun h => absurd h hcreates⟩)

/-- Good calls keep the variables consistent and the entries of `BootOrder` in their order. -/
lemma consistent_of_run {v₀ : Variables} {cs : List BootCall} (hv : v₀.Consistent)
    (hrun : ((bootSystem arch).restrict fun v c => c.Good v).Run v₀ cs v) :
    v.Consistent ∧ v₀.bootOrder.Sublist v.bootOrder := by
  refine hrun.invariant (P := fun v => v.Consistent ∧ v₀.bootOrder.Sublist v.bootOrder) ?_
    ⟨hv, List.Sublist.refl _⟩
  rintro v c v' ⟨hconsistent, horder⟩ ⟨hgood, hfits, status, o, m, houtcome⟩
  have hright := (doesRight_iff hconsistent hfits houtcome).mpr hgood
  cases hright with
  | returned hconsistent' _ _ hkept _ => exact ⟨hconsistent', horder.trans hkept⟩

/-- Along every sequence of good calls from consistent variables, the variables are consistent and
`BootOrder` keeps its entries in their order, and the next call does as it should exactly where it
is a good one too. -/
theorem bootOrder_iff {v₀ : Variables} {cs : List BootCall} {x : Outcome} (hv : v₀.Consistent)
    (hrun : ((bootSystem arch).restrict fun v c => c.Good v).Run v₀ cs v) (hfits : c.Fits arch)
    (hcall : c.outcome arch v = some x) :
    v.Consistent ∧ v₀.bootOrder.Sublist v.bootOrder ∧ (c.DoesRight v x ↔ c.Good v) := by
  obtain ⟨hconsistent, horder⟩ := consistent_of_run hv hrun
  exact ⟨hconsistent, horder, doesRight_iff hconsistent hfits hcall⟩

end Runs

/-! A new option for an empty store of variables. -/

/-- The end node of a path at 4. -/
def endNodeMemory : ByteStore := ByteStore.write (fun _ => 0) 4 DevicePathNode.endEntire.bytes

/-- An option without a description and with an empty path. -/
def emptyOption : BdsLoadOption :=
  { BdsLoadOption.zero with filePathListLength := 4, filePathList := 4 }

/-- The call that packs it at 4096, with the given answer to the store of `Boot####`. -/
def newEmptyOption (setBoot : EfiStatus) : BootCall :=
  ⟨{ poolEnvironment with setBoot := setBoot }, 1, endNodeMemory, emptyOption⟩

def noVariables : Variables := ⟨[], fun _ => none⟩

lemma noVariables_consistent : noVariables.Consistent := ⟨List.nodup_nil, nofun⟩

/-- The store of `Boot0000` fails, the call returns `EFI_SUCCESS`, and `BootOrder` names an option
that does not exist. -/
theorem not_doesRight_bootWriteFails :
    ∃ o m, (newEmptyOption .deviceError).outcome .aarch64 noVariables =
        some (.returned .success o m ⟨[0], fun _ => none⟩) ∧
      ¬ (newEmptyOption .deviceError).DoesRight noVariables
        (.returned .success o m ⟨[0], fun _ => none⟩) := by
  refine ⟨_, _, rfl, ?_⟩
  intro hright
  cases hright with
  | returned hconsistent _ _ _ _ =>
      have hnamed := hconsistent.named 0 List.mem_cons_self
      cases hnamed

/-- The variables once it is stored. -/
def emptyOptionStored : Variables :=
  { noVariables.setBoot 0 [0, 0, 0, 0, 4, 0, 0, 0, 0x7F, 0xFF, 4, 0] with bootOrder := [0] }

/-- The call that packs it anew. -/
def updateEmptyOption : BootCall :=
  ⟨poolEnvironment, 1, endNodeMemory, { emptyOption with loadOption := 256, loadOptionSize := 12 }⟩

lemma fits_emptyOption {c : BootCall} (hmemory : c.memory = endNodeMemory)
    (hdescription : c.option.description = 0) (hlength : c.option.filePathListLength = 4)
    (hsize : c.option.optionalDataSize = 0) : c.Fits .aarch64 := by
  intro description hstring
  have hempty : readString endNodeMemory 1 0 = some ⟨[], nofun⟩ := rfl
  have hholds := Char16String.holds_of_readString hempty
  rw [hmemory, hdescription] at hstring
  obtain rfl := Char16String.eq_of_readString hstring hholds
  rw [BdsLoadOption.packedSize, hlength, hsize]
  decide

/-- The option is stored and then updated. -/
theorem bootOrder_iff_emptyOption :
    ∃ x, updateEmptyOption.outcome .aarch64 emptyOptionStored = some x ∧
      emptyOptionStored.Consistent ∧ noVariables.bootOrder.Sublist emptyOptionStored.bootOrder ∧
        (updateEmptyOption.DoesRight emptyOptionStored x ↔
          updateEmptyOption.Good emptyOptionStored) := by
  have hgood : (newEmptyOption .success).Good noVariables :=
    .inr ⟨by decide, fun _ => ⟨⟨0, List.not_mem_nil, fun k hk =>
      absurd (UInt16.lt_iff_toNat_lt.mp hk) (Nat.not_lt_zero _), rfl⟩, .inl rfl⟩⟩
  have hstep : (bootSystem .aarch64).Step noVariables (newEmptyOption .success)
      emptyOptionStored :=
    ⟨fits_emptyOption rfl rfl rfl rfl, .success, _, _, rfl⟩
  exact ⟨_, rfl, bootOrder_iff noVariables_consistent (.cons ⟨hgood, hstep⟩ (.nil _))
    (fits_emptyOption rfl rfl rfl rfl) rfl⟩

end BdsLib

end MuPlatform
