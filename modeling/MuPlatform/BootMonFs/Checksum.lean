import MuPlatform.Base.OnesComplement
import MuPlatform.BootMonFs.Hw

/-!
# The checksum of a description

`BootMonFsChecksum` folds the carry in before it adds: a word above the complement of the running
sum would carry.  `checksumStep_toBitVec` says that a round of the loop is an addition with
end-around carry, also where the increment itself wraps, and `checksummed_laws` what follows for a
list of words and for the value that `BootMonFsComputeFooterChecksum` stores.
-/

namespace MuPlatform
namespace BootMonFs

/-! ## The loop -/

/-- One round of the loop is one addition. -/
lemma checksumStep_toBitVec (checksum word : UInt32) :
    (checksumStep checksum word).toBitVec = endAroundAdd checksum.toBitVec word.toBitVec := by
  have hcarry : word > ~~~checksum ↔ ¬ checksum.toNat + word.toNat < 2 ^ 32 := by
    have hchecksum := checksum.toNat_lt
    rw [gt_iff_lt, UInt32.lt_iff_toNat_lt, UInt32.toNat_not]
    norm_num at hchecksum ⊢
    omega
  unfold checksumStep endAroundAdd
  rw [UInt32.toNat_toBitVec, UInt32.toNat_toBitVec]
  by_cases h : checksum.toNat + word.toNat < 2 ^ 32
  · rw [if_neg (by rw [hcarry]; exact not_not_intro h), if_pos h, UInt32.toBitVec_add]
  · rw [if_pos (hcarry.mpr h), if_neg h, UInt32.toBitVec_add, UInt32.toBitVec_add,
      BitVec.add_assoc, BitVec.add_comm (1 : UInt32).toBitVec, ← BitVec.add_assoc]
    rfl

/-- The sum of the words, as the loop makes it. -/
lemma foldl_checksumStep (words : List UInt32) :
    (words.foldl checksumStep 0).toBitVec = endAroundSum (words.map (·.toBitVec)) := by
  induction words using List.reverseRecOn with
  | nil => rfl
  | append_singleton words word ih =>
      rw [List.foldl_append, List.map_append, List.map_singleton, endAroundSum_concat, ← ih]
      exact checksumStep_toBitVec _ word

lemma wordsOfBytes_append (words : List UInt32) (bytes : List UInt8) :
    wordsOfBytes (wordBytes words ++ bytes) = words ++ wordsOfBytes bytes := by
  induction words with
  | nil => rfl
  | cons word words ih =>
      have hword : UInt32.ofNat (ByteStore.leNat (ByteStore.leBytes 4 word.toNat)) = word := by
        rw [ByteStore.leNat_leBytes]
        exact UInt32.toNat.inj (by simp)
      rw [wordBytes_cons, List.append_assoc]
      exact congr (congrArg List.cons hword) ih

lemma wordsOfBytes_wordBytes (words : List UInt32) : wordsOfBytes (wordBytes words) = words := by
  simpa [wordsOfBytes] using wordsOfBytes_append words []

/-- Bytes that fill words are the bytes of these words. -/
lemma wordBytes_wordsOfBytes {bytes : List UInt8} (h : bytes.length % 4 = 0) :
    wordBytes (wordsOfBytes bytes) = bytes := by
  fun_induction wordsOfBytes bytes with
  | case1 b₀ b₁ b₂ b₃ bytes ih =>
      have hword := ByteStore.leBytes_leNat [b₀, b₁, b₂, b₃]
      have hlt : ByteStore.leNat [b₀, b₁, b₂, b₃] < 2 ^ 32 :=
        (ByteStore.leNat_lt _).trans_eq (by norm_num)
      have hrest : bytes.length % 4 = 0 := by
        simp only [List.length_cons] at h
        omega
      rw [wordBytes_cons, ih hrest, UInt32.toNat_ofNat_of_lt' hlt]
      exact congrArg (· ++ bytes) hword
  | case2 bytes hshort =>
      match bytes with
      | [] => rfl
      | [_] => simp at h
      | [_, _] => simp at h
      | [_, _, _] => simp at h
      | _ :: _ :: _ :: _ :: _ => exact absurd rfl (hshort _ _ _ _ _)

/-! ## The laws -/

/-- What `BootMonFsChecksum` makes of a list of words. -/
structure ChecksumLaws (words : List UInt32) : Prop where
  complement : (bootMonFsChecksum (wordBytes words)).toBitVec =
    ~~~endAroundSum (words.map (·.toBitVec))
  negated : ((bootMonFsChecksum (wordBytes words)).toNat : ℤ) ≡
    -((words.map (·.toNat)).sum : ℕ) [ZMOD 2 ^ 32 - 1]
  order : ∀ words', words.Perm words' →
    bootMonFsChecksum (wordBytes words') = bootMonFsChecksum (wordBytes words)
  appended : endAroundSum ((words ++ [bootMonFsChecksum (wordBytes words)]).map (·.toBitVec)) =
    BitVec.allOnes 32

lemma bootMonFsChecksum_toBitVec (words : List UInt32) :
    (bootMonFsChecksum (wordBytes words)).toBitVec = ~~~endAroundSum (words.map (·.toBitVec)) := by
  rw [bootMonFsChecksum, wordsOfBytes_wordBytes, UInt32.toBitVec_not, foldl_checksumStep]

lemma bootMonFsChecksum_laws (words : List UInt32) : ChecksumLaws words where
  complement := bootMonFsChecksum_toBitVec words
  negated := by
    have hlt := (endAroundSum (words.map (·.toBitVec))).isLt
    have hsum := endAroundSum_modEq (words.map (·.toBitVec))
    have hmap : (words.map (·.toBitVec)).map (·.toNat) = words.map (·.toNat) := by
      rw [List.map_map]
      rfl
    have hnot : ((bootMonFsChecksum (wordBytes words)).toNat : ℤ) =
        2 ^ 32 - 1 - (endAroundSum (words.map (·.toBitVec))).toNat := by
      rw [← UInt32.toNat_toBitVec, bootMonFsChecksum_toBitVec, BitVec.toNat_not]
      omega
    rw [hmap] at hsum
    rw [hnot]
    exact (hsum.neg.add_left (2 ^ 32 - 1)).trans (Int.modEq_iff_dvd.mpr ⟨-1, by ring⟩)
  order words' h := by
    apply UInt32.toBitVec_inj.mp
    rw [bootMonFsChecksum_toBitVec, bootMonFsChecksum_toBitVec, endAroundSum_perm (h.map _)]
  appended := by
    rw [List.map_append, List.map_singleton, endAroundSum_concat, bootMonFsChecksum_toBitVec]
    exact endAroundAdd_not _

/-! ## The stored checksum -/

/-- The words before the checksum. -/
def HwImageDescription.wordsBefore (d : HwImageDescription) : List UInt32 :=
  [d.entryPoint, d.attributes, d.regionCount] ++
    ((d.region 0).words ++ (d.region 1).words ++ (d.region 2).words ++ (d.region 3).words) ++
    [d.blockStart, d.blockEnd]

/-- The words behind it. -/
def HwImageDescription.wordsBehind (d : HwImageDescription) : List UInt32 :=
  wordsOfBytes (List.ofFn d.footer.filename ++ wordBytes d.tailWords)

lemma wordsOfBytes_bytes (d : HwImageDescription) :
    wordsOfBytes d.bytes = d.wordsBefore ++ d.footerChecksum :: d.wordsBehind :=
  wordsOfBytes_append d.headWords _

/-- The checksum of a description verifies: computed again, with its own place blank, it comes out
the same, and with it in place the words sum to all ones. -/
structure HwImageDescription.Verifies (d : HwImageDescription) : Prop where
  recomputed : bootMonFsChecksum d.shim.bytes = d.footerChecksum
  inPlace : endAroundSum ((wordsOfBytes { d.shim with footerChecksum := d.footerChecksum }.bytes).map
    (·.toBitVec)) = BitVec.allOnes 32

lemma checksummed_verifies (d : HwImageDescription) : d.checksummed.Verifies where
  recomputed := rfl
  inPlace := by
    have hwords : wordBytes (wordsOfBytes d.checksummed.shim.bytes) = d.checksummed.shim.bytes :=
      wordBytes_wordsOfBytes (by rw [HwImageDescription.length_bytes]; rfl)
    have hstored : d.checksummed.footerChecksum.toBitVec =
        ~~~endAroundSum ((wordsOfBytes d.checksummed.shim.bytes).map (·.toBitVec)) := by
      rw [← bootMonFsChecksum_toBitVec, hwords]
      rfl
    have hblank : endAroundSum ((wordsOfBytes d.checksummed.shim.bytes).map (·.toBitVec)) =
        endAroundSum (d.checksummed.shim.wordsBefore.map (·.toBitVec) ++
          d.checksummed.shim.wordsBehind.map (·.toBitVec)) := by
      rw [wordsOfBytes_bytes, List.map_append, List.map_cons, endAroundSum_middle]
      exact endAroundAdd_zero _
    rw [wordsOfBytes_bytes, List.map_append, List.map_cons, endAroundSum_middle, hstored, hblank]
    exact endAroundAdd_not _

/-- The checksum is the complemented sum with end-around carry, and what
`BootMonFsComputeFooterChecksum` stores verifies. -/
theorem checksum_complements (words : List UInt32) (d : HwImageDescription) :
    ChecksumLaws words ∧ d.checksummed.Verifies :=
  ⟨bootMonFsChecksum_laws words, checksummed_verifies d⟩

end BootMonFs
end MuPlatform
