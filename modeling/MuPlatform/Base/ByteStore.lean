import Mathlib.Data.Nat.Basic
import Mathlib.Tactic.Ring
import Mathlib.Tactic.NormNum

/-!
# Byte stores

A byte store is a total map from addresses to bytes: a memory, a transport buffer or a disk.
This module is about that notion alone and names no program.

* `ByteStore.write` overwrites a run of bytes, `ByteStore.read` returns one, and
  `ByteStore.fill` sets a range to one value.  The read-after-write laws come in two halves:
  `read_write_same` for the bytes just written and `read_write_disjoint` for everything else.
* `ByteStore.blit` copies a run of bytes out of another store; `blit_append` joins two copies.
* `leBytes` / `leNat` are the little-endian encodings of naturals, and `load16` … `store64` are
  the fixed-width accesses built from them, again with a `_same` and a `_disjoint` law each.

The frame laws are stated with the side condition `a + n ≤ b ∨ b + m ≤ a`, which `omega`
decides once the addresses are linear in the same variables.
-/

namespace MuPlatform

/-- A total map from addresses to bytes. -/
abbrev ByteStore := ℕ → UInt8

namespace ByteStore

/-! ## Runs of bytes -/

/-- The store with the bytes `bs` written from `a` upwards. -/
def write (m : ByteStore) (a : ℕ) (bs : List UInt8) : ByteStore := fun x =>
  if a ≤ x then bs[x - a]?.getD (m x) else m x

/-- The `n` bytes from `a` upwards. -/
def read (m : ByteStore) (a n : ℕ) : List UInt8 :=
  (List.range n).map fun i => m (a + i)

/-- The store with the `n` bytes from `a` upwards set to `v`. -/
def fill (m : ByteStore) (a n : ℕ) (v : UInt8) : ByteStore := fun x =>
  if a ≤ x ∧ x < a + n then v else m x

variable {m m' : ByteStore} {a b n k x : ℕ} {bs cs : List UInt8} {v : UInt8}

lemma write_apply_of_lt (h : x < a) : m.write a bs x = m x := by
  simp [write, Nat.not_le.mpr h]

lemma write_apply_of_le (h : a + bs.length ≤ x) : m.write a bs x = m x := by
  have hx : bs[x - a]? = none := List.getElem?_eq_none (by omega)
  simp [write, hx]

lemma write_apply_off (h : x < a ∨ a + bs.length ≤ x) : m.write a bs x = m x := by
  rcases h with h | h
  · exact write_apply_of_lt h
  · exact write_apply_of_le h

lemma write_apply_on (h : k < bs.length) : m.write a bs (a + k) = bs[k] := by
  simp [write, h]

@[simp] lemma write_nil : m.write a [] = m := by
  funext x
  simp [write]

lemma fill_apply_on (h : a ≤ x ∧ x < a + n) : m.fill a n v x = v := by
  simp only [fill, if_pos h]

lemma fill_apply_off (h : x < a ∨ a + n ≤ x) : m.fill a n v x = m x := by
  have hx : ¬ (a ≤ x ∧ x < a + n) := by omega
  simp only [fill, if_neg hx]

/-- Filling is writing a constant run. -/
lemma fill_eq_write : m.fill a n v = m.write a (List.replicate n v) := by
  funext x
  by_cases h : a ≤ x ∧ x < a + n
  · have hx : x - a < (List.replicate n v).length := by simp; omega
    simp [fill, write, h, List.getElem?_eq_getElem hx]
  · rw [fill_apply_off (by omega), write_apply_off (by simp; omega)]

@[simp] lemma length_read : (m.read a n).length = n := by
  simp [read]

@[simp] lemma getElem_read (h : k < (m.read a n).length) : (m.read a n)[k] = m (a + k) := by
  simp [read]

@[simp] lemma read_zero : m.read a 0 = [] := rfl

lemma read_congr (h : ∀ i, i < n → m (a + i) = m' (b + i)) : m.read a n = m'.read b n := by
  simp only [read]
  exact List.map_congr_left fun i hi => h i (List.mem_range.mp hi)

lemma read_append : m.read a (n + k) = m.read a n ++ m.read (a + n) k := by
  simp [read, List.range_add, Nat.add_assoc]

lemma read_take (h : k ≤ n) : (m.read a n).take k = m.read a k := by
  obtain ⟨d, rfl⟩ := Nat.exists_eq_add_of_le h
  rw [read_append, List.take_append_of_le_length (by simp), List.take_of_length_le (by simp)]

lemma read_drop_take {j : ℕ} (h : k + j ≤ n) :
    ((m.read a n).drop k).take j = m.read (a + k) j := by
  obtain ⟨i, rfl⟩ := Nat.exists_eq_add_of_le h
  rw [Nat.add_assoc, read_append, List.drop_append_of_le_length (by rw [length_read]),
    List.drop_eq_nil_of_le (by rw [length_read]), List.nil_append, read_take (by omega)]

lemma apply_eq_of_read_eq (h : m.read a n = bs) (hk' : k < bs.length) :
    m (a + k) = bs[k] := by
  subst h
  simp

/-- Two stores read alike over a range exactly when they agree there. -/
lemma read_eq_read_iff :
    m.read a n = m'.read a n ↔ ∀ x, a ≤ x → x < a + n → m x = m' x := by
  constructor
  · intro h x hax hxn
    have hk : x - a < n := by omega
    have := apply_eq_of_read_eq h (by simpa using hk)
    simpa [Nat.add_sub_cancel' hax] using this
  · intro h
    exact read_congr fun i hi => h (a + i) (by omega) (by omega)

@[simp] lemma read_write_same : (m.write a bs).read a bs.length = bs := by
  apply List.ext_getElem (by simp)
  intro i h₁ h₂
  rw [getElem_read, write_apply_on h₂]

lemma read_write_disjoint (h : a + n ≤ b ∨ b + bs.length ≤ a) :
    (m.write b bs).read a n = m.read a n :=
  read_congr fun i hi => write_apply_off (by omega)

lemma read_fill_disjoint (h : a + n ≤ b ∨ b + k ≤ a) :
    (m.fill b k v).read a n = m.read a n :=
  read_congr fun i hi => fill_apply_off (by omega)

lemma write_append : m.write a (bs ++ cs) = (m.write a bs).write (a + bs.length) cs := by
  funext x
  rcases Nat.lt_or_ge x a with hx | hx
  · rw [write_apply_of_lt hx, write_apply_of_lt (by omega), write_apply_of_lt hx]
  obtain ⟨i, rfl⟩ := Nat.exists_eq_add_of_le hx
  rcases Nat.lt_or_ge i bs.length with hi | hi
  · rw [write_apply_on (by simp; omega), write_apply_of_lt (by omega), write_apply_on hi,
      List.getElem_append_left hi]
  · obtain ⟨j, rfl⟩ := Nat.exists_eq_add_of_le hi
    rcases Nat.lt_or_ge j cs.length with hj | hj
    · rw [write_apply_on (by simp; omega), ← Nat.add_assoc, write_apply_on hj]
      simp
    · rw [write_apply_of_le (by simp; omega), ← Nat.add_assoc,
        write_apply_of_le (by omega), write_apply_of_le (by omega)]

/-- A second write from the same address overwrites the start of the first. -/
lemma write_write_same (h : bs.length ≤ cs.length) :
    (m.write a cs).write a bs = m.write a (bs ++ cs.drop bs.length) := by
  funext x
  rcases Nat.lt_or_ge x a with hx | hx
  · rw [write_apply_of_lt hx, write_apply_of_lt hx, write_apply_of_lt hx]
  obtain ⟨i, rfl⟩ := Nat.exists_eq_add_of_le hx
  rcases Nat.lt_or_ge i bs.length with hi | hi
  · rw [write_apply_on hi, write_apply_on (by simp; omega), List.getElem_append_left hi]
  rw [write_apply_of_le (by omega)]
  rcases Nat.lt_or_ge i cs.length with hc | hc
  · obtain ⟨j, rfl⟩ := Nat.exists_eq_add_of_le hi
    rw [write_apply_on hc, write_apply_on (by simp; omega)]
    simp
  · rw [write_apply_of_le (by omega), write_apply_of_le (by simp; omega)]

/-! ## Copies between stores -/

/-- The store with the `n` bytes from `a` upwards copied from `src`, from `b` upwards. -/
def blit (m : ByteStore) (a : ℕ) (src : ByteStore) (b n : ℕ) : ByteStore := fun x =>
  if a ≤ x ∧ x < a + n then src (b + (x - a)) else m x

section Blit

variable {src : ByteStore} {i : ℕ}

lemma blit_apply_on (h : i < n) : m.blit a src b n (a + i) = src (b + i) := by
  simp [blit, h]

lemma blit_apply_off (h : x < a ∨ a + n ≤ x) : m.blit a src b n x = m x := by
  have hx : ¬ (a ≤ x ∧ x < a + n) := by omega
  simp only [blit, if_neg hx]

lemma blit_eq_write : m.blit a src b n = m.write a (src.read b n) := by
  funext x
  by_cases h : a ≤ x ∧ x < a + n
  · obtain ⟨i, rfl⟩ := Nat.exists_eq_add_of_le h.1
    rw [blit_apply_on (by omega), write_apply_on (by rw [length_read]; omega), getElem_read]
  · rw [blit_apply_off (by omega), write_apply_off (by rw [length_read]; omega)]

@[simp] lemma blit_zero : m.blit a src b 0 = m := by
  funext x
  exact blit_apply_off (by omega)

/-- Two copies one behind the other are one copy. -/
lemma blit_append : (m.blit a src b n).blit (a + n) src (b + n) k = m.blit a src b (n + k) := by
  funext x
  by_cases hx : a ≤ x ∧ x < a + n + k
  · obtain ⟨i, rfl⟩ := Nat.exists_eq_add_of_le hx.1
    rw [blit_apply_on (by omega)]
    rcases Nat.lt_or_ge i n with hi | hi
    · rw [blit_apply_off (by omega), blit_apply_on hi]
    · obtain ⟨j, rfl⟩ := Nat.exists_eq_add_of_le hi
      rw [← Nat.add_assoc, blit_apply_on (by omega), Nat.add_assoc]
  · rw [blit_apply_off (by omega), blit_apply_off (by omega), blit_apply_off (by omega)]

end Blit

/-! ## Little-endian naturals -/

/-- The `w` little-endian bytes of `n`; what lies above `256 ^ w` is dropped. -/
def leBytes : ℕ → ℕ → List UInt8
  | 0, _ => []
  | w + 1, n => UInt8.ofNat n :: leBytes w (n / 256)

/-- The natural whose little-endian bytes are given. -/
def leNat : List UInt8 → ℕ
  | [] => 0
  | b :: bs => b.toNat + 256 * leNat bs

@[simp] lemma length_leBytes (w n : ℕ) : (leBytes w n).length = w := by
  induction w generalizing n with
  | zero => rfl
  | succ w ih => simp [leBytes, ih]

lemma leNat_leBytes (w n : ℕ) : leNat (leBytes w n) = n % 256 ^ w := by
  induction w generalizing n with
  | zero => simp [leBytes, leNat, Nat.mod_one]
  | succ w ih =>
      have hb : (UInt8.ofNat n).toNat = n % 256 := by simp [UInt8.toNat_ofNat']
      rw [leBytes, leNat, ih, hb, pow_succ', Nat.mod_mul]

/-- The bytes above the width are dropped. -/
lemma leBytes_mod (w n : ℕ) : leBytes w (n % 256 ^ w) = leBytes w n := by
  induction w generalizing n with
  | zero => rfl
  | succ w ih =>
      have hlow : UInt8.ofNat (n % 256 ^ (w + 1)) = UInt8.ofNat n := by
        apply UInt8.toNat_inj.mp
        rw [UInt8.toNat_ofNat', UInt8.toNat_ofNat', pow_succ']
        exact Nat.mod_mul_right_mod n 256 (256 ^ w)
      rw [leBytes, leBytes, hlow, pow_succ', Nat.mod_mul_right_div_self, ih]

lemma leNat_lt (bs : List UInt8) : leNat bs < 256 ^ bs.length := by
  induction bs with
  | nil => simp [leNat]
  | cons b bs ih =>
      have hb := b.toNat_lt
      rw [leNat, List.length_cons, pow_succ]
      omega

/-- Encoding what was decoded gives the bytes back. -/
lemma leBytes_leNat (bs : List UInt8) : leBytes bs.length (leNat bs) = bs := by
  induction bs with
  | nil => rfl
  | cons b bs ih =>
      have hb := b.toNat_lt
      have hlow : UInt8.ofNat (b.toNat + 256 * leNat bs) = b := by
        apply UInt8.toNat_inj.mp
        rw [UInt8.toNat_ofNat']
        omega
      have hhigh : (b.toNat + 256 * leNat bs) / 256 = leNat bs := by omega
      rw [List.length_cons, leNat, leBytes, hlow, hhigh, ih]

lemma getElem_leBytes {w k : ℕ} (h : k < (leBytes w n).length) :
    (leBytes w n)[k] = UInt8.ofNat (n / 256 ^ k) := by
  induction w generalizing n k with
  | zero => simp [leBytes] at h
  | succ w ih =>
      cases k with
      | zero => simp [leBytes]
      | succ k =>
          have hk : k < (leBytes w (n / 256)).length := by simpa [leBytes] using h
          simp only [leBytes, List.getElem_cons_succ]
          rw [ih hk, Nat.div_div_eq_div_mul, pow_succ']

/-- The bits of a byte of an encoding are bits of the natural. -/
lemma testBit_byte {i : ℕ} (hi : i < 8) :
    (UInt8.ofNat (n / 256 ^ k)).toNat.testBit i = n.testBit (8 * k + i) := by
  have hpow : (256 : ℕ) ^ k = 2 ^ (8 * k) := by rw [pow_mul]; norm_num
  rw [UInt8.toNat_ofNat', Nat.testBit_mod_two_pow, hpow, Nat.testBit_div_two_pow]
  simp [hi, Nat.add_comm]

/-- Two encodings are each other's reverse when the bytes of the naturals are, bit by bit. -/
lemma leBytes_eq_reverse {w i j : ℕ}
    (h : ∀ k b, k < w → b < 8 → i.testBit (8 * k + b) = j.testBit (8 * (w - 1 - k) + b)) :
    leBytes w i = (leBytes w j).reverse := by
  apply List.ext_getElem (by simp)
  intro k hk _
  rw [length_leBytes] at hk
  rw [getElem_leBytes, List.getElem_reverse, getElem_leBytes, length_leBytes]
  apply UInt8.toNat_inj.mp
  apply Nat.eq_of_testBit_eq
  intro b
  by_cases hb : b < 8
  · rw [testBit_byte hb, testBit_byte hb, h k b hk hb]
  · have hhigh : ∀ c : UInt8, c.toNat.testBit b = false := fun c =>
      Nat.testBit_lt_two_pow (Nat.lt_of_lt_of_le c.toNat_lt
        (Nat.pow_le_pow_right (by decide) (Nat.not_lt.mp hb)))
    rw [hhigh, hhigh]

/-! ## Fixed-width accesses -/

/-- The little-endian natural in the `w` bytes at `a`. -/
def loadNat (m : ByteStore) (a w : ℕ) : ℕ := leNat (m.read a w)

def load16 (m : ByteStore) (a : ℕ) : UInt16 := UInt16.ofNat (m.loadNat a 2)
def load32 (m : ByteStore) (a : ℕ) : UInt32 := UInt32.ofNat (m.loadNat a 4)
def load64 (m : ByteStore) (a : ℕ) : UInt64 := UInt64.ofNat (m.loadNat a 8)

def store16 (m : ByteStore) (a : ℕ) (v : UInt16) : ByteStore := m.write a (leBytes 2 v.toNat)
def store32 (m : ByteStore) (a : ℕ) (v : UInt32) : ByteStore := m.write a (leBytes 4 v.toNat)
def store64 (m : ByteStore) (a : ℕ) (v : UInt64) : ByteStore := m.write a (leBytes 8 v.toNat)

lemma loadNat_write_leBytes (w n : ℕ) :
    (m.write a (leBytes w n)).loadNat a w = n % 256 ^ w := by
  have h : (m.write a (leBytes w n)).read a w = leBytes w n := by
    have hsame := @read_write_same m a (leBytes w n)
    rwa [length_leBytes] at hsame
  rw [loadNat, h, leNat_leBytes]

lemma loadNat_congr (h : ∀ i, i < n → m (a + i) = m' (a + i)) :
    m.loadNat a n = m'.loadNat a n := by
  rw [loadNat, loadNat, read_congr h]

@[simp] lemma load16_store16_same (v : UInt16) : (m.store16 a v).load16 a = v := by
  rw [load16, store16, loadNat_write_leBytes, Nat.mod_eq_of_lt (by simpa using v.toNat_lt)]
  simp

@[simp] lemma load32_store32_same (v : UInt32) : (m.store32 a v).load32 a = v := by
  rw [load32, store32, loadNat_write_leBytes, Nat.mod_eq_of_lt (by simpa using v.toNat_lt)]
  simp

@[simp] lemma load64_store64_same (v : UInt64) : (m.store64 a v).load64 a = v := by
  rw [load64, store64, loadNat_write_leBytes, Nat.mod_eq_of_lt (by simpa using v.toNat_lt)]
  simp

lemma load16_congr (h : ∀ i, i < 2 → m (a + i) = m' (a + i)) : m.load16 a = m'.load16 a := by
  rw [load16, load16, loadNat_congr h]

lemma load32_congr (h : ∀ i, i < 4 → m (a + i) = m' (a + i)) : m.load32 a = m'.load32 a := by
  rw [load32, load32, loadNat_congr h]

lemma load64_congr (h : ∀ i, i < 8 → m (a + i) = m' (a + i)) : m.load64 a = m'.load64 a := by
  rw [load64, load64, loadNat_congr h]

/-- Four equal bytes, as they are loaded. -/
lemma load32_of_bytes {v : UInt8} (h : ∀ i, i < 4 → m (a + i) = v) :
    m.load32 a = UInt32.ofNat (leNat (List.replicate 4 v)) :=
  @load32_congr m (fun _ => v) a h

/-- Writing back what is read changes nothing. -/
lemma write_read_same : m.write a (m.read a n) = m := by
  funext x
  by_cases hx : a ≤ x ∧ x < a + n
  · obtain ⟨k, rfl⟩ := Nat.exists_eq_add_of_le hx.1
    have hk : k < (m.read a n).length := by simp; omega
    rw [write_apply_on hk, getElem_read]
  · exact write_apply_off (by simp; omega)

lemma loadNat_lt : m.loadNat a n < 256 ^ n := by
  have := leNat_lt (m.read a n)
  rwa [length_read] at this

lemma write_loadNat_same : m.write a (leBytes n (m.loadNat a n)) = m := by
  have h := leBytes_leNat (m.read a n)
  rw [length_read] at h
  rw [loadNat, h, write_read_same]

lemma store32_load32_same : m.store32 a (m.load32 a) = m := by
  have h : (m.load32 a).toNat = m.loadNat a 4 := by
    rw [load32, UInt32.toNat_ofNat']
    exact Nat.mod_eq_of_lt loadNat_lt
  rw [store32, h, write_loadNat_same]

/-! The frame laws of the fixed-width loads; a store unfolds to the write it makes. -/

lemma loadNat_write_off (h : a + n ≤ b ∨ b + bs.length ≤ a) :
    (m.write b bs).loadNat a n = m.loadNat a n := by
  rw [loadNat, loadNat, read_write_disjoint h]

lemma load16_write_off (h : a + 2 ≤ b ∨ b + bs.length ≤ a) :
    (m.write b bs).load16 a = m.load16 a := by
  rw [load16, load16, loadNat_write_off h]

lemma load32_write_off (h : a + 4 ≤ b ∨ b + bs.length ≤ a) :
    (m.write b bs).load32 a = m.load32 a := by
  rw [load32, load32, loadNat_write_off h]

lemma load64_write_off (h : a + 8 ≤ b ∨ b + bs.length ≤ a) :
    (m.write b bs).load64 a = m.load64 a := by
  rw [load64, load64, loadNat_write_off h]

lemma load16_store32_off {v : UInt32} (h : a + 2 ≤ b ∨ b + 4 ≤ a) :
    (m.store32 b v).load16 a = m.load16 a :=
  load16_write_off (by simpa using h)

lemma load32_store32_off {v : UInt32} (h : a + 4 ≤ b ∨ b + 4 ≤ a) :
    (m.store32 b v).load32 a = m.load32 a :=
  load32_write_off (by simpa using h)

lemma load32_store64_off {v : UInt64} (h : a + 4 ≤ b ∨ b + 8 ≤ a) :
    (m.store64 b v).load32 a = m.load32 a :=
  load32_write_off (by simpa using h)

lemma load64_store64_off {v : UInt64} (h : a + 8 ≤ b ∨ b + 8 ≤ a) :
    (m.store64 b v).load64 a = m.load64 a :=
  load64_write_off (by simpa using h)

lemma read_store64_off {v : UInt64} (h : a + n ≤ b ∨ b + 8 ≤ a) :
    (m.store64 b v).read a n = m.read a n :=
  read_write_disjoint (by simpa using h)

lemma store32_apply_off {v : UInt32} (h : x < a ∨ a + 4 ≤ x) : m.store32 a v x = m x :=
  write_apply_off (by simpa using h)

lemma store64_apply_off {v : UInt64} (h : x < a ∨ a + 8 ≤ x) : m.store64 a v x = m x :=
  write_apply_off (by simpa using h)

end ByteStore

end MuPlatform
