import MuPlatform.Base.ByteStore

/-!
# Byte files

A byte file is what a client of a file system has in mind: a size, a position and the bytes
below the size, of which some may be unspecified (the gap a write behind the end leaves).
This module names no program.

* `KnownBytes` is a partial assignment of bytes to offsets; `KnownBytes.writes` applies a queue
  of writes in order, which is what a file system that delays its writes has to do.
* `KnownBytes.StoredAt` says that a store holds the known bytes from an address on, and
  `KnownBytes.Sound` that it holds them where they are; the lemmas say what keeps that.
* `ByteFile` carries the fact that nothing is known behind its end.
-/

namespace MuPlatform

/-- The bytes known at some offsets. -/
abbrev KnownBytes := ℕ → Option UInt8

namespace KnownBytes

variable {m m' : KnownBytes} {s s' : ByteStore} {a n x : ℕ} {b : UInt8} {bs : List UInt8}

/-- The known bytes after a write of `bs` at the offset `a`. -/
def write (m : KnownBytes) (a : ℕ) (bs : List UInt8) : KnownBytes := fun x =>
  if a ≤ x ∧ x < a + bs.length then bs[x - a]? else m x

/-- The known bytes after a queue of writes. -/
def writes (m : KnownBytes) (queue : List (ℕ × List UInt8)) : KnownBytes :=
  queue.foldl (fun m entry => m.write entry.1 entry.2) m

lemma write_on (h : a ≤ x ∧ x < a + bs.length) : m.write a bs x = bs[x - a]? := if_pos h

lemma write_off (h : x < a ∨ a + bs.length ≤ x) : m.write a bs x = m x :=
  if_neg (by omega)

@[simp] lemma write_nil : m.write a [] = m := by
  funext x
  exact write_off (by simp only [List.length_nil]; omega)

/-- A write knows more where the bytes before it know more. -/
lemma write_mono (h : ∀ x b, m x = some b → m' x = some b) (hx : m.write a bs x = some b) :
    m'.write a bs x = some b := by
  by_cases hon : a ≤ x ∧ x < a + bs.length
  · rw [write_on hon] at hx ⊢
    exact hx
  · rw [write_off (by omega)] at hx ⊢
    exact h x b hx

@[simp] lemma writes_nil : m.writes [] = m := rfl

lemma writes_cons (entry : ℕ × List UInt8) (queue : List (ℕ × List UInt8)) :
    m.writes (entry :: queue) = (m.write entry.1 entry.2).writes queue := rfl

lemma writes_append (queue queue' : List (ℕ × List UInt8)) :
    m.writes (queue ++ queue') = (m.writes queue).writes queue' := List.foldl_append

/-- What is known of one offset after some writes depends on what was known of it. -/
lemma write_apply_congr (h : m x = m' x) : m.write a bs x = m'.write a bs x := by
  unfold write
  rw [h]

lemma writes_apply_congr (queue : List (ℕ × List UInt8)) (h : m x = m' x) :
    m.writes queue x = m'.writes queue x := by
  induction queue generalizing m m' with
  | nil => exact h
  | cons entry queue ih => exact ih (write_apply_congr h)

/-- A write cut off behind the offset. -/
lemma write_take_apply (hx : x < a + n) : m.write a (bs.take n) x = m.write a bs x := by
  have hlength : (bs.take n).length = min n bs.length := List.length_take
  by_cases hon : a ≤ x ∧ x < a + bs.length
  · have hon' : a ≤ x ∧ x < a + (bs.take n).length := by omega
    rw [write_on hon, write_on hon', List.getElem?_take_of_lt (by omega)]
  · have hoff : x < a ∨ a + bs.length ≤ x := by omega
    have hoff' : x < a ∨ a + (bs.take n).length ≤ x := by omega
    rw [write_off hoff, write_off hoff']

/-- The store holds the known bytes from the address `a` on. -/
def StoredAt (m : KnownBytes) (s : ByteStore) (a : ℕ) : Prop :=
  ∀ x b, m x = some b → s (a + x) = b

/-- Nothing is known from the offset `n` on. -/
def Below (m : KnownBytes) (n : ℕ) : Prop := ∀ x, n ≤ x → m x = none

lemma Below.lt (h : m.Below n) (hx : m x = some b) : x < n := by
  by_contra hle
  rw [h x (by omega)] at hx
  cases hx

lemma Below.mono {n' : ℕ} (h : m.Below n) (hle : n ≤ n') : m.Below n' :=
  fun x hx => h x (hle.trans hx)

lemma Below.write (h : m.Below n) (hend : a + bs.length ≤ n) : (m.write a bs).Below n := by
  intro x hx
  rw [write_off (by omega)]
  exact h x hx

/-- The store holds the known bytes. -/
def Sound (m : KnownBytes) (s : ByteStore) : Prop := ∀ x b, m x = some b → s x = b

/-- The known bytes with `n` of them copied to the offset `a` from the offset `c` of others. -/
def copy (m : KnownBytes) (a : ℕ) (m' : KnownBytes) (c n : ℕ) : KnownBytes := fun x =>
  if a ≤ x ∧ x < a + n then m' (c + (x - a)) else m x

/-- The known bytes without those of a range. -/
def forget (m : KnownBytes) (a n : ℕ) : KnownBytes := fun x =>
  if a ≤ x ∧ x < a + n then none else m x

lemma Sound.copy {s' : ByteStore} {c : ℕ} (h : m.Sound s) (h' : m'.Sound s') :
    (m.copy a m' c n).Sound (s.blit a s' c n) := by
  intro x b hx
  unfold KnownBytes.copy at hx
  unfold ByteStore.blit
  split at hx
  · rename_i hon
    rw [if_pos hon]
    exact h' _ b hx
  · rename_i hoff
    rw [if_neg hoff]
    exact h x b hx

/-- Bytes that are not known may be anything. -/
lemma Sound.forget {s' : ByteStore} (h : m.Sound s)
    (hoff : ∀ x, ¬ (a ≤ x ∧ x < a + n) → s' x = s x) : (m.forget a n).Sound s' := by
  intro x b hx
  unfold KnownBytes.forget at hx
  split at hx
  · cases hx
  · rename_i hx'
    rw [hoff x hx']
    exact h x b hx

namespace StoredAt

variable {start address : ℕ} {other : List UInt8}

/-- The write of the bytes to the store. -/
lemma write (h : m.StoredAt s start) :
    (m.write a bs).StoredAt (s.write (start + a) bs) start := by
  intro x b hx
  by_cases hon : a ≤ x ∧ x < a + bs.length
  · have hlt : x - a < bs.length := by omega
    have hat : start + x = start + a + (x - a) := by omega
    rw [write_on hon, List.getElem?_eq_getElem hlt] at hx
    rw [hat, ByteStore.write_apply_on hlt]
    exact Option.some_inj.mp hx
  · rw [write_off (by omega)] at hx
    rw [ByteStore.write_apply_off (by omega)]
    exact h x b hx

/-- A write behind the known bytes. -/
lemma behind (h : m.StoredAt s start) (hbelow : m.Below n) (hle : start + n ≤ address) :
    m.StoredAt (s.write address other) start := by
  intro x b hx
  have hlt := hbelow.lt hx
  rw [ByteStore.write_apply_of_lt (by omega)]
  exact h x b hx

end StoredAt

end KnownBytes

/-! ## Files -/

/-- A file with a position. -/
structure ByteFile where
  size : ℕ
  position : ℕ
  known : KnownBytes
  inside : known.Below size

namespace ByteFile

/-- The file without bytes. -/
def empty : ByteFile where
  size := 0
  position := 0
  known _ := none
  inside _ _ := rfl

/-- The file with its position moved. -/
def seek (file : ByteFile) (position : ℕ) : ByteFile := { file with position := position }

/-- The file after a write at its position; bytes between its end and the position stay
unspecified. -/
def write (file : ByteFile) (buffer : List UInt8) : ByteFile where
  size := max file.size (file.position + buffer.length)
  position := file.position + buffer.length
  known := file.known.write file.position buffer
  inside := (file.inside.mono (Nat.le_max_left _ _)).write (Nat.le_max_right _ _)

/-- The file cut or filled up with zeros to `size` bytes. -/
def resize (file : ByteFile) (size : ℕ) : ByteFile where
  size := size
  position := file.position
  known x := if x < size then if x < file.size then file.known x else some 0 else none
  inside _ hx := if_neg (Nat.not_lt.mpr hx)

/-- A file is of its own size. -/
lemma resize_size (file : ByteFile) : file.resize file.size = file := by
  have hknown : (file.resize file.size).known = file.known := by
    funext x
    unfold resize
    by_cases hx : x < file.size
    · simp only [if_pos hx]
    · simp only [if_neg hx]
      exact (file.inside x (Nat.not_lt.mp hx)).symm
  obtain ⟨size, position, known, inside⟩ := file
  unfold resize at hknown ⊢
  congr 1

/-- How many bytes a read of at most `n` bytes returns. -/
def available (file : ByteFile) (n : ℕ) : ℕ := min n (file.size - file.position)

/-- What a read of at most `n` bytes may return: the bytes at the position that are known are
these. -/
structure Reads (file : ByteFile) (n : ℕ) (out : List UInt8) : Prop where
  length : out.length = file.available n
  known : ∀ i b, i < out.length → file.known (file.position + i) = some b → out[i]? = some b

/-- A store that holds the file answers its reads. -/
lemma reads_of_storedAt {file : ByteFile} {s : ByteStore} {start : ℕ}
    (h : file.known.StoredAt s start) (n : ℕ) :
    file.Reads n (s.read (start + file.position) (file.available n)) where
  length := ByteStore.length_read
  known := by
    intro i b hi hknown
    rw [List.getElem?_eq_getElem hi, ByteStore.getElem_read, Nat.add_assoc]
    exact congrArg some (h _ b hknown)

end ByteFile

end MuPlatform
