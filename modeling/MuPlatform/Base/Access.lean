import MuPlatform.Base.Span

/-!
# Accesses to memory

What a program reads and writes of a memory, span by span, and when all of it lies in a span to
read from and a span to write to.
-/

namespace MuPlatform

/-- A span with an element lies where its elements lie. -/
lemma Span.within_of_has {s t : Span} (hpos : 0 < s.len) (h : ∀ x, s.Has x → t.Has x) :
    s.Within t := by
  have hfirst := h s.lo ⟨le_rfl, by omega⟩
  have hlast := h (s.lo + (s.len - 1)) ⟨by omega, by omega⟩
  unfold Has at hfirst hlast
  unfold Within
  omega

/-- An access to a span of memory. -/
inductive Access
  | read (s : Span)
  | write (s : Span)
  deriving DecidableEq, Repr

namespace Access

/-- Every byte that is read lies in `reads`, and every byte that is written in `writes`. -/
def Inside (reads writes : Span) : Access → Prop
  | read s => ∀ x, s.Has x → reads.Has x
  | write s => ∀ x, s.Has x → writes.Has x

variable {reads writes reads' writes' : Span} {a : Access}

lemma Inside.mono (h : a.Inside reads writes) (hreads : reads.Within reads')
    (hwrites : writes.Within writes') : a.Inside reads' writes' := by
  cases a with
  | read s => exact fun x hx => hreads.has (h x hx)
  | write s => exact fun x hx => hwrites.has (h x hx)

lemma inside_read {s : Span} (h : s.Within reads) : (read s).Inside reads writes :=
  fun _ hx => h.has hx

lemma inside_write {s : Span} (h : s.Within writes) : (write s).Inside reads writes :=
  fun _ hx => h.has hx

/-- Conversely, where there is a byte. -/
lemma within_of_read {s : Span} (hpos : 0 < s.len) (h : (read s).Inside reads writes) :
    s.Within reads :=
  Span.within_of_has hpos h

lemma within_of_write {s : Span} (hpos : 0 < s.len) (h : (write s).Inside reads writes) :
    s.Within writes :=
  Span.within_of_has hpos h

end Access

end MuPlatform
