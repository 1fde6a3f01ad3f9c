import Mathlib.Data.UInt
import MuPlatform.Base.Milestones
import MuPlatform.BdsLib.Tftp
import MuPlatform.Efi.Arch

/-!
# The progress of a download

`Mtftp4CheckPacket` (`BdsFilePath.c`) counts the bytes of a download from packet to packet, and
updates a message with a slider whenever there is a step more of it, out of forty steps for the
size that the server has reported, or fifty kilobytes more where it has reported none.

The slider is drawn into `Progress`, at the position of its step, and nothing compares that with
its end.  `mtftp4CheckPackets_overflows_iff` says which downloads draw it outside of `Progress`:
those that come to eleven eighths of the reported size.  `mtftp4CheckPackets_sliders` says what is
shown of a download that has the reported size.
-/

namespace MuPlatform
namespace BdsLib

/-! ## The message -/

/-- `mTftpProgressFrame`, without its final zero. -/
def mTftpProgressFrame : List UInt16 := [0x5B] ++ List.replicate 40 0x20 ++ [0x5D]

/-- `TFTP_PROGRESS_SLIDER_STEPS`. -/
def tftpProgressSliderSteps : ℕ := mTftpProgressFrame.length + 1 - 3

/-- `TFTP_PROGRESS_MESSAGE_SIZE`. -/
def tftpProgressMessageSize : ℕ := mTftpProgressFrame.length + 1 + 12

/-- `Progress`. -/
abbrev MessageBuffer := { chars : List UInt16 // chars.length = tftpProgressMessageSize }

/-- Characters stored from `index` on; `none` where they do not fit. -/
def MessageBuffer.store (buffer : MessageBuffer) (index : ℕ) (chars : List UInt16) :
    Option MessageBuffer :=
  if h : index + chars.length ≤ tftpProgressMessageSize then
    some ⟨buffer.val.take index ++ chars ++ buffer.val.drop (index + chars.length), by
      have hlength := buffer.property
      simp only [List.length_append, List.length_take, List.length_drop]
      omega⟩
  else none

/-- `UnicodeSPrint` into a buffer of `size` bytes, of a text without a zero. -/
def unicodeSPrint (size : ℕ) (text : List UInt16) : List UInt16 := text.take (size / 2 - 1) ++ [0]

/-- `" Kb"`. -/
def kbText : List UInt16 := [0x20, 0x4B, 0x62]

/-- What is printed. -/
inductive ScreenOutput
  | frame (known : Bool)
  | delete (count : ℕ)
  | message (chars : List UInt16)
  deriving DecidableEq, Repr

/-- The characters that are printed. -/
def ScreenOutput.chars : ScreenOutput → List UInt16
  | frame true => mTftpProgressFrame ++ List.replicate 7 0x20 ++ [0x30] ++ kbText
  | frame false => List.replicate 4 0x20 ++ [0x30] ++ kbText
  | delete count => List.replicate count 0x08
  | message chars => chars

/-- The message with the slider at `step`, drawn over what `Progress` held; `none` where it is drawn
outside of `Progress`. -/
def sliderMessage (progress : MessageBuffer) (step : ℕ) (number : List UInt16) :
    Option (List UInt16) := do
  let progress ← progress.store 0 (mTftpProgressFrame ++ [0])
  let progress ← progress.store 1 (List.replicate (step - 1) 0x3D)
  let progress ← progress.store step [0x3E]
  let progress ← progress.store (mTftpProgressFrame.length + 1 - 1)
    (unicodeSPrint (2 * tftpProgressMessageSize - 2 * (mTftpProgressFrame.length + 1))
      ([0x20] ++ number ++ kbText))
  return progress.val.takeWhile (· ≠ 0)

/-! ## A packet -/

/-- `BDS_TFTP_CONTEXT`. -/
structure TftpContext where
  fileSize : UInt64
  downloadedNbOfBytes : UInt64
  lastReportedNbOfBytes : UInt64
  deriving DecidableEq, Repr

/-- `EFI_MTFTP4_OPCODE_DATA`. -/
def efiMtftp4OpcodeData : UInt16 := 3

/-- A packet, with its operation in the order of the host.  A packet of data has a head of two
numbers. -/
structure TftpPacket where
  opCode : UInt16
  packetLen : UInt16
  head_le : opCode = efiMtftp4OpcodeData → 4 ≤ packetLen.toNat

/-- The bytes of the file in a packet. -/
def TftpPacket.dataBytes (packet : TftpPacket) : ℕ :=
  if packet.opCode = efiMtftp4OpcodeData then packet.packetLen.toNat - 4 else 0

section Model

variable (arch : Arch) (percent7d : UInt64 → List UInt16)

/-- The step of the slider after a number of bytes. -/
def TftpContext.step (c : TftpContext) (nbOfBytes : UInt64) : ℕ :=
  arch.uintn ((nbOfBytes * .ofNat tftpProgressSliderSteps) / c.fileSize).toNat

/-- `Mtftp4CheckPacket`, with what `Progress` holds at first; `none` where a character is stored
outside of it.  `percent7d` is the format `%7d`. -/
def mtftp4CheckPacket (progress : MessageBuffer) (packet : TftpPacket) (c : TftpContext) :
    Option (TftpContext × List ScreenOutput) :=
  if packet.opCode = efiMtftp4OpcodeData then
    let first := if c.downloadedNbOfBytes = 0 then [.frame (0 < c.fileSize)] else []
    let downloaded := c.downloadedNbOfBytes + .ofNat (packet.packetLen.toNat - 4)
    let nbOfKb := downloaded / 1024
    let counted := { c with downloadedNbOfBytes := downloaded }
    let reported := { counted with lastReportedNbOfBytes := downloaded }
    if 0 < c.fileSize then
      if c.step arch c.lastReportedNbOfBytes < c.step arch downloaded then
        (sliderMessage progress (c.step arch downloaded) (percent7d nbOfKb)).map fun message =>
          (reported, first ++ [.delete 53, .message message])
      else some (counted, first)
    else if c.lastReportedNbOfBytes / (50 * 1024) < downloaded / (50 * 1024) then
      some (reported, first ++ [.delete 10, .message
        ((unicodeSPrint (2 * tftpProgressMessageSize) (percent7d nbOfKb ++ kbText)).takeWhile
          (· ≠ 0))])
    else some (counted, first)
  else some (c, [])

/-- The packets of a download, each with what `Progress` holds at first. -/
def mtftp4CheckPackets :
    List (MessageBuffer × TftpPacket) → TftpContext → Option (TftpContext × List ScreenOutput)
  | [], c => some (c, [])
  | (progress, packet) :: packets, c => do
    let (c, output) ← mtftp4CheckPacket arch percent7d progress packet c
    let (c, outputs) ← mtftp4CheckPackets packets c
    return (c, output ++ outputs)

end Model

/-- The context in which a download starts. -/
def TftpContext.fresh (fileSize : UInt64) : TftpContext := ⟨fileSize, 0, 0⟩

/-- The bytes of the file in the packets of a download. -/
def dataBytes (packets : List (MessageBuffer × TftpPacket)) : ℕ :=
  (packets.map (·.2.dataBytes)).sum

/-! ## What is drawn -/

/-- The slider at a step. -/
def slider (step : ℕ) : List UInt16 :=
  [0x5B] ++ List.replicate (step - 1) 0x3D ++ [0x3E] ++ List.replicate (40 - step) 0x20 ++ [0x5D]

/-- The sliders of the messages that are printed. -/
def sliders (output : List ScreenOutput) : List (List UInt16) :=
  output.filterMap fun
    | .message chars => some (chars.take mTftpProgressFrame.length)
    | _ => none

section Drawing

variable {progress : MessageBuffer} {index step : ℕ} {chars number a b c : List UInt16}

lemma length_mTftpProgressFrame : mTftpProgressFrame.length = 42 := by
  simp [mTftpProgressFrame]

lemma tftpProgressMessageSize_eq : tftpProgressMessageSize = 55 := by
  rw [tftpProgressMessageSize, length_mTftpProgressFrame]

lemma store_eq_none : progress.store index chars = none ↔
    tftpProgressMessageSize < index + chars.length := by
  unfold MessageBuffer.store
  split
  · next h => simp [h]
  · next h => simpa using h

/-- What is stored in the middle leaves the two sides. -/
lemma store_mid (chars : List UInt16) (h : progress.val = a ++ b ++ c) (hindex : a.length = index)
    (hlength : b.length = chars.length) :
    ∃ stored, progress.store index chars = some stored ∧ stored.val = a ++ chars ++ c := by
  have hall := progress.property
  rw [h, List.length_append, List.length_append] at hall
  have hfits : index + chars.length ≤ tftpProgressMessageSize := by omega
  refine ⟨_, dif_pos hfits, ?_⟩
  subst hindex
  simp only [h, ← hlength, List.append_assoc, List.take_left']
  rw [← List.append_assoc a b c, ← List.length_append, List.drop_left]

lemma length_unicodeSPrint_le {size : ℕ} (chars : List UInt16) (h : 2 ≤ size) :
    2 * (unicodeSPrint size chars).length ≤ size := by
  rw [unicodeSPrint, List.length_append, List.length_singleton]
  have hle := List.length_take_le (size / 2 - 1) chars
  omega

/-- Only the slider can be drawn outside of `Progress`. -/
lemma sliderMessage_eq_none :
    sliderMessage progress step number = none ↔ tftpProgressMessageSize ≤ step := by
  have hsize := tftpProgressMessageSize_eq
  have hframe := length_mTftpProgressFrame
  have hprint := length_unicodeSPrint_le ([0x20] ++ number ++ kbText)
    (show 2 ≤ 2 * tftpProgressMessageSize - 2 * (mTftpProgressFrame.length + 1) by omega)
  have hiff : ∀ {buffer : MessageBuffer} {i : ℕ} {cs : List UInt16},
      buffer.store i cs = none ↔ tftpProgressMessageSize < i + cs.length := store_eq_none
  unfold sliderMessage
  cases hfirst : progress.store 0 (mTftpProgressFrame ++ [0]) with
  | none =>
      have hout := hiff.mp hfirst
      simp only [List.length_append, List.length_singleton] at hout
      omega
  | some progress₁ =>
  rw [Option.bind_eq_bind, Option.bind_some]
  cases hsecond : progress₁.store 1 (List.replicate (step - 1) 0x3D) with
  | none =>
      have hout := hiff.mp hsecond
      rw [List.length_replicate] at hout
      exact iff_of_true rfl (by omega)
  | some progress₂ =>
  rw [Option.bind_some]
  cases hthird : progress₂.store step [0x3E] with
  | none =>
      have hout := hiff.mp hthird
      rw [List.length_singleton] at hout
      exact iff_of_true rfl (by omega)
  | some progress₃ =>
  have hin : ¬ tftpProgressMessageSize < step + 1 := fun hout => by
    rw [hiff.mpr hout] at hthird
    cases hthird
  rw [Option.bind_some]
  cases hfourth : progress₃.store (mTftpProgressFrame.length + 1 - 1)
      (unicodeSPrint (2 * tftpProgressMessageSize - 2 * (mTftpProgressFrame.length + 1))
        ([0x20] ++ number ++ kbText)) with
  | none =>
      have hout := hiff.mp hfourth
      omega
  | some progress₄ => exact iff_of_false (Option.some_ne_none _) (by omega)

/-- A slider with its step inside of the frame. -/
lemma sliderMessage_slider (progress : MessageBuffer) (number : List UInt16) (hpos : 0 < step)
    (hle : step ≤ tftpProgressSliderSteps) :
    ∃ message, sliderMessage progress step number = some message ∧
      message.take mTftpProgressFrame.length = slider step := by
  have hsize := tftpProgressMessageSize_eq
  have hframe := length_mTftpProgressFrame
  have hsteps : tftpProgressSliderSteps = 40 := by rw [tftpProgressSliderSteps, hframe]
  rw [hsteps] at hle
  obtain ⟨k, rfl⟩ : ∃ k, step = k + 1 := ⟨step - 1, by omega⟩
  have hbuffer : progress.val = [] ++ progress.val.take 43 ++ progress.val.drop 43 := by simp
  have hlength := progress.property
  obtain ⟨progress₁, hfirst, hval₁⟩ := store_mid (mTftpProgressFrame ++ [0]) hbuffer rfl
    (by simp [hframe, hlength, hsize])
  have hspaces : List.replicate 40 (0x20 : UInt16) =
      List.replicate k 0x20 ++ [0x20] ++ List.replicate (39 - k) 0x20 := by
    rw [← List.replicate_succ', List.replicate_append_replicate]
    congr 1
    omega
  have hframed : progress₁.val = [0x5B] ++ List.replicate k 0x20 ++
      ([0x20] ++ (List.replicate (39 - k) 0x20 ++ ([0x5D, 0] ++ progress.val.drop 43))) := by
    simp [hval₁, mTftpProgressFrame, hspaces]
  obtain ⟨progress₂, hsecond, hval₂⟩ := store_mid (List.replicate k 0x3D) hframed rfl (by simp)
  have hdone : progress₂.val = [0x5B] ++ List.replicate k 0x3D ++ [0x20] ++
      (List.replicate (39 - k) 0x20 ++ ([0x5D, 0] ++ progress.val.drop 43)) := by
    simp [hval₂]
  obtain ⟨progress₃, hthird, hval₃⟩ := store_mid [0x3E] hdone rfl rfl
  have hslider : slider (k + 1) =
      [0x5B] ++ List.replicate k 0x3D ++ [0x3E] ++ List.replicate (39 - k) 0x20 ++ [0x5D] := by
    simp [slider]
  have hsliderLength : (slider (k + 1)).length = 42 := by
    simp [hslider]
    omega
  generalize hprinted : unicodeSPrint (2 * tftpProgressMessageSize -
    2 * (mTftpProgressFrame.length + 1)) ([0x20] ++ number ++ kbText) = printed
  have hprint : 2 * printed.length ≤ 24 := by
    have hle := length_unicodeSPrint_le ([0x20] ++ number ++ kbText)
      (show 2 ≤ 2 * tftpProgressMessageSize - 2 * (mTftpProgressFrame.length + 1) by omega)
    rw [hprinted] at hle
    omega
  have hdrawn : progress₃.val = slider (k + 1) ++
      (0 :: progress.val.drop 43).take printed.length ++
        (0 :: progress.val.drop 43).drop printed.length := by
    rw [List.append_assoc, List.take_append_drop]
    simp [hval₃, hslider]
  obtain ⟨progress₄, hfourth, hval₄⟩ := store_mid printed hdrawn rfl
    (by simp [hlength, hsize]; omega)
  refine ⟨progress₄.val.takeWhile (· ≠ 0), ?_, ?_⟩
  · rw [List.length_nil] at hfirst
    rw [List.length_singleton] at hsecond
    rw [show ([0x5B] ++ List.replicate k 0x3D : List UInt16).length = k + 1 by simp] at hthird
    rw [hsliderLength] at hfourth
    rw [sliderMessage, hfirst, Option.bind_eq_bind, Option.bind_some, Nat.add_sub_cancel, hsecond,
      Option.bind_some, hthird, Option.bind_some, hprinted, hframe, Nat.add_sub_cancel, hfourth]
    rfl
  · have hnonzero : ∀ c ∈ slider (k + 1), decide (c ≠ 0) = true := by
      intro c hc
      rw [hslider] at hc
      simp only [List.mem_append, List.mem_singleton, List.mem_replicate] at hc
      rcases hc with (((rfl | ⟨-, rfl⟩) | rfl) | ⟨-, rfl⟩) | rfl <;> rfl
    rw [hval₄, List.append_assoc, List.takeWhile_append_of_pos hnonzero, hframe, ← hsliderLength,
      List.take_left]

end Drawing

/-! ## A download -/

/-- The step of the slider for a size, after a number of bytes. -/
def sliderLevel (fileSize nbOfBytes : ℕ) : ℕ := nbOfBytes * tftpProgressSliderSteps / fileSize

/-- A context has counted what a counter with milestones has. -/
structure TftpContext.Counts (c : TftpContext) (m : Milestones) : Prop where
  downloaded : c.downloadedNbOfBytes.toNat = m.counter
  reported : c.lastReportedNbOfBytes.toNat = m.reached

section Download

variable {arch : Arch} {percent7d : UInt64 → List UInt16} {c : TftpContext} {m : Milestones}
  {progress : MessageBuffer} {packet : TftpPacket} {fileSize : UInt64}
  {packets : List (MessageBuffer × TftpPacket)}

lemma tftpProgressSliderSteps_eq : tftpProgressSliderSteps = 40 := by
  rw [tftpProgressSliderSteps, length_mTftpProgressFrame]

lemma monotone_sliderLevel (fileSize : ℕ) : Monotone (sliderLevel fileSize) := by
  intro a b hab
  exact Nat.div_le_div_right (Nat.mul_le_mul_right _ hab)

lemma le_sliderLevel_iff {size n step : ℕ} (hsize : 0 < size) :
    step ≤ sliderLevel size n ↔ step * size ≤ n * 40 := by
  rw [sliderLevel, tftpProgressSliderSteps_eq, Nat.le_div_iff_mul_le hsize]

lemma dataBytes_lt (packet : TftpPacket) : packet.dataBytes < 2 ^ 16 := by
  have hlen := packet.packetLen.toNat_lt
  unfold TftpPacket.dataBytes
  split <;> omega

/-- No step is truncated as long as the count is small. -/
lemma TftpContext.step_eq (arch : Arch) (n : UInt64) (h : n.toNat * 40 < 2 ^ 32) :
    c.step arch n = sliderLevel c.fileSize.toNat n.toNat := by
  have hquotient : n.toNat * 40 / c.fileSize.toNat < 2 ^ 32 :=
    lt_of_le_of_lt (Nat.div_le_self _ _) h
  have hbits : 2 ^ 32 ≤ 2 ^ arch.uintnBits := by cases arch <;> decide
  have hproduct : (n * 40).toNat = n.toNat * 40 := by
    rw [UInt64.toNat_mul]
    exact Nat.mod_eq_of_lt (by change n.toNat * 40 < _; omega)
  rw [TftpContext.step, sliderLevel, tftpProgressSliderSteps_eq, UInt64.toNat_div]
  change arch.uintn ((n * 40).toNat / _) = _
  rw [hproduct, Arch.uintn_of_lt (lt_of_lt_of_le hquotient hbits)]

/-- A packet of a download with a size that has not left `Progress`: without a milestone nothing is
drawn, and at a milestone its slider. -/
lemma mtftp4CheckPacket_known (arch : Arch) (percent7d : UInt64 → List UInt16)
    (progress : MessageBuffer) (packet : TftpPacket) (hknown : 0 < c.fileSize)
    (hsize : c.fileSize.toNat ≤ maxTftpFileSize) (hcounts : c.Counts m)
    (hcurrent : m.Current (sliderLevel c.fileSize.toNat))
    (hbelow : sliderLevel c.fileSize.toNat m.counter < tftpProgressMessageSize) :
    ∃ c' first number, c'.fileSize = c.fileSize ∧ sliders first = [] ∧
      c'.Counts (m.advance (sliderLevel c.fileSize.toNat) packet.dataBytes).1 ∧
      mtftp4CheckPacket arch percent7d progress packet c =
        (m.advance (sliderLevel c.fileSize.toNat) packet.dataBytes).2.elim (some (c', first))
          fun step => (sliderMessage progress step number).map fun message =>
            (c', first ++ [.delete 53, .message message]) := by
  have hpos : 0 < c.fileSize.toNat := by simpa [UInt64.lt_iff_toNat_lt] using hknown
  have hlt := dataBytes_lt packet
  have hbound : ∀ n, sliderLevel c.fileSize.toNat n < tftpProgressMessageSize →
      n * 40 < 2 ^ 31 := by
    intro n hn
    rw [tftpProgressMessageSize_eq, ← Nat.not_le, le_sliderLevel_iff hpos] at hn
    unfold maxTftpFileSize at hsize
    omega
  have hcounter := hbound m.counter hbelow
  have hreached := hbound m.reached (hcurrent ▸ hbelow)
  by_cases hdata : packet.opCode = efiMtftp4OpcodeData
  · have hbytes : packet.dataBytes = packet.packetLen.toNat - 4 := if_pos hdata
    have hsum : (c.downloadedNbOfBytes + .ofNat (packet.packetLen.toNat - 4)).toNat =
        m.counter + packet.dataBytes := by
      rw [UInt64.toNat_add, UInt64.toNat_ofNat', hcounts.downloaded, ← hbytes]
      omega
    have hlast := c.step_eq arch c.lastReportedNbOfBytes (by rw [hcounts.reported]; omega)
    have hstep := c.step_eq arch (c.downloadedNbOfBytes + .ofNat (packet.packetLen.toNat - 4))
      (by rw [hsum]; omega)
    rw [hcounts.reported] at hlast
    rw [hsum] at hstep
    have hfirst : sliders (if c.downloadedNbOfBytes = 0 then [.frame (0 < c.fileSize)] else []) =
        [] := by
      split <;> rfl
    unfold mtftp4CheckPacket Milestones.advance
    simp only [if_pos hdata, if_pos hknown, hlast, hstep]
    generalize c.downloadedNbOfBytes + .ofNat (packet.packetLen.toNat - 4) = downloaded at hsum
    split
    · exact ⟨⟨c.fileSize, downloaded, downloaded⟩, _, _, rfl, hfirst, ⟨hsum, hsum⟩, rfl⟩
    · exact ⟨⟨c.fileSize, downloaded, c.lastReportedNbOfBytes⟩, _, [], rfl, hfirst,
        ⟨hsum, hcounts.reported⟩, rfl⟩
  · have hnone : packet.dataBytes = 0 := if_neg hdata
    have hstay : ¬ sliderLevel c.fileSize.toNat m.reached <
        sliderLevel c.fileSize.toNat m.counter :=
      fun hlt => hlt.ne hcurrent
    unfold mtftp4CheckPacket Milestones.advance
    rw [if_neg hdata, hnone, Nat.add_zero, if_neg hstay]
    exact ⟨c, [], [], rfl, rfl, hcounts, rfl⟩

lemma mtftp4CheckPackets_none
    (h : mtftp4CheckPacket arch percent7d progress packet c = none) :
    mtftp4CheckPackets arch percent7d ((progress, packet) :: packets) c = none := by
  rw [mtftp4CheckPackets, h]
  rfl

lemma mtftp4CheckPackets_some {c' : TftpContext} {output : List ScreenOutput}
    (h : mtftp4CheckPacket arch percent7d progress packet c = some (c', output)) :
    mtftp4CheckPackets arch percent7d ((progress, packet) :: packets) c =
      (mtftp4CheckPackets arch percent7d packets c').map fun rest =>
        (rest.1, output ++ rest.2) := by
  rw [mtftp4CheckPackets, h, Option.bind_eq_bind, Option.bind_some]
  simp only
  cases mtftp4CheckPackets arch percent7d packets c' <;> rfl

/-- A download with a size leaves `Progress` at the first milestone that does not fit into it. -/
lemma mtftp4CheckPackets_known (hknown : 0 < c.fileSize)
    (hsize : c.fileSize.toNat ≤ maxTftpFileSize) (hcounts : c.Counts m)
    (hcurrent : m.Current (sliderLevel c.fileSize.toNat))
    (hbelow : sliderLevel c.fileSize.toNat m.counter < tftpProgressMessageSize) :
    mtftp4CheckPackets arch percent7d packets c = none ↔
      ∃ step ∈ (m.play (sliderLevel c.fileSize.toNat) (packets.map (·.2.dataBytes))).2,
        tftpProgressMessageSize ≤ step := by
  induction packets generalizing c m with
  | nil => exact iff_of_false (Option.some_ne_none _) (by simp [Milestones.play])
  | cons head packets ih =>
      obtain ⟨progress, packet⟩ := head
      obtain ⟨c', first, number, hfile, -, hcounts', hcall⟩ :=
        mtftp4CheckPacket_known arch percent7d progress packet hknown hsize hcounts hcurrent hbelow
      obtain ⟨hcurrent', hreport⟩ :=
        hcurrent.advance (monotone_sliderLevel c.fileSize.toNat) (n := packet.dataBytes)
      have hrest : sliderLevel c.fileSize.toNat (m.counter + packet.dataBytes) <
          tftpProgressMessageSize → (mtftp4CheckPackets arch percent7d packets c' = none ↔ _) :=
        fun hlt => ih (hfile ▸ hknown) (hfile ▸ hsize) hcounts' (hfile ▸ hcurrent')
          (by rw [hfile, Milestones.advance_counter]; exact hlt)
      rw [hfile] at hrest
      rw [List.map_cons, Milestones.play]
      split at hreport
      · rw [hreport, Option.elim_some] at hcall
        rw [hreport, Option.toList_some, List.singleton_append]
        cases hmessage : sliderMessage progress
            (sliderLevel c.fileSize.toNat (m.counter + packet.dataBytes)) number with
        | none =>
            rw [hmessage] at hcall
            exact iff_of_true (mtftp4CheckPackets_none hcall)
              ⟨_, List.mem_cons_self, sliderMessage_eq_none.mp hmessage⟩
        | some message =>
            rw [hmessage, Option.map_some] at hcall
            have hin : ¬ tftpProgressMessageSize ≤ sliderLevel c.fileSize.toNat
                (m.counter + packet.dataBytes) := fun hout => by
              rw [sliderMessage_eq_none.mpr hout] at hmessage
              cases hmessage
            rw [mtftp4CheckPackets_some hcall, Option.map_eq_none_iff, hrest (Nat.not_le.mp hin)]
            simp [hin]
      · rw [hreport.1, Option.elim_none] at hcall
        rw [mtftp4CheckPackets_some hcall, Option.map_eq_none_iff, hrest (hreport.2 ▸ hbelow),
          hreport.1, Option.toList_none, List.nil_append]

/-- The sliders that are drawn in `Progress` are those of the milestones. -/
lemma mtftp4CheckPackets_drawn (arch : Arch) (percent7d : UInt64 → List UInt16)
    (hknown : 0 < c.fileSize)
    (hsize : c.fileSize.toNat ≤ maxTftpFileSize) (hcounts : c.Counts m)
    (hcurrent : m.Current (sliderLevel c.fileSize.toNat))
    (hinside : sliderLevel c.fileSize.toNat
      (m.counter + (packets.map (·.2.dataBytes)).sum) ≤ tftpProgressSliderSteps) :
    ∃ c' output, mtftp4CheckPackets arch percent7d packets c = some (c', output) ∧
      sliders output = (m.play (sliderLevel c.fileSize.toNat)
        (packets.map (·.2.dataBytes))).2.map slider := by
  induction packets generalizing c m with
  | nil => exact ⟨c, [], rfl, rfl⟩
  | cons head packets ih =>
      obtain ⟨progress, packet⟩ := head
      have hmono := monotone_sliderLevel c.fileSize.toNat
      rw [List.map_cons, List.sum_cons, ← Nat.add_assoc] at hinside
      have hnext : sliderLevel c.fileSize.toNat (m.counter + packet.dataBytes) ≤
          tftpProgressSliderSteps :=
        Nat.le_trans (hmono (Nat.le_add_right _ _)) hinside
      have hhere : sliderLevel c.fileSize.toNat m.counter ≤ tftpProgressSliderSteps :=
        Nat.le_trans (hmono (Nat.le_add_right _ _)) hnext
      have hbelow : sliderLevel c.fileSize.toNat m.counter < tftpProgressMessageSize := by
        rw [tftpProgressSliderSteps_eq] at hhere
        rw [tftpProgressMessageSize_eq]
        omega
      obtain ⟨c', first, number, hfile, hfirst, hcounts', hcall⟩ :=
        mtftp4CheckPacket_known arch percent7d progress packet hknown hsize hcounts hcurrent hbelow
      obtain ⟨hcurrent', hreport⟩ := hcurrent.advance hmono (n := packet.dataBytes)
      obtain ⟨c'', output, hrest, hsliders⟩ := ih (hfile ▸ hknown) (hfile ▸ hsize) hcounts'
        (hfile ▸ hcurrent') (by rw [hfile, Milestones.advance_counter]; exact hinside)
      rw [hfile] at hsliders
      rw [List.map_cons, Milestones.play]
      split at hreport
      · next hlt =>
        rw [hreport, Option.elim_some] at hcall
        obtain ⟨message, hmessage, htake⟩ :=
          sliderMessage_slider progress number (Nat.zero_lt_of_lt hlt) hnext
        rw [hmessage, Option.map_some] at hcall
        refine ⟨c'', _, (mtftp4CheckPackets_some hcall).trans (congrArg (Option.map _) hrest), ?_⟩
        simp only [sliders, List.filterMap_append] at hfirst hsliders ⊢
        simp [hfirst, hsliders, hreport, htake]
      · rw [hreport.1, Option.elim_none] at hcall
        refine ⟨c'', _, (mtftp4CheckPackets_some hcall).trans (congrArg (Option.map _) hrest), ?_⟩
        simp only [sliders, List.filterMap_append] at hfirst hsliders ⊢
        simp [hfirst, hsliders, hreport.1]

/-- A download without a size never leaves `Progress`. -/
lemma mtftp4CheckPackets_unknown (hunknown : c.fileSize = 0) :
    mtftp4CheckPackets arch percent7d packets c ≠ none := by
  induction packets generalizing c with
  | nil => exact Option.some_ne_none _
  | cons head packets ih =>
      obtain ⟨progress, packet⟩ := head
      obtain ⟨c', output, hcall, hsame⟩ : ∃ c' output,
          mtftp4CheckPacket arch percent7d progress packet c = some (c', output) ∧
            c'.fileSize = 0 := by
        unfold mtftp4CheckPacket
        have hzero : ¬ 0 < c.fileSize := by simp [hunknown]
        dsimp only
        rw [if_neg hzero]
        split
        · split <;> exact ⟨_, _, rfl, hunknown⟩
        · exact ⟨_, _, rfl, hunknown⟩
      rw [mtftp4CheckPackets_some hcall]
      exact fun hnone => ih hsame (Option.map_eq_none_iff.mp hnone)

lemma TftpContext.fresh_counts : (TftpContext.fresh fileSize).Counts ⟨0, 0⟩ := ⟨rfl, rfl⟩

/-- `Progress` is left by the downloads that come to eleven eighths of the reported size. -/
theorem mtftp4CheckPackets_overflows_iff (hsize : fileSize.toNat ≤ maxTftpFileSize) :
    mtftp4CheckPackets arch percent7d packets (.fresh fileSize) = none ↔
      0 < fileSize ∧ 11 * fileSize.toNat ≤ 8 * dataBytes packets := by
  by_cases hknown : 0 < fileSize
  · have hpos : 0 < fileSize.toNat := by simpa [UInt64.lt_iff_toNat_lt] using hknown
    have hzero : sliderLevel fileSize.toNat 0 = 0 := by simp [sliderLevel]
    have hcurrent : (⟨0, 0⟩ : Milestones).Current (sliderLevel fileSize.toNat) := rfl
    have hbelow : sliderLevel fileSize.toNat 0 < tftpProgressMessageSize := by
      rw [hzero, tftpProgressMessageSize_eq]
      omega
    refine (mtftp4CheckPackets_known (c := .fresh fileSize) hknown hsize TftpContext.fresh_counts
      hcurrent hbelow).trans ?_
    refine (Milestones.exists_le_play hcurrent (monotone_sliderLevel _) _ hbelow).trans ?_
    rw [le_sliderLevel_iff hpos, tftpProgressMessageSize_eq, Nat.zero_add]
    change _ ≤ dataBytes packets * 40 ↔ _
    simp only [hknown, true_and]
    omega
  · have hunknown : fileSize = 0 := by simpa using hknown
    exact iff_of_false (mtftp4CheckPackets_unknown hunknown) fun h => hknown h.1

/-- `Progress`, all zero. -/
def zeroProgress : MessageBuffer :=
  ⟨List.replicate tftpProgressMessageSize 0, List.length_replicate⟩

/-- A packet with twenty-two bytes of a file. -/
def twentyTwoBytes : TftpPacket := ⟨efiMtftp4OpcodeData, 26, fun _ => by decide⟩

/-- A file of twenty-two bytes, with sixteen reported. -/
theorem mtftp4CheckPackets_overflows_twentyTwo :
    mtftp4CheckPackets .aarch64 (fun _ => []) [(zeroProgress, twentyTwoBytes)] (.fresh 16) =
      none :=
  (mtftp4CheckPackets_overflows_iff (by decide)).mpr ⟨by decide, by decide⟩

/-- Of a download that has the reported size there are at most forty sliders, each further than the
one before, and the last one at the step of what has been downloaded. -/
theorem mtftp4CheckPackets_sliders (hknown : 0 < fileSize)
    (hsize : fileSize.toNat ≤ maxTftpFileSize) (hall : dataBytes packets ≤ fileSize.toNat) :
    ∃ c output steps, mtftp4CheckPackets arch percent7d packets (.fresh fileSize) =
        some (c, output) ∧ sliders output = steps.map slider ∧
      (0 :: steps).Pairwise (· < ·) ∧
      (0 :: steps).getLast (List.cons_ne_nil _ _) = dataBytes packets * 40 / fileSize.toNat ∧
      steps.length ≤ 40 := by
  have hpos : 0 < fileSize.toNat := by simpa [UInt64.lt_iff_toNat_lt] using hknown
  have hmono := monotone_sliderLevel fileSize.toNat
  have hcurrent : (⟨0, 0⟩ : Milestones).Current (sliderLevel fileSize.toNat) := rfl
  have hzero : sliderLevel fileSize.toNat 0 = 0 := by simp [sliderLevel]
  have hinside : sliderLevel fileSize.toNat (0 + (packets.map (·.2.dataBytes)).sum) ≤
      tftpProgressSliderSteps := by
    rw [Nat.zero_add, sliderLevel]
    exact Nat.div_le_of_le_mul (Nat.mul_le_mul_right _ hall)
  obtain ⟨c, output, hrun, hsliders⟩ := mtftp4CheckPackets_drawn arch percent7d
    (c := .fresh fileSize) hknown hsize TftpContext.fresh_counts hcurrent hinside
  have hpairwise := Milestones.pairwise_play hcurrent hmono (packets.map (·.2.dataBytes))
  have hlast := Milestones.getLast_play hcurrent hmono (packets.map (·.2.dataBytes))
  have hlength := Milestones.length_play_le hcurrent hmono (packets.map (·.2.dataBytes))
  simp only [hzero, Nat.zero_add] at hpairwise hlast hlength hinside
  refine ⟨c, output, _, hrun, hsliders, hpairwise, hlast.trans ?_, hlength.trans ?_⟩
  · rw [sliderLevel, tftpProgressSliderSteps_eq]
    rfl
  · rw [← tftpProgressSliderSteps_eq]
    exact hinside

/-- The same file, with forty-four bytes reported. -/
theorem mtftp4CheckPackets_sliders_twentyTwo :
    ∃ c output steps, mtftp4CheckPackets .aarch64 (fun _ => []) [(zeroProgress, twentyTwoBytes)]
        (.fresh 44) = some (c, output) ∧ sliders output = steps.map slider ∧
      (0 :: steps).Pairwise (· < ·) ∧
      (0 :: steps).getLast (List.cons_ne_nil _ _) =
        dataBytes [(zeroProgress, twentyTwoBytes)] * 40 / (44 : UInt64).toNat ∧
      steps.length ≤ 40 :=
  mtftp4CheckPackets_sliders (by decide) (by decide) (by decide)

end Download

end BdsLib
end MuPlatform
