import MuPlatform.Base.Access
import MuPlatform.SdMmc.TransferLimits

/-!
# What an RPMB request transfers

The data phases of the packets read the client's memory, or write it.  A call accesses nothing of
that memory but the packets it is given (`rpmbIo_inside`), whatever the card does and through
every recovery, and a call that succeeds has transferred all of them (`rpmbIo_transfers`).
-/

namespace MuPlatform
namespace SdMmc

open Prog

variable {H B : Type}

/-- What an event accesses of the caller's memory: a transfer to the card reads it. -/
def Event.accesses : Event → List Access
  | .data .read size (.caller address) _ => [.write ⟨address, size⟩]
  | .data .write size (.caller address) _ => [.read ⟨address, size⟩]
  | _ => []

/-- What has been accessed of the caller's memory. -/
def accesses (t : List Event) : List Access := t.flatMap Event.accesses

lemma accesses_append (t t' : List Event) : accesses (t ++ t') = accesses t ++ accesses t' :=
  List.flatMap_append

lemma mem_accesses {t : List Event} {e : Event} {a : Access} (he : e ∈ t) (ha : a ∈ e.accesses) :
    a ∈ accesses t :=
  List.mem_flatMap.mpr ⟨e, he, ha⟩

/-- The packets, as a span. -/
def RpmbDataBuffer.span (buffer : RpmbDataBuffer) : Span :=
  ⟨buffer.packets, buffer.packetCount * rpmbPacketSize⟩

/-! ## Nothing else is touched -/

/-- Between the two worlds nothing is accessed of the caller's memory outside of the spans. -/
structure Touches (_ : SdhcHost H) (_ : BootServices B) (reads writes : Span) (w w' : World H B) :
    Prop where
  trace : ∃ t, w'.trace = w.trace ++ t ∧ ∀ a ∈ accesses t, a.Inside reads writes
  memory : ∀ x, ¬ writes.Has x → w'.callerMemory x = w.callerMemory x

section Touches

variable {host : SdhcHost H} {boot : BootServices B} {reads writes : Span} {w w' w'' : World H B}

lemma Touches.same (ht : w'.trace = w.trace) (hm : w'.callerMemory = w.callerMemory) :
    Touches host boot reads writes w w' :=
  ⟨⟨[], by rw [ht, List.append_nil], fun a ha => absurd ha List.not_mem_nil⟩, fun x _ => by rw [hm]⟩

lemma Touches.trans (h : Touches host boot reads writes w w')
    (h' : Touches host boot reads writes w' w'') : Touches host boot reads writes w w'' := by
  obtain ⟨t, ht, hinside⟩ := h.trace
  obtain ⟨t', ht', hinside'⟩ := h'.trace
  refine ⟨⟨t ++ t', by rw [ht', ht, List.append_assoc], fun a ha => ?_⟩,
    fun x hx => (h'.memory x hx).trans (h.memory x hx)⟩
  rw [accesses_append] at ha
  exact (List.mem_append.mp ha).elim (hinside a) (hinside' a)

/-- One more event. -/
lemma Touches.concat {e : Event} (he : ∀ a ∈ e.accesses, a.Inside reads writes)
    (ht : w'.trace = w.trace ++ [e])
    (hm : ∀ x, ¬ writes.Has x → w'.callerMemory x = w.callerMemory x) :
    Touches host boot reads writes w w' := by
  refine ⟨⟨[e], ht, fun a ha => ?_⟩, hm⟩
  have hmem : a ∈ e.accesses := by simpa [accesses] using ha
  exact he a hmem

/-- An event without data. -/
lemma Touches.quiet {e : Event} (he : e.accesses = []) (ht : w'.trace = w.trace ++ [e])
    (hm : w'.callerMemory = w.callerMemory) : Touches host boot reads writes w w' :=
  .concat (fun a ha => by rw [he] at ha; exact absurd ha List.not_mem_nil) ht fun x _ => by rw [hm]

/-- A command touches nothing; it may start a transfer. -/
lemma touches_command (cmd : SdCommand) (arg : BitVec 32) (xfrInfo : Option SdCommandXfrInfo)
    (w : World H B) : Touches host boot reads writes w (afterCommand host cmd arg xfrInfo w).2 := by
  have hnone : ∀ ok, accesses (helperEvents host cmd arg xfrInfo w ok) = [] := by
    intro ok
    unfold helperEvents
    split
    · split
      · rfl
      · rfl
    · rfl
  refine ⟨⟨_, rfl, fun a ha => ?_⟩, fun x _ => rfl⟩
  rw [hnone] at ha
  exact absurd ha List.not_mem_nil

instance : BusSteps host (Touches host boot reads writes) where
  stay _ := .same rfl rfl
  command _ _ := touches_command _ _ _
  hostCall _ _ := .same rfl rfl
  lineReset _ type ok := .quiet (e := .lineReset type ok) rfl rfl rfl

/-- The transfer of a buffer stays inside the spans. -/
def Buffer.Stays (reads writes : Span) (cmd : SdCommand) (size : ℕ) : Buffer → Prop
  | .caller address =>
      if cmd.transferDirection = .read then (⟨address, size⟩ : Span).Within writes
      else (⟨address, size⟩ : Span).Within reads
  | _ => True

lemma transferData_touches {cmd : SdCommand} {size : ℕ} {buffer : Buffer}
    (h : buffer.Stays reads writes cmd size) : StepProg (Touches host boot reads writes) fun _ =>
      transferData host cmd size buffer := by
  unfold transferData
  by_cases hread : cmd.transferDirection = .read
  · rw [if_pos hread]
    refine .step fun w => ?_
    cases buffer with
    | blockBuffer => exact .quiet (e := .data .read size .blockBuffer _) rfl rfl rfl
    | resultRequest => exact .quiet (e := .data .read size .resultRequest _) rfl rfl rfl
    | caller address =>
        have hwithin : (⟨address, size⟩ : Span).Within writes := by
          simpa only [Buffer.Stays, hread, if_true] using h
        refine .concat (e := .data .read size (.caller address) _) (fun a ha => ?_) rfl
          fun x hx => if_neg fun hspan => hx (hwithin.has hspan)
        obtain rfl := List.mem_singleton.mp ha
        exact Access.inside_write hwithin
  · rw [if_neg hread]
    refine .step fun w => ?_
    cases buffer with
    | blockBuffer => exact .quiet (e := .data .write size .blockBuffer _) rfl rfl rfl
    | resultRequest => exact .quiet (e := .data .write size .resultRequest _) rfl rfl rfl
    | caller address =>
        have hwithin : (⟨address, size⟩ : Span).Within reads := by
          simpa only [Buffer.Stays, hread, if_false] using h
        refine .concat (e := .data .write size (.caller address) _) (fun a ha => ?_) rfl
          fun x _ => rfl
        obtain rfl := List.mem_singleton.mp ha
        exact Access.inside_read hwithin

lemma sendDataCommand_touches {cmd : SdCommand} {arg : BitVec 32} {size : ℕ} {buffer : Buffer}
    (h : buffer.Stays reads writes cmd size) :
    StepProg (Touches host boot reads writes) fun recover =>
      sdhcSendDataCommand host recover cmd arg size buffer := by
  unfold sdhcSendDataCommand
  refine .bind ?_ fun status => .ite (.bind (.call cmd) fun _ => .pure status) (.pure status)
  exact .orReturn (.step fun w => touches_command cmd arg _ w) (.orReturn (transferData_touches h)
    (.orReturn (stopOpenEnded_steps (fun w => .quiet (e := .nullCommand) rfl rfl rfl) cmd)
      wait_steps))

instance : DriverSteps host boot (Touches host boot reads writes) where
  card _ _ _ := .same rfl rfl
  extCsd w := .quiet (e := .extCsd (w.inst.blockBuffer 179)) rfl rfl rfl
  extCsdData _ := sendDataCommand_touches trivial
  partition _ _ := .same rfl rfl
  initialized _ := .same rfl rfl
  cleared _ := .same rfl rfl
  mediaPresent _ _ := .same rfl rfl
  readOnly _ _ := .same rfl rfl
  install w p := .quiet
    (e := .install p !(boot.installProtocol (w.published p) w.boot).1.isError) rfl rfl rfl
  uninstall w p := .quiet
    (e := .uninstall p !(boot.uninstallProtocol (w.published p) w.boot).1.isError) rfl rfl rfl
  convert _ := .same rfl rfl
  softReset _ := .quiet (e := .softReset) rfl rfl rfl

/-- The recoveries are built from the same steps. -/
lemma recovery_touches (w : World H B) (cmd : SdCommand) :
    Preserves (Touches host boot reads writes w) (recovery host boot cmd) := by
  have hstep : ∀ u u' : World H B, Touches host boot reads writes u u' →
      Touches host boot reads writes w u → Touches host boot reads writes w u' :=
    fun u u' h hw => hw.trans h
  refine sdhcRecoverFromErrors_preserves hstep
    (fun cmd u h => h.trans (.quiet (e := .recovery cmd) rfl rfl rfl))
    (fun u h => h.trans (.same rfl rfl)) (fun n hrec => ?_) _ cmd
  exact softReset_built.preserves hstep hrec

/-- A program of such steps touches nothing else. -/
lemma touches_of_steps {α : Type}
    {f : (SdCommand → Prog (World H B) EfiStatus) → Prog (World H B) α}
    (hf : StepProg (Touches host boot reads writes) f) {a : α}
    (hrun : f (recovery host boot) w = some (a, w')) : Touches host boot reads writes w w' :=
  hf.preserves (fun _ _ h hw => hw.trans h) (recovery_touches w) w (.same rfl rfl) a w' hrun

/-! ### The packets -/

lemma rpmbTransferSize_le (count : ℕ) : rpmbTransferSize count ≤ count * rpmbPacketSize :=
  Nat.mod_le _ _

/-- A transfer is no longer than its packets. -/
lemma RpmbDataBuffer.transfer_within (buffer : RpmbDataBuffer) :
    (⟨buffer.packets, rpmbTransferSize buffer.packetCount⟩ : Span).Within buffer.span :=
  ⟨le_rfl, Nat.add_le_add_left (rpmbTransferSize_le _) _⟩

/-- The first packet. -/
lemma RpmbDataBuffer.first_within {buffer : RpmbDataBuffer} (h : buffer.packetCount ≠ 0) :
    (RpmbDataBuffer.span ⟨buffer.packets, 1⟩).Within buffer.span :=
  ⟨le_rfl, Nat.add_le_add_left (Nat.mul_le_mul_right _ (Nat.one_le_iff_ne_zero.mpr h)) _⟩

lemma RpmbDataBuffer.packet_stays {buffer : RpmbDataBuffer} (h : buffer.packetCount ≠ 0)
    (writes : Span) : (Buffer.caller buffer.packets).Stays buffer.span writes cmdWriteMultiBlock
      rpmbPacketSize := by
  have hfirst := RpmbDataBuffer.first_within h
  unfold RpmbDataBuffer.span at hfirst
  rwa [Nat.one_mul] at hfirst

lemma setBlockCount_touches (count : BitVec 32) (reliable : Bool) :
    StepProg (Touches host boot reads writes) fun recover =>
      sdhcSetBlockCount host recover count reliable :=
  sendCommand_of_step fun w => touches_command _ _ none w

lemma rpmbWrite_touches {request : RpmbDataBuffer} (h : request.span.Within reads) :
    StepProg (Touches host boot reads writes) fun recover => rpmbWrite host recover request := by
  have hstays : (Buffer.caller request.packets).Stays reads writes cmdWriteMultiBlock
      (rpmbTransferSize request.packetCount) := request.transfer_within.trans h
  unfold rpmbWrite
  exact .orReturn (setBlockCount_touches _ _)
    (.orReturn (sendDataCommand_touches hstays) (.pure _))

lemma rpmbRead_touches {request : Buffer} {response : RpmbDataBuffer}
    (hrequest : request.Stays reads writes cmdWriteMultiBlock rpmbPacketSize)
    (hresponse : response.span.Within writes) :
    StepProg (Touches host boot reads writes) fun recover =>
      rpmbRead host recover request response := by
  have hstays : (Buffer.caller response.packets).Stays reads writes cmdReadMultiBlock
      (rpmbTransferSize response.packetCount) := response.transfer_within.trans hresponse
  unfold rpmbRead
  exact .orReturn (setBlockCount_touches _ _) (.orReturn (sendDataCommand_touches hrequest)
    (.orReturn (setBlockCount_touches _ _) (.orReturn (sendDataCommand_touches hstays) (.pure _))))

/-- Whatever type the request turns out to be of. -/
lemma rpmbDispatch_touches (type : Option RpmbRequestType) {request response : RpmbDataBuffer}
    (hrequest : request.packetCount ≠ 0) (hresponse : response.packetCount ≠ 0) :
    StepProg (Touches host boot request.span response.span) fun recover =>
      rpmbDispatch host recover type request response := by
  have hfirst := RpmbDataBuffer.first_within hrequest
  have hpacket := RpmbDataBuffer.packet_stays hrequest response.span
  have hresult := RpmbDataBuffer.first_within hresponse
  unfold rpmbDispatch
  match type with
  | some .programKey =>
      exact .orReturn (rpmbWrite_touches hfirst)
        (.orReturn (rpmbRead_touches trivial hresult) (.pure _))
  | some .counterValue => exact rpmbRead_touches hpacket hresult
  | some .authRead => exact rpmbRead_touches hpacket ⟨le_rfl, le_rfl⟩
  | some .authWrite =>
      exact .orReturn (rpmbWrite_touches ⟨le_rfl, le_rfl⟩)
        (.orReturn (rpmbRead_touches trivial hresult) (.pure _))
  | none => exact .pure _

lemma switchPartition_touches (partition : PartitionAccess) :
    StepProg (Touches host boot reads writes) fun recover =>
      sdhcSwitchPartitionMmc host recover partition := by
  unfold sdhcSwitchPartitionMmc switchAndVerifyPartition
  refine .orReturn (.bind (inspect_steps _) fun config => .orReturn ?_ (.orReturn
    sdhcSendExtCsdMmc_built (.orReturn (check_steps _ _ _ _) (.pure _)))) ?_
  · exact sendCommand_of_step fun w => touches_command _ _ none w
  · exact .bind (.modify fun w => DriverSteps.partition w partition) fun _ => .pure _

lemma rpmbRequest_touches {request response : RpmbDataBuffer}
    (hrequest : request.packetCount ≠ 0) (hresponse : response.packetCount ≠ 0) :
    StepProg (Touches host boot request.span response.span) fun recover =>
      rpmbRequest host recover request response := by
  unfold rpmbRequest
  refine .bind (inspect_steps _) fun current => .orReturn (switchPartition_touches _) ?_
  refine .bind (.read fun w => .same rfl rfl) fun type => ?_
  refine .bind (rpmbDispatch_touches type hrequest hresponse) fun status => ?_
  exact .bind (switchPartition_touches _) fun switchStatus => .ite (.pure _) (.pure _)

/-- A call that is not valid is refused at once. -/
lemma rpmbIo_refused {recover : SdCommand → Prog (World H B) EfiStatus} {call : RpmbCall}
    (h : ¬ call.Valid w) : rpmbIo host recover call w = some (.invalidParameter, w) := by
  unfold rpmbIo
  rw [bind_of_eq_some (show Prog.read (fun w => decide (call.Valid w)) w = some (false, w) by
    simp [h]), if_neg Bool.false_ne_true]
  rfl

/-- A call of the protocol touches nothing but its packets. -/
theorem rpmbIo_touches {call : RpmbCall} {status : EfiStatus}
    (hrun : rpmbIo host (recovery host boot) call w = some (status, w')) :
    Touches host boot call.request.span call.response.span w w' := by
  by_cases hvalid : call.Valid w
  · have hsteps : StepProg (Touches host boot call.request.span call.response.span)
        fun recover => rpmbIo host recover call := by
      unfold rpmbIo
      exact .bind (.read fun w => .same rfl rfl) fun valid =>
        .ite (rpmbRequest_touches hvalid.2.2.1 hvalid.2.2.2.1) (.pure _)
    exact touches_of_steps hsteps hrun
  · rw [rpmbIo_refused hvalid] at hrun
    obtain ⟨-, rfl⟩ : _ ∧ w = w' := by simpa using hrun
    exact .same rfl rfl

end Touches

/-! ## The accesses of a call -/

instance (call : RpmbCall) : Decidable call.HasPackets := inferInstanceAs (Decidable (_ ∧ _))

/-- What a call accesses that adds `t` to the trace: the type of the request, which the function of
the protocol and `RpmbRequest` look at, and the packets. -/
def RpmbCall.accesses (call : RpmbCall) (t : List Event) : List Access :=
  (if call.HasPackets then [.read ⟨call.request.packets + 510, 2⟩] else []) ++ SdMmc.accesses t

section Inside

variable {host : SdhcHost H} {boot : BootServices B} {call : RpmbCall} {status : EfiStatus}
  {w w' : World H B} {t : List Event}

/-- A call accesses nothing outside of its packets. -/
theorem rpmbIo_inside (hrun : rpmbIo host (recovery host boot) call w = some (status, w'))
    (ht : w'.trace = w.trace ++ t) :
    ∀ a ∈ call.accesses t, a.Inside call.request.span call.response.span := by
  obtain ⟨t', ht', hinside⟩ := (rpmbIo_touches hrun).trace
  obtain rfl : t = t' := List.append_cancel_left (ht.symm.trans ht')
  intro a ha
  rcases List.mem_append.mp ha with htype | hdata
  · by_cases hpackets : call.HasPackets
    · rw [if_pos hpackets] at htype
      obtain rfl := List.mem_singleton.mp htype
      have hfirst := RpmbDataBuffer.first_within hpackets.2.2.1
      refine Access.inside_read (Span.Within.trans ?_ hfirst)
      simp only [Span.Within, RpmbDataBuffer.span, rpmbPacketSize]
      omega
    · rw [if_neg hpackets] at htype
      exact absurd htype List.not_mem_nil
  · exact hinside a hdata

/-- A call without packets accesses nothing. -/
lemma RpmbCall.accesses_refused (h : ¬ call.HasPackets) : call.accesses [] = [] := by
  rw [RpmbCall.accesses, if_neg h]
  rfl

lemma RpmbCall.Valid.hasPackets (h : call.Valid w) : call.HasPackets :=
  ⟨h.1, h.2.1, h.2.2.1, h.2.2.2.1⟩

end Inside

/-! ## All the packets are transferred -/

section Transfers

lemma accesses_writeEvents (arg : BitVec 32) (size packets : ℕ) :
    accesses (writeEvents arg size (.caller packets)) = [.read ⟨packets, size⟩] := rfl

lemma accesses_readEvents (arg : BitVec 32) (size packets : ℕ) :
    accesses (readEvents arg size (.caller packets)) = [.write ⟨packets, size⟩] := rfl

lemma accesses_resultRequest (arg : BitVec 32) (size : ℕ) :
    accesses (writeEvents arg size .resultRequest) = [] := rfl

/-- The packets a call sends are those of its request, and what it reads those of its response. -/
lemma accesses_sentPackets {call : RpmbCall} (h : call.PacketsFit) :
    accesses (sentPackets call.type call.request call.response) =
      [.read call.request.span, .write call.response.span] := by
  rw [(sentPackets_eq_iff call).mpr h]
  cases call <;>
    simp [jedecPackets, accesses_append, accesses_writeEvents, accesses_readEvents,
      accesses_resultRequest, RpmbCall.request, RpmbCall.response, RpmbDataBuffer.span]

/-- A call that succeeds has read all of its request and written all of its response. -/
theorem rpmbIo_transfers {host : SdhcHost H} {boot : BootServices B} {call : RpmbCall}
    {w w' : World H B} {t : List Event} (hfit : call.PacketsFit)
    (hrun : rpmbIo host (recovery host boot) call w = some (.success, w'))
    (ht : w'.trace = w.trace ++ t) :
    .read call.request.span ∈ call.accesses t ∧ .write call.response.span ∈ call.accesses t := by
  obtain ⟨-, arg, reported, arg', reported', hvisible⟩ := rpmbIo_success hrun
  rw [ht, visible_append] at hvisible
  have hsent (a : Access)
      (ha : a ∈ accesses (sentPackets call.type call.request call.response)) : a ∈ accesses t := by
    obtain ⟨e, he, hae⟩ := List.mem_flatMap.mp ha
    have hmem : e ∈ visible t := by
      rw [List.append_cancel_left hvisible]
      simp [he]
    exact mem_accesses (List.mem_of_mem_filter hmem) hae
  rw [accesses_sentPackets hfit] at hsent
  exact ⟨List.mem_append_right _ (hsent _ (by simp)), List.mem_append_right _ (hsent _ (by simp))⟩

end Transfers

end SdMmc
end MuPlatform
