import MuPlatform.Optee.Rpc
import MuPlatform.SdMmc.RpmbTransfers

/-!
# The buffers of an RPMB request

`OpteeRpcCmdRpmb` with the protocol of the SD/MMC driver behind it.  The secure world passes a
request in one buffer and takes the response in another, each with its size; the handler and the
driver go by the counts in the request, and look at neither size.

`rpmbAccesses` is what the two of them access.  `rpmbStaysInside_iff` says for which messages that
lies in the buffers, whatever the card does: the ones that fit already.
-/

namespace MuPlatform
namespace Optee

open SdMmc (World SdhcHost BootServices RpmbCall RpmbDataBuffer rpmbIo recovery rpmbPacketSize)

variable {H B : Type}

/-! ## The driver behind the protocol -/

/-- A call of the driver on the client's memory: its status, and the world after it. -/
def driverCall (host : SdhcHost H) (boot : BootServices B) (w : World H B) (call : RpmbCall)
    (mem : ByteStore) : EfiStatus × World H B :=
  (rpmbIo host (recovery host boot) call { w with callerMemory := mem }).getD (.deviceError, w)

/-- What the caller has of it. -/
def driverIo (host : SdhcHost H) (boot : BootServices B) (w : World H B) (call : RpmbCall)
    (mem : ByteStore) : EfiStatus × ByteStore :=
  match driverCall host boot w call mem with
  | (status, w') => (status, w'.callerMemory)

/-- `HostInst->RpmbIo`. -/
def driverRpmbIo (host : SdhcHost H) (boot : BootServices B) (w : World H B) : RpmbIo where
  cid := (List.finRange 4).flatMap fun i => ByteStore.leBytes 4 (w.inst.rpmbCid i).toNat
  reliableSectorCount := w.inst.reliableSectorCount
  rpmbSizeMult := w.inst.rpmbSizeMult
  programKey request response := driverIo host boot w (.programKey request response)
  readCounter request response := driverIo host boot w (.readCounter request response)
  authenticatedWrite packets packetCount response :=
    driverIo host boot w (.authenticatedWrite ⟨packets, packetCount⟩ response)
  authenticatedRead request packets packetCount :=
    driverIo host boot w (.authenticatedRead request ⟨packets, packetCount⟩)

/-- Firmware with the driver. -/
def driverEnv (env : RpcEnv) (host : SdhcHost H) (boot : BootServices B) (w : World H B) :
    RpcEnv :=
  { env with rpmbIo := driverRpmbIo host boot w }

section Driver

variable {host : SdhcHost H} {boot : BootServices B} {w : World H B} {call : RpmbCall}
  {mem : ByteStore}

/-- A call comes back. -/
lemma rpmbIo_driverCall : rpmbIo host (recovery host boot) call { w with callerMemory := mem } =
    some (driverCall host boot w call mem) := by
  have hbuilt : SdMmc.DriverProg host boot fun recover => rpmbIo host recover call :=
    (SdMmc.rpmbIo_built call).driver
  obtain ⟨status, w', hrun, -⟩ := hbuilt.returns { w with callerMemory := mem }
  rw [driverCall, hrun]
  rfl

lemma driverIo_fst : (driverIo host boot w call mem).1 = (driverCall host boot w call mem).1 := rfl

lemma driverIo_snd :
    (driverIo host boot w call mem).2 = (driverCall host boot w call mem).2.callerMemory := rfl

/-- What a call adds to the trace. -/
def driverTrace (host : SdhcHost H) (boot : BootServices B) (w : World H B) (call : RpmbCall)
    (mem : ByteStore) : List SdMmc.Event :=
  (driverCall host boot w call mem).2.trace.drop w.trace.length

lemma trace_driverCall : (driverCall host boot w call mem).2.trace =
    w.trace ++ driverTrace host boot w call mem := by
  obtain ⟨t, htrace, -⟩ :=
    (SdMmc.rpmbIo_touches (@rpmbIo_driverCall _ _ host boot w call mem)).trace
  have ht : (driverCall host boot w call mem).2.trace = w.trace ++ t := htrace
  rw [driverTrace, ht, List.drop_left]

/-- A call without packets is refused, and does nothing. -/
lemma driverCall_refused (h : ¬ call.HasPackets) :
    driverCall host boot w call mem = (.invalidParameter, { w with callerMemory := mem }) := by
  have hrefused := @SdMmc.rpmbIo_refused _ _ host { w with callerMemory := mem }
    (recovery host boot) call fun hvalid => h hvalid.hasPackets
  exact Option.some.inj (rpmbIo_driverCall.symm.trans hrefused)

end Driver

/-! ## The call of a request -/

/-- The call a data request at `request` makes of the protocol, with the response at `response`. -/
def requestCall (request response : ℕ) (mem : ByteStore) : Option RpmbCall :=
  let packets := request + 6
  match rpmbBytesToUint16 mem (packets + 510) with
  | 1 => some (.programKey packets response)
  | 2 => some (.readCounter packets response)
  | 3 => some (.authenticatedWrite ⟨packets, rpmbBytesToUint16 mem (packets + 506)⟩ response)
  | 4 => some (.authenticatedRead packets ⟨response, (mem.load16 (request + 4)).toNat⟩)
  | _ => none

section RequestCall

variable {env : RpcEnv} {host : SdhcHost H} {boot : BootServices B} {w : World H B}
  {request response : ℕ} {call : RpmbCall} {mem mem' : ByteStore}

/-- The handler makes that call. -/
lemma rpmbRequest_data (hcmd : mem.load16 request = 0) :
    rpmbRequest (driverEnv env host boot w) request response mem =
      (requestCall request response mem).elim (teecErrorBadParameters, mem) fun call =>
        rpmbResult (driverIo host boot w call mem) := by
  unfold rpmbRequest requestCall
  simp only [hcmd, if_true]
  generalize rpmbBytesToUint16 mem (request + 6 + 510) = type
  rcases type with - | - | - | - | - | type
  · rfl
  · rfl
  · rfl
  · rfl
  · rfl
  · rfl

/-- The packets follow the header, and the response is at the start of its buffer. -/
lemma requestCall_packets (h : requestCall request response mem = some call) :
    call.request.packets = request + 6 ∧ call.response.packets = response := by
  unfold requestCall at h
  simp only at h
  split at h <;> cases h <;> exact ⟨rfl, rfl⟩

lemma rpmbBytesToUint16_lt (mem : ByteStore) (p : ℕ) : rpmbBytesToUint16 mem p < 2 ^ 16 := by
  have hhi := (mem p).toNat_lt
  have hlo := (mem (p + 1)).toNat_lt
  unfold rpmbBytesToUint16
  omega

/-- The counts have sixteen bits, so no size is truncated. -/
lemma requestCall_packetsFit (h : requestCall request response mem = some call) :
    call.PacketsFit := by
  have hone : 1 * rpmbPacketSize < 2 ^ 32 := by decide
  have hfits : ∀ n < 2 ^ 16, n * rpmbPacketSize < 2 ^ 32 := fun n hn => by
    unfold rpmbPacketSize
    omega
  unfold requestCall at h
  simp only at h
  split at h
  · cases h
    exact ⟨hone, hone⟩
  · cases h
    exact ⟨hone, hone⟩
  · cases h
    exact ⟨hfits _ (rpmbBytesToUint16_lt _ _), hone⟩
  · cases h
    exact ⟨hone, hfits _ (UInt16.toNat_lt _)⟩
  · cases h

/-- The request is of the type of its call. -/
lemma requestCall_valid (h : requestCall request response mem = some call)
    (hpackets : call.HasPackets) (w : World H B) :
    call.Valid { w with callerMemory := mem } := by
  have htype : SdMmc.RpmbRequestType.ofCode (rpmbBytesToUint16 mem (request + 6 + 510)) =
      some call.type := by
    unfold requestCall at h
    simp only at h
    split at h <;> cases h <;> next hcode => rw [hcode]; rfl
  refine ⟨hpackets.1, hpackets.2.1, hpackets.2.2.1, hpackets.2.2.2, ?_⟩
  rw [(requestCall_packets h).1]
  exact htype

end RequestCall

/-! ## What a request accesses -/

/-- The count of a call: a write has it in its packet, a read in the header of the request. -/
def countAccesses (request : ℕ) : RpmbCall → List Access
  | .authenticatedWrite _ _ => [.read ⟨request + 512, 2⟩]
  | .authenticatedRead _ _ => [.read ⟨request + 4, 2⟩]
  | _ => []

section Accesses

variable (host : SdhcHost H) (boot : BootServices B) (w : World H B)

/-- `RPMB_CMD_DATA_REQ`: the type of the packet and the count, and what the driver accesses. -/
def dataAccesses (request response : ℕ) (mem : ByteStore) : List Access :=
  .read ⟨request + 516, 2⟩ :: (requestCall request response mem).elim [] fun call =>
    countAccesses request call ++ call.accesses (driverTrace host boot w call mem)

/-- `RPMB_CMD_GET_DEV_INFO`: the four fields of `rpmb_dev_info_t`, in the order of the source. -/
def devInfoAccesses (response : ℕ) : List Access :=
  [.write ⟨response, 16⟩, .write ⟨response + 17, 1⟩, .write ⟨response + 16, 1⟩,
    .write ⟨response + 18, 1⟩]

/-- A request at `request` with its response at `response`. -/
def requestAccesses (request response : ℕ) (mem : ByteStore) : List Access :=
  .read ⟨request, 2⟩ ::
    if mem.load16 request = 0 then dataAccesses host boot w request response mem
    else if mem.load16 request = 1 then devInfoAccesses response
    else []

end Accesses

/-- `MsgParam[i].u.tmem`. -/
def tmemSpan (msg : ℕ) (mem : ByteStore) (i : ℕ) : Span :=
  ⟨(mem.load64 (MsgParam.slot (msg + MsgArg.params) i + MsgParam.tmemBufPtr)).toNat,
    (mem.load64 (MsgParam.slot (msg + MsgArg.params) i + MsgParam.tmemSize)).toNat⟩

/-- The pointer the handler makes of its address. -/
def tmemPointer (arch : Arch) (msg : ℕ) (mem : ByteStore) (i : ℕ) : ℕ :=
  arch.uintn (tmemSpan msg mem i).lo

/-- The handler goes on to the request. -/
def RpmbAccepted (env : RpcEnv) (msg : ℕ) (mem : ByteStore) : Prop :=
  mem.load32 (msg + MsgArg.numParams) = 2 ∧
    paramAttrType msg mem 0 = opteeMsgAttrTypeTmemInput ∧
    paramAttrType msg mem 1 = opteeMsgAttrTypeTmemOutput ∧ env.locateRpmbIo.isError = false

instance (env : RpcEnv) (msg : ℕ) (mem : ByteStore) : Decidable (RpmbAccepted env msg mem) :=
  inferInstanceAs (Decidable (_ ∧ _))

/-- What `OpteeRpcCmdRpmb` and the calls it makes access of the two buffers. -/
def rpmbAccesses (host : SdhcHost H) (boot : BootServices B) (w : World H B) (arch : Arch)
    (env : RpcEnv) (msg : ℕ) (mem : ByteStore) : List Access :=
  if RpmbAccepted env msg mem then
    requestAccesses host boot w (tmemPointer arch msg mem 0) (tmemPointer arch msg mem 1) mem
  else []

section Accesses

variable {arch : Arch} {env : RpcEnv} {msg : ℕ} {host : SdhcHost H} {boot : BootServices B}
  {w : World H B} {request response : ℕ} {call : RpmbCall} {mem mem' : ByteStore}

/-- The call of a request depends on nothing but what the handler reads. -/
lemma requestCall_congr (hcmd : mem.load16 request = 0)
    (h : ∀ s, .read s ∈ requestAccesses host boot w request response mem →
      ∀ x, s.Has x → mem x = mem' x) :
    mem'.load16 request = 0 ∧
      requestCall request response mem' = requestCall request response mem := by
  have hdata : requestAccesses host boot w request response mem =
      .read ⟨request, 2⟩ :: dataAccesses host boot w request response mem := by
    rw [requestAccesses, if_pos hcmd]
  rw [hdata] at h
  have hword (p : ℕ) (hp : .read ⟨p, 2⟩ ∈ Access.read ⟨request, 2⟩ ::
      dataAccesses host boot w request response mem) :
      mem'.load16 p = mem.load16 p ∧ rpmbBytesToUint16 mem' p = rpmbBytesToUint16 mem p := by
    have hbyte (i : ℕ) (hi : i < 2) : mem' (p + i) = mem (p + i) :=
      (h _ hp _ ⟨Nat.le_add_right _ _, Nat.add_lt_add_left hi p⟩).symm
    refine ⟨ByteStore.load16_congr hbyte, ?_⟩
    rw [rpmbBytesToUint16, rpmbBytesToUint16, hbyte 1 (by omega), ← Nat.add_zero p,
      hbyte 0 (by omega)]
  refine ⟨(hword request List.mem_cons_self).1.trans hcmd, ?_⟩
  have htype := (hword (request + 6 + 510) (List.mem_cons_of_mem _ List.mem_cons_self)).2
  -- the counts are read for the two calls that have them
  have hcount : ∀ call, requestCall request response mem = some call →
      ∀ a ∈ countAccesses request call,
        a ∈ Access.read ⟨request, 2⟩ :: dataAccesses host boot w request response mem := by
    intro call hcall a ha
    refine List.mem_cons_of_mem _ (List.mem_cons_of_mem _ ?_)
    rw [hcall]
    exact List.mem_append_left _ ha
  unfold requestCall at hcount ⊢
  simp only [htype] at hcount ⊢
  split
  · rfl
  · rfl
  · next hcode =>
      simp only [hcode] at hcount
      rw [(hword (request + 6 + 506) (hcount _ rfl _ List.mem_cons_self)).2]
  · next hcode =>
      simp only [hcode] at hcount
      rw [(hword (request + 4) (hcount _ rfl _ List.mem_cons_self)).1]
  · rfl

end Accesses

/-! ## Requests that fit -/

/-- The first buffer holds the request at `request`, and the second has room for its response at
`response`; packets count for the calls for which `asks` holds. -/
structure Fits (asks : RpmbCall → Prop) (input output : Span) (request response : ℕ)
    (mem : ByteStore) : Prop where
  command : (⟨request, 2⟩ : Span).Within input
  firstPacket : mem.load16 request = 0 → (⟨request, 518⟩ : Span).Within input
  packets : mem.load16 request = 0 → ∀ call, requestCall request response mem = some call →
    asks call →
      (⟨request, 6 + call.request.packetCount * rpmbPacketSize⟩ : Span).Within input ∧
        call.response.span.Within output
  devInfo : mem.load16 request = 1 → (⟨response, 19⟩ : Span).Within output

/-- The request of a message fits the two parameters. -/
def RpmbFits (asks : RpmbCall → Prop) (arch : Arch) (msg : ℕ) (mem : ByteStore) : Prop :=
  Fits asks (tmemSpan msg mem 0) (tmemSpan msg mem 1) (tmemPointer arch msg mem 0)
    (tmemPointer arch msg mem 1) mem

section Fits

variable {arch : Arch} {env : RpcEnv} {msg : ℕ} {host : SdhcHost H} {boot : BootServices B}
  {w : World H B} {request response : ℕ} {call : RpmbCall} {mem : ByteStore} {input output : Span}

/-- The packets of a call lie behind the header. -/
lemma requestCall_span (h : requestCall request response mem = some call)
    (hin : (⟨request, 6 + call.request.packetCount * rpmbPacketSize⟩ : Span).Within input) :
    call.request.span.Within input := by
  have hpackets := (requestCall_packets h).1
  refine Span.Within.trans ?_ hin
  simp only [Span.Within, RpmbDataBuffer.span, hpackets]
  omega

/-- A data request that fits accesses nothing else. -/
lemma dataAccesses_inside (h : Fits RpmbCall.HasPackets input output request response mem)
    (hcmd : mem.load16 request = 0) :
    ∀ a ∈ dataAccesses host boot w request response mem, a.Inside input output := by
  have hfield {p : ℕ} (hlo : request ≤ p) (hhi : p + 2 ≤ request + 518) :
      (Access.read ⟨p, 2⟩).Inside input output :=
    Access.inside_read (Span.Within.trans ⟨hlo, hhi⟩ (h.firstPacket hcmd))
  intro a ha
  rcases List.mem_cons.mp ha with rfl | ha
  · exact hfield (by omega) (by omega)
  · cases hcall : requestCall request response mem with
    | none =>
        rw [hcall] at ha
        exact absurd ha List.not_mem_nil
    | some call =>
        rw [hcall] at ha
        rcases List.mem_append.mp ha with hcount | hdriver
        · cases call with
          | authenticatedWrite packets result =>
              obtain rfl := List.mem_singleton.mp hcount
              exact hfield (by omega) (by omega)
          | authenticatedRead packet result =>
              obtain rfl := List.mem_singleton.mp hcount
              exact hfield (by omega) (by omega)
          | _ => exact absurd hcount List.not_mem_nil
        · by_cases hpackets : call.HasPackets
          · obtain ⟨hin, hout⟩ := h.packets hcmd call hcall hpackets
            exact (SdMmc.rpmbIo_inside rpmbIo_driverCall trace_driverCall a hdriver).mono
              (requestCall_span hcall hin) hout
          · have hnothing : driverTrace host boot w call mem = [] := by
              rw [driverTrace, driverCall_refused hpackets]
              exact List.drop_length
            rw [hnothing, RpmbCall.accesses_refused hpackets] at hdriver
            exact absurd hdriver List.not_mem_nil

lemma devInfoAccesses_inside (h : (⟨response, 19⟩ : Span).Within output) :
    ∀ a ∈ devInfoAccesses response, a.Inside input output := by
  have hfield {p n : ℕ} (hlo : response ≤ p) (hhi : p + n ≤ response + 19) :
      (Access.write ⟨p, n⟩).Inside input output :=
    Access.inside_write (Span.Within.trans ⟨hlo, hhi⟩ h)
  simp only [devInfoAccesses, List.forall_mem_cons]
  exact ⟨hfield (by omega) (by omega), hfield (by omega) (by omega),
    hfield (by omega) (by omega), hfield (by omega) (by omega), List.forall_mem_nil _⟩

lemma requestAccesses_inside (h : Fits RpmbCall.HasPackets input output request response mem) :
    ∀ a ∈ requestAccesses host boot w request response mem, a.Inside input output := by
  intro a ha
  rcases List.mem_cons.mp ha with rfl | ha
  · exact Access.inside_read h.command
  by_cases hdata : mem.load16 request = 0
  · rw [if_pos hdata] at ha
    exact dataAccesses_inside h hdata a ha
  rw [if_neg hdata] at ha
  by_cases hinfo : mem.load16 request = 1
  · rw [if_pos hinfo] at ha
    exact devInfoAccesses_inside (h.devInfo hinfo) a ha
  · rw [if_neg hinfo] at ha
    exact absurd ha List.not_mem_nil

/-- A call changes nothing but its response. -/
lemma driverIo_memory {x : ℕ} (hx : call.HasPackets → ¬ call.response.span.Has x) :
    (driverIo host boot w call mem).2 x = mem x := by
  rw [driverIo_snd]
  by_cases hpackets : call.HasPackets
  · exact (SdMmc.rpmbIo_touches rpmbIo_driverCall).memory x (hx hpackets)
  · rw [driverCall_refused hpackets]

/-- A request that fits changes nothing but the second buffer. -/
lemma rpmbRequest_memory (h : Fits RpmbCall.HasPackets input output request response mem) {x : ℕ}
    (hx : ¬ output.Has x) :
    (rpmbRequest (driverEnv env host boot w) request response mem).2 x = mem x := by
  by_cases hdata : mem.load16 request = 0
  · rw [rpmbRequest_data hdata]
    cases hcall : requestCall request response mem with
    | none => rfl
    | some call =>
        exact driverIo_memory fun hpackets hspan =>
          hx ((h.packets hdata call hcall hpackets).2.has hspan)
  by_cases hinfo : mem.load16 request = 1
  · have hfield {p n : ℕ} (hlo : response ≤ p) (hhi : p + n ≤ response + 19) :
        x < p ∨ p + n ≤ x := by
      by_contra hin
      have hspan : (⟨response, 19⟩ : Span).Has x := by
        simp only [Span.Has]
        omega
      exact hx ((h.devInfo hinfo).has hspan)
    have hcid : ((driverEnv env host boot w).rpmbIo.cid.take 16).length ≤ 16 := by
      rw [List.length_take]
      exact min_le_left _ _
    simp only [rpmbRequest, if_neg hdata, if_pos hinfo]
    rw [ByteStore.write_apply_off (hfield (by omega) (by simp)),
      ByteStore.write_apply_off (hfield (by omega) (by simp)),
      ByteStore.write_apply_off (hfield (by omega) (by simp)),
      ByteStore.write_apply_off (hfield le_rfl (Nat.add_le_add_left (hcid.trans (by decide)) _))]
  · simp only [rpmbRequest, if_neg hdata, if_neg hinfo]

/-- A request that does not fit, but for calls without packets, has none, and is refused. -/
lemma rpmbRequest_rejects (h : Fits RpmbCall.HasPackets input output request response mem)
    (hfits : ¬ Fits (fun _ => True) input output request response mem) :
    (rpmbRequest (driverEnv env host boot w) request response mem).1 ≠ teecSuccess := by
  have hcall : ∃ call, mem.load16 request = 0 ∧ requestCall request response mem = some call ∧
      ¬ call.HasPackets := by
    by_contra hall
    refine hfits ⟨h.command, h.firstPacket, fun hdata call hcall _ => ?_, h.devInfo⟩
    refine h.packets hdata call hcall ?_
    by_contra hpackets
    exact hall ⟨call, hdata, hcall, hpackets⟩
  obtain ⟨call, hdata, hcall, hpackets⟩ := hcall
  rw [rpmbRequest_data hdata, hcall]
  have hstatus : (driverIo host boot w call mem).1 = .invalidParameter := by
    rw [driverIo_fst, driverCall_refused hpackets]
  change (if (driverIo host boot w call mem).1.isError then teecErrorGeneric else teecSuccess) ≠
    teecSuccess
  rw [hstatus]
  decide

end Fits

/-! ## The other direction -/

section Ready

variable {caps : SdMmc.SdhcCapabilities} {request response : ℕ} {call : RpmbCall}
  {mem : ByteStore} {input output : Span}

/-- What a request accesses on a host that is always ready. -/
def readyAccesses (caps : SdMmc.SdhcCapabilities) (request response : ℕ) (mem : ByteStore) :
    List Access :=
  requestAccesses (SdMmc.readyHost caps) (SdMmc.scriptedBoot (.quiet true))
    (SdMmc.readyWorld caps .template mem) request response mem

/-- There all the packets of a call are transferred. -/
lemma readyAccesses_packets (hcmd : mem.load16 request = 0)
    (hcall : requestCall request response mem = some call) (hpackets : call.HasPackets) :
    .read call.request.span ∈ readyAccesses caps request response mem ∧
      .write call.response.span ∈ readyAccesses caps request response mem := by
  obtain ⟨w', hrun⟩ := @SdMmc.rpmbIo_succeeds _ _ (SdMmc.readyHost caps)
    (SdMmc.scriptedBoot (.quiet true)) (SdMmc.readyHost_ready caps) (fun _ _ => rfl) call _
    (requestCall_valid hcall hpackets (SdMmc.readyWorld caps .template mem)) rfl
  have hw' := Option.some.inj (rpmbIo_driverCall.symm.trans hrun)
  have htrace := @trace_driverCall _ _ (SdMmc.readyHost caps) (SdMmc.scriptedBoot (.quiet true))
    (SdMmc.readyWorld caps .template mem) call mem
  rw [hw'] at htrace
  have htransfers := SdMmc.rpmbIo_transfers (requestCall_packetsFit hcall) hrun htrace
  have hmem : ∀ a ∈ call.accesses (driverTrace (SdMmc.readyHost caps)
      (SdMmc.scriptedBoot (.quiet true)) (SdMmc.readyWorld caps .template mem) call mem),
      a ∈ readyAccesses caps request response mem := by
    intro a ha
    rw [readyAccesses, requestAccesses, if_pos hcmd, dataAccesses, hcall]
    exact List.mem_cons_of_mem _ (List.mem_cons_of_mem _ (List.mem_append_right _ ha))
  exact ⟨hmem _ htransfers.1, hmem _ htransfers.2⟩

/-- A request that stays inside there fits. -/
lemma fits_of_inside
    (h : ∀ a ∈ readyAccesses caps request response mem, a.Inside input output) :
    Fits RpmbCall.HasPackets input output request response mem := by
  have hread {s : Span} (hs : .read s ∈ readyAccesses caps request response mem)
      (hpos : 0 < s.len) : s.Within input := Access.within_of_read hpos (h _ hs)
  have hwrite {s : Span} (hs : .write s ∈ readyAccesses caps request response mem)
      (hpos : 0 < s.len) : s.Within output := Access.within_of_write hpos (h _ hs)
  have hcommand : (⟨request, 2⟩ : Span).Within input := hread List.mem_cons_self Nat.two_pos
  refine ⟨hcommand, fun hcmd => ?_, fun hcmd call hcall hpackets => ?_, fun hcmd => ?_⟩
  · have htype : (⟨request + 516, 2⟩ : Span).Within input := by
      refine hread ?_ Nat.two_pos
      rw [readyAccesses, requestAccesses, if_pos hcmd]
      exact List.mem_cons_of_mem _ List.mem_cons_self
    simp only [Span.Within] at hcommand htype ⊢
    omega
  · obtain ⟨hin, hout⟩ := @readyAccesses_packets caps _ _ _ _ hcmd hcall hpackets
    have hsize : 0 < rpmbPacketSize := by decide
    have hrequest := hread hin (Nat.mul_pos (Nat.pos_of_ne_zero hpackets.2.2.1) hsize)
    have hresponse := hwrite hout (Nat.mul_pos (Nat.pos_of_ne_zero hpackets.2.2.2) hsize)
    refine ⟨?_, hresponse⟩
    have hpacket := (requestCall_packets hcall).1
    simp only [Span.Within, RpmbDataBuffer.span, hpacket] at hcommand hrequest ⊢
    omega
  · have hfield {s : Span} (hs : .write s ∈ devInfoAccesses response) (hpos : 0 < s.len) :
        s.Within output := by
      refine hwrite ?_ hpos
      rw [readyAccesses, requestAccesses, if_neg (by rw [hcmd]; decide), if_pos hcmd]
      exact List.mem_cons_of_mem _ hs
    have hcid : (⟨response, 16⟩ : Span).Within output := hfield List.mem_cons_self (Nat.succ_pos 15)
    have hret : (⟨response + 18, 1⟩ : Span).Within output :=
      hfield (by simp [devInfoAccesses]) Nat.one_pos
    simp only [Span.Within] at hcid hret ⊢
    omega

end Ready

/-! ## The handler -/

/-- With this card the handler and the driver stay inside of the two buffers: they access nothing
else of the request and the response, nothing else changes but the result in the message, and a
request that does not fit ends in an error. -/
structure StaysInside (host : SdhcHost H) (boot : BootServices B) (w : World H B) (arch : Arch)
    (env : RpcEnv) (msg : ℕ) (mem : ByteStore) : Prop where
  accesses : ∀ a ∈ rpmbAccesses host boot w arch env msg mem,
    a.Inside (tmemSpan msg mem 0) (tmemSpan msg mem 1)
  memory : ∀ x, ¬ (tmemSpan msg mem 1).Has x → ¬ (⟨msg + MsgArg.ret, 8⟩ : Span).Has x →
    (opteeRpcCmdRpmb arch (driverEnv env host boot w) msg mem).2 x = mem x
  rejects : ¬ RpmbFits (fun _ => True) arch msg mem →
    (opteeRpcCmdRpmb arch (driverEnv env host boot w) msg mem).1 ≠ teecSuccess

/-- They do with every card, from every state of its driver. -/
def RpmbStaysInside (arch : Arch) (env : RpcEnv) (msg : ℕ) (mem : ByteStore) : Prop :=
  ∀ (H B : Type) (host : SdhcHost H) (boot : BootServices B) (w : World H B),
    StaysInside host boot w arch env msg mem

section Handler

variable {arch : Arch} {env : RpcEnv} {msg : ℕ} {mem : ByteStore}

lemma setRet_outside {result : TeecResult} {x : ℕ}
    (hx : ¬ (⟨msg + MsgArg.ret, 8⟩ : Span).Has x) : setRet msg result mem x = mem x := by
  refine setRet_apply_off ?_
  simp only [Span.Has, MsgArg.ret, MsgArg.numParams] at hx ⊢
  omega

/-- A message with other parameters, or without the protocol, is refused. -/
lemma opteeRpcCmdRpmb_refused (h : ¬ RpmbAccepted env msg mem) :
    ∃ result, result ≠ teecSuccess ∧
      opteeRpcCmdRpmb arch env msg mem = (result, setRet msg result mem) := by
  simp only [opteeRpcCmdRpmb]
  by_cases hnum : mem.load32 (msg + MsgArg.numParams) = 2
  swap
  · exact ⟨_, by decide, if_pos hnum⟩
  rw [if_neg (not_not.mpr hnum)]
  by_cases htypes : paramAttrType msg mem 0 ≠ opteeMsgAttrTypeTmemInput ∨
      paramAttrType msg mem 1 ≠ opteeMsgAttrTypeTmemOutput
  · exact ⟨_, by decide, if_pos htypes⟩
  rw [if_neg htypes]
  push Not at htypes
  have hlocate : env.locateRpmbIo.isError = true := by
    by_contra hfound
    exact h ⟨hnum, htypes.1, htypes.2, by simpa using hfound⟩
  exact ⟨_, by decide, if_pos hlocate⟩

lemma opteeRpcCmdRpmb_accepted (h : RpmbAccepted env msg mem) :
    opteeRpcCmdRpmb arch env msg mem =
      ((rpmbRequest env (tmemPointer arch msg mem 0) (tmemPointer arch msg mem 1) mem).1,
        setRet msg
          (rpmbRequest env (tmemPointer arch msg mem 0) (tmemPointer arch msg mem 1) mem).1
          (rpmbRequest env (tmemPointer arch msg mem 0) (tmemPointer arch msg mem 1) mem).2) := by
  obtain ⟨hnum, hinput, houtput, hlocate⟩ := h
  simp only [opteeRpcCmdRpmb]
  rw [if_neg (not_not.mpr hnum), if_neg (by rw [hinput, houtput]; simp),
    if_neg (by rw [hlocate]; exact Bool.false_ne_true)]
  rfl

/-- A message whose request fits stays inside. -/
lemma staysInside_of_fits
    (h : RpmbAccepted env msg mem → RpmbFits RpmbCall.HasPackets arch msg mem) :
    RpmbStaysInside arch env msg mem := by
  intro H B host boot w
  by_cases haccepted : RpmbAccepted env msg mem
  · have hfits := h haccepted
    have hrun := @opteeRpcCmdRpmb_accepted arch (driverEnv env host boot w) msg mem haccepted
    refine ⟨fun a ha => ?_, fun x hout hret => ?_, fun hnot => ?_⟩
    · rw [rpmbAccesses, if_pos haccepted] at ha
      exact requestAccesses_inside hfits a ha
    · rw [hrun]
      exact (setRet_outside hret).trans (rpmbRequest_memory hfits hout)
    · rw [hrun]
      exact rpmbRequest_rejects hfits hnot
  · obtain ⟨result, hresult, hrun⟩ :=
      @opteeRpcCmdRpmb_refused arch (driverEnv env host boot w) msg mem haccepted
    refine ⟨fun a ha => ?_, fun x _ hret => ?_, fun _ => ?_⟩
    · rw [rpmbAccesses, if_neg haccepted] at ha
      exact absurd ha List.not_mem_nil
    · rw [hrun]
      exact setRet_outside hret
    · rw [hrun]
      exact hresult

/-- A message that is accepted and stays inside fits. -/
lemma fits_of_staysInside (h : RpmbStaysInside arch env msg mem)
    (haccepted : RpmbAccepted env msg mem) : RpmbFits RpmbCall.HasPackets arch msg mem := by
  have hinside := (h Unit _ (SdMmc.readyHost SdMmc.oneBlockHost)
    (SdMmc.scriptedBoot (.quiet true)) (SdMmc.readyWorld SdMmc.oneBlockHost .template mem)).accesses
  rw [rpmbAccesses, if_pos haccepted] at hinside
  exact fits_of_inside hinside

end Handler

/-- Exactly the messages that fit stay inside of their buffers; neither size is looked at. -/
theorem rpmbStaysInside_iff (arch : Arch) (env : RpcEnv) (msg : ℕ) (mem : ByteStore) :
    RpmbStaysInside arch env msg mem ↔
      (RpmbAccepted env msg mem → RpmbFits RpmbCall.HasPackets arch msg mem) :=
  ⟨fits_of_staysInside, staysInside_of_fits⟩

/-! ### A read of two blocks -/

/-- Firmware with the protocol. -/
def rpmbFirmware : RpcEnv := { bareFirmware with locateRpmbIo := .success }

/-- A message at address 0.  Its request at 4096, one packet, asks for two blocks; the buffer for
the response, at 8192, has room for one. -/
def twoBlockRead : ByteStore :=
  ((((((((ByteStore.store32 (fun _ => 0) MsgArg.numParams 2).store64
    (MsgParam.slot MsgArg.params 0 + MsgParam.attr) opteeMsgAttrTypeTmemInput).store64
    (MsgParam.slot MsgArg.params 0 + MsgParam.tmemBufPtr) 4096).store64
    (MsgParam.slot MsgArg.params 0 + MsgParam.tmemSize) 518).store64
    (MsgParam.slot MsgArg.params 1 + MsgParam.attr) opteeMsgAttrTypeTmemOutput).store64
    (MsgParam.slot MsgArg.params 1 + MsgParam.tmemBufPtr) 8192).store64
    (MsgParam.slot MsgArg.params 1 + MsgParam.tmemSize) 512).store16 4100 2).write 4612 [0, 4]

/-- The second block is written behind the buffer. -/
theorem not_rpmbStaysInside_twoBlockRead :
    ¬ RpmbStaysInside .aarch64 rpmbFirmware 0 twoBlockRead := by
  intro hinside
  have hfits := fits_of_staysInside hinside (by decide +kernel)
  have hcall : requestCall (tmemPointer .aarch64 0 twoBlockRead 0)
      (tmemPointer .aarch64 0 twoBlockRead 1) twoBlockRead =
        some (.authenticatedRead 4102 ⟨8192, 2⟩) := by decide +kernel
  have hroom := (hfits.packets (by decide +kernel) _ hcall (by decide)).2
  have hsize : ¬ (RpmbDataBuffer.span ⟨8192, 2⟩).Within (tmemSpan 0 twoBlockRead 1) := by
    decide +kernel
  exact hsize hroom

end Optee
end MuPlatform
