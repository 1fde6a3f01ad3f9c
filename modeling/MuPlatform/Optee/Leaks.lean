import MuPlatform.Base.Ledger
import MuPlatform.Optee.ShmCommands
import MuPlatform.Optee.Smc

/-!
# What a call leaves in the shared pool

`TEEC_SMC_OpenSession`, `TEEC_SMC_CloseSession` and `TEEC_SMC_InvokeCommand` allocate a message, go
through the loop of `OpteeSmcCall`, and free the message on the way out.  In the loop the secure
world may allocate and release as well.

The ledger of a call (`TeecCall.ledger`) has an entry for each range that the allocator takes from
the GCD or gives back to it, and `TeecCall.entered` says that GCD map and counters follow it.  The
secure world has a ledger of its own (`TeecCall.own`), of the pointers that it is given and gives
back.  It does not hear of every block: `OpteeRpcCmdShmAlloc` answers a type it does not know with
an error and allocates all the same.  `leaksNothing_iff` says when a call leaks nothing.
-/

namespace MuPlatform
namespace Optee

/-! ## TEEC_SMC_CloseSession -/

def opteeMsgCmdCloseSession : UInt32 := 2

/-- The message of `TEEC_SMC_CloseSession`, which has no parameters. -/
def closeMessage (sessionId : UInt32) (msg : ℕ) (mem : ByteStore) : ByteStore :=
  ((mem.fill msg (opteeMsgGetArgSize 0) 0).store32 (msg + MsgArg.cmd)
    opteeMsgCmdCloseSession).store32 (msg + MsgArg.session) sessionId

/-- What `TEEC_SMC_CloseSession` leaves. -/
structure CloseOutcome where
  result : TeecResult
  errorOrigin : UInt32
  state : ShmState

section Calls

variable (cfg : ShmConfig) (gcdAnswer : Option ℕ)
  (gcdFree : Span → List Span → EfiStatus × List Span) (rounds : List SmcRound)

/-- `TEEC_SMC_CloseSession`. -/
def teecSmcCloseSession (sessionId : UInt32) (s : ShmState) : Option CloseOutcome :=
  match opteeClientMemAlloc cfg gcdAnswer (opteeMsgGetArgSize 0) s with
  | (msg, s) =>
    if msg = 0 then some ⟨teecErrorOutOfMemory, teecOriginApi, s⟩
    else match opteeSmcCall cfg rounds msg { s with mem := closeMessage sessionId msg s.mem } with
      | none => none
      | some (result, s) =>
        if result ≠ teecSuccess then
          some ⟨result, teecOriginComms, freeMessage cfg gcdFree msg s⟩
        else some
          { result := s.mem.load32 (msg + MsgArg.ret)
            errorOrigin := s.mem.load32 (msg + MsgArg.retOrigin)
            state := freeMessage cfg gcdFree msg s }

/-- The calls of the client interface that enter the secure world, with what they are given. -/
inductive TeecCall
  | openSession (sessionId : UInt32) (destination : TeecUuid) (op : TeecOperation)
  | closeSession (sessionId : UInt32)
  | invokeCommand (sessionId cmdId : UInt32) (op : TeecOperation)

namespace TeecCall

/-- The state a call leaves; `none` when the secure world is still calling back. -/
def run (call : TeecCall) (s : ShmState) : Option ShmState :=
  match call with
  | openSession sessionId destination op =>
      (teecSmcOpenSession cfg gcdAnswer gcdFree rounds sessionId destination op s).map (·.state)
  | closeSession sessionId =>
      (teecSmcCloseSession cfg gcdAnswer gcdFree rounds sessionId s).map (·.state)
  | invokeCommand sessionId cmdId op =>
      (teecSmcInvokeCommand cfg gcdAnswer gcdFree rounds sessionId cmdId op s).map (·.state)

/-- `MsgArgSize`. -/
def argSize : TeecCall → ℕ
  | openSession _ destination _ => (SmcCall.openSession destination).msgArgSize
  | closeSession _ => opteeMsgGetArgSize 0
  | invokeCommand sessionId cmdId _ => (SmcCall.invokeCommand sessionId cmdId).msgArgSize

/-- The message of a call. -/
def fill (arch : Arch) (call : TeecCall) (msg : ℕ) (mem : ByteStore) : ByteStore :=
  match call with
  | openSession _ destination op => (SmcCall.openSession destination).message arch op msg mem
  | closeSession sessionId => closeMessage sessionId msg mem
  | invokeCommand sessionId cmdId op =>
      (SmcCall.invokeCommand sessionId cmdId).message arch op msg mem

/-- The allocation of the message. -/
def alloc (call : TeecCall) (s : ShmState) : ℕ × ShmState :=
  opteeClientMemAlloc cfg gcdAnswer call.argSize s

/-- The state in which the secure world is entered. -/
def sent (call : TeecCall) (s : ShmState) : ShmState :=
  { (call.alloc cfg gcdAnswer s).2 with
    mem := call.fill cfg.arch (call.alloc cfg gcdAnswer s).1 (call.alloc cfg gcdAnswer s).2.mem }

/-- What the loop of `OpteeSmcCall` returns, and the state it leaves. -/
def reply (call : TeecCall) (s : ShmState) : Option (TeecResult × ShmState) :=
  opteeSmcCall cfg rounds (call.alloc cfg gcdAnswer s).1 (call.sent cfg gcdAnswer s)

end TeecCall

variable {cfg gcdAnswer gcdFree rounds} {call : TeecCall} {s s' : ShmState}

/-- The two calls with an operation, by their trip. -/
lemma roundTrip_state (smcCall : SmcCall) (op : TeecOperation) {f : Trip → SmcOutcome}
    (hnone : ∀ s, (f (.outOfMemory s)).state = s)
    (hfailed : ∀ msg result s, (f (.failed msg result s)).state = freeMessage cfg gcdFree msg s)
    (hreplied : ∀ msg s, (f (.replied msg s)).state = freeMessage cfg gcdFree msg s) {msg : ℕ}
    (halloc : opteeClientMemAlloc cfg gcdAnswer smcCall.msgArgSize s = (msg, s')) :
    ((roundTrip cfg gcdAnswer rounds smcCall op s).map f).map (·.state) =
      if msg = 0 then some s'
      else (opteeSmcCall cfg rounds msg
        { s' with mem := smcCall.message cfg.arch op msg s'.mem }).map fun reply =>
          freeMessage cfg gcdFree msg reply.2 := by
  unfold roundTrip prepare
  simp only [halloc]
  by_cases hmsg : msg = 0
  · simp only [hmsg, if_true, Option.map_some, hnone]
  simp only [hmsg, if_false]
  cases opteeSmcCall cfg rounds msg { s' with mem := smcCall.message cfg.arch op msg s'.mem } with
  | none => rfl
  | some reply =>
      obtain ⟨result, s₂⟩ := reply
      by_cases hresult : result = teecSuccess
      · simp [hresult, hreplied]
      · simp [hresult, hfailed]

lemma teecSmcCloseSession_state (sessionId : UInt32) {msg : ℕ}
    (halloc : opteeClientMemAlloc cfg gcdAnswer (opteeMsgGetArgSize 0) s = (msg, s')) :
    (teecSmcCloseSession cfg gcdAnswer gcdFree rounds sessionId s).map (·.state) =
      if msg = 0 then some s'
      else (opteeSmcCall cfg rounds msg
        { s' with mem := closeMessage sessionId msg s'.mem }).map fun reply =>
          freeMessage cfg gcdFree msg reply.2 := by
  unfold teecSmcCloseSession
  simp only [halloc]
  by_cases hmsg : msg = 0
  · simp only [hmsg, if_true, Option.map_some]
  simp only [hmsg, if_false]
  cases opteeSmcCall cfg rounds msg { s' with mem := closeMessage sessionId msg s'.mem } with
  | none => rfl
  | some reply =>
      obtain ⟨result, s₂⟩ := reply
      by_cases hresult : result = teecSuccess
      · simp [hresult]
      · simp [hresult]

/-- Every exit of a call frees its message, if there is one. -/
lemma TeecCall.run_eq (call : TeecCall) (s : ShmState) :
    call.run cfg gcdAnswer gcdFree rounds s =
      if (call.alloc cfg gcdAnswer s).1 = 0 then some (call.alloc cfg gcdAnswer s).2
      else (call.reply cfg gcdAnswer rounds s).map fun reply =>
        freeMessage cfg gcdFree (call.alloc cfg gcdAnswer s).1 reply.2 := by
  cases call with
  | openSession sessionId destination op =>
      exact roundTrip_state _ op (fun _ => rfl) (fun _ _ _ => rfl) (fun _ _ => rfl) rfl
  | closeSession sessionId => exact teecSmcCloseSession_state sessionId rfl
  | invokeCommand sessionId cmdId op =>
      exact roundTrip_state _ op (fun _ => rfl) (fun _ _ _ => rfl) (fun _ _ => rfl) rfl

end Calls

/-! ## The ledger -/

open Ledger

/-- GCD map and counters are the same. -/
def SameBooks (s s' : ShmState) : Prop :=
  s'.gcd = s.gcd ∧ s'.mSharedMemAllocationCount = s.mSharedMemAllocationCount ∧
    s'.mSharedMemAllocSize = s.mSharedMemAllocSize

/-- The allocator is as it was, whatever the order of the GCD map. -/
def SameAsBefore (s s' : ShmState) : Prop :=
  s'.gcd.Perm s.gcd ∧ s'.mSharedMemAllocationCount = s.mSharedMemAllocationCount ∧
    s'.mSharedMemAllocSize = s.mSharedMemAllocSize

/-- The counters are 64 bits wide. -/
def ShmState.CountersFit (s : ShmState) : Prop :=
  s.mSharedMemAllocationCount < 2 ^ 64 ∧ s.mSharedMemAllocSize < 2 ^ 64

/-- The bytes of some ranges. -/
def bytes (rs : Multiset Span) : ℕ := (rs.map Span.len).sum

@[simp] lemma bytes_zero : bytes 0 = 0 := rfl

@[simp] lemma bytes_cons (r : Span) (rs : Multiset Span) : bytes (r ::ₘ rs) = r.len + bytes rs := by
  rw [bytes, Multiset.map_cons, Multiset.sum_cons]
  rfl

@[simp] lemma bytes_add (rs rs' : Multiset Span) : bytes (rs + rs') = bytes rs + bytes rs' := by
  rw [bytes, Multiset.map_add, Multiset.sum_add]
  rfl

/-- From `s` to `s'` GCD map and counters follow the ledger. -/
structure Entered (s : ShmState) (es : List (Entry Span)) (s' : ShmState) : Prop where
  map : Follows (s.gcd : Multiset Span) es s'.gcd
  count : (s'.mSharedMemAllocationCount + Multiset.card (released es)) % 2 ^ 64 =
    (s.mSharedMemAllocationCount + Multiset.card (granted es)) % 2 ^ 64
  size : (s'.mSharedMemAllocSize + bytes (released es)) % 2 ^ 64 =
    (s.mSharedMemAllocSize + bytes (granted es)) % 2 ^ 64
  counters : s.CountersFit → s'.CountersFit

namespace Entered

variable {s s' s'' : ShmState} {es es' : List (Entry Span)}

lemma append (h : Entered s es s') (h' : Entered s' es' s'') : Entered s (es ++ es') s'' where
  map := h.map.append h'.map
  count := by
    have hcount := h.count
    have hcount' := h'.count
    rw [released_append, granted_append, Multiset.card_add, Multiset.card_add]
    omega
  size := by
    have hsize := h.size
    have hsize' := h'.size
    rw [released_append, granted_append, bytes_add, bytes_add]
    omega
  counters hfit := h'.counters (h.counters hfit)

lemma of_sameBooks (h : SameBooks s s') : Entered s [] s' := by
  obtain ⟨hgcd, hcount, hsize⟩ := h
  refine ⟨congrArg _ hgcd, ?_, ?_, ?_⟩
  · rw [hcount]
    rfl
  · rw [hsize]
    rfl
  · rw [ShmState.CountersFit, ShmState.CountersFit, hcount, hsize]
    exact id

lemma sameBooks (h : Entered s es s') (hsame : SameBooks s' s'') : Entered s es s'' := by
  have happend := h.append (of_sameBooks hsame)
  rwa [List.append_nil] at happend

end Entered

/-- Where no more than was granted was released, with `untold` to spare, the books are the same
exactly if nothing was spared or withheld and what was released is what was granted. -/
lemma Entered.same_iff {s s' : ShmState} {es : List (Entry Span)} (h : Entered s es s')
    (hfit : s.CountersFit) {untold : ℕ}
    (hle : Multiset.card (released es) + untold ≤ Multiset.card (granted es)) :
    SameAsBefore s s' ↔ untold = 0 ∧ withheld es = 0 ∧ released es = granted es := by
  have hbalance := h.map.balance
  obtain ⟨hcount, hsize⟩ := hfit
  obtain ⟨hcount', hsize'⟩ := h.counters ⟨hcount, hsize⟩
  have hcounts := h.count
  have hsizes := h.size
  constructor
  · rintro ⟨hperm, -, -⟩
    have hsum : released es = granted es + withheld es := by
      rw [Multiset.coe_eq_coe.mpr hperm, add_assoc] at hbalance
      exact add_left_cancel hbalance
    have hcard := congrArg Multiset.card hsum
    rw [Multiset.card_add] at hcard
    have hnone : withheld es = 0 := Multiset.card_eq_zero.mp (by omega)
    rw [hnone, add_zero] at hsum
    exact ⟨by omega, hnone, hsum⟩
  · rintro ⟨-, hnone, hsame⟩
    rw [hsame, hnone, add_zero] at hbalance
    rw [hsame] at hcounts hsizes
    exact ⟨Multiset.coe_eq_coe.mp (add_right_cancel hbalance), by omega, by omega⟩

section Entries

variable (cfg : ShmConfig) (gcdAnswer : Option ℕ)
  (gcdFree : Span → List Span → EfiStatus × List Span) (size byteAlignment ptr : ℕ) (s : ShmState)

/-- What `InternalMemAlloc` enters: a range whose fence is broken is not handed out. -/
def allocEntries : List (Entry Span) :=
  if badAlignment cfg.arch byteAlignment then []
  else match gcdAnswer with
    | none => []
    | some base =>
      if isSharedMemoryRegionFree cfg.arch s.mem base (allocBlockSize cfg.arch size) = false then
        [.withheld ⟨base, allocBlockSize cfg.arch size⟩]
      else [.granted ⟨base, allocBlockSize cfg.arch size⟩]

/-- What `OpteeClientMemFree` enters: the range in the header, if the GCD takes it back. -/
def freeEntries : List (Entry Span) :=
  if (opteeClientMemFree cfg gcdFree ptr s).1.isError then []
  else [.released (headerRange cfg ptr s)]

/-- The GCD, where it is asked, answers as it may. -/
def AllocAnswered : Prop :=
  badAlignment cfg.arch byteAlignment = false → GcdAnswers cfg s size gcdAnswer

variable {cfg gcdAnswer gcdFree size byteAlignment ptr s}

lemma ShmState.countersFit_mod {mem : ByteStore} {gcd : List Span} (count size : ℕ) :
    (⟨mem, gcd, count % 2 ^ 64, size % 2 ^ 64⟩ : ShmState).CountersFit :=
  ⟨Nat.mod_lt _ (by decide), Nat.mod_lt _ (by decide)⟩

lemma allocEntries_entered (h : AllocAnswered cfg gcdAnswer size byteAlignment s) :
    Entered s (allocEntries cfg gcdAnswer size byteAlignment s)
      (internalMemAlloc cfg gcdAnswer size byteAlignment s).2 := by
  by_cases hbad : badAlignment cfg.arch byteAlignment = true
  · simp only [allocEntries, internalMemAlloc, hbad, if_true]
    exact .of_sameBooks ⟨rfl, rfl, rfl⟩
  cases gcdAnswer with
  | none =>
      simp only [allocEntries, internalMemAlloc, hbad]
      exact .of_sameBooks ⟨rfl, rfl, rfl⟩
  | some base =>
      obtain ⟨hpos, -, -, hapart⟩ := h (by simpa using hbad) base rfl
      -- the GCD does not give what it has given
      have hfresh : (⟨base, allocBlockSize cfg.arch size⟩ : Span) ∉ s.gcd := by
        intro hmem
        have hself := hapart _ hmem
        simp only [Span.Apart] at hself
        omega
      by_cases hbroken : isSharedMemoryRegionFree cfg.arch s.mem base (allocBlockSize cfg.arch size) =
        false
      · simp only [allocEntries, internalMemAlloc, hbad, hbroken, if_true]
        exact ⟨⟨hfresh, rfl⟩, rfl, rfl, id⟩
      · have hentries : allocEntries cfg (some base) size byteAlignment s =
            [.granted ⟨base, allocBlockSize cfg.arch size⟩] := by
          simp only [allocEntries, if_neg hbad, if_neg hbroken]
        rw [hentries, internalMemAlloc, if_neg hbad]
        simp only [if_neg hbroken]
        refine ⟨⟨hfresh, rfl⟩, ?_, ?_, fun _ => ShmState.countersFit_mod _ _⟩
        · simp only [released, granted, Multiset.card_zero, Multiset.card_cons]
          omega
        · simp only [released, granted, bytes_zero, bytes_cons]
          omega

lemma released_allocEntries : released (allocEntries cfg gcdAnswer size byteAlignment s) = 0 := by
  unfold allocEntries
  split
  · rfl
  · cases gcdAnswer with
    | none => rfl
    | some base =>
        dsimp only
        split <;> rfl

/-- A release that is refused leaves the books alone. -/
lemma opteeClientMemFree_refused (hfree : GcdFrees gcdFree)
    (h : s.mem.load32 (headerOf cfg.arch ptr) ≠ opteeShmSignature ∨
      (gcdFree (headerRange cfg ptr s) s.gcd).1.isError = true) :
    (opteeClientMemFree cfg gcdFree ptr s).1.isError = true ∧
      SameBooks s (opteeClientMemFree cfg gcdFree ptr s).2 := by
  by_cases hsig : s.mem.load32 (headerOf cfg.arch ptr) = opteeShmSignature
  · have hfails := h.resolve_left (not_not.mpr hsig)
    have hgcd := hfree (headerRange cfg ptr s) s.gcd
    rw [if_pos hfails] at hgcd
    rw [opteeClientMemFree_status hsig, opteeClientMemFree_failed hsig hfails]
    exact ⟨hfails, hgcd, rfl, rfl⟩
  · rw [opteeClientMemFree]
    simp only [ne_eq, hsig, not_false_eq_true, if_true]
    exact ⟨rfl, rfl, rfl, rfl⟩

/-- A release enters the range that the header describes, if the GCD takes it. -/
lemma freeEntries_eq_of_taken
    (hsig : s.mem.load32 (headerOf cfg.arch ptr) = opteeShmSignature)
    (hok : (gcdFree (headerRange cfg ptr s) s.gcd).1.isError = false) :
    freeEntries cfg gcdFree ptr s = [.released (headerRange cfg ptr s)] := by
  rw [freeEntries, opteeClientMemFree_status hsig, hok, if_neg Bool.false_ne_true]

lemma freeEntries_entered (hfree : GcdFrees gcdFree) :
    Entered s (freeEntries cfg gcdFree ptr s) (opteeClientMemFree cfg gcdFree ptr s).2 := by
  by_cases h : s.mem.load32 (headerOf cfg.arch ptr) ≠ opteeShmSignature ∨
    (gcdFree (headerRange cfg ptr s) s.gcd).1.isError = true
  · obtain ⟨herr, hsame⟩ := opteeClientMemFree_refused hfree h
    rw [freeEntries, if_pos herr]
    exact .of_sameBooks hsame
  · obtain ⟨hsig, hok⟩ := not_or.mp h
    rw [not_not] at hsig
    rw [Bool.not_eq_true] at hok
    obtain ⟨-, hmem, hrun⟩ := opteeClientMemFree_taken hfree hsig hok
    have hlen : (headerRange cfg ptr s).len < 2 ^ 64 := UInt64.toNat_lt _
    rw [freeEntries_eq_of_taken hsig hok, hrun]
    refine ⟨⟨hmem, (Multiset.coe_erase _ _).symm⟩, ?_, ?_, fun _ => ShmState.countersFit_mod _ _⟩
    · simp only [released, granted, Multiset.card_zero, Multiset.card_cons]
      omega
    · simp only [released, granted, bytes_zero, bytes_cons]
      omega

lemma mem_freeEntries (hfree : GcdFrees gcdFree) {r : Span} :
    .released r ∈ freeEntries cfg gcdFree ptr s ↔
      s.mem.load32 (headerOf cfg.arch ptr) = opteeShmSignature ∧ headerRange cfg ptr s = r ∧
        (gcdFree r s.gcd).1.isError = false := by
  by_cases h : s.mem.load32 (headerOf cfg.arch ptr) ≠ opteeShmSignature ∨
    (gcdFree (headerRange cfg ptr s) s.gcd).1.isError = true
  · rw [freeEntries, if_pos (opteeClientMemFree_refused hfree h).1]
    refine iff_of_false List.not_mem_nil ?_
    rintro ⟨hsig, rfl, hok⟩
    rcases h with hne | hfails
    · exact hne hsig
    · rw [hfails] at hok
      cases hok
  · obtain ⟨hsig, hok⟩ := not_or.mp h
    rw [not_not] at hsig
    rw [Bool.not_eq_true] at hok
    rw [freeEntries_eq_of_taken hsig hok, List.mem_singleton, Entry.released.injEq]
    constructor
    · rintro rfl
      exact ⟨hsig, rfl, hok⟩
    · exact fun hr => hr.2.1.symm

/-- A release enters at most one range, and nothing is handed out. -/
lemma freeEntries_card : Multiset.card (released (freeEntries cfg gcdFree ptr s)) ≤ 1 ∧
    granted (freeEntries cfg gcdFree ptr s) = 0 := by
  unfold freeEntries
  split
  · exact ⟨Nat.zero_le 1, rfl⟩
  · exact ⟨le_rfl, rfl⟩

end Entries

/-! ## Calls from the secure world -/

instance (msg : ℕ) (mem : ByteStore) : Decidable (IsValueRequest msg mem) :=
  inferInstanceAs (Decidable (_ ∧ _))

/-- What a call from the secure world asks of the allocator; an allocation may be one that is
answered with an error whatever comes of it. -/
inductive ShmRequest
  | alloc (size byteAlignment : ℕ) (answered : Bool)
  | free (ptr : ℕ)
  | none

/-- What an allocation is to the secure world: the pointer it is given, or a block that it does not
hear of. -/
def heard (answered : Bool) (ptr : ℕ) : Entry Span → Option (Entry ℕ)
  | .granted _ => some (if answered && ptr ≠ 0 then .granted ptr else .withheld ptr)
  | .withheld _ => none
  | .released _ => none

/-- Every block of an allocation is one that the secure world is given or does not hear of. -/
lemma mirrors_heard {answered : Bool} {ptr : ℕ} {es : List (Entry Span)} (hnone : released es = 0) :
    Mirrors (es.filterMap (heard answered ptr)) es := by
  refine ⟨?_, by rw [hnone]; exact Nat.zero_le _⟩
  clear hnone
  induction es with
  | nil => rfl
  | cons e es ih =>
      cases e with
      | granted r =>
          simp only [List.filterMap_cons, heard]
          split
          · simp only [granted, withheld, Multiset.card_cons, ih]
            omega
          · simp only [granted, withheld, Multiset.card_cons, ih]
            omega
      | withheld r =>
          simp only [List.filterMap_cons, heard, granted]
          exact ih
      | released r =>
          simp only [List.filterMap_cons, heard, granted]
          exact ih

namespace ShmRequest

variable (cfg : ShmConfig) (env : RpcEnv)

/-- The state after a request. -/
def serve (s : ShmState) : ShmRequest → ShmState
  | alloc size byteAlignment _ => (internalMemAlloc cfg env.gcdAnswer size byteAlignment s).2
  | free ptr => (opteeClientMemFree cfg env.gcdFree ptr s).2
  | none => s

/-- What a request enters. -/
def entries (s : ShmState) : ShmRequest → List (Entry Span)
  | alloc size byteAlignment _ => allocEntries cfg env.gcdAnswer size byteAlignment s
  | free ptr => freeEntries cfg env.gcdFree ptr s
  | none => []

/-- What a request is to the secure world: a block it asks to free is freed. -/
def own (s : ShmState) : ShmRequest → List (Entry ℕ)
  | alloc size byteAlignment answered =>
      (allocEntries cfg env.gcdAnswer size byteAlignment s).filterMap
        (heard answered (internalMemAlloc cfg env.gcdAnswer size byteAlignment s).1)
  | free ptr => [.released ptr]
  | none => []

/-- The GCD answers as it may. -/
def Answered (s : ShmState) : ShmRequest → Prop
  | alloc size byteAlignment _ => AllocAnswered cfg env.gcdAnswer size byteAlignment s
  | free _ => GcdFrees env.gcdFree
  | none => True

variable {cfg env}

lemma entries_entered {s : ShmState} (request : ShmRequest) (h : request.Answered cfg env s) :
    Entered s (request.entries cfg env s) (request.serve cfg env s) := by
  cases request with
  | alloc size byteAlignment answered => exact allocEntries_entered h
  | free ptr => exact freeEntries_entered h
  | none => exact .of_sameBooks ⟨rfl, rfl, rfl⟩

/-- The secure world asks for what a request enters. -/
lemma own_mirrors {s : ShmState} (request : ShmRequest) :
    Mirrors (request.own cfg env s) (request.entries cfg env s) := by
  cases request with
  | alloc size byteAlignment answered => exact mirrors_heard released_allocEntries
  | free ptr =>
      obtain ⟨hcard, hnone⟩ := @freeEntries_card cfg env.gcdFree ptr s
      refine ⟨?_, hcard⟩
      rw [entries, own, hnone]
      rfl
  | none => exact .nil

end ShmRequest

section Callback

variable (cfg : ShmConfig) (env : RpcEnv) (args : ArmSmcArgs) (msg : ℕ) (s : ShmState)

/-- The request in a command: `OPTEE_MSG_RPC_CMD_SHM_ALLOC` and `OPTEE_MSG_RPC_CMD_SHM_FREE`.  An
allocation of a type that is not known is answered with an error. -/
def cmdRequest : ShmRequest :=
  if IsValueRequest msg s.mem then
    if (s.mem.load32 (msg + MsgArg.cmd)).toNat = 6 then
      .alloc (shmSize cfg msg s) (shmAlignment cfg msg s) (knownShmType (shmType msg s.mem))
    else if (s.mem.load32 (msg + MsgArg.cmd)).toNat = 7 then .free (shmPointer cfg msg s)
    else .none
  else .none

/-- The request in a call from the secure world. -/
def rpcRequest : ShmRequest :=
  let func := opteeSmcReturnGetRpcFunc args.arg0
  if func = opteeSmcRpcFuncAlloc then
    if args.arg1 = 0 then .none else .alloc args.arg1 opteeClientMemByteAlignment true
  else if func = opteeSmcRpcFuncFree then .free (addressP cfg.arch args.arg1 args.arg2)
  else if func = opteeSmcRpcFuncCmd then cmdRequest cfg (addressP cfg.arch args.arg1 args.arg2) s
  else .none

variable {cfg env args msg s}

lemma SameBooks.trans {s' s'' : ShmState} (h : SameBooks s s') (h' : SameBooks s' s'') :
    SameBooks s s'' :=
  ⟨h'.1.trans h.1, h'.2.1.trans h.2.1, h'.2.2.trans h.2.2⟩

lemma sameBooks_mem (s : ShmState) (mem : ByteStore) : SameBooks s { s with mem := mem } :=
  ⟨rfl, rfl, rfl⟩

lemma onMem_books (f : ByteStore → TeecResult × ByteStore) : SameBooks s (onMem f s).2 :=
  ⟨rfl, rfl, rfl⟩

lemma shmAlloc_books : SameBooks (if IsValueRequest msg s.mem then
      (internalMemAlloc cfg env.gcdAnswer (shmSize cfg msg s) (shmAlignment cfg msg s) s).2 else s)
    (opteeRpcCmdShmAlloc cfg env msg s).2 := by
  by_cases hrequest : IsValueRequest msg s.mem
  · rw [if_pos hrequest]
    rcases halloc : internalMemAlloc cfg env.gcdAnswer (shmSize cfg msg s) (shmAlignment cfg msg s) s
      with ⟨buffer, s'⟩
    by_cases hbuffer : buffer = 0
    · subst hbuffer
      rw [shmAlloc_null hrequest halloc]
      exact ⟨rfl, rfl, rfl⟩
    · rw [shmAlloc_granted hrequest halloc hbuffer]
      exact ⟨rfl, rfl, rfl⟩
  · rw [if_neg hrequest, shmAlloc_rejected hrequest]
    exact ⟨rfl, rfl, rfl⟩

lemma shmFree_books : SameBooks (if IsValueRequest msg s.mem then
      (opteeClientMemFree cfg env.gcdFree (shmPointer cfg msg s) s).2 else s)
    (opteeRpcCmdShmFree cfg env msg s).2 := by
  by_cases hrequest : IsValueRequest msg s.mem
  · rw [if_pos hrequest, opteeRpcCmdShmFree, shmFree_request hrequest]
    exact ⟨rfl, rfl, rfl⟩
  · rw [if_neg hrequest, opteeRpcCmdShmFree, shmFree_rejected hrequest]
    exact ⟨rfl, rfl, rfl⟩

/-- A command that is neither of the two asks for nothing. -/
lemma cmdRequest_none (halloc : (s.mem.load32 (msg + MsgArg.cmd)).toNat ≠ 6)
    (hfree : (s.mem.load32 (msg + MsgArg.cmd)).toNat ≠ 7) : cmdRequest cfg msg s = .none := by
  rw [cmdRequest, if_neg halloc, if_neg hfree, ite_self]

lemma opteeRpcCmd_books :
    SameBooks ((cmdRequest cfg msg s).serve cfg env s) (opteeRpcCmd cfg env msg s).2 := by
  unfold opteeRpcCmd
  split
  case h_4 h =>
    have halloc := @shmAlloc_books cfg env msg s
    by_cases hrequest : IsValueRequest msg s.mem
    · rw [if_pos hrequest] at halloc
      rwa [cmdRequest, if_pos hrequest, if_pos h]
    · rw [if_neg hrequest] at halloc
      rwa [cmdRequest, if_neg hrequest]
  case h_5 h =>
    have hfree := @shmFree_books cfg env msg s
    by_cases hrequest : IsValueRequest msg s.mem
    · rw [if_pos hrequest] at hfree
      rwa [cmdRequest, if_pos hrequest, if_neg (by rw [h]; decide), if_pos h]
    · rw [if_neg hrequest] at hfree
      rwa [cmdRequest, if_neg hrequest]
  case h_7 hload hrpmb htime halloc hfree hwait =>
    rw [cmdRequest_none halloc hfree]
    exact ⟨rfl, rfl, rfl⟩
  all_goals
    next h =>
      rw [cmdRequest_none (by rw [h]; decide) (by rw [h]; decide)]
      exact onMem_books _

lemma opteeRpcAlloc_books : SameBooks (if args.arg1 = 0 then s else
      (internalMemAlloc cfg env.gcdAnswer args.arg1 opteeClientMemByteAlignment s).2)
    (opteeRpcAlloc cfg env args s).2.2 := by
  rw [opteeRpcAlloc]
  by_cases hzero : args.arg1 = 0
  · simp only [hzero, if_true]
    exact ⟨rfl, rfl, rfl⟩
  simp only [if_neg hzero, opteeClientMemAlloc]
  rcases internalMemAlloc cfg env.gcdAnswer args.arg1 opteeClientMemByteAlignment s with ⟨p, s'⟩
  simp only
  split
  · exact ⟨rfl, rfl, rfl⟩
  · exact ⟨rfl, rfl, rfl⟩

lemma opteeRpcFree_books :
    SameBooks (opteeClientMemFree cfg env.gcdFree (addressP cfg.arch args.arg1 args.arg2) s).2
      (opteeRpcFree cfg env args s).2.2 := by
  rw [opteeRpcFree]
  rcases opteeClientMemFree cfg env.gcdFree (addressP cfg.arch args.arg1 args.arg2) s with
    ⟨status, s'⟩
  exact ⟨rfl, rfl, rfl⟩

/-- All that a call from the secure world does to GCD map and counters is its request. -/
lemma opteeRpcFunc_books :
    SameBooks ((rpcRequest cfg args s).serve cfg env s) (opteeRpcFunc cfg env args s).2.2 := by
  simp only [opteeRpcFunc, rpcRequest]
  by_cases halloc : opteeSmcReturnGetRpcFunc args.arg0 = opteeSmcRpcFuncAlloc
  · simp only [if_pos halloc]
    have hbooks := @opteeRpcAlloc_books cfg env args s
    split
    · next hzero => rwa [if_pos hzero] at hbooks
    · next hzero => rwa [if_neg hzero] at hbooks
  simp only [if_neg halloc]
  by_cases hfree : opteeSmcReturnGetRpcFunc args.arg0 = opteeSmcRpcFuncFree
  · simp only [if_pos hfree]
    exact opteeRpcFree_books
  simp only [if_neg hfree]
  by_cases hcmd : opteeSmcReturnGetRpcFunc args.arg0 = opteeSmcRpcFuncCmd
  · have hintr : opteeSmcReturnGetRpcFunc args.arg0 ≠ opteeSmcRpcFuncForeignIntr := by
      rw [hcmd]
      decide
    simp only [if_pos hcmd, if_neg hintr]
    refine SameBooks.trans (@opteeRpcCmd_books cfg env (addressP cfg.arch args.arg1 args.arg2) s) ?_
    rcases opteeRpcCmd cfg env (addressP cfg.arch args.arg1 args.arg2) s with ⟨result, s'⟩
    exact ⟨rfl, rfl, rfl⟩
  · simp only [if_neg hcmd]
    split
    · exact ⟨rfl, rfl, rfl⟩
    · exact ⟨rfl, rfl, rfl⟩

lemma opteeRpcCallback_entered (h : (rpcRequest cfg args s).Answered cfg env s) :
    Entered s ((rpcRequest cfg args s).entries cfg env s) (opteeRpcCallback cfg env args s).2.2 := by
  refine ((rpcRequest cfg args s).entries_entered h).sameBooks ?_
  refine SameBooks.trans opteeRpcFunc_books ?_
  rw [opteeRpcCallback]
  rcases opteeRpcFunc cfg env args s with ⟨result, args', s'⟩
  exact ⟨rfl, rfl, rfl⟩

end Callback

section Loop

variable (cfg : ShmConfig)

section Book

variable {α : Type*} (book : RpcEnv → ShmState → ShmRequest → List (Entry α))

/-- The requests that the loop of `OpteeSmcCall` serves, as a ledger books them. -/
def smcBook : List SmcRound → ArmSmcArgs → ShmState → List (Entry α)
  | [], _, _ => []
  | round :: rounds, args, s =>
    match round.smc args s.mem with
    | (args, mem) =>
      if opteeSmcReturnIsRpc args.arg0 then
        book round.env { s with mem := mem } (rpcRequest cfg args { s with mem := mem }) ++
          match opteeRpcCallback cfg round.env args { s with mem := mem } with
          | (_, args, s) => smcBook rounds args s
      else []

end Book

/-- What the loop of `OpteeSmcCall` enters. -/
def smcEntries : List SmcRound → ArmSmcArgs → ShmState → List (Entry Span) :=
  smcBook cfg fun env s request => request.entries cfg env s

/-- What the loop is to the secure world. -/
def smcOwn : List SmcRound → ArmSmcArgs → ShmState → List (Entry ℕ) :=
  smcBook cfg fun env s request => request.own cfg env s

/-- The GCD answers as it may in every round. -/
def RoundsAnswered : List SmcRound → ArmSmcArgs → ShmState → Prop
  | [], _, _ => True
  | round :: rounds, args, s =>
    match round.smc args s.mem with
    | (args, mem) =>
      if opteeSmcReturnIsRpc args.arg0 then
        (rpcRequest cfg args { s with mem := mem }).Answered cfg round.env { s with mem := mem } ∧
          match opteeRpcCallback cfg round.env args { s with mem := mem } with
          | (_, args, s) => RoundsAnswered rounds args s
      else True

variable {cfg}

/-- Whatever the secure world does, the books follow the requests of its calls. -/
lemma opteeSmcLoop_entered {rounds : List SmcRound} {args : ArmSmcArgs} {s s' : ShmState}
    {result : TeecResult} (hanswered : RoundsAnswered cfg rounds args s)
    (hrun : opteeSmcLoop cfg rounds args s = some (result, s')) :
    Entered s (smcEntries cfg rounds args s) s' := by
  induction rounds generalizing args s with
  | nil => cases hrun
  | cons round rounds ih =>
      simp only [opteeSmcLoop] at hrun
      simp only [RoundsAnswered] at hanswered
      simp only [smcEntries, smcBook]
      have hsent : SameBooks s { s with mem := (round.smc args s.mem).2 } := ⟨rfl, rfl, rfl⟩
      by_cases hrpc : opteeSmcReturnIsRpc (round.smc args s.mem).1.arg0 = true
      · rw [if_pos hrpc] at hrun hanswered ⊢
        have hcallback := opteeRpcCallback_entered hanswered.1
        exact (Entered.of_sameBooks hsent).append (hcallback.append (ih hanswered.2 hrun))
      · rw [if_neg hrpc] at hrun ⊢
        refine .of_sameBooks ?_
        split at hrun
        · obtain ⟨-, rfl⟩ := Prod.mk.inj (Option.some.inj hrun)
          exact hsent
        split at hrun
        · obtain ⟨-, rfl⟩ := Prod.mk.inj (Option.some.inj hrun)
          exact hsent
        · obtain ⟨-, rfl⟩ := Prod.mk.inj (Option.some.inj hrun)
          exact hsent

/-- The two ledgers of the loop, request by request. -/
lemma smcOwn_mirrors (rounds : List SmcRound) (args : ArmSmcArgs) (s : ShmState) :
    Mirrors (smcOwn cfg rounds args s) (smcEntries cfg rounds args s) := by
  induction rounds generalizing args s with
  | nil => exact .nil
  | cons round rounds ih =>
      simp only [smcEntries, smcOwn, smcBook]
      by_cases hrpc : opteeSmcReturnIsRpc (round.smc args s.mem).1.arg0 = true
      · rw [if_pos hrpc, if_pos hrpc]
        exact (ShmRequest.own_mirrors _).append (ih _ _)
      · rw [if_neg hrpc, if_neg hrpc]
        exact .nil

end Loop

/-! ## Calls -/

section Balance

variable (cfg : ShmConfig) (gcdAnswer : Option ℕ)
  (gcdFree : Span → List Span → EfiStatus × List Span) (rounds : List SmcRound)

namespace TeecCall

/-- What the secure world enters in a call. -/
def rpcLedger (call : TeecCall) (s : ShmState) : List (Entry Span) :=
  if (call.alloc cfg gcdAnswer s).1 = 0 then []
  else smcEntries cfg rounds (smcCallArgs (call.alloc cfg gcdAnswer s).1)
    (call.sent cfg gcdAnswer s)

/-- The blocks of the secure world in a call: those it is given or not told of, and those it asks to
free. -/
def own (call : TeecCall) (s : ShmState) : List (Entry ℕ) :=
  if (call.alloc cfg gcdAnswer s).1 = 0 then []
  else smcOwn cfg rounds (smcCallArgs (call.alloc cfg gcdAnswer s).1) (call.sent cfg gcdAnswer s)

/-- What the release of the message enters. -/
def exitLedger (call : TeecCall) (s : ShmState) : List (Entry Span) :=
  if (call.alloc cfg gcdAnswer s).1 = 0 then []
  else match call.reply cfg gcdAnswer rounds s with
    | none => []
    | some (_, reply) => freeEntries cfg gcdFree (call.alloc cfg gcdAnswer s).1 reply

/-- The ledger of a call. -/
def ledger (call : TeecCall) (s : ShmState) : List (Entry Span) :=
  allocEntries cfg gcdAnswer call.argSize opteeClientMemByteAlignment s ++
    (call.rpcLedger cfg gcdAnswer rounds s ++ call.exitLedger cfg gcdAnswer gcdFree rounds s)

/-- The range of the message at a base. -/
def messageRange (call : TeecCall) (base : ℕ) : Span :=
  ⟨base, allocBlockSize cfg.arch call.argSize⟩

/-- The GCD answers as it may in the whole call. -/
structure Answered (call : TeecCall) (s : ShmState) : Prop where
  alloc : AllocAnswered cfg gcdAnswer call.argSize opteeClientMemByteAlignment s
  rounds : RoundsAnswered cfg rounds (smcCallArgs (call.alloc cfg gcdAnswer s).1)
    (call.sent cfg gcdAnswer s)
  free : GcdFrees gcdFree

end TeecCall

/-- A call leaks nothing: its message is released exactly once, and where the secure world frees
exactly the blocks that it was given in the call, the allocator is as before. -/
structure LeaksNothing (call : TeecCall) (s s' : ShmState) : Prop where
  freed : ∀ base, gcdAnswer = some base → (call.alloc cfg gcdAnswer s).1 ≠ 0 →
    ReleasedOnce (call.messageRange cfg base) (call.ledger cfg gcdAnswer gcdFree rounds s)
  balanced : ReleasesOwn 0 (call.own cfg gcdAnswer rounds s) → SameAsBefore s s'

/-- A message that the secure world has not released is behind its header still when that world
returns, and the GCD takes it back.  Where the secure world frees exactly its own blocks, it hears
of every block that is allocated for it, no allocation meets a broken fence, and the headers and the
GCD give back for the pointers that are freed what was taken for them. -/
structure Accounted (call : TeecCall) (s : ShmState) : Prop where
  message : ∀ base result reply, gcdAnswer = some base → (call.alloc cfg gcdAnswer s).1 ≠ 0 →
    call.reply cfg gcdAnswer rounds s = some (result, reply) →
    .released (call.messageRange cfg base) ∉ call.rpcLedger cfg gcdAnswer rounds s →
      reply.mem.load32 (headerOf cfg.arch (call.alloc cfg gcdAnswer s).1) = opteeShmSignature ∧
        headerRange cfg (call.alloc cfg gcdAnswer s).1 reply = call.messageRange cfg base ∧
        (gcdFree (call.messageRange cfg base) reply.gcd).1.isError = false
  told : ReleasesOwn 0 (call.own cfg gcdAnswer rounds s) →
    withheld (call.own cfg gcdAnswer rounds s) = 0
  fence : ReleasesOwn 0 (call.own cfg gcdAnswer rounds s) →
    withheld (call.ledger cfg gcdAnswer gcdFree rounds s) = 0
  ranges : ReleasesOwn 0 (call.own cfg gcdAnswer rounds s) →
    withheld (call.own cfg gcdAnswer rounds s) = 0 →
      released (call.ledger cfg gcdAnswer gcdFree rounds s) =
        granted (call.ledger cfg gcdAnswer gcdFree rounds s)

variable {cfg gcdAnswer gcdFree rounds} {call : TeecCall} {s s' : ShmState}

lemma TeecCall.argSize_le (call : TeecCall) : call.argSize ≤ 224 := by
  cases call with
  | openSession sessionId destination op => exact (by decide : opteeMsgGetArgSize (4 + 2) ≤ 224)
  | closeSession sessionId => exact (by decide : opteeMsgGetArgSize 0 ≤ 224)
  | invokeCommand sessionId cmdId op => exact (by decide : opteeMsgGetArgSize (4 + 0) ≤ 224)

/-- A message whose range is fenced is allocated. -/
lemma TeecCall.alloc_ne_zero {base : ℕ} (hanswer : GcdAnswers cfg s call.argSize (some base))
    (hfree : isSharedMemoryRegionFree cfg.arch s.mem base (allocBlockSize cfg.arch call.argSize) ≠
      false) : (call.alloc cfg (some base) s).1 ≠ 0 := by
  obtain ⟨-, halign, hin, -⟩ := hanswer base rfl
  have hheader := headerSize_bounds cfg.arch
  have hsmall := call.argSize_le
  have hbits : 2 ^ 32 ≤ 2 ^ cfg.arch.uintnBits :=
    Nat.pow_le_pow_right (by decide) (by cases cfg.arch <;> decide)
  have hblock : allocBlockSize cfg.arch call.argSize = cfg.arch.headerSize + call.argSize + 4095 :=
    Arch.uintn_of_lt (by simp only [opteeShmAllocAlign, efiPageSize]; omega)
  have hsize : call.argSize ≤ cfg.size := by
    simp only [Span.Within, ShmConfig.pool, hblock] at hin
    omega
  have hgranted : ¬ Refused cfg (some base) call.argSize opteeClientMemByteAlignment s := by
    rintro (hbad | hnone | ⟨base', hbase, hbroken⟩)
    · rw [badAlignment_byteAlignment] at hbad
      cases hbad
    · cases hnone
    · obtain rfl := Option.some.inj hbase
      exact hfree hbroken
  rw [TeecCall.alloc, opteeClientMemAlloc, (internalMemAlloc_granted hgranted).1,
    userBaseAddress_eq halign hsize hin]
  simp only [efiPageSize]
  omega

/-- How a call starts: without a message, and with at most a range that is withheld, or with the
range of its message. -/
lemma TeecCall.alloc_cases (h : AllocAnswered cfg gcdAnswer call.argSize
      opteeClientMemByteAlignment s) :
    ((call.alloc cfg gcdAnswer s).1 = 0 ∧
        granted (allocEntries cfg gcdAnswer call.argSize opteeClientMemByteAlignment s) = 0 ∧
        released (allocEntries cfg gcdAnswer call.argSize opteeClientMemByteAlignment s) = 0) ∨
      ∃ base, gcdAnswer = some base ∧ (call.alloc cfg gcdAnswer s).1 ≠ 0 ∧
        allocEntries cfg gcdAnswer call.argSize opteeClientMemByteAlignment s =
          [.granted (call.messageRange cfg base)] := by
  have hgood := badAlignment_byteAlignment cfg.arch
  cases gcdAnswer with
  | none =>
      refine .inl ?_
      simp only [TeecCall.alloc, opteeClientMemAlloc, internalMemAlloc, allocEntries, hgood,
        Bool.false_eq_true, if_false]
      exact ⟨trivial, rfl, rfl⟩
  | some base =>
      by_cases hbroken : isSharedMemoryRegionFree cfg.arch s.mem base
        (allocBlockSize cfg.arch call.argSize) = false
      · refine .inl ?_
        simp only [TeecCall.alloc, opteeClientMemAlloc, internalMemAlloc, allocEntries, hgood, hbroken,
          Bool.false_eq_true, if_false, if_true]
        exact ⟨trivial, rfl, rfl⟩
      · refine .inr ⟨base, rfl, TeecCall.alloc_ne_zero (h hgood) hbroken, ?_⟩
        simp only [allocEntries, hgood, hbroken, Bool.false_eq_true, if_false]
        rfl

/-- The books follow the ledger of a call. -/
lemma TeecCall.entered (hanswered : call.Answered cfg gcdAnswer gcdFree rounds s)
    (hrun : call.run cfg gcdAnswer gcdFree rounds s = some s') :
    Entered s (call.ledger cfg gcdAnswer gcdFree rounds s) s' := by
  have halloc : Entered s (allocEntries cfg gcdAnswer call.argSize opteeClientMemByteAlignment s)
      (call.alloc cfg gcdAnswer s).2 := allocEntries_entered hanswered.alloc
  rw [call.run_eq] at hrun
  rw [TeecCall.ledger, TeecCall.rpcLedger, TeecCall.exitLedger]
  by_cases hmsg : (call.alloc cfg gcdAnswer s).1 = 0
  · rw [if_pos hmsg] at hrun ⊢
    obtain rfl := Option.some.inj hrun
    rw [if_pos hmsg]
    simpa using halloc
  rw [if_neg hmsg] at hrun ⊢
  rw [if_neg hmsg]
  obtain ⟨⟨result, reply⟩, hreply, rfl⟩ := Option.map_eq_some_iff.mp hrun
  have hsent : Entered s (allocEntries cfg gcdAnswer call.argSize opteeClientMemByteAlignment s)
      (call.sent cfg gcdAnswer s) := halloc.sameBooks ⟨rfl, rfl, rfl⟩
  simp only [hreply]
  exact hsent.append ((opteeSmcLoop_entered hanswered.rounds hreply).append
    (freeEntries_entered hanswered.free))

/-- Where the secure world frees exactly its own blocks, no more is released in a call than is
allocated, even without the blocks it does not hear of. -/
lemma TeecCall.card_le (halloc : AllocAnswered cfg gcdAnswer call.argSize
      opteeClientMemByteAlignment s)
    (hown : ReleasesOwn 0 (call.own cfg gcdAnswer rounds s)) :
    Multiset.card (released (call.ledger cfg gcdAnswer gcdFree rounds s)) +
        Multiset.card (withheld (call.own cfg gcdAnswer rounds s)) ≤
      Multiset.card (granted (call.ledger cfg gcdAnswer gcdFree rounds s)) := by
  rcases TeecCall.alloc_cases halloc with ⟨hmsg, hgranted, hreleased⟩ | ⟨base, rfl, hmsg, hentries⟩
  · rw [TeecCall.ledger, TeecCall.own, TeecCall.rpcLedger, TeecCall.exitLedger, if_pos hmsg,
      if_pos hmsg, if_pos hmsg, List.append_nil, List.append_nil, hreleased, hgranted]
    rfl
  · -- one block for the message, and one at most that its release gives back
    rw [TeecCall.own, if_neg hmsg] at hown ⊢
    have hcard := (smcOwn_mirrors _ _ _).card_le hown
    have hexit : Multiset.card (released (call.exitLedger cfg (some base) gcdFree rounds s)) ≤ 1 := by
      rw [TeecCall.exitLedger, if_neg hmsg]
      split
      · exact Nat.zero_le 1
      · exact freeEntries_card.1
    rw [TeecCall.ledger, TeecCall.rpcLedger, if_neg hmsg, hentries]
    simp only [released_append, granted_append, released, granted, Multiset.card_add,
      Multiset.card_zero, Multiset.card_cons]
    omega

section Message

variable {base : ℕ} {result : TeecResult} {reply : ShmState}

/-- A message that is still out is released exactly where its header describes it and the GCD takes
it back. -/
lemma TeecCall.released_iff (hfree : GcdFrees gcdFree) (hmsg : (call.alloc cfg gcdAnswer s).1 ≠ 0)
    (hentries : allocEntries cfg gcdAnswer call.argSize opteeClientMemByteAlignment s =
      [.granted (call.messageRange cfg base)])
    (hreply : call.reply cfg gcdAnswer rounds s = some (result, reply))
    (hout : .released (call.messageRange cfg base) ∉ call.rpcLedger cfg gcdAnswer rounds s) :
    .released (call.messageRange cfg base) ∈ call.ledger cfg gcdAnswer gcdFree rounds s ↔
      reply.mem.load32 (headerOf cfg.arch (call.alloc cfg gcdAnswer s).1) = opteeShmSignature ∧
        headerRange cfg (call.alloc cfg gcdAnswer s).1 reply = call.messageRange cfg base ∧
        (gcdFree (call.messageRange cfg base) reply.gcd).1.isError = false := by
  rw [TeecCall.ledger, hentries, TeecCall.exitLedger, if_neg hmsg, hreply, List.mem_append,
    List.mem_append]
  simp only [mem_freeEntries hfree]
  constructor
  · rintro (hgranted | hrpc | hexit)
    · exact absurd (List.mem_singleton.mp hgranted) (by simp)
    · exact absurd hrpc hout
    · exact hexit
  · exact fun h => .inr (.inr h)

end Message

/-- The message of a call is freed exactly once exactly where the secure world has freed it or its
header and the GCD let the exit free it. -/
lemma TeecCall.freed_iff (hanswered : call.Answered cfg gcdAnswer gcdFree rounds s)
    (hmap : s.gcd.Nodup) (hrun : call.run cfg gcdAnswer gcdFree rounds s = some s') :
    (∀ base, gcdAnswer = some base → (call.alloc cfg gcdAnswer s).1 ≠ 0 →
        ReleasedOnce (call.messageRange cfg base) (call.ledger cfg gcdAnswer gcdFree rounds s)) ↔
      ∀ base result reply, gcdAnswer = some base → (call.alloc cfg gcdAnswer s).1 ≠ 0 →
        call.reply cfg gcdAnswer rounds s = some (result, reply) →
        .released (call.messageRange cfg base) ∉ call.rpcLedger cfg gcdAnswer rounds s →
          reply.mem.load32 (headerOf cfg.arch (call.alloc cfg gcdAnswer s).1) =
              opteeShmSignature ∧
            headerRange cfg (call.alloc cfg gcdAnswer s).1 reply = call.messageRange cfg base ∧
            (gcdFree (call.messageRange cfg base) reply.gcd).1.isError = false := by
  have hentered := TeecCall.entered hanswered hrun
  rcases TeecCall.alloc_cases hanswered.alloc with ⟨hmsg, -, -⟩ | ⟨base, rfl, hmsg, hentries⟩
  · exact iff_of_true (fun _ _ hne => absurd hmsg hne) fun _ _ _ _ hne => absurd hmsg hne
  obtain ⟨⟨result, reply⟩, hreply, -⟩ : ∃ reply, call.reply cfg (some base) rounds s = some reply ∧
      freeMessage cfg gcdFree (call.alloc cfg (some base) s).1 reply.2 = s' := by
    rw [call.run_eq, if_neg hmsg] at hrun
    exact Option.map_eq_some_iff.mp hrun
  have hreleased := TeecCall.released_iff hanswered.free hmsg hentries hreply
  constructor
  · rintro hfreed base' result' reply' hbase - hreply' hout
    obtain rfl := Option.some.inj hbase
    obtain ⟨rfl, rfl⟩ := Prod.mk.inj (Option.some.inj (hreply.symm.trans hreply'))
    exact (hreleased hout).mp (hfreed base rfl hmsg).1
  · rintro hmessage base' hbase -
    obtain rfl := Option.some.inj hbase
    refine hentered.map.releasedOnce (Multiset.coe_nodup.mpr hmap) ?_
    by_cases hrpc : .released (call.messageRange cfg base) ∈
      call.rpcLedger cfg (some base) rounds s
    · exact List.mem_append_right _ (List.mem_append_left _ hrpc)
    · exact (hreleased hrpc).mpr (hmessage base result reply rfl hmsg hreply hrpc)

end Balance

/-! ### Rounds -/

section Rounds

variable {cfg : ShmConfig} {round : SmcRound} {rounds : List SmcRound} {args args' : ArmSmcArgs}
  {s : ShmState} {mem : ByteStore}

lemma smcBook_rpc {α : Type*} {book : RpcEnv → ShmState → ShmRequest → List (Entry α)}
    (hsmc : round.smc args s.mem = (args', mem)) (hrpc : opteeSmcReturnIsRpc args'.arg0 = true) :
    smcBook cfg book (round :: rounds) args s =
      book round.env { s with mem := mem } (rpcRequest cfg args' { s with mem := mem }) ++
        smcBook cfg book rounds (opteeRpcCallback cfg round.env args' { s with mem := mem }).2.1
          (opteeRpcCallback cfg round.env args' { s with mem := mem }).2.2 := by
  simp only [smcBook, hsmc, hrpc, if_true]

lemma roundsAnswered_rpc (hsmc : round.smc args s.mem = (args', mem))
    (hrpc : opteeSmcReturnIsRpc args'.arg0 = true) :
    RoundsAnswered cfg (round :: rounds) args s ↔
      (rpcRequest cfg args' { s with mem := mem }).Answered cfg round.env { s with mem := mem } ∧
        RoundsAnswered cfg rounds (opteeRpcCallback cfg round.env args' { s with mem := mem }).2.1
          (opteeRpcCallback cfg round.env args' { s with mem := mem }).2.2 := by
  simp only [RoundsAnswered, hsmc, hrpc, if_true]

lemma opteeSmcLoop_rpc (hsmc : round.smc args s.mem = (args', mem))
    (hrpc : opteeSmcReturnIsRpc args'.arg0 = true) :
    opteeSmcLoop cfg (round :: rounds) args s =
      opteeSmcLoop cfg rounds (opteeRpcCallback cfg round.env args' { s with mem := mem }).2.1
        (opteeRpcCallback cfg round.env args' { s with mem := mem }).2.2 := by
  simp only [opteeSmcLoop, hsmc, hrpc, if_true]

end Rounds

/-- A round that returns at once. -/
def returningRound (f : ByteStore → ByteStore) : SmcRound :=
  ⟨fun args mem => ({ args with arg0 := opteeSmcReturnOk }, f mem), bareFirmware⟩

lemma opteeSmcLoop_returningRound (cfg : ShmConfig) (f : ByteStore → ByteStore) (args : ArmSmcArgs)
    (s : ShmState) :
    opteeSmcLoop cfg [returningRound f] args s = some (teecSuccess, { s with mem := f s.mem }) := by
  simp [opteeSmcLoop, returningRound, opteeSmcReturnIsRpc, opteeSmcReturnOk,
    opteeSmcReturnUnknownFunction]

lemma opteeSmcCall_returningRound (cfg : ShmConfig) (f : ByteStore → ByteStore) (msg : ℕ)
    (s : ShmState) :
    opteeSmcCall cfg [returningRound f] msg s = some (teecSuccess, { s with mem := f s.mem }) :=
  opteeSmcLoop_returningRound _ _ _ _

lemma smcBook_returningRound {α : Type*} (book : RpcEnv → ShmState → ShmRequest → List (Entry α))
    (cfg : ShmConfig) (f : ByteStore → ByteStore) (args : ArmSmcArgs) (s : ShmState) :
    smcBook cfg book [returningRound f] args s = [] := by
  simp [smcBook, returningRound, opteeSmcReturnIsRpc, opteeSmcReturnOk,
    opteeSmcReturnUnknownFunction]

lemma returningRound_answered (cfg : ShmConfig) (f : ByteStore → ByteStore) (args : ArmSmcArgs)
    (s : ShmState) : RoundsAnswered cfg [returningRound f] args s := by
  simp [RoundsAnswered, returningRound, opteeSmcReturnIsRpc, opteeSmcReturnOk,
    opteeSmcReturnUnknownFunction]

/-! A command, during which the secure world asks for sixteen bytes of a type and is done. -/

section Command

-- the ledger of a fixed call is for the lemmas to go through, not for the unifier
attribute [local irreducible] ReleasesOwn

/-- The call, in a pool of four pages. -/
def commandCall : TeecCall := .invokeCommand 1 0 onesOperation

def freshState : ShmState := gcdSharedMemoryInit fourPagePool fun _ => 0

/-- The state in which the secure world is entered. -/
def commandSent : ShmState := commandCall.sent fourPagePool (some 16384) freshState

/-- The registers of `OPTEE_SMC_RPC_FUNC_CMD` with the message of the call. -/
def shmAllocArgs : ArmSmcArgs := ⟨0xFFFF0005, 0, 20480, 0, 0, 0, 0, 0⟩

/-- `OPTEE_MSG_RPC_CMD_SHM_ALLOC` for sixteen bytes of a type. -/
def shmAllocMessage (type : UInt64) : List UInt8 :=
  ((shmRequest type).store32 (20480 + MsgArg.cmd) 6).read 20480 64

/-- The secure world asks in the message of the call, and the GCD gives the first page. -/
def shmAllocRound (type : UInt64) : SmcRound :=
  ⟨fun _ mem => (shmAllocArgs, mem.write 20480 (shmAllocMessage type)), firstPageFirmware⟩

def commandRounds (type : UInt64) : List SmcRound := [shmAllocRound type, returningRound id]

/-- The state in which the secure world asks. -/
def askedState (type : UInt64) : ShmState :=
  { commandSent with mem := commandSent.mem.write 20480 (shmAllocMessage type) }

lemma freshState_answers : GcdAnswers fourPagePool freshState 160 (some 16384) := by
  rintro base ⟨⟩
  exact ⟨by decide, ⟨4, rfl⟩, by decide, fun r hr => by cases hr⟩

/-- The message is on the upper pages when the secure world is entered. -/
lemma commandSent_inv :
    (commandCall.alloc fourPagePool (some 16384) freshState).1 = 20480 ∧
      ShmInv fourPagePool ⟨commandSent, [⟨16384, 20480, 160⟩]⟩ := by
  have hgcd := (freshState_answers 16384 rfl).2
  have hinit : ShmInv fourPagePool ⟨freshState, []⟩ := .init _
  have hrun := @ShmInv.internalMemAlloc_eq _ _ _ hinit 16384 160 16 (by decide) hgcd (by decide)
  have hallowed : AllowedAlloc fourPagePool ⟨freshState, []⟩ 160 (some 16384) := by
    refine ⟨by decide, ?_⟩
    rintro base ⟨⟩
    exact hgcd
  have halloc := @ShmInv.alloc _ _ _ hinit 160 16 (some 16384) hallowed
  rcases hcall : commandCall.alloc fourPagePool (some 16384) freshState with ⟨msg, s⟩
  have hsame : internalMemAlloc fourPagePool (some 16384) 160 16 freshState = (msg, s) := hcall
  obtain rfl : 20480 = msg := congrArg Prod.fst (hrun.symm.trans hsame)
  rw [hsame] at halloc
  refine ⟨rfl, ?_⟩
  have hsent : commandSent = { s with
      mem := (SmcCall.invokeCommand 1 0).message .aarch64 onesOperation 20480 s.mem } := by
    rw [commandSent, TeecCall.sent, hcall]
    rfl
  rw [hsent]
  refine @ShmInv.of_frame _ _ _ halloc _ fun x hx => invokeMessage_apply_off ?_
  have hout := hx ⟨16384, 20480, 160⟩ List.mem_cons_self
  simp only [Span.Has, ShmBlock.userSpan] at hout
  omega

lemma askedState_eq (type : UInt64) :
    askedState type = { commandSent with mem := (askedState type).mem } := rfl

lemma askedState_inv (type : UInt64) :
    ShmInv fourPagePool ⟨askedState type, [⟨16384, 20480, 160⟩]⟩ := by
  have hlen : (shmAllocMessage type).length = 64 := ByteStore.length_read
  exact @ShmInv.clientWrite _ _ _ _ commandSent_inv.2 List.mem_cons_self 0 (shmAllocMessage type)
    (by rw [hlen]; decide)

lemma askedState_mem {type : UInt64} {i : ℕ} (hi : i < 64) : (askedState type).mem (20480 + i) =
    (shmRequest type).store32 (20480 + MsgArg.cmd) 6 (20480 + i) := by
  simp only [askedState, shmAllocMessage]
  rw [← ByteStore.blit_eq_write, ByteStore.blit_apply_on hi]

lemma askedState_holds (type : UInt64) : HoldsRequest type (askedState type) := by
  intro i hlo hi
  rw [askedState_mem hi, ByteStore.store32_apply_off (by simp only [MsgArg.cmd]; omega)]

lemma askedState_cmd (type : UInt64) :
    ((askedState type).mem.load32 (20480 + MsgArg.cmd)).toNat = 6 := by
  have hload : (askedState type).mem.load32 (20480 + MsgArg.cmd) =
      ((shmRequest type).store32 (20480 + MsgArg.cmd) 6).load32 (20480 + MsgArg.cmd) :=
    ByteStore.load32_congr fun i hi => askedState_mem (by omega)
  rw [hload, ByteStore.load32_store32_same]
  rfl

/-- The request that the secure world makes. -/
lemma askedState_request (type : UInt64) : rpcRequest fourPagePool shmAllocArgs (askedState type) =
    .alloc 16 0 (knownShmType type) := by
  have hholds := askedState_holds type
  have hmsg : addressP fourPagePool.arch shmAllocArgs.arg1 shmAllocArgs.arg2 = 20480 := by decide
  have hfunc : opteeSmcReturnGetRpcFunc shmAllocArgs.arg0 = opteeSmcRpcFuncCmd := by decide
  rw [rpcRequest, hfunc, hmsg]
  simp only [cmdRequest, hholds.isValueRequest, askedState_cmd, hholds.size_eq, hholds.alignment_eq,
    hholds.type_eq, if_true]
  rfl

lemma askedState_answers (type : UInt64) :
    GcdAnswers fourPagePool (askedState type) 16 (some 8192) := by
  rintro base ⟨⟩
  refine ⟨by decide, ⟨2, rfl⟩, by decide, fun r hr => ?_⟩
  rw [(askedState_inv type).gcd.mem_iff, List.map_singleton, List.mem_singleton] at hr
  subst hr
  decide

/-- The block is taken, and the secure world hears of it if it knows the type. -/
lemma askedState_own (type : UInt64) :
    (ShmRequest.alloc 16 0 (knownShmType type)).own fourPagePool firstPageFirmware
      (askedState type) = [if knownShmType type then .granted 12288 else .withheld 12288] := by
  have hgcd := (askedState_answers type 8192 rfl).2
  have hrun := @ShmInv.internalMemAlloc_eq _ _ _ (askedState_inv type) 8192 16 0 (by decide) hgcd
    (by decide)
  have hfree := (askedState_inv type).isFree hgcd
  have hentries : allocEntries fourPagePool (some 8192) 16 0 (askedState type) =
      [.granted ⟨8192, allocBlockSize fourPagePool.arch 16⟩] := by
    have hgood : badAlignment fourPagePool.arch 0 = false := by decide
    simp only [allocEntries, hgood, hfree, Bool.false_eq_true, Bool.true_eq_false, if_false]
  rw [ShmRequest.own, firstPageFirmware, hentries, hrun]
  cases knownShmType type <;> rfl

lemma shmAllocRound_smc (type : UInt64) (args : ArmSmcArgs) :
    (shmAllocRound type).smc args commandSent.mem = (shmAllocArgs, (askedState type).mem) := rfl

lemma shmAllocArgs_isRpc : opteeSmcReturnIsRpc shmAllocArgs.arg0 = true := by decide

lemma commandCall_alloc : (commandCall.alloc fourPagePool (some 16384) freshState).1 ≠ 0 := by
  rw [commandSent_inv.1]
  decide

lemma commandCall_own (type : UInt64) :
    commandCall.own fourPagePool (some 16384) (commandRounds type) freshState =
      [if knownShmType type then .granted 12288 else .withheld 12288] := by
  rw [TeecCall.own, if_neg commandCall_alloc, smcOwn, commandRounds, ← commandSent,
    smcBook_rpc (shmAllocRound_smc type _) shmAllocArgs_isRpc, smcBook_returningRound,
    List.append_nil, ← askedState_eq, askedState_request]
  exact askedState_own type

lemma commandCall_answered (type : UInt64) : commandCall.Answered fourPagePool (some 16384)
    freeMemorySpace (commandRounds type) freshState where
  alloc _ := freshState_answers
  rounds := by
    rw [commandRounds, ← commandSent,
      roundsAnswered_rpc (shmAllocRound_smc type _) shmAllocArgs_isRpc, ← askedState_eq,
      askedState_request]
    exact ⟨fun _ => askedState_answers type, returningRound_answered _ _ _ _⟩
  free := freeMemorySpace_frees

lemma commandCall_run (type : UInt64) : ∃ s', commandCall.run fourPagePool (some 16384)
    freeMemorySpace (commandRounds type) freshState = some s' := by
  rw [TeecCall.run_eq, if_neg commandCall_alloc, TeecCall.reply, opteeSmcCall, commandRounds,
    ← commandSent, opteeSmcLoop_rpc (shmAllocRound_smc type _) shmAllocArgs_isRpc,
    opteeSmcLoop_returningRound]
  exact ⟨_, rfl⟩

end Command

end Optee
end MuPlatform
