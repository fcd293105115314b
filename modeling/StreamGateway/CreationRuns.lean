import StreamGateway.FairLock
import StreamGateway.FirstReports

/-!
# Runs of a creation

The handler of a creation runs next to the processor and the tasks, under a fair lock. For a
UDP or an SPTS input the request for the write guard follows the spawn without a pause, so it
is served before the processor can ask on behalf of a report, and no report is lost. For an
SRT input the handler waits for the state sender in between. What is recorded there in the end
is the last report, provided that the entry comes in time: the last report so far is still
underway, or it says what the entry says anyway.
-/
namespace StreamGateway

open Prog

variable {k : Int} {status : StreamStatus} {h : Option LockMode}

/-! ## The calls -/

/-- What the processor does under the guard, and after it. -/
def applyMessage : Prog World Unit :=
  .step (fun w => (applyProcessing w).2) fun w => .release (match (applyProcessing w).1 with
    | none => .ret ()
    | some (change, t) => atomic (recordTransition change t))

theorem processMessage_eq :
    processMessage = .step (fun w => (receive w).2) fun _ => .acquire .write applyMessage := rfl

/-- The stages of the processor. It applies a message under the guard only. -/
inductive ProcessorStage : Thread World → Prop
  | idle (held : Option LockMode) : ProcessorStage ⟨.ret (), held⟩
  | taking : ProcessorStage ⟨processMessage, none⟩
  | waiting : ProcessorStage ⟨.acquire .write applyMessage, none⟩
  | applying : ProcessorStage ⟨applyMessage, some .write⟩
  | recording (change : StateChange) (t : Transition) :
      ProcessorStage ⟨atomic (recordTransition change t), none⟩

/-- A step of the processor takes a message, and the request for the guard follows. Or it
applies the message that was taken, or it is quiet. -/
theorem ProcessorStage.act {update : World → World} {rest : World → Prog World Unit}
    {held : Option LockMode} (h : ProcessorStage ⟨.step update rest, held⟩) (w : World) :
    ProcessorStage (.settled (rest w) held) ∧
      ((update w = (receive w).2 ∧ (Thread.settled (rest w) held).asks = true) ∨
        (held = some .write ∧ update w = (applyProcessing w).2) ∨
        ((update w).db = w.db ∧ Quiet w (update w))) := by
  generalize ht : (⟨.step update rest, held⟩ : Thread World) = t at h
  cases h with
  | idle => exact absurd ht (by simp)
  | waiting => exact absurd ht (by simp)
  | taking =>
    obtain ⟨hp, rfl⟩ := Thread.mk.inj ht
    obtain ⟨rfl, rfl⟩ := Prog.step.inj hp
    exact ⟨.waiting, .inl ⟨rfl, rfl⟩⟩
  | applying =>
    obtain ⟨hp, rfl⟩ := Thread.mk.inj ht
    obtain ⟨rfl, rfl⟩ := Prog.step.inj hp
    refine ⟨?_, .inr (.inl ⟨rfl, rfl⟩)⟩
    rw [Thread.settled_release]
    split
    · exact .idle none
    · exact .recording _ _
  | recording change t =>
    obtain ⟨hp, rfl⟩ := Thread.mk.inj ht
    obtain ⟨rfl, rfl⟩ := Prog.step.inj hp
    exact ⟨.idle none, .inr (.inr ⟨rfl, rfl, .nil rfl rfl rfl rfl rfl⟩)⟩

/-- Once it has its guard, the processor is about to apply the message. -/
theorem ProcessorStage.grant {mode : LockMode} {rest : Prog World Unit}
    (h : ProcessorStage ⟨.acquire mode rest, none⟩) :
    ProcessorStage (.settled rest (some mode)) := by
  generalize ht : (⟨.acquire mode rest, none⟩ : Thread World) = t at h
  cases h with
  | waiting =>
    obtain ⟨hp, -⟩ := Thread.mk.inj ht
    obtain ⟨rfl, rfl⟩ := Prog.acquire.inj hp
    exact .applying
  | idle | taking | applying | recording => exact absurd ht (by simp [processMessage_eq,
      applyMessage, atomic])

/-- The call asks for the write guard without a pause, and the input is entered under it. -/
def Entering {α : Type} (k : Int) : Prog World α → Prop
  | .release rest => Entering k rest
  | .acquire .write (.step update _) => ∀ w, k ∈ (update w).streams
  | _ => False

/-- No task is spawned for the input. -/
def Spares (k : Int) (w w' : World) : Prop :=
  ∀ t ∈ w'.rt.spawned, t.spec.owner = .input k → t ∈ w.rt.spawned

/-- When a step spawns a task for the input, the entry follows without a pause. -/
def Prompt {α : Type} (k : Int) : Prog World α → (α → Prop) → Prop
  | .ret r, Q => Q r
  | .acquire _ rest, Q => Prompt k rest Q
  | .release rest, Q => Prompt k rest Q
  | .step update rest, Q => ∀ w, Entering k (rest w) ∨
      (Spares k w (update w) ∧ Prompt k (rest w) Q)

section Prompt

variable {α β : Type} {p : Prog World α} {f : α → Prog World β} {Q : α → Prop} {Q' : β → Prop}

theorem Entering.bind (h : Entering k p) : Entering k (p >>= f) := by
  induction p with
  | ret r => exact absurd h id
  | acquire mode rest =>
    cases mode with
    | read => exact absurd h id
    | write =>
      cases rest with
      | step update rest => exact h
      | ret | acquire | release => exact absurd h id
  | release rest ih => exact ih h
  | step update rest => exact absurd h id

theorem Prompt.bind (hp : Prompt k p Q) (hf : ∀ r, Q r → Prompt k (f r) Q') :
    Prompt k (p >>= f) Q' := by
  induction p with
  | ret r => exact hf r hp
  | acquire mode rest ih => exact ih hp
  | release rest ih => exact ih hp
  | step update rest ih => exact fun w => (hp w).imp Entering.bind fun h => ⟨h.1, ih w h.2⟩

theorem Prompt.ignore (hp : Prompt k p Q) : Prompt k p.ignore fun _ => True :=
  hp.bind fun _ _ => trivial

theorem Prompt.settled {p : Prog World Unit} {Q : Unit → Prop} (hp : Prompt k p Q)
    (held : Option LockMode) : Prompt k (Thread.settled p held).rest Q := by
  induction p generalizing held with
  | ret r => exact hp
  | acquire mode rest => exact hp
  | release rest ih => exact ih hp none
  | step update rest => exact hp

theorem Entering.settled {p : Prog World Unit} (hp : Entering k p) (held : Option LockMode) :
    ∃ update rest, (Thread.settled p held).rest = .acquire .write (.step update rest) ∧
      ∀ w, k ∈ (update w).streams := by
  induction p generalizing held with
  | ret r => exact absurd hp id
  | acquire mode rest =>
    cases mode with
    | read => exact absurd hp id
    | write =>
      cases rest with
      | step update rest => exact ⟨update, rest, rfl, hp⟩
      | ret | acquire | release => exact absurd hp id
  | release rest ih => exact ih hp none
  | step update rest => exact absurd hp id

theorem prompt_atomic {f : World → α × World} (h : ∀ w, Spares k w (f w).2) :
    Prompt k (atomic f) fun _ => True := fun w => .inr ⟨h w, trivial⟩

theorem Prog.Looks.prompt (h : p.Looks) : Prompt k p fun _ => True := by
  induction p with
  | ret r => trivial
  | acquire mode rest => exact absurd h id
  | release rest => exact absurd h id
  | step update rest ih =>
    intro w
    obtain ⟨hsame, hrest⟩ := h w
    rw [hsame]
    exact .inr ⟨fun t ht _ => ht, ih w hrest⟩

end Prompt

/-- The requests whose handler waits for the state sender after the spawn. -/
def CreateInputRequest.isSrt : CreateInputRequest → Bool
  | .srt .. => true
  | .udp .. | .spts .. => false

theorem isSrt_withAssignedPort (req : CreateInputRequest) (port : UInt16) :
    (req.withAssignedPort port).isSrt = req.isSrt := by
  cases req with
  | udp | spts => rfl
  | srt name config => cases config <;> rfl

theorem Spares.refl (w : World) : Spares k w w := fun _ ht _ => ht

theorem Quiet.spares {w w' : World} (h : Quiet w w') : Spares k w w' := by
  intro t ht _
  rwa [h.runtime.spawned, List.append_nil] at ht

/-- A task of another input is spawned. -/
theorem spares_launches {w w' : World} {ts : List Task} (h : Launches ts w.rt w'.rt)
    (hts : ∀ t ∈ ts, t.spec.owner ≠ .input k) : Spares k w w' := by
  intro t ht ho
  rw [h.spawned] at ht
  exact (List.mem_append.mp ht).resolve_right fun ht => hts t ht ho

section Creation

variable {α : Type} {Q : α → Prop} {f : Except HttpError InputInfo → Prog World α}

/-- The task of a UDP or an SPTS input is spawned right before the rest of the handler. -/
theorem prompt_spawnInput {req : CreateInputRequest} (hreq : req.isSrt = false) (id : Int)
    (name : Option String) (hok : ∀ info, info.id = k → Entering k (f (.ok info)))
    (hf : ∀ r, Prompt k (f r) Q) : Prompt k (spawnInput req id name >>= f) Q := by
  cases req with
  | srt => exact absurd hreq (by simp [CreateInputRequest.isSrt])
  | udp =>
    intro w
    by_cases hid : id = k
    · exact .inl (hok _ hid)
    · refine .inr ⟨spares_launches (launches_input w.rt _) fun t ht => ?_, hf _⟩
      obtain rfl := List.mem_singleton.mp ht
      exact fun ho => hid (Owner.input.inj ho)
  | spts sourceInputId programNumber fillWithNulls reqName =>
    intro w
    show Entering k (.release (f (spawnSptsSection id sourceInputId programNumber fillWithNulls
      name w).1)) ∨ Spares k w (spawnSptsSection id sourceInputId programNumber fillWithNulls
      name w).2 ∧ Prompt k (f (spawnSptsSection id sourceInputId programNumber fillWithNulls
      name w).1) Q
    unfold spawnSptsSection
    split
    · exact .inr ⟨.refl w, hf _⟩
    · by_cases hid : id = k
      · exact .inl (hok _ hid)
      · refine .inr ⟨spares_launches (launches_input w.rt _) fun t ht => ?_, hf _⟩
        obtain rfl := List.mem_singleton.mp ht
        exact fun ho => hid (Owner.input.inj ho)

theorem entering_installInput {info : InputInfo} (id : Int) (name : Option String)
    (assignedPort : Option UInt16) (hid : info.id = k) :
    Entering k (installInput id name assignedPort info) :=
  fun _ => (AList.mem_insert _).mpr (.inl hid.symm)

theorem prompt_installInput (id : Int) (name : Option String) (assignedPort : Option UInt16)
    (info : InputInfo) : Prompt k (installInput id name assignedPort info) fun _ => True :=
  fun _ => .inr ⟨fun _ ht _ => ht, trivial⟩

theorem prompt_installFailedInput (env : Env) (id : Int) (name : Option String)
    (finalReq : CreateInputRequest) (e : HttpError) :
    Prompt k (installFailedInput env id name finalReq e) fun _ => True := by
  refine Prompt.bind (Q := fun _ => True) (prompt_atomic fun w t ht _ => ht) fun info _ => ?_
  refine Prompt.bind (Q := fun _ => True) (prompt_atomic fun w t ht _ => ht) fun _ _ => ?_
  exact Prompt.bind (Q := fun _ => True) (prompt_atomic fun w => (quiet_query env _ _ w).spares)
    fun _ _ => trivial

theorem prompt_assignInputPort (env : Env) (req : CreateInputRequest) :
    Prompt k (assignInputPort env req) fun r =>
      ∀ finalReq assignedPort, r = .ok (finalReq, assignedPort) → finalReq.isSrt = req.isSrt := by
  unfold assignInputPort
  split
  · refine Prompt.bind (looks_findAvailablePort env).prompt fun r _ => ?_
    cases r with
    | error e => exact fun _ _ heq => absurd heq (by simp)
    | ok port =>
      intro finalReq assignedPort heq
      obtain ⟨rfl, _⟩ := Prod.mk.inj (Except.ok.inj heq)
      exact isSrt_withAssignedPort req port
  · intro finalReq assignedPort heq
    obtain ⟨rfl, _⟩ := Prod.mk.inj (Except.ok.inj heq)
    rfl

/-- A UDP or an SPTS input is entered without a pause. -/
theorem prompt_createInput (env : Env) {req : CreateInputRequest} (hreq : req.isSrt = false) :
    Prompt k (createInput env req) fun _ => True := by
  unfold createInput
  split
  · trivial
  refine Prompt.bind (prompt_assignInputPort env req) fun r hr => ?_
  rcases r with r | ⟨finalReq, assignedPort⟩
  · trivial
  have hfinal : finalReq.isSrt = false := (hr finalReq assignedPort rfl).trans hreq
  refine Prompt.bind (Q := fun _ => True)
    (prompt_atomic fun w => (quiet_query env _ _ w).spares) fun r _ => ?_
  cases r with
  | error e => trivial
  | ok id =>
    refine prompt_spawnInput hfinal id _ (fun info hid => entering_installInput id _ _ hid)
      fun r => ?_
    cases r with
    | ok info => exact prompt_installInput id _ _ info
    | error e => exact prompt_installFailedInput env id _ _ e

end Creation

/-! ## Runs -/

/-- The two calls. -/
inductive Party
  | creator | processor
  deriving DecidableEq

instance : Fintype Party := ⟨{.creator, .processor}, fun i => by cases i <;> decide⟩

/-- A task returns, or time passes. -/
def Elapses (w w' : World) : Prop := TaskStep w w' ∧ w'.rt.queue = w.rt.queue

/-- One step of the handler, of the processor or of a task. The processor takes one message
after the other. The reports on the input are logged as they are sent. -/
inductive CreationStep (k : Int) :
    FairPool Party World × List StreamStatus → FairPool Party World × List StreamStatus → Prop
  | move {a b : FairPool Party World} {log : List StreamStatus} :
      FairPool.Step (fun i p => i = .processor ∧ p = processMessage) Elapses a b →
      CreationStep k (a, log) (b, log)
  | send {a : FairPool Party World} {log : List StreamStatus} {e : Envelope} :
      a.shared.rt.Running e.sender → e.sender.spec.Sends e.change →
      CreationStep k (a, log)
        ({ a with shared := a.shared.send e }, log ++ (e.change.reportOn k).toList)

/-- When the input is entered, the last report so far is still underway, or it is of the status
that the input has anyway. -/
def EnteredInTime (k : Int) (status : StreamStatus)
    (a b : FairPool Party World × List StreamStatus) : Prop :=
  k ∉ a.1.shared.streams → k ∈ b.1.shared.streams →
    ∀ s, a.2.getLast? = some s → a.1.shared.reports k ≠ [] ∨ s = status

/-- The handler starts, and the processor waits for a message. -/
def creationStart (env : Env) (req : CreateInputRequest) (w : World) : FairPool Party World :=
  FairPool.goOn ⟨w, fun _ => ⟨.ret (), none⟩, []⟩ .creator
    (.settled (createInput env req).ignore none)

/-- The runs of one call that creates an input, next to the processor and the tasks. The call
starts in the given state, with an empty log. -/
def CreationRun
    (C : FairPool Party World × List StreamStatus → FairPool Party World × List StreamStatus →
      Prop) (env : Env) (req : CreateInputRequest) (w : World) (a : FairPool Party World)
    (log : List StreamStatus) : Prop :=
  Relation.ReflTransGen (fun a b => CreationStep w.nextInputId a b ∧ C a b)
    (creationStart env req w, []) (a, log)

theorem creationRely_refl (h : Option LockMode) (w : World) : creationRely h w w :=
  ⟨rfl, rfl, fun _ hi => hi⟩

theorem creationRely_receive (h : Option LockMode) (w : World) :
    creationRely h w (receive w).2 := by
  unfold receive
  split <;> exact ⟨rfl, rfl, fun _ hi => hi⟩

theorem creationRely_apply (h : Option LockMode) (w : World) :
    creationRely h w (applyProcessing w).2 := by
  have hc := Section.apply.confined (w := w) (k := .apply) (by simp [confinedKinds])
  refine ⟨applyProcessing_db w, ?_, hc.entries⟩
  unfold applyProcessing
  split <;> rfl

theorem creationRely_quiet {w w' : World} (h : Option LockMode) (hdb : w'.db = w.db)
    (hq : Quiet w w') : creationRely h w w' := by
  refine ⟨hdb, ?_, ?_⟩
  · rw [hq.runtime.spawned, List.append_nil]
  · rw [hq.streams]
    exact fun _ hi => hi

theorem TaskStep.relied {h : Option LockMode} {w w' : World} (ht : TaskStep w w') :
    creationRely h w w' := by
  cases ht <;> exact ⟨rfl, rfl, fun _ hi => hi⟩

theorem Recorded.act {w w' : World} {log : List StreamStatus} (h : Recorded k w log)
    (ha : CreationAct k status w w')
    (htime : k ∉ w.streams → k ∈ w'.streams →
      ∀ s, log.getLast? = some s → w.reports k ≠ [] ∨ s = status) : Recorded k w' log := by
  cases ha with
  | aside ts hs hl => exact h.launches hs hl
  | enter info hid habsent hstatus =>
    refine h.enter hid hstatus (htime habsent ?_)
    exact (AList.mem_insert _).mpr (.inl hid.symm)

theorem Recorded.elapses {w w' : World} {log : List StreamStatus} (h : Recorded k w log)
    (ht : Elapses w w') : Recorded k w' log := by
  obtain ⟨ht, hqueue⟩ := ht
  cases ht with
  | @send e _ _ =>
    have : w.rt.queue ++ [e] = w.rt.queue := hqueue
    simp at this
  | finish _ => exact h.of_same rfl rfl (List.Subset.refl _)
  | tick _ => exact h.of_same rfl rfl (List.Subset.refl _)

/-- The handler creates the input and the processor handles messages. The log is recorded. -/
structure CreationInv (k : Int) (status : StreamStatus) (a : FairPool Party World)
    (log : List StreamStatus) : Prop where
  orderly : a.Orderly
  creator : (a.threads .creator).rest.Behaves creationRely (fun _ => CreationAct k status)
    (a.threads .creator).held a.shared fun _ _ _ => True
  processor : ProcessorStage (a.threads .processor)
  recorded : Recorded k a.shared log

section CreationInv

variable {a b : FairPool Party World} {log : List StreamStatus}

theorem CreationInv.start {env : Env} {req : CreateInputRequest} {w : World}
    (hw : Reachable w) :
    CreationInv w.nextInputId req.firstStatus (creationStart env req w) [] := by
  have hidle : FairPool.Orderly (⟨w, fun _ => ⟨.ret (), none⟩, []⟩ : FairPool Party World) :=
    ⟨List.nodup_nil, fun _ hi => absurd hi List.not_mem_nil, fun _ _ _ => apart_none none⟩
  refine ⟨hidle.goOn List.not_mem_nil fun _ _ => apart_none _, ?_, .idle none, .start⟩
  exact Thread.settled_behaves creationRely_refl
    (creates_createInput env req w (reachable_idsGiven hw).unborn).ignore

/-- The state changes, and the handler relies on that. -/
theorem CreationInv.creator_at (h : CreationInv k status a log) {w : World}
    (hrely : ∀ h, creationRely h a.shared w) :
    (a.threads .creator).rest.Behaves creationRely (fun _ => CreationAct k status)
      (a.threads .creator).held w fun _ _ _ => True :=
  h.creator.of_rely (hrely _)

theorem CreationInv.move (h : CreationInv k status a log)
    (hstep : FairPool.Step (fun i p => i = .processor ∧ p = processMessage) Elapses a b)
    (htime : EnteredInTime k status (a, log) (b, log)) : CreationInv k status b log := by
  have horderly := h.orderly.step hstep
  have hne : Party.creator ≠ .processor := by simp
  cases hstep with
  | @call i held p hi hp =>
    obtain ⟨rfl, rfl⟩ := hp
    refine ⟨horderly, ?_, ?_, h.recorded⟩
    · rw [FairPool.goOn_threads_of_ne hne]
      exact h.creator
    · rw [FairPool.goOn_threads_self]
      exact .taking
  | @outside w ho =>
    exact ⟨horderly, h.creator_at fun _ => ho.1.relied, h.processor, h.recorded.elapses ho⟩
  | @act i update rest held hi =>
    cases i with
    | creator =>
      have hc := h.creator
      rw [hi] at hc
      obtain ⟨hact, hrest⟩ := hc a.shared (creationRely_refl _ _)
      refine ⟨horderly, ?_, ?_, h.recorded.act hact htime⟩
      · rw [FairPool.goOn_threads_self]
        exact Thread.settled_behaves creationRely_refl hrest
      · rw [FairPool.goOn_threads_of_ne hne.symm]
        exact h.processor
    | processor =>
      have hp := h.processor
      rw [hi] at hp
      obtain ⟨hstage, hact⟩ := hp.act a.shared
      have hshared : (∀ h, creationRely h a.shared (update a.shared)) ∧
          Recorded k (update a.shared) log := by
        rcases hact with ⟨heq, _⟩ | ⟨_, heq⟩ | ⟨hdb, hq⟩
        · rw [heq]
          exact ⟨fun h => creationRely_receive h _, h.recorded.receive⟩
        · rw [heq]
          exact ⟨fun h => creationRely_apply h _, h.recorded.apply⟩
        · exact ⟨fun h => creationRely_quiet h hdb hq, h.recorded.launches hq.streams hq.runtime⟩
      refine ⟨horderly, ?_, ?_, hshared.2⟩
      · rw [FairPool.goOn_threads_of_ne hne]
        exact h.creator_at hshared.1
      · rw [FairPool.goOn_threads_self]
        exact hstage
  | @grant i line mode rest hline hi hall =>
    cases i with
    | creator =>
      have hc := h.creator
      rw [hi] at hc
      refine ⟨horderly, ?_, ?_, h.recorded⟩
      · rw [FairPool.goOn_threads_self]
        exact Thread.settled_behaves creationRely_refl (hc a.shared (creationRely_refl _ _))
      · rw [FairPool.goOn_threads_of_ne hne.symm]
        exact h.processor
    | processor =>
      have hp := h.processor
      rw [hi] at hp
      refine ⟨horderly, ?_, ?_, h.recorded⟩
      · rw [FairPool.goOn_threads_of_ne hne]
        exact h.creator
      · rw [FairPool.goOn_threads_self]
        exact hp.grant

theorem CreationInv.step {a b : FairPool Party World × List StreamStatus}
    (h : CreationInv k status a.1 a.2) (hstep : CreationStep k a b)
    (htime : EnteredInTime k status a b) : CreationInv k status b.1 b.2 := by
  cases hstep with
  | move hmove => exact h.move hmove htime
  | send hrunning hsends =>
    exact ⟨⟨h.orderly.nodup, h.orderly.asks, h.orderly.apart⟩,
      h.creator_at fun _ => (TaskStep.send hrunning hsends).relied, h.processor,
      h.recorded.send hrunning hsends⟩

end CreationInv

/-! ## Without a pause -/

/-- The reports on the input that are queued. -/
def World.queuedReports (w : World) (k : Int) : List StreamStatus :=
  w.rt.queue.filterMap fun e => e.change.reportOn k

theorem queuedReports_suffix (w : World) : w.queuedReports k <:+ w.reports k := by
  rw [World.reports, Runtime.underway, List.filterMap_append]
  exact List.suffix_append _ _

/-- A UDP or an SPTS input is spawned, and the handler is in line before the processor can apply
a report on it. Every report so far is still underway. -/
inductive Timely (k : Int) (a : FairPool Party World) (log : List StreamStatus) : Prop
  | before : log = [] → (∀ t ∈ a.shared.rt.spawned, t.spec.owner ≠ .input k) →
      Prompt k (a.threads .creator).rest (fun _ => True) → Timely k a log
  | waiting {update : World → World} {rest : World → Prog World Unit} :
      (a.threads .creator).rest = .acquire .write (.step update rest) →
      (∀ w, k ∈ (update w).streams) → .creator ∈ a.line →
      (log <:+ a.shared.queuedReports k ∨ log <:+ a.shared.reports k ∧ .processor ∈ a.line ∧
        FairPool.Before Party.creator .processor a.line) → Timely k a log
  | entering {update : World → World} {rest : World → Prog World Unit} :
      a.threads .creator = ⟨.step update rest, some .write⟩ →
      (∀ w, k ∈ (update w).streams) → log <:+ a.shared.reports k → Timely k a log
  | entered : k ∈ a.shared.streams → Timely k a log

theorem applyProcessing_queue (w : World) : (applyProcessing w).2.rt.queue = w.rt.queue := by
  unfold applyProcessing
  split <;> rfl

theorem Elapses.underway {w w' : World} (h : Elapses w w') :
    w'.rt.queue = w.rt.queue ∧ w'.rt.underway = w.rt.underway := by
  obtain ⟨ht, hqueue⟩ := h
  refine ⟨hqueue, ?_⟩
  cases ht with
  | @send e _ _ =>
    have : w.rt.queue ++ [e] = w.rt.queue := hqueue
    simp at this
  | finish _ => rfl
  | tick _ => rfl

theorem mem_applyProcessing {w : World} (h : k ∈ w.streams) :
    k ∈ (applyProcessing w).2.streams := by
  rcases applyProcessing_streams w with hs | ⟨e, _, hs⟩
  · rwa [hs]
  · rw [hs]
    rcases applyChange_cases e.change w.streams with hs | ⟨i, _, _, _, hs, _⟩
    · rwa [hs]
    · rw [hs]
      exact (AList.mem_insert _).mpr (.inr h)

section Timely

variable {a b : FairPool Party World} {log : List StreamStatus}

theorem Timely.enteredInTime (h : Timely k a log)
    (b : FairPool Party World × List StreamStatus) : EnteredInTime k status (a, log) b := by
  intro habsent _ s hs
  have hne : log ≠ [] := by
    rintro rfl
    exact absurd hs (by simp)
  have hsuffix : log <:+ a.shared.reports k → a.shared.reports k ≠ [] := by
    intro hsuf hnone
    rw [hnone] at hsuf
    exact hne (List.suffix_nil.mp hsuf)
  cases h with
  | before hlog _ _ => exact absurd hlog hne
  | waiting _ _ _ hw =>
    exact .inl (hsuffix (hw.elim (fun hw => hw.trans (queuedReports_suffix _)) fun hw => hw.1))
  | entering _ _ hsuf => exact .inl (hsuffix hsuf)
  | entered hk => exact absurd hk habsent

/-- An input that is entered stays. -/
theorem CreationInv.keeps (h : CreationInv k status a log)
    (hstep : FairPool.Step (fun i p => i = .processor ∧ p = processMessage) Elapses a b)
    (hk : k ∈ a.shared.streams) : k ∈ b.shared.streams := by
  cases hstep with
  | call _ _ => exact hk
  | grant _ _ _ => exact hk
  | @outside w ho =>
    obtain ⟨ht, _⟩ := ho
    cases ht <;> exact hk
  | @act i update rest held hi =>
    cases i with
    | creator =>
      have hc := h.creator
      rw [hi] at hc
      have hact : CreationAct k status a.shared (update a.shared) :=
        (hc a.shared (creationRely_refl _ _)).1
      show k ∈ (update a.shared).streams
      generalize update a.shared = w at hact
      cases hact with
      | aside ts hs hl => rwa [hs]
      | enter info _ _ _ => exact (AList.mem_insert _).mpr (.inr hk)
    | processor =>
      have hp := h.processor
      rw [hi] at hp
      rcases (hp.act a.shared).2 with ⟨heq, _⟩ | ⟨_, heq⟩ | ⟨_, hq⟩
      · show k ∈ (update a.shared).streams
        rwa [heq, (receive_spec _).1]
      · show k ∈ (update a.shared).streams
        rw [heq]
        exact mem_applyProcessing hk
      · show k ∈ (update a.shared).streams
        rwa [hq.streams]

/-- The tasks that a step of the processor leaves. -/
theorem ProcessorStage.spawned {update : World → World} {rest : World → Prog World Unit}
    {held : Option LockMode} (h : ProcessorStage ⟨.step update rest, held⟩) (w : World) :
    (update w).rt.spawned = w.rt.spawned := by
  rcases (h.act w).2 with ⟨heq, _⟩ | ⟨_, heq⟩ | ⟨_, hq⟩
  · rw [heq, (receive_spec w).2.2]
  · rw [heq]
    exact (creationRely_apply none w).2.1
  · rw [hq.runtime.spawned, List.append_nil]

theorem Timely.move_before (hinv : CreationInv k status a log)
    (hstep : FairPool.Step (fun i p => i = .processor ∧ p = processMessage) Elapses a b)
    (hlog : log = []) (htasks : ∀ t ∈ a.shared.rt.spawned, t.spec.owner ≠ .input k)
    (hprompt : Prompt k (a.threads .creator).rest fun _ => True) : Timely k b log := by
  have hne : Party.creator ≠ .processor := by simp
  cases hstep with
  | @call i held p hi hp =>
    obtain ⟨rfl, rfl⟩ := hp
    refine .before hlog htasks ?_
    rw [FairPool.goOn_threads_of_ne hne]
    exact hprompt
  | @outside w ho =>
    refine .before hlog ?_ hprompt
    rw [(ho.1.relied (h := none)).2.1]
    exact htasks
  | @act i update rest held hi =>
    cases i with
    | creator =>
      rw [hi] at hprompt
      rcases hprompt a.shared with henter | ⟨hspares, hrest⟩
      · obtain ⟨update', rest', hq, hk⟩ := henter.settled held
        have hasks : (Thread.settled (rest a.shared) held).asks = true := by
          rw [Thread.asks, hq]
        refine .waiting (by rw [FairPool.goOn_threads_self, hq]) hk ?_ (.inl ?_)
        · rw [FairPool.goOn_line_of_asks hasks]
          exact List.mem_append_right _ (List.mem_singleton_self _)
        · rw [hlog]
          exact List.nil_suffix
      · refine .before hlog (fun t ht ho => htasks t (hspares t ht ho) ho) ?_
        rw [FairPool.goOn_threads_self]
        exact hrest.settled held
    | processor =>
      have hp := hinv.processor
      rw [hi] at hp
      refine .before hlog ?_ ?_
      · rw [FairPool.goOn_shared, hp.spawned a.shared]
        exact htasks
      · rw [FairPool.goOn_threads_of_ne hne]
        exact hprompt
  | @grant i line mode rest hline hi hall =>
    refine .before hlog htasks ?_
    cases i with
    | creator =>
      rw [hi] at hprompt
      have hrest : Prompt k rest fun _ => True := hprompt
      rw [FairPool.goOn_threads_self]
      exact hrest.settled _
    | processor =>
      rw [FairPool.goOn_threads_of_ne hne]
      exact hprompt

/-- While the handler is in line, the processor does not apply a report of the log: it has
none, or it asked for its guard later. -/
theorem Timely.move_waiting (hinv : CreationInv k status a log)
    (hstep : FairPool.Step (fun i p => i = .processor ∧ p = processMessage) Elapses a b)
    {update : World → World} {rest : World → Prog World Unit}
    (hrest : (a.threads .creator).rest = .acquire .write (.step update rest))
    (hk : ∀ w, k ∈ (update w).streams) (hline : .creator ∈ a.line)
    (hlog : log <:+ a.shared.queuedReports k ∨ log <:+ a.shared.reports k ∧
      .processor ∈ a.line ∧ FairPool.Before Party.creator .processor a.line) :
    Timely k b log := by
  have hne : Party.creator ≠ .processor := by simp
  cases hstep with
  | @call i held p hi hp =>
    obtain ⟨rfl, rfl⟩ := hp
    refine .waiting (by rw [FairPool.goOn_threads_of_ne hne, hrest]) hk
      (FairPool.mem_line_goOn hline) (hlog.imp_right fun h =>
        ⟨h.1, FairPool.mem_line_goOn h.2.1, h.2.2.goOn⟩)
  | @outside w ho =>
    obtain ⟨hqueue, hunderway⟩ := ho.underway
    refine .waiting hrest hk hline ?_
    rw [show w.reports k = a.shared.reports k from reports_of_underway hunderway,
      World.queuedReports, hqueue]
    exact hlog
  | @act i update' rest' held hi =>
    cases i with
    | creator =>
      rw [hi] at hrest
      exact absurd hrest (by simp)
    | processor =>
      have hp := hinv.processor
      rw [hi] at hp
      have hnot : Party.processor ∉ a.line := hinv.orderly.not_mem (by rw [hi]; rfl)
      have hlog : log <:+ a.shared.queuedReports k := hlog.resolve_right fun h => hnot h.2.1
      refine .waiting (by rw [FairPool.goOn_threads_of_ne hne, hrest]) hk
        (FairPool.mem_line_goOn hline) ?_
      rcases (hp.act a.shared).2 with ⟨heq, hasks⟩ | ⟨_, heq⟩ | ⟨_, hq⟩
      · refine .inr ⟨?_, ?_, ?_⟩
        · rw [FairPool.goOn_shared, heq, reports_of_underway (receive_spec _).2.1]
          exact hlog.trans (queuedReports_suffix _)
        · rw [FairPool.goOn_line_of_asks hasks]
          exact List.mem_append_right _ (List.mem_singleton_self _)
        · exact (FairPool.before_of_mem hline hnot).goOn
      · refine .inl ?_
        rw [FairPool.goOn_shared, heq, World.queuedReports, applyProcessing_queue]
        exact hlog
      · refine .inl ?_
        rw [FairPool.goOn_shared, World.queuedReports, hq.runtime.queue]
        exact hlog
  | @grant i line mode rest' hfirst hi hall =>
    cases i with
    | creator =>
      rw [hi] at hrest
      obtain ⟨rfl, rfl⟩ := Prog.acquire.inj hrest
      refine .entering FairPool.goOn_threads_self hk ?_
      exact hlog.elim (fun h => h.trans (queuedReports_suffix _)) fun h => h.1
    | processor =>
      have hlog : log <:+ a.shared.queuedReports k := by
        refine hlog.resolve_right fun h => ?_
        rw [hfirst] at h
        exact h.2.2.not_first
      refine .waiting (by rw [FairPool.goOn_threads_of_ne hne, hrest]) hk
        (FairPool.mem_line_goOn ?_) (.inl hlog)
      rw [hfirst] at hline
      exact (List.mem_cons.mp hline).resolve_left hne

/-- While the handler has the guard, the processor applies nothing. -/
theorem Timely.move_entering (hinv : CreationInv k status a log)
    (hstep : FairPool.Step (fun i p => i = .processor ∧ p = processMessage) Elapses a b)
    {update : World → World} {rest : World → Prog World Unit}
    (hthread : a.threads .creator = ⟨.step update rest, some .write⟩)
    (hk : ∀ w, k ∈ (update w).streams) (hlog : log <:+ a.shared.reports k) :
    Timely k b log := by
  have hne : Party.creator ≠ .processor := by simp
  cases hstep with
  | @call i held p hi hp =>
    obtain ⟨rfl, rfl⟩ := hp
    exact .entering (by rw [FairPool.goOn_threads_of_ne hne, hthread]) hk hlog
  | @outside w ho =>
    refine .entering hthread hk ?_
    rw [show w.reports k = a.shared.reports k from reports_of_underway ho.underway.2]
    exact hlog
  | @act i update' rest' held hi =>
    cases i with
    | creator =>
      rw [hi] at hthread
      obtain ⟨rfl, -⟩ := Prog.step.inj (Thread.mk.inj hthread).1
      exact .entered (hk a.shared)
    | processor =>
      have hp := hinv.processor
      rw [hi] at hp
      refine .entering (by rw [FairPool.goOn_threads_of_ne hne, hthread]) hk ?_
      rcases (hp.act a.shared).2 with ⟨heq, _⟩ | ⟨hheld, _⟩ | ⟨_, hq⟩
      · rwa [FairPool.goOn_shared, heq, reports_of_underway (receive_spec _).2.1]
      · have hapart := (hinv.orderly.apart .creator .processor hne).1 (by rw [hthread])
        rw [hi, hheld] at hapart
        exact absurd hapart (by simp)
      · rwa [FairPool.goOn_shared, reports_of_underway hq.runtime.moves.underway]
  | @grant i line mode rest' hfirst hi hall =>
    cases i with
    | creator =>
      rw [hi] at hthread
      exact absurd (Thread.mk.inj hthread).1 (by simp)
    | processor => exact .entering (by rw [FairPool.goOn_threads_of_ne hne]; exact hthread) hk hlog

theorem Timely.step {a b : FairPool Party World × List StreamStatus} (h : Timely k a.1 a.2)
    (hinv : CreationInv k status a.1 a.2) (hstep : CreationStep k a b) :
    Timely k b.1 b.2 := by
  cases hstep with
  | move hmove =>
    cases h with
    | before hlog htasks hprompt => exact .move_before hinv hmove hlog htasks hprompt
    | waiting hrest hk hline hlog => exact .move_waiting hinv hmove hrest hk hline hlog
    | entering hthread hk hlog => exact .move_entering hinv hmove hthread hk hlog
    | entered hk => exact .entered (hinv.keeps hmove hk)
  | @send a log e hrunning hsends =>
    have hgrows : ∀ reports : List StreamStatus, log <:+ reports →
        log ++ (e.change.reportOn k).toList <:+ reports ++ (e.change.reportOn k).toList := by
      rintro _ ⟨old, rfl⟩
      exact ⟨old, (List.append_assoc ..).symm⟩
    have hqueued : (a.shared.send e).queuedReports k =
        a.shared.queuedReports k ++ (e.change.reportOn k).toList := by
      rw [World.queuedReports, World.send, List.filterMap_append]
      simp only [List.filterMap_cons, List.filterMap_nil]
      cases e.change.reportOn k <;> rfl
    cases h with
    | before hlog htasks hprompt =>
      have hnone : e.change.reportOn k = none := by
        cases hreport : e.change.reportOn k with
        | none => rfl
        | some s => exact absurd (Sends.owner_of_report hsends hreport) (htasks _ hrunning.1)
      rw [hnone, Option.toList_none, List.append_nil]
      exact .before hlog htasks hprompt
    | waiting hrest hk hline hlog =>
      refine .waiting hrest hk hline ?_
      rw [reports_send, hqueued]
      exact hlog.imp (hgrows _) fun h => ⟨hgrows _ h.1, h.2⟩
    | entering hthread hk hlog =>
      refine .entering hthread hk ?_
      rw [reports_send]
      exact hgrows _ hlog
    | entered hk => exact .entered hk

end Timely

theorem creationRun_inv {env : Env} {req : CreateInputRequest} {w : World}
    {a : FairPool Party World} {log : List StreamStatus} (hw : Reachable w)
    (hrun : CreationRun (fun a b => req.isSrt = true →
      EnteredInTime w.nextInputId req.firstStatus a b) env req w a log) :
    CreationInv w.nextInputId req.firstStatus a log := by
  have hstart : req.isSrt = false →
      Timely w.nextInputId (creationStart env req w) [] := fun hreq =>
    .before rfl (reachable_idsGiven hw).unborn.tasks
      ((prompt_createInput env hreq).ignore.settled none)
  have hinv : ∀ b : FairPool Party World × List StreamStatus,
      Relation.ReflTransGen (fun a b => CreationStep w.nextInputId a b ∧
        (req.isSrt = true → EnteredInTime w.nextInputId req.firstStatus a b))
        (creationStart env req w, []) b →
      CreationInv w.nextInputId req.firstStatus b.1 b.2 ∧
        (req.isSrt = false → Timely w.nextInputId b.1 b.2) := by
    intro b hb
    induction hb with
    | refl => exact ⟨.start hw, hstart⟩
    | @tail b c _ hstep ih =>
      obtain ⟨hb, htimely⟩ := ih
      have htime : EnteredInTime w.nextInputId req.firstStatus b c := by
        cases hreq : req.isSrt with
        | true => exact hstep.2 hreq
        | false => exact (htimely hreq).enteredInTime c
      exact ⟨hb.step hstep.1 htime, fun hreq => (htimely hreq).step hb hstep.1⟩
  exact (hinv (a, log) hrun).1

/-- When no message is underway, a created input has the status that its task reported last:
always for a UDP or an SPTS input, and for an SRT input that is entered in time. -/
theorem created_status {env : Env} {req : CreateInputRequest} {w : World}
    {a : FairPool Party World} {log : List StreamStatus} (hw : Reachable w)
    (hrun : CreationRun (fun a b => req.isSrt = true →
      EnteredInTime w.nextInputId req.firstStatus a b) env req w a log)
    (hchannel : a.shared.rt.underway = []) {info : InputInfo} {s : StreamStatus}
    (hinfo : a.shared.streams.lookup w.nextInputId = some info)
    (hlast : log.getLast? = some s) : info.status = s := by
  refine (creationRun_inv hw hrun).recorded.status ?_ info s hinfo hlast
  rw [World.reports, hchannel]
  rfl

/-! ## A report that comes too early -/

instance (k : Int) (status : StreamStatus) (a b : FairPool Party World × List StreamStatus) :
    Decidable (EnteredInTime k status a b) :=
  inferInstanceAs (Decidable (k ∉ a.1.shared.streams → k ∈ b.1.shared.streams →
    ∀ s ∈ a.2.getLast?, a.1.shared.reports k ≠ [] ∨ s = status))

/-- What happens next: a call takes its turn or the lock is granted, the processor starts over,
or the task that was spawned first reports. -/
inductive CreationCue
  | turn (i : Option Party)
  | round
  | report (status : StreamStatus)

/-- The report that the task of an input sends without metadata. -/
def TaskSpec.inputReport (status : StreamStatus) : TaskSpec → Option StateChange
  | .udpInput id _ _ _ _ _ (some _) _ =>
    if status ∈ [.listening, .connected, .error] then
      some (.inputStateChanged id status none none)
    else none
  | .srtInput id _ config (some _) _ =>
    if status ∈ [srtInputStatus config, .connected, .reconnecting, .error] then
      some (.inputStateChanged id status none none)
    else none
  | _ => none

theorem sends_of_inputReport {spec : TaskSpec} {status : StreamStatus} {change : StateChange}
    (h : spec.inputReport status = some change) : spec.Sends change := by
  unfold TaskSpec.inputReport at h
  split at h
  · split at h
    · rename_i hstatus
      obtain rfl := Option.some.inj h
      exact .udpInput none none hstatus
    · exact absurd h (by simp)
  · split at h
    · rename_i hstatus
      obtain rfl := Option.some.inj h
      exact .srtInput none none hstatus
    · exact absurd h (by simp)
  · exact absurd h (by simp)

def CreationCue.follow (k : Int) (a : FairPool Party World × List StreamStatus) :
    CreationCue → Option (FairPool Party World × List StreamStatus)
  | turn i => (a.1.turn i).map fun b => (b, a.2)
  | round =>
    match a.1.threads .processor with
    | ⟨.ret (), _⟩ => some (a.1.goOn .processor (.settled processMessage none), a.2)
    | _ => none
  | report status => a.1.shared.rt.spawned.head?.bind fun t =>
    (t.spec.inputReport status).bind fun change =>
      if a.1.shared.rt.Running t then
        some ({ a.1 with shared := a.1.shared.send ⟨t, change⟩ },
          a.2 ++ (change.reportOn k).toList)
      else none

theorem CreationCue.step_of_follow {cue : CreationCue}
    {a b : FairPool Party World × List StreamStatus} (h : cue.follow k a = some b) :
    CreationStep k a b := by
  cases cue with
  | turn i =>
    obtain ⟨q, hq, rfl⟩ := Option.map_eq_some_iff.mp h
    exact .move (FairPool.step_of_turn hq)
  | round =>
    simp only [follow] at h
    split at h
    · rename_i hret
      obtain rfl := Option.some.inj h
      exact .move (.call hret ⟨rfl, rfl⟩)
    · exact absurd h (by simp)
  | report status =>
    obtain ⟨t, _, h⟩ := Option.bind_eq_some_iff.mp h
    obtain ⟨change, hchange, h⟩ := Option.bind_eq_some_iff.mp h
    split at h
    · rename_i hrunning
      obtain rfl := Option.some.inj h
      exact .send (e := ⟨t, change⟩) hrunning (sends_of_inputReport hchange)
    · exact absurd h (by simp)

/-- The run that a script gives, as long as its steps are allowed. -/
def playCreation (k : Int) (C : FairPool Party World × List StreamStatus →
      FairPool Party World × List StreamStatus → Prop) [∀ a b, Decidable (C a b)]
    (a : FairPool Party World × List StreamStatus) :
    List CreationCue → Option (FairPool Party World × List StreamStatus)
  | [] => some a
  | cue :: cues => (cue.follow k a).bind fun b =>
    if C a b then playCreation k C b cues else none

theorem runs_of_playCreation {C : FairPool Party World × List StreamStatus →
      FairPool Party World × List StreamStatus → Prop} [∀ a b, Decidable (C a b)]
    {a b : FairPool Party World × List StreamStatus} {cues : List CreationCue}
    (h : playCreation k C a cues = some b) :
    Relation.ReflTransGen (fun a b => CreationStep k a b ∧ C a b) a b := by
  induction cues generalizing a with
  | nil =>
    obtain rfl := Option.some.inj h
    exact .refl
  | cons cue cues ih =>
    obtain ⟨q, hq, h⟩ := Option.bind_eq_some_iff.mp h
    split at h
    · rename_i hc
      exact .head ⟨cue.step_of_follow hq, hc⟩ (ih h)
    · exact absurd h (by simp)

/-- An SRT caller. -/
def callerRequest : CreateInputRequest :=
  .srt none (.caller (some "203.0.113.9") (some 7000) ⟨none, none, none, none, none⟩ none none)

/-- The task reports while the handler waits for the guard. The processor takes the report, and
applies it after the entry. -/
def reportBehind (status : StreamStatus) : List CreationCue :=
  [.report status, .round, .turn (some .processor), .turn none, .turn (some .creator),
    .turn none, .turn (some .processor), .turn (some .processor)]

/-- The state before the first input. -/
abbrev bootedWorld : World := .boot emptyDatabase

/-- What a script leaves: whether the channel is empty, the status of the entry, and the log. -/
def playedCreation (req : CreateInputRequest)
    (C : FairPool Party World × List StreamStatus → FairPool Party World × List StreamStatus →
      Prop) [∀ a b, Decidable (C a b)] (cues : List CreationCue) :
    Option (Bool × Option StreamStatus × List StreamStatus) :=
  (playCreation bootedWorld.nextInputId C (creationStart localEnv req bootedWorld, []) cues).map
    fun a => (a.1.shared.rt.underway.isEmpty,
      (a.1.shared.streams.lookup bootedWorld.nextInputId).map InputInfo.status, a.2)

theorem exists_creationRun (req : CreateInputRequest)
    (C : FairPool Party World × List StreamStatus → FairPool Party World × List StreamStatus →
      Prop) [∀ a b, Decidable (C a b)] (cues : List CreationCue) {status : StreamStatus}
    {log : List StreamStatus} (h : playedCreation req C cues = some (true, some status, log)) :
    ∃ a info, CreationRun C localEnv req bootedWorld a log ∧ a.shared.rt.underway = [] ∧
      a.shared.streams.lookup bootedWorld.nextInputId = some info ∧ info.status = status := by
  obtain ⟨⟨a, log'⟩, ha, hview⟩ := Option.map_eq_some_iff.mp h
  obtain ⟨hempty, hview⟩ := Prod.mk.inj hview
  obtain ⟨hentry, rfl⟩ := Prod.mk.inj hview
  obtain ⟨info, hinfo, hstatus⟩ := Option.map_eq_some_iff.mp hentry
  exact ⟨a, info, runs_of_playCreation ha, List.isEmpty_iff.mp hempty, hinfo, hstatus⟩

/-- A UDP task cannot bind its port, and its report comes before the entry. The input is shown
failed. An SRT caller is spawned, and its first attempt fails when the handler is in line: it is
shown reconnecting. -/
theorem failedCreation_status :
    (∃ a info, CreationRun (fun a b => (udpInputRequest 5000).isSrt = true →
        EnteredInTime bootedWorld.nextInputId (udpInputRequest 5000).firstStatus a b) localEnv
        (udpInputRequest 5000) bootedWorld a [.error] ∧
      a.shared.streams.lookup bootedWorld.nextInputId = some info ∧ info.status = .error) ∧
    ∃ a info, CreationRun (fun a b => callerRequest.isSrt = true →
        EnteredInTime bootedWorld.nextInputId callerRequest.firstStatus a b) localEnv
        callerRequest bootedWorld a [.reconnecting] ∧
      a.shared.streams.lookup bootedWorld.nextInputId = some info ∧
      info.status = .reconnecting := by
  have hudp : playedCreation (udpInputRequest 5000) (fun a b =>
      (udpInputRequest 5000).isSrt = true →
        EnteredInTime bootedWorld.nextInputId (udpInputRequest 5000).firstStatus a b)
      (List.replicate 2 (.turn (some .creator)) ++ reportBehind .error) =
      some (true, some .error, [.error]) := by
    decide +kernel
  have hcaller : playedCreation callerRequest (fun a b => callerRequest.isSrt = true →
        EnteredInTime bootedWorld.nextInputId callerRequest.firstStatus a b)
      (List.replicate 3 (.turn (some .creator)) ++ reportBehind .reconnecting) =
      some (true, some .reconnecting, [.reconnecting]) := by
    decide +kernel
  constructor
  · obtain ⟨a, info, hrun, hchannel, hinfo, _⟩ := exists_creationRun (udpInputRequest 5000)
      (fun a b => (udpInputRequest 5000).isSrt = true →
        EnteredInTime bootedWorld.nextInputId (udpInputRequest 5000).firstStatus a b)
      (List.replicate 2 (.turn (some .creator)) ++ reportBehind .error) hudp
    exact ⟨a, info, hrun, hinfo, created_status rests_empty.reachable hrun hchannel hinfo rfl⟩
  · obtain ⟨a, info, hrun, hchannel, hinfo, _⟩ := exists_creationRun callerRequest
      (fun a b => callerRequest.isSrt = true →
        EnteredInTime bootedWorld.nextInputId callerRequest.firstStatus a b)
      (List.replicate 3 (.turn (some .creator)) ++ reportBehind .reconnecting) hcaller
    exact ⟨a, info, hrun, hinfo, created_status rests_empty.reachable hrun hchannel hinfo rfl⟩

/-- The handler of an SRT caller waits for the state sender when the task reports that it
connects, and that its first attempt failed. Both messages are dropped, and the input is shown
connecting. -/
def reportsAhead : List CreationCue :=
  [.turn (some .creator), .turn (some .creator), .report .connecting, .report .reconnecting] ++
    (List.replicate 2 [.round, .turn (some .processor), .turn none,
      .turn (some .processor)]).flatten ++
    [.turn (some .creator), .turn none, .turn (some .creator)]

theorem failedCreation_shown_connecting :
    ¬ ∀ (env : Env) (req : CreateInputRequest) (w : World) (a : FairPool Party World)
      (log : List StreamStatus), Reachable w → CreationRun (fun _ _ => True) env req w a log →
      a.shared.rt.underway = [] → ∀ info s, a.shared.streams.lookup w.nextInputId = some info →
      log.getLast? = some s → info.status = s := by
  intro h
  have hplayed : playedCreation callerRequest (fun _ _ => True) reportsAhead =
      some (true, some .connecting, [.connecting, .reconnecting]) := by
    decide +kernel
  obtain ⟨a, info, hrun, hchannel, hinfo, hstatus⟩ := exists_creationRun callerRequest
    (fun _ _ => True) reportsAhead hplayed
  have hlast := h _ _ _ a _ rests_empty.reachable hrun hchannel info .reconnecting hinfo rfl
  exact absurd (hstatus.symm.trans hlast) (by simp)

end StreamGateway
