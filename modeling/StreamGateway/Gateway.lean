import StreamGateway.Loader
import StreamGateway.StateProcessor
import StreamGateway.StreamSpecs

/-!
# Runs of the gateway

The gateway starts by loading the database. From then on calls of any kind arrive at any
time and interleave wherever they hold no guard, the processor takes messages, and the
tasks send messages and return.
-/
namespace StreamGateway

open Prog

/-- The operations on streams. The last four wrap a control function in a handler. -/
inductive Operation
  | startInput (inputId : Int)
  | stopInput (inputId : Int)
  | startOutput (inputId outputId : Int)
  | stopOutput (inputId outputId : Int)
  | startAnalysis (inputId : Int) (analysisType : AnalysisType) (timeoutMinutes : Option UInt64)
  | stopAnalysis (inputId : Int) (analysisType : AnalysisType)
  | stopAllAnalysis (inputId : Int)
  | createInput (req : CreateInputRequest)
  | updateInput (inputId : Int) (req : UpdateInputRequest)
  | deleteInput (inputId : Int)
  | createOutput (req : CreateOutputRequest)
  | updateOutput (outputId : Int) (req : UpdateOutputRequest)
  | deleteOutput (inputId outputId : Int)
  | startInputEndpoint (inputId : Int)
  | stopInputEndpoint (inputId : Int)
  | startOutputEndpoint (outputId : Int)
  | stopOutputEndpoint (outputId : Int)

def Operation.prog (env : Env) : Operation → Prog World Unit
  | startInput inputId => (StreamGateway.startInput env inputId).ignore
  | stopInput inputId => (StreamGateway.stopInput inputId).ignore
  | startOutput inputId outputId => (StreamGateway.startOutput env inputId outputId).ignore
  | stopOutput inputId outputId => (StreamGateway.stopOutput inputId outputId).ignore
  | startAnalysis inputId analysisType timeoutMinutes =>
    (StreamGateway.startAnalysis env inputId analysisType timeoutMinutes).ignore
  | stopAnalysis inputId analysisType => (StreamGateway.stopAnalysis inputId analysisType).ignore
  | stopAllAnalysis inputId => (StreamGateway.stopAllAnalysis inputId).ignore
  | createInput req => (StreamGateway.createInput env req).ignore
  | updateInput inputId req => (StreamGateway.updateInput env inputId req).ignore
  | deleteInput inputId => (StreamGateway.deleteInput env inputId).ignore
  | createOutput req => (StreamGateway.createOutput env req).ignore
  | updateOutput outputId req => (StreamGateway.updateOutput env outputId req).ignore
  | deleteOutput inputId outputId => (StreamGateway.deleteOutput env inputId outputId).ignore
  | startInputEndpoint inputId => (StreamGateway.startInputEndpoint env inputId).ignore
  | stopInputEndpoint inputId => (StreamGateway.stopInputEndpoint env inputId).ignore
  | startOutputEndpoint outputId => (StreamGateway.startOutputEndpoint env outputId).ignore
  | stopOutputEndpoint outputId => (StreamGateway.stopOutputEndpoint env outputId).ignore

/-! ## Steps of the tasks -/

/-- The status messages that the code of a task has a line for. A task without a sender
sends nothing, and a UDP output has no such line. -/
inductive TaskSpec.Sends : TaskSpec → StateChange → Prop
  | udpInput {id : Int} {name : Option String} {listenPort : UInt16}
      {bindHost multicastGroup sourceSpecificMulticast : Option String} {tx : ChannelId}
      {status : StreamStatus} (connectedAt : Option ℕ) (sourceAddress : Option String) :
      status ∈ [.listening, .connected, .error] →
      Sends (.udpInput id name listenPort bindHost multicastGroup sourceSpecificMulticast
        (some ⟨⟩) tx) (.inputStateChanged id status connectedAt sourceAddress)
  | srtInput {id : Int} {name : Option String} {config : SrtInputConfig} {tx : ChannelId}
      {status : StreamStatus} (connectedAt : Option ℕ) (sourceAddress : Option String) :
      status ∈ [srtInputStatus config, .connected, .reconnecting, .error] →
      Sends (.srtInput id name config (some ⟨⟩) tx)
        (.inputStateChanged id status connectedAt sourceAddress)
  | sptsInput {id : Int} {name : Option String} {sourceInputId : Int} {programNumber : UInt16}
      {fillWithNulls : Bool} {sourceRx tx : ChannelId} {status : StreamStatus}
      (connectedAt : Option ℕ) (sourceAddress : Option String) :
      status ∈ [.listening, .connected, .stopped] →
      Sends (.sptsInput id name sourceInputId programNumber fillWithNulls (some ⟨⟩) sourceRx tx)
        (.inputStateChanged id status connectedAt sourceAddress)
  | srtOutput {inputId outputId : Int} {name : Option String} {config : SrtOutputConfig}
      {packetRx : ChannelId} {status : StreamStatus} (connectedAt : Option ℕ)
      (peerAddress : Option String) :
      status ∈ [.listening, .connecting, .connected, .reconnecting, .error] →
      Sends (.srtOutput inputId outputId name config (some ⟨⟩) packetRx)
        (.outputStateChanged inputId outputId status connectedAt peerAddress)

def World.send (w : World) (e : Envelope) : World :=
  { w with rt := { w.rt with queue := w.rt.queue ++ [e] } }

def World.finish (w : World) (t : Task) : World :=
  { w with rt := { w.rt with
      live := w.rt.live.filter (· ≠ t)
      ended := w.rt.ended ++ [t] } }

/-- What happens outside the calls. A task that runs may send any message of its code at any
time, which includes every order that the code can produce, and may return at any time. A task
that was aborted ends when its poll returns. -/
inductive TaskStep : World → World → Prop
  | send {w : World} {e : Envelope} : w.rt.Running e.sender → e.sender.spec.Sends e.change →
      TaskStep w (w.send e)
  | finish {w : World} {t : Task} : w.rt.Running t → TaskStep w (w.finish t)
  | tick {w : World} {now : ℕ} : w.rt.clock ≤ now →
      TaskStep w { w with rt := { w.rt with clock := now } }

/-! ## Reachable states -/

/-- The calls that arrive once the gateway runs. -/
def GatewayCall (p : Prog World Unit) : Prop :=
  (∃ env op, p = Operation.prog env op) ∨ p = processMessage

/-- The gateway at the start of the process. -/
def bootPool (env : Env) (db : Database) : Pool World :=
  ⟨.boot db, [⟨(loadFromDb env).ignore, none⟩]⟩

/-- The states of all runs from all databases. -/
def Reachable (w : World) : Prop :=
  ∃ env db threads,
    Pool.Runs GatewayCall TaskStep (fun _ _ => True) (bootPool env db) ⟨w, threads⟩

/-- A reachable state in which no call holds a guard. -/
def Rests (w : World) : Prop :=
  ∃ env db threads, (∀ t ∈ threads, t.held = none) ∧
    Pool.Runs GatewayCall TaskStep (fun _ _ => True) (bootPool env db) ⟨w, threads⟩

theorem Rests.reachable {w : World} (h : Rests w) : Reachable w := by
  obtain ⟨env, db, threads, _, hruns⟩ := h
  exact ⟨env, db, threads, hruns⟩

/-- A call that has the lock to itself leads from one such state to the next. -/
theorem rests_of_alone {env : Env} {db : Database} {pre : List (Thread World)}
    {p : Prog World Unit} {w w' : World} (hpre : ∀ t ∈ pre, t.held = none)
    (hruns : Pool.Runs GatewayCall TaskStep (fun _ _ => True) (bootPool env db)
      ⟨w, pre ++ [⟨p, none⟩]⟩) (hr : p.alone false w = some ((), false, w')) : Rests w' := by
  obtain ⟨mode, hmode, hruns'⟩ := Pool.runs_of_alone p none hpre hr
  refine ⟨env, db, _, fun t ht => ?_, hruns.trans hruns'⟩
  rcases List.mem_append.mp ht with ht | ht
  · exact hpre t ht
  · obtain rfl := List.mem_singleton.mp ht
    simpa using hmode

theorem rests_load {env : Env} {db : Database} {w : World}
    (h : (loadFromDb env).ignore.alone false (.boot db) = some ((), false, w)) : Rests w :=
  @rests_of_alone env db [] _ _ _ (fun _ h => absurd h List.not_mem_nil) .refl h

theorem Rests.call {p : Prog World Unit} {w w' : World} (h : Rests w) (hp : GatewayCall p)
    (hr : p.alone false w = some ((), false, w')) : Rests w' := by
  obtain ⟨env, db, threads, hthreads, hruns⟩ := h
  exact rests_of_alone hthreads (hruns.tail ⟨.call hp, trivial⟩) hr

/-- The state that a call alone leaves. -/
def World.after (w : World) (p : Prog World Unit) : World :=
  ((p.alone false w).map fun r => r.2.2).getD w

/-- A call that runs to its end leaves that state. -/
theorem alone_after {p : Prog World Unit} {w : World} (h : (p.alone false w).isSome) :
    ∃ held, p.alone false w = some ((), held, w.after p) := by
  obtain ⟨⟨⟨⟩, held, w'⟩, hr⟩ := Option.isSome_iff_exists.mp h
  refine ⟨held, hr.trans ?_⟩
  rw [World.after, hr]
  rfl

theorem alone_eq_after {α : Type} {p : Prog World α} {w : World} {check : α → Bool}
    (h : (p.alone false w).any (fun r => check r.1) = true) :
    ∃ r held, p.alone false w = some (r, held, w.after p.ignore) ∧ check r = true := by
  obtain ⟨⟨r, held, w'⟩, hr, hp⟩ := (Option.any_eq_true _ _).mp h
  refine ⟨r, held, ?_, hp⟩
  rw [World.after, alone_ignore, hr]
  rfl

/-- A handler that answers with the status. -/
theorem alone_answers {p : Prog World Response} {w : World} {status : ℕ}
    (h : (p.alone false w).map (fun r => r.1.status) = some status) :
    ∃ response held, p.alone false w = some (response, held, w.after p.ignore) ∧
      response.status = status := by
  obtain ⟨⟨response, held, w'⟩, hr, hstatus⟩ := Option.map_eq_some_iff.mp h
  refine ⟨response, held, ?_, hstatus⟩
  rw [World.after, alone_ignore, hr]
  rfl

theorem Rests.after {env : Env} {w : World} (h : Rests w) (op : Operation)
    (hr : ((op.prog env).alone false w).map (fun r => r.2.1) = some false) :
    Rests (w.after (op.prog env)) := by
  have hends : ((op.prog env).alone false w).isSome := by
    cases ha : (op.prog env).alone false w with
    | none => simp [ha] at hr
    | some r => rfl
  obtain ⟨held, ha⟩ := alone_after hends
  obtain rfl : held = false := by simpa [ha] using hr
  exact h.call (.inl ⟨env, op, rfl⟩) ha

/-- The state that calls leave one after the other, if each ends without a guard. -/
def World.afterCalls (env : Env) : List Operation → World → Option World
  | [], w => some w
  | op :: ops, w =>
    match (op.prog env).alone false w with
    | some (_, false, w') => World.afterCalls env ops w'
    | _ => none

theorem runs_afterCalls {env : Env} {ops : List Operation} {w w' : World}
    {pre : List (Thread World)} (hpre : ∀ t ∈ pre, t.held = none)
    (h : w.afterCalls env ops = some w') :
    ∃ threads, (∀ t ∈ threads, t.held = none) ∧
      Pool.Runs GatewayCall TaskStep (fun _ _ => True) ⟨w, pre⟩ ⟨w', threads⟩ := by
  induction ops generalizing w pre with
  | nil =>
    obtain rfl := Option.some.inj h
    exact ⟨pre, hpre, .refl⟩
  | cons op ops ih =>
    unfold World.afterCalls at h
    split at h
    · rename_i w₁ hr
      obtain ⟨mode, hmode, hruns⟩ := @Pool.runs_of_alone World GatewayCall TaskStep
        (op.prog env) none _ _ _ _ hpre hr
      have hpre' : ∀ t ∈ pre ++ [⟨.ret (), mode⟩], t.held = none := by
        intro t ht
        rcases List.mem_append.mp ht with ht | ht
        · exact hpre t ht
        · obtain rfl := List.mem_singleton.mp ht
          simpa using hmode
      obtain ⟨threads, hthreads, hruns'⟩ := ih hpre' h
      have hcall : Pool.Step GatewayCall TaskStep ⟨w, pre⟩ ⟨w, pre ++ [⟨op.prog env, none⟩]⟩ :=
        .call (.inl ⟨env, op, rfl⟩)
      exact ⟨threads, hthreads, .head ⟨hcall, trivial⟩ (hruns.trans hruns')⟩
    · exact absurd h (by simp)

/-- The state after the load and then the calls. -/
def World.afterLoad (env : Env) (db : Database) (ops : List Operation) : Option World :=
  match (loadFromDb env).ignore.alone false (.boot db) with
  | some (_, false, w) => w.afterCalls env ops
  | _ => none

theorem runs_afterLoad {env : Env} {db : Database} {ops : List Operation} {w : World}
    (h : World.afterLoad env db ops = some w) :
    ∃ threads, (∀ t ∈ threads, t.held = none) ∧
      Pool.Runs GatewayCall TaskStep (fun _ _ => True) (bootPool env db) ⟨w, threads⟩ := by
  unfold World.afterLoad at h
  split at h
  · rename_i w₁ hload
    obtain ⟨mode, hmode, hruns⟩ := @Pool.runs_of_alone World GatewayCall TaskStep
      (loadFromDb env).ignore none _ _ [] _ (fun _ ht => absurd ht List.not_mem_nil) hload
    have hloaded : ∀ t ∈ [(⟨.ret (), mode⟩ : Thread World)], t.held = none := by
      intro t ht
      obtain rfl := List.mem_singleton.mp ht
      simpa using hmode
    obtain ⟨threads, hthreads, hruns'⟩ := runs_afterCalls hloaded h
    exact ⟨threads, hthreads, hruns.trans hruns'⟩
  · exact absurd h (by simp)

/-! ## A small gateway -/

/-- Every query succeeds, every port can be bound and every name is the local host. The build
checks its arithmetic. -/
def localEnv : Env where
  queryError _ := none
  lookupHost _ := .ok [(.v4 [127, 0, 0, 1], 9000)]
  portAvailable _ := true
  autoPortRangeStart := 10000
  autoPortRangeEnd := 20000
  interfaces := none
  jsonError := "invalid type"
  overflowChecks := true

def emptyDatabase : Database := ⟨.empty, .empty⟩

theorem rests_empty : Rests (.boot emptyDatabase) :=
  @rests_load localEnv emptyDatabase _ rfl

/-- A request for a UDP input on the given port. -/
def udpInputRequest (port : UInt16) : CreateInputRequest :=
  .udp none (some port) none none none none none

/-- A request for a UDP output of the first input to the given host. -/
def udpOutputRequest (host : String) : CreateOutputRequest :=
  .udp 1 (some host) (some 9000) none none none none none none

/-- An update that gives a UDP output a name, and may move it to another host. -/
def outputUpdate (host : Option String) : UpdateOutputRequest :=
  .udp host none none none none (some "backup")

/-- A UDP input was created. -/
def runningWorld : World :=
  (World.boot emptyDatabase).after ((Operation.createInput (udpInputRequest 5000)).prog localEnv)

theorem rests_runningWorld : Rests runningWorld :=
  rests_empty.after (.createInput (udpInputRequest 5000)) rfl

end StreamGateway
