import StreamGateway.GaugeRuns
import Mathlib.Algebra.BigOperators.Group.Finset.Piecewise
import Mathlib.Data.List.DropRight

/-!
# The connection gauge

`ACTIVE_CONNECTIONS` has a gauge for each label, and the label is made of the name of the stream.
Only the state processor moves it, when it sees a status go into or out of `connected`. A stop and
a deletion take such a status away without a report.
-/
namespace StreamGateway

open Prog

/-! ## Labels -/

/-- `char::is_whitespace` and `char::is_alphanumeric`. -/
structure CharTables where
  isWhitespace : Char → Bool
  isAlphanumeric : Char → Bool

/-- `trim_matches`, and with the white space `trim`. -/
def trimMatches (p : Char → Bool) (cs : List Char) : List Char := (cs.dropWhile p).rdropWhile p

def labelChar (tables : CharTables) (c : Char) : Char :=
  if c = ' ' ∨ c = '-' then '_'
  else if tables.isAlphanumeric c ∨ c = '_' then c
  else '_'

def normalizeStreamName (tables : CharTables) (name : Option String) (id : Int) : String :=
  match name.map fun n => trimMatches tables.isWhitespace n.toList with
  | some (c :: cs) => String.ofList (trimMatches (· = '_') ((c :: cs).map (labelChar tables)))
  | _ => "stream_" ++ toString id

structure ConnectionLabel where
  streamName : String
  streamType : String
  direction : String
  deriving DecidableEq, Repr

/-- The label whose gauge the call moves. -/
def Metric.label (tables : CharTables) : Metric → Option ConnectionLabel
  | updateActiveConnections name id streamType direction _ =>
    some ⟨normalizeStreamName tables name id, streamType, direction⟩
  | _ => none

def Metric.connects : Metric → ℤ
  | updateActiveConnections _ _ _ _ connected => if connected then 1 else -1
  | _ => 0

/-- What the gauge with the label shows. -/
def activeConnections (tables : CharTables) (ms : List Metric) (label : ConnectionLabel) : ℤ :=
  ((ms.filter fun m => m.label tables = some label).map Metric.connects).sum

/-- The labels that a gauge was made for. -/
def connectionLabels (tables : CharTables) (ms : List Metric) : Finset ConnectionLabel :=
  (ms.filterMap (Metric.label tables)).toFinset

/-- What the gauges for inputs show together. -/
def inputConnections (tables : CharTables) (w : World) : ℤ :=
  ∑ label ∈ (connectionLabels tables w.rt.metrics).filter (fun label => label.direction = "input"),
    activeConnections tables w.rt.metrics label

section Labels

variable {tables : CharTables}

theorem activeConnections_cons (m : Metric) (ms : List Metric) (label : ConnectionLabel) :
    activeConnections tables (m :: ms) label =
      (if m.label tables = some label then m.connects else 0) +
        activeConnections tables ms label := by
  by_cases h : m.label tables = some label <;> simp [activeConnections, h]

/-- Each report moves the gauge of one label, and so the sum by as much. -/
theorem sum_activeConnections {ms : List Metric} {labels : Finset ConnectionLabel}
    (h : ∀ m ∈ ms, ∀ label, m.label tables = some label → label ∈ labels) :
    ∑ label ∈ labels.filter (fun label => label.direction = "input"),
      activeConnections tables ms label = (readings ms).2.2 := by
  induction ms with
  | nil => simp [activeConnections]
  | cons m ms ih =>
    have hrest := ih fun m' hm' => h m' (List.mem_cons_of_mem m hm')
    have hone : ∑ label ∈ labels.filter (fun label => label.direction = "input"),
        (if m.label tables = some label then m.connects else 0) = m.moves.2.2 := by
      cases m with
      | updateActiveConnections name id streamType direction connected =>
        have hmem := h _ List.mem_cons_self _ rfl
        by_cases hd : direction = "input"
        · subst hd
          simp [Metric.label, Metric.connects, Metric.moves, Finset.sum_ite_eq, hmem]
        · simp [Metric.label, Metric.moves, Finset.sum_ite_eq, hd]
      | _ => simp [Metric.label, Metric.moves]
    rw [readings_cons, Prod.snd_add, Prod.snd_add, ← hrest, ← hone, ← Finset.sum_add_distrib]
    exact Finset.sum_congr rfl fun label _ => activeConnections_cons m ms label

theorem inputConnections_eq (w : World) :
    inputConnections tables w = (readings w.rt.metrics).2.2 := by
  refine sum_activeConnections fun m hm label hlabel => ?_
  exact List.mem_toFinset.mpr (List.mem_filterMap.mpr ⟨m, hm, hlabel⟩)

end Labels

/-! ## Connected inputs -/

/-- The number of inputs in memory whose status is `connected`. -/
def World.connectedInputs (w : World) : ℕ :=
  w.streams.entries.countP fun e => e.2.status.isConnected

/-- No connected input is stopped or deleted. -/
def Deed.KeepsConnections (w : World) : Deed → Prop
  | stopInput i | closeInput i => ∀ info ∈ w.streams.lookup i, info.status.isConnected = false
  | _ => True

instance (w : World) : (d : Deed) → Decidable (d.KeepsConnections w)
  | .stopInput i | .closeInput i => inferInstanceAs (Decidable (∀ info ∈ w.streams.lookup i, _))
  | .nothing | .openInput | .startInput _ | .openOutput | .startOutput _ _ | .stopOutput _ _
  | .closeOutput _ _ => inferInstanceAs (Decidable True)

/-- The last part of the balance. -/
def connections : Gauges →+ ℤ := (AddMonoidHom.snd ℤ ℤ).comp (AddMonoidHom.snd ℤ (ℤ × ℤ))

section Connections

variable {tables : CharTables} {served : Finset Int} {w w' : World}

theorem connections_drift (d : Deed) (w : World) :
    connections (d.drift w) = 0 ↔ d.KeepsConnections w := by
  cases d with
  | stopInput i | closeInput i =>
    cases hi : w.streams.lookup i <;>
      simp [connections, Deed.drift, Deed.KeepsConnections, InputInfo.shares, hi]
  | _ => simp [connections, Deed.drift, Deed.KeepsConnections]

theorem total_connections (w : World) :
    (Totals.total InputInfo.shares w.streams).2.2 = w.connectedInputs := by
  have hcount := Totals.total_eq_countP (fun info : InputInfo => info.status.isConnected = true)
    w.streams
  simp only [Bool.decide_eq_true] at hcount
  rw [World.connectedInputs, ← hcount, Totals.cast_total]
  refine (Totals.map_total ((AddMonoidHom.snd ℤ ℤ).comp (AddMonoidHom.snd ℤ (ℤ × ℤ)))
    InputInfo.shares w.streams).trans ?_
  refine congrArg (fun f => Totals.total f w.streams) (funext fun info => ?_)
  simp [InputInfo.shares]

/-- The gauges are right if and only if that part of the balance is zero. -/
theorem inputConnections_eq_iff (tables : CharTables) (w : World) :
    inputConnections tables w = w.connectedInputs ↔ connections w.balance = 0 := by
  rw [inputConnections_eq, ← total_connections, ← sub_eq_zero]
  rfl

/-- In every state of a run in which no connected input is stopped or deleted, the gauges for
inputs show together how many inputs are connected. The next request leaves them so if and only if
it meets the condition. -/
theorem connection_gauges (tables : CharTables)
    (h : GaugeRun (fun d w => d.KeepsConnections w) served w) :
    inputConnections tables w = w.connectedInputs ∧
      ∀ (env : Env) (op : Operation) (held : Bool) (w' : World), op.isLifecycle = true →
        (op.prog env).alone false w = some ((), held, w') →
        (inputConnections tables w' = w'.connectedInputs ↔
          (op.deed env w).KeepsConnections w) := by
  have hzero : connections w.balance = 0 :=
    h.balance connections fun d w => (connections_drift d w).mpr
  refine ⟨(inputConnections_eq_iff tables w).mpr hzero, fun env op held w' hop hr => ?_⟩
  rw [inputConnections_eq_iff, h.balance_call connections hzero hop hr, connections_drift]

end Connections

/-! ## A connected input -/

/-- The task of the created input receives its first packet. -/
def firstPacketMessage : Envelope :=
  ⟨⟨0, .udpInput 1 (some "UDP Listener 5000") 5000 none none none (some ⟨⟩) 0⟩,
    .inputStateChanged 1 .connected (some 0) (some "127.0.0.1:9000")⟩

theorem sends_firstPacket : TaskStep runningWorld (runningWorld.send firstPacketMessage) :=
  .send (by decide +kernel) (.udpInput (some 0) (some "127.0.0.1:9000") (by simp))

def connectedWorld : World := (runningWorld.send firstPacketMessage).after processMessage

theorem gaugeRun_connectedWorld {C : Deed → World → Prop} (hC : ∀ w, C .openInput w) :
    GaugeRun C {1} connectedWorld :=
  ((gaugeRun_runningWorld hC).task sends_firstPacket).processed (by decide +kernel)

/-- Enough for names in ASCII. -/
def asciiTables : CharTables := ⟨Char.isWhitespace, Char.isAlphanum⟩

theorem connection_gauges_connected :
    inputConnections asciiTables connectedWorld = connectedWorld.connectedInputs :=
  (connection_gauges asciiTables (gaugeRun_connectedWorld fun _ => trivial)).1

/-- The gauge of a stopped input still shows its connection. -/
theorem stopInput_leaves_connection :
    ¬ ∀ tables served w, GaugeRun (fun _ _ => True) served w →
      inputConnections tables w = w.connectedInputs := by
  intro h
  have hrun := (gaugeRun_connectedWorld (C := fun _ _ => True) fun _ => trivial).after localEnv
    (.stopInput 1) rfl trivial (by decide +kernel)
  have hshown := h asciiTables _ _ hrun
  rw [inputConnections_eq] at hshown
  exact absurd hshown (by decide +kernel)

end StreamGateway
