import StreamGateway.ConnectionGauges
import StreamGateway.ProgramStreams

/-!
# The counters of bytes and packets

The counters have a label for the name, the ids and the kind of a stream, and only its tasks move
them. In any run they show together what these tasks have passed on: an input what it has
broadcast, but for the open windows of program filters, and an output what it has sent. The
counters are floats of 64 bits, so what is said here of a counter holds while it is below 2^53.
-/
namespace StreamGateway

open MpegtsFilter (Bytes)

/-! ## Labels -/

structure InputLabel where
  streamName : String
  inputId : Int
  streamType : String
  deriving DecidableEq, Repr

structure OutputLabel where
  streamName : String
  inputId : Int
  outputId : Int
  streamType : String
  deriving DecidableEq, Repr

structure ErrorLabel where
  streamName : String
  streamId : Int
  streamType : String
  errorType : String
  deriving DecidableEq, Repr

section

variable (tables : CharTables)

/-- What `record_input_bytes` adds to the counter with the label. -/
def PacketMetric.inputBytes (label : InputLabel) : PacketMetric → ℕ
  | .recordInputBytes name inputId streamType bytes =>
    if ⟨normalizeStreamName tables name inputId, inputId, streamType⟩ = label then bytes else 0
  | _ => 0

def PacketMetric.inputPackets (label : InputLabel) : PacketMetric → ℕ
  | .recordInputPackets name inputId streamType packets =>
    if ⟨normalizeStreamName tables name inputId, inputId, streamType⟩ = label then packets else 0
  | _ => 0

/-- The name of an output is normalized with the id of the output. -/
def PacketMetric.outputBytes (label : OutputLabel) : PacketMetric → ℕ
  | .recordOutputBytes name inputId outputId streamType bytes =>
    if ⟨normalizeStreamName tables name outputId, inputId, outputId, streamType⟩ = label
    then bytes else 0
  | _ => 0

def PacketMetric.outputPackets (label : OutputLabel) : PacketMetric → ℕ
  | .recordOutputPackets name inputId outputId streamType packets =>
    if ⟨normalizeStreamName tables name outputId, inputId, outputId, streamType⟩ = label
    then packets else 0
  | _ => 0

def PacketMetric.streamErrors (label : ErrorLabel) : PacketMetric → ℕ
  | .recordStreamError name streamId streamType errorType =>
    if ⟨normalizeStreamName tables name streamId, streamId, streamType, errorType⟩ = label
    then 1 else 0
  | _ => 0

/-- The label under which an input task counts. -/
def TaskSpec.inputLabel : TaskSpec → Option InputLabel
  | .udpInput id name .. => some ⟨normalizeStreamName tables name id, id, "udp"⟩
  | .srtInput id name .. => some ⟨normalizeStreamName tables name id, id, "srt"⟩
  | .sptsInput id name .. => some ⟨normalizeStreamName tables name id, id, "spts"⟩
  | _ => none

def TaskSpec.outputLabel : TaskSpec → Option OutputLabel
  | .udpOutput inputId outputId name .. =>
    some ⟨normalizeStreamName tables name outputId, inputId, outputId, "udp"⟩
  | .srtOutput inputId outputId name .. =>
    some ⟨normalizeStreamName tables name outputId, inputId, outputId, "srt"⟩
  | _ => none

/-- What an output reports of a packet that it could not send. -/
def SendResult.errorType : SendResult → Option String
  | .sent => none
  | .short _ => some "partial_send"
  | .failed => some "send_failed"

def TaskSpec.errorLabel (spec : TaskSpec) (result : SendResult) : Option ErrorLabel :=
  match spec.outputLabel tables, result.errorType with
  | some l, some errorType => some ⟨l.streamName, l.outputId, l.streamType, errorType⟩
  | _, _ => none

end

/-! ## What a task has passed on -/

/-- The bytes that a program filter will report when it closes its window. -/
def TaskSpec.windowBytes (spec : TaskSpec) (st : PacketState) : ℕ :=
  match spec with
  | .sptsInput .. => st.windowBytesOut
  | _ => 0

def TaskSpec.windowPackets (spec : TaskSpec) (st : PacketState) : ℕ :=
  match spec with
  | .sptsInput .. => st.windowPacketsOut
  | _ => 0

/-- A program filter counts the packets of the transport stream, the others what they receive. -/
def TaskSpec.packets (spec : TaskSpec) (value : Bytes) : ℕ :=
  match spec with
  | .sptsInput .. => value.length / 188
  | _ => 1

/-- The packets that were sent. -/
def PacketState.delivered (st : PacketState) : List Bytes :=
  (st.attempts.filter fun a => a.2 = .sent).map Prod.fst

/-! ## Accountings -/

/-- What the metrics count, what a task holds back, and what it is to have counted. -/
structure Accounting where
  counts : PacketMetric → ℕ
  holds : TaskSpec → PacketState → ℕ
  owes : TaskSpec → PacketState → List Bytes → ℕ

/-- Each pass counts what it adds. -/
structure Accounting.Balanced (y : Accounting) : Prop where
  start : ∀ spec sent, y.holds spec (.start spec sent) = 0 ∧ y.owes spec (.start spec sent) [] = 0
  pass : ∀ {spec next st event passed log}, spec.Passes next st event passed →
    (passed.metrics.map y.counts).sum + y.holds spec passed.state + y.owes spec st log =
      y.holds spec st + y.owes spec passed.state (log ++ passed.values)

/-- One summand changes. -/
theorem sum_add_of_eq_off {ι M : Type*} [DecidableEq ι] [AddCommMonoid M] {s : Finset ι}
    (f g : ι → M) {a : ι} (ha : a ∈ s) (h : ∀ b ∈ s, b ≠ a → g b = f b) :
    ∑ b ∈ s, g b + f a = ∑ b ∈ s, f b + g a := by
  have herase : ∑ b ∈ s.erase a, g b = ∑ b ∈ s.erase a, f b :=
    Finset.sum_congr rfl fun b hb => h b (Finset.mem_of_mem_erase hb) (Finset.ne_of_mem_erase hb)
  rw [← Finset.add_sum_erase s g ha, ← Finset.add_sum_erase s f ha, herase]
  exact add_right_comm .. |>.trans (by rw [add_comm (g a), add_right_comm])

namespace Traffic

variable {env : Env} {db : Database} {tr tr' : Traffic}

/-- The tasks that were spawned so far. -/
def tasks (tr : Traffic) : Finset Task := tr.rt.spawned.toFinset

theorem mem_tasks {t : Task} : t ∈ tr.tasks ↔ t ∈ tr.rt.spawned := List.mem_toFinset

/-- A new task has used no channel. -/
theorem Sound.log_adopt (h : tr.Sound) {p : Pool World}
    (hs : Pool.Step GatewayCall TaskStep tr.pool p) {t : Task}
    (ht : t ∈ p.shared.rt.spawned) (hnew : t ∉ tr.rt.spawned) : (tr.adopt p).log t = [] := by
  have hgrows := h.grows hs
  unfold Traffic.log
  cases htx : t.spec.packetTx with
  | none => rfl
  | some c =>
    refine h.silent c fun u hu hutx => hnew ?_
    rw [(h.numbered.grows hgrows).apart t u c ht (hgrows.extends.subset hu) htx hutx]
    exact hu

/-- What is counted and what is held back is together what is owed. -/
def Balances (y : Accounting) (tr : Traffic) : Prop :=
  (tr.metrics.map y.counts).sum + ∑ t ∈ tr.tasks, y.holds t.spec (tr.state t) =
    ∑ t ∈ tr.tasks, y.owes t.spec (tr.state t) (tr.log t)

variable {y : Accounting}

theorem Balances.adopt (hy : y.Balanced) (h : tr.Sound) (hb : tr.Balances y) {p : Pool World}
    (hs : Pool.Step GatewayCall TaskStep tr.pool p) : (tr.adopt p).Balances y := by
  have hsubset : tr.tasks ⊆ (tr.adopt p).tasks := fun t ht =>
    mem_tasks.mpr ((h.grows hs).extends.subset (mem_tasks.mp ht))
  have hnew : ∀ t ∈ (tr.adopt p).tasks, t ∉ tr.tasks →
      (tr.adopt p).state t = .start t.spec tr.sent ∧ (tr.adopt p).log t = [] := by
    intro t ht hnot
    rw [mem_tasks] at ht hnot
    exact ⟨adopt_state_new ht hnot, h.log_adopt hs ht hnot⟩
  have hold : ∀ t ∈ tr.tasks, (tr.adopt p).state t = tr.state t := fun t ht =>
    adopt_state (mem_tasks.mp ht)
  unfold Balances
  rw [← Finset.sum_subset hsubset, ← Finset.sum_subset hsubset]
  · calc
      (tr.metrics.map y.counts).sum + ∑ t ∈ tr.tasks, y.holds t.spec ((tr.adopt p).state t)
        = (tr.metrics.map y.counts).sum + ∑ t ∈ tr.tasks, y.holds t.spec (tr.state t) := by
          rw [Finset.sum_congr rfl fun t ht => by rw [hold t ht]]
      _ = ∑ t ∈ tr.tasks, y.owes t.spec (tr.state t) (tr.log t) := hb
      _ = ∑ t ∈ tr.tasks, y.owes t.spec ((tr.adopt p).state t) ((tr.adopt p).log t) :=
          Finset.sum_congr rfl fun t ht => by rw [hold t ht]; rfl
  · intro t ht hnot
    rw [(hnew t ht hnot).1, (hnew t ht hnot).2]
    exact (hy.start _ _).2
  · intro t ht hnot
    rw [(hnew t ht hnot).1]
    exact (hy.start _ _).1

theorem Balances.proceed (hy : y.Balanced) (h : tr.Sound) (hb : tr.Balances y) {t : Task}
    (ht : t ∈ tr.rt.spawned) {event : PacketEvent} {passed : Passed}
    (hp : t.spec.Passes (tr.upcoming t) (tr.state t) event passed) :
    (tr.proceed t passed).Balances y := by
  have hmem := mem_tasks.mpr ht
  have hpass := @Accounting.Balanced.pass _ hy _ _ _ _ _ (tr.log t) hp
  have hholds := sum_add_of_eq_off (fun u => y.holds u.spec (tr.state u))
    (fun u => y.holds u.spec ((tr.proceed t passed).state u)) hmem
    fun u _ hut => by rw [proceed_state_ne _ _ _ hut]
  have howes := sum_add_of_eq_off (fun u => y.owes u.spec (tr.state u) (tr.log u))
    (fun u => y.owes u.spec ((tr.proceed t passed).state u) ((tr.proceed t passed).log u)) hmem
    fun u hu hut => by rw [proceed_state_ne _ _ _ hut, h.log_proceed ht (mem_tasks.mp hu) hut]
  have hlog := log_proceed_self hp
  simp only [proceed_state, hlog] at hholds howes
  unfold Balances at hb ⊢
  rw [show (tr.proceed t passed).metrics = tr.metrics ++ passed.metrics from rfl,
    List.map_append, List.sum_append]
  show _ + ∑ u ∈ tr.tasks, _ = ∑ u ∈ tr.tasks, _
  omega

theorem Balances.step (hy : y.Balanced) (h : tr.Sound) (hb : tr.Balances y)
    (hs : Step tr tr') : tr'.Balances y := by
  cases hs with
  | control hs => exact hb.adopt hy h hs
  | packet hrunning hp =>
    obtain ⟨_, hpasses, rfl⟩ := pass_eq_some hp
    exact hb.proceed hy h hrunning.1 hpasses

/-- A balanced accounting balances in every state of every run. -/
theorem balances_of_runs (hy : y.Balanced) (hruns : Runs (boot env db) tr) : tr.Balances y := by
  induction hruns with
  | refl => rfl
  | tail hruns hs ih => exact ih.step hy (sound_of_runs hruns) hs

end Traffic

/-! ## What a pass counts -/

section Passes

open Reception

variable {tables : CharTables} {spec : TaskSpec} {next : Option (Reception Bytes)}
  {st : PacketState} {event : PacketEvent} {passed : Passed}

/-- A program filter counts what it broadcasts in its window, and reports the window when it
closes it. -/
theorem sptsRecv_counts {name : Option String} {id : Int} {x : Reception Bytes} {elapsed : Bool}
    (h : sptsRecv name id st x elapsed = some passed) :
    let bytes := st.windowBytesOut + (passed.values.map List.length).sum
    let packets := st.windowPacketsOut + (passed.values.map (List.length · / 188)).sum
    passed.metrics = [] ∧ passed.state.windowBytesOut = bytes ∧
        passed.state.windowPacketsOut = packets ∨
      passed.metrics = [.recordInputBytes name id "spts" bytes,
          .recordInputPackets name id "spts" packets] ∧
        passed.state.windowBytesOut = 0 ∧ passed.state.windowPacketsOut = 0 := by
  cases x with
  | lagged missed =>
    obtain rfl := Option.some.inj h
    exact .inl ⟨rfl, rfl, rfl⟩
  | value mptsData =>
    obtain ⟨⟨filter, filtered⟩, _, rfl⟩ := Option.map_eq_some_iff.mp h
    by_cases hempty : filtered = []
    · cases elapsed <;> simp [hempty, sptsWindow, PacketState.hear]
    · cases elapsed <;> simp [hempty, sptsWindow, PacketState.hear]

theorem TaskSpec.Passes.counts_input {label : InputLabel} (h : spec.Passes next st event passed)
    (hlabel : spec.inputLabel tables = some label) :
    (passed.metrics.map (PacketMetric.inputBytes tables label)).sum +
          spec.windowBytes passed.state =
        spec.windowBytes st + (passed.values.map List.length).sum ∧
      (passed.metrics.map (PacketMetric.inputPackets tables label)).sum +
          spec.windowPackets passed.state =
        spec.windowPackets st + (passed.values.map spec.packets).sum := by
  cases h with
  | udpInput =>
    obtain rfl := Option.some.inj hlabel
    simp [udpInputRecv, PacketMetric.inputBytes, PacketMetric.inputPackets, TaskSpec.windowBytes,
      TaskSpec.windowPackets, TaskSpec.packets]
  | srtInput => exact ⟨rfl, rfl⟩
  | srtInputRead =>
    obtain rfl := Option.some.inj hlabel
    unfold StreamGateway.srtInputRead
    dsimp only
    split
    · exact ⟨rfl, rfl⟩
    · simp [PacketMetric.inputBytes, PacketMetric.inputPackets, TaskSpec.windowBytes,
        TaskSpec.windowPackets, TaskSpec.packets]
  | sptsInput _ hpassed =>
    obtain rfl := Option.some.inj hlabel
    obtain ⟨hmetrics, hbytes, hpackets⟩ | ⟨hmetrics, hbytes, hpackets⟩ := sptsRecv_counts hpassed
    · simp [hmetrics, TaskSpec.windowBytes, TaskSpec.windowPackets, hbytes, hpackets]
      rfl
    · simp [hmetrics, PacketMetric.inputBytes, PacketMetric.inputPackets, TaskSpec.windowBytes,
        TaskSpec.windowPackets, hbytes, hpackets]
      rfl
  | @outputRecv spec _ _ _ howner =>
    cases spec <;> simp [TaskSpec.owner, TaskSpec.inputLabel] at howner hlabel
  | srtOutput => exact absurd hlabel (by simp [TaskSpec.inputLabel])
  | udpOutputSend => exact absurd hlabel (by simp [TaskSpec.inputLabel])
  | srtOutputWrite => exact absurd hlabel (by simp [TaskSpec.inputLabel])

/-- Under its own label only. -/
theorem TaskSpec.Passes.counts_other_input {label : InputLabel}
    (h : spec.Passes next st event passed) (hlabel : spec.inputLabel tables ≠ some label) :
    (passed.metrics.map (PacketMetric.inputBytes tables label)).sum = 0 ∧
      (passed.metrics.map (PacketMetric.inputPackets tables label)).sum = 0 := by
  cases h with
  | udpInput =>
    have hne : ¬_ = label := fun h => hlabel (congrArg some h)
    simp [udpInputRecv, PacketMetric.inputBytes, PacketMetric.inputPackets, hne]
  | srtInput => exact ⟨rfl, rfl⟩
  | srtInputRead =>
    have hne : ¬_ = label := fun h => hlabel (congrArg some h)
    unfold StreamGateway.srtInputRead
    dsimp only
    split
    · exact ⟨rfl, rfl⟩
    · simp [PacketMetric.inputBytes, PacketMetric.inputPackets, hne]
  | sptsInput _ hpassed =>
    have hne : ¬_ = label := fun h => hlabel (congrArg some h)
    obtain ⟨hmetrics, _, _⟩ | ⟨hmetrics, _, _⟩ := sptsRecv_counts hpassed
    · simp [hmetrics]
    · simp [hmetrics, PacketMetric.inputBytes, PacketMetric.inputPackets, hne]
  | outputRecv => exact ⟨rfl, rfl⟩
  | srtOutput => exact ⟨rfl, rfl⟩
  | udpOutputSend =>
    unfold StreamGateway.udpOutputSend
    split <;> exact ⟨rfl, rfl⟩
  | srtOutputWrite =>
    unfold StreamGateway.srtOutputWrite
    split
    · split <;> exact ⟨rfl, rfl⟩
    · exact ⟨rfl, rfl⟩

/-- Inputs report nothing that outputs report. -/
theorem TaskSpec.Passes.counts_silent (h : spec.Passes next st event passed)
    (hlabel : spec.outputLabel tables = none) (outputLabel : OutputLabel)
    (errorLabel : ErrorLabel) :
    (passed.metrics.map (PacketMetric.outputBytes tables outputLabel)).sum = 0 ∧
      (passed.metrics.map (PacketMetric.outputPackets tables outputLabel)).sum = 0 ∧
      (passed.metrics.map (PacketMetric.streamErrors tables errorLabel)).sum = 0 := by
  cases h with
  | udpInput => exact ⟨rfl, rfl, rfl⟩
  | srtInput => exact ⟨rfl, rfl, rfl⟩
  | srtInputRead =>
    unfold StreamGateway.srtInputRead
    dsimp only
    split <;> exact ⟨rfl, rfl, rfl⟩
  | sptsInput _ hpassed =>
    obtain ⟨hmetrics, _, _⟩ | ⟨hmetrics, _, _⟩ := sptsRecv_counts hpassed <;>
      rw [hmetrics] <;> exact ⟨rfl, rfl, rfl⟩
  | outputRecv => exact ⟨rfl, rfl, rfl⟩
  | srtOutput => exact ⟨rfl, rfl, rfl⟩
  | udpOutputSend => exact absurd hlabel (by simp [TaskSpec.outputLabel])
  | srtOutputWrite => exact absurd hlabel (by simp [TaskSpec.outputLabel])

/-- The packet in the hand of an output is tried, and reported under the label of the output. -/
structure Attempted (tables : CharTables) (own : OutputLabel) (st : PacketState)
    (passed : Passed) (packet : Bytes) (result : SendResult) : Prop where
  attempts : passed.state.attempts = st.attempts ++ [(packet, result)]
  outputBytes : ∀ label, (passed.metrics.map (PacketMetric.outputBytes tables label)).sum =
    if own = label ∧ result = .sent then packet.length else 0
  outputPackets : ∀ label, (passed.metrics.map (PacketMetric.outputPackets tables label)).sum =
    if own = label ∧ result = .sent then 1 else 0
  streamErrors : ∀ label, (passed.metrics.map (PacketMetric.streamErrors tables label)).sum =
    if (result.errorType.map fun errorType =>
      (⟨own.streamName, own.outputId, own.streamType, errorType⟩ : ErrorLabel)) = some label
    then 1 else 0

theorem TaskSpec.Passes.attempted {own : OutputLabel} (h : spec.Passes next st event passed)
    (hlabel : spec.outputLabel tables = some own) :
    passed.state.attempts = st.attempts ∧ passed.metrics = [] ∨
      ∃ packet result, Attempted tables own st passed packet result := by
  cases h with
  | udpInput => exact absurd hlabel (by simp [TaskSpec.outputLabel])
  | srtInput => exact absurd hlabel (by simp [TaskSpec.outputLabel])
  | srtInputRead => exact absurd hlabel (by simp [TaskSpec.outputLabel])
  | sptsInput => exact absurd hlabel (by simp [TaskSpec.outputLabel])
  | @outputRecv _ _ _ x =>
    refine .inl ⟨?_, rfl⟩
    cases x <;> rfl
  | srtOutput => exact .inl ⟨rfl, rfl⟩
  | @udpOutputSend _ _ _ _ _ _ _ packet ok =>
    obtain rfl := Option.some.inj hlabel
    refine .inr ⟨packet, if ok then .sent else .failed, ?_⟩
    cases ok <;> constructor <;>
      simp [StreamGateway.udpOutputSend, PacketState.attempt, PacketMetric.outputBytes,
        PacketMetric.outputPackets, PacketMetric.streamErrors, SendResult.errorType]
  | @srtOutputWrite _ _ _ _ _ _ packet n =>
    obtain rfl := Option.some.inj hlabel
    cases n with
    | none =>
      refine .inr ⟨packet, .failed, ?_⟩
      constructor <;>
        simp [StreamGateway.srtOutputWrite, PacketState.attempt, PacketMetric.outputBytes,
          PacketMetric.outputPackets, PacketMetric.streamErrors, SendResult.errorType]
    | some n =>
      refine .inr ⟨packet, if n = packet.length then .sent else .short n, ?_⟩
      by_cases hn : n = packet.length <;> constructor <;>
        simp [StreamGateway.srtOutputWrite, PacketState.attempt, PacketMetric.outputBytes,
          PacketMetric.outputPackets, PacketMetric.streamErrors, SendResult.errorType, hn]

end Passes

/-! ## The accountings -/

section

variable (tables : CharTables)

def inputBytesAccounting (label : InputLabel) : Accounting where
  counts := PacketMetric.inputBytes tables label
  holds spec st := if spec.inputLabel tables = some label then spec.windowBytes st else 0
  owes spec _ log := if spec.inputLabel tables = some label then (log.map List.length).sum else 0

def inputPacketsAccounting (label : InputLabel) : Accounting where
  counts := PacketMetric.inputPackets tables label
  holds spec st := if spec.inputLabel tables = some label then spec.windowPackets st else 0
  owes spec _ log := if spec.inputLabel tables = some label then (log.map spec.packets).sum else 0

def outputBytesAccounting (label : OutputLabel) : Accounting where
  counts := PacketMetric.outputBytes tables label
  holds _ _ := 0
  owes spec st _ :=
    if spec.outputLabel tables = some label then (st.delivered.map List.length).sum else 0

def outputPacketsAccounting (label : OutputLabel) : Accounting where
  counts := PacketMetric.outputPackets tables label
  holds _ _ := 0
  owes spec st _ := if spec.outputLabel tables = some label then st.delivered.length else 0

def streamErrorsAccounting (label : ErrorLabel) : Accounting where
  counts := PacketMetric.streamErrors tables label
  holds _ _ := 0
  owes spec st _ := st.attempts.countP fun a => spec.errorLabel tables a.2 = some label

theorem balanced_inputBytes (label : InputLabel) :
    (inputBytesAccounting tables label).Balanced where
  start spec _ := by
    cases spec <;> simp [inputBytesAccounting, TaskSpec.windowBytes, PacketState.start]
  pass h := by
    unfold inputBytesAccounting
    dsimp only
    split
    · rename_i hlabel
      have := (h.counts_input hlabel).1
      rw [List.map_append, List.sum_append]
      omega
    · rename_i hlabel
      rw [(h.counts_other_input hlabel).1]

theorem balanced_inputPackets (label : InputLabel) :
    (inputPacketsAccounting tables label).Balanced where
  start spec _ := by
    cases spec <;> simp [inputPacketsAccounting, TaskSpec.windowPackets, PacketState.start]
  pass h := by
    unfold inputPacketsAccounting
    dsimp only
    split
    · rename_i hlabel
      have := (h.counts_input hlabel).2
      rw [List.map_append, List.sum_append]
      omega
    · rename_i hlabel
      rw [(h.counts_other_input hlabel).2]

variable {tables} {st : PacketState} {passed : Passed} {own : OutputLabel} {packet : Bytes}
  {result : SendResult}

theorem Attempted.delivered (h : Attempted tables own st passed packet result) :
    passed.state.delivered = st.delivered ++ if result = .sent then [packet] else [] := by
  by_cases hsent : result = .sent <;> simp [PacketState.delivered, h.attempts, hsent]

/-- An output that has tried nothing has delivered nothing more. -/
theorem delivered_eq (h : passed.state.attempts = st.attempts) :
    passed.state.delivered = st.delivered := by
  simp [PacketState.delivered, h]

variable (tables)

theorem balanced_outputBytes (label : OutputLabel) :
    (outputBytesAccounting tables label).Balanced where
  start spec _ := by
    cases spec <;> simp [outputBytesAccounting, PacketState.delivered, PacketState.start]
  pass {spec _ st _ passed _} h := by
    unfold outputBytesAccounting
    dsimp only
    cases hlabel : spec.outputLabel tables with
    | none => simp [(h.counts_silent hlabel label ⟨"", 0, "", ""⟩).1]
    | some own =>
      rcases h.attempted hlabel with ⟨hattempts, hmetrics⟩ | ⟨packet, result, hattempted⟩
      · simp [hmetrics, delivered_eq hattempts]
      · rw [hattempted.outputBytes, hattempted.delivered]
        by_cases hown : own = label <;> by_cases hsent : result = .sent <;>
          simp [hown, hsent, Nat.add_comm]

theorem balanced_outputPackets (label : OutputLabel) :
    (outputPacketsAccounting tables label).Balanced where
  start spec _ := by
    cases spec <;> simp [outputPacketsAccounting, PacketState.delivered, PacketState.start]
  pass {spec _ st _ passed _} h := by
    unfold outputPacketsAccounting
    dsimp only
    cases hlabel : spec.outputLabel tables with
    | none => simp [(h.counts_silent hlabel label ⟨"", 0, "", ""⟩).2.1]
    | some own =>
      rcases h.attempted hlabel with ⟨hattempts, hmetrics⟩ | ⟨packet, result, hattempted⟩
      · simp [hmetrics, delivered_eq hattempts]
      · rw [hattempted.outputPackets, hattempted.delivered]
        by_cases hown : own = label <;> by_cases hsent : result = .sent <;>
          simp [hown, hsent, Nat.add_comm]

theorem balanced_streamErrors (label : ErrorLabel) :
    (streamErrorsAccounting tables label).Balanced where
  start spec _ := by
    cases spec <;> simp [streamErrorsAccounting, PacketState.start]
  pass {spec _ st _ passed _} h := by
    unfold streamErrorsAccounting
    dsimp only
    cases hlabel : spec.outputLabel tables with
    | none =>
      simpa [TaskSpec.errorLabel, hlabel] using
        (h.counts_silent hlabel ⟨"", 0, 0, ""⟩ label).2.2
    | some own =>
      rcases h.attempted hlabel with ⟨hattempts, hmetrics⟩ | ⟨packet, result, hattempted⟩
      · simp [hmetrics, hattempts]
      · have herror : spec.errorLabel tables result = result.errorType.map fun errorType =>
            ⟨own.streamName, own.outputId, own.streamType, errorType⟩ := by
          unfold TaskSpec.errorLabel
          rw [hlabel]
          cases result.errorType <;> rfl
        rw [hattempted.streamErrors, hattempted.attempts, ← herror]
        simp [Nat.add_comm]

end

/-! ## The counters -/

section

variable (tables : CharTables)

/-- What the counters with the label show. -/
def inputBytesReceived (ms : List PacketMetric) (label : InputLabel) : ℕ :=
  (ms.map (PacketMetric.inputBytes tables label)).sum

def inputPacketsReceived (ms : List PacketMetric) (label : InputLabel) : ℕ :=
  (ms.map (PacketMetric.inputPackets tables label)).sum

def outputBytesSent (ms : List PacketMetric) (label : OutputLabel) : ℕ :=
  (ms.map (PacketMetric.outputBytes tables label)).sum

def outputPacketsSent (ms : List PacketMetric) (label : OutputLabel) : ℕ :=
  (ms.map (PacketMetric.outputPackets tables label)).sum

def streamErrors (ms : List PacketMetric) (label : ErrorLabel) : ℕ :=
  (ms.map (PacketMetric.streamErrors tables label)).sum

namespace Traffic

variable {env : Env} {db : Database} {tr : Traffic}

def inputTasks (tr : Traffic) (label : InputLabel) : Finset Task :=
  tr.tasks.filter fun t => t.spec.inputLabel tables = some label

def outputTasks (tr : Traffic) (label : OutputLabel) : Finset Task :=
  tr.tasks.filter fun t => t.spec.outputLabel tables = some label

/-- In every state of every run, whatever was started and stopped, the counters of an input show
what all its tasks together have broadcast, but for what program filters have in open windows. -/
theorem input_counters (hruns : Runs (boot env db) tr) (label : InputLabel) :
    inputBytesReceived tables tr.metrics label +
          ∑ t ∈ tr.inputTasks tables label, t.spec.windowBytes (tr.state t) =
        ∑ t ∈ tr.inputTasks tables label, ((tr.log t).map List.length).sum ∧
      inputPacketsReceived tables tr.metrics label +
          ∑ t ∈ tr.inputTasks tables label, t.spec.windowPackets (tr.state t) =
        ∑ t ∈ tr.inputTasks tables label, ((tr.log t).map t.spec.packets).sum := by
  have hbytes := balances_of_runs (balanced_inputBytes tables label) hruns
  have hpackets := balances_of_runs (balanced_inputPackets tables label) hruns
  unfold Traffic.inputTasks
  rw [Finset.sum_filter, Finset.sum_filter, Finset.sum_filter, Finset.sum_filter]
  exact ⟨hbytes, hpackets⟩

/-- The program filter has reported two packets and has a third one in its window. -/
theorem input_counters_program : ∃ tr, Runs (boot localEnv emptyDatabase) tr ∧
      let tables : CharTables := ⟨Char.isWhitespace, Char.isAlphanum⟩
      let label : InputLabel := ⟨"SPTS_Program_1_from_Input_1", 2, "spts"⟩
      programFilter ∈ tr.inputTasks tables label ∧
      programFilter.spec.windowBytes (tr.state programFilter) = 188 ∧
      inputBytesReceived tables tr.metrics label = 376 ∧
      376 + ∑ t ∈ tr.inputTasks tables label, t.spec.windowBytes (tr.state t) =
        ∑ t ∈ tr.inputTasks tables label, ((tr.log t).map List.length).sum := by
  have hview : ((boot localEnv emptyDatabase).play (fun _ _ => true) programScript).any
      (fun tr => decide (programFilter ∈ tr.rt.spawned ∧
        programFilter.spec.inputLabel ⟨Char.isWhitespace, Char.isAlphanum⟩ =
          some ⟨"SPTS_Program_1_from_Input_1", 2, "spts"⟩ ∧
        programFilter.spec.windowBytes (tr.state programFilter) = 188 ∧
        inputBytesReceived ⟨Char.isWhitespace, Char.isAlphanum⟩ tr.metrics
          ⟨"SPTS_Program_1_from_Input_1", 2, "spts"⟩ = 376)) = true := by
    decide +kernel
  obtain ⟨tr, hplay, hview⟩ := (Option.any_eq_true _ _).mp hview
  obtain ⟨hspawned, hlabel, hwindow, hreceived⟩ := of_decide_eq_true hview
  have hruns := runs_of_script _ hplay
  exact ⟨tr, hruns, Finset.mem_filter.mpr ⟨mem_tasks.mpr hspawned, hlabel⟩, hwindow, hreceived,
    hreceived ▸ (input_counters _ hruns _).1⟩

/-- The counters of an output show what all its tasks together have sent. The packets that they
have tried in vain, or of which only a part was sent, are counted as errors. -/
theorem output_counters (hruns : Runs (boot env db) tr) (label : OutputLabel) :
    outputBytesSent tables tr.metrics label =
        ∑ t ∈ tr.outputTasks tables label, ((tr.state t).delivered.map List.length).sum ∧
      outputPacketsSent tables tr.metrics label =
        ∑ t ∈ tr.outputTasks tables label, (tr.state t).delivered.length ∧
      ∀ errorLabel, streamErrors tables tr.metrics errorLabel = ∑ t ∈ tr.tasks,
        (tr.state t).attempts.countP fun a => t.spec.errorLabel tables a.2 = some errorLabel := by
  have hbytes := balances_of_runs (balanced_outputBytes tables label) hruns
  have hpackets := balances_of_runs (balanced_outputPackets tables label) hruns
  unfold Traffic.outputTasks
  rw [Finset.sum_filter, Finset.sum_filter]
  refine ⟨?_, ?_, fun errorLabel => ?_⟩
  · simpa [Balances, outputBytesAccounting, outputBytesSent] using hbytes
  · simpa [Balances, outputPacketsAccounting, outputPacketsSent] using hpackets
  · simpa [Balances, streamErrorsAccounting, streamErrors] using
      balances_of_runs (balanced_streamErrors tables errorLabel) hruns

/-- The output has sent one packet of the relay and failed to send the other one. -/
theorem output_counters_relay : ∃ tr, Runs (boot localEnv emptyDatabase) tr ∧
      let tables : CharTables := ⟨Char.isWhitespace, Char.isAlphanum⟩
      let label : OutputLabel := ⟨"UDP_Output_to_127_0_0_1_9000", 1, 1, "udp"⟩
      let errorLabel : ErrorLabel := ⟨"UDP_Output_to_127_0_0_1_9000", 1, "udp", "send_failed"⟩
      outputPacketsSent tables tr.metrics label = 1 ∧
      streamErrors tables tr.metrics errorLabel = 1 ∧
      1 = ∑ t ∈ tr.outputTasks tables label, (tr.state t).delivered.length ∧
      1 = ∑ t ∈ tr.tasks,
        (tr.state t).attempts.countP fun a => t.spec.errorLabel tables a.2 = some errorLabel := by
  have hview : ((boot localEnv emptyDatabase).play (fun _ _ => true)
      (relayInputScript ++ relayOutputScript ++ [.packet relayOutput (.sendTo false)])).any
      (fun tr => decide (
        outputPacketsSent ⟨Char.isWhitespace, Char.isAlphanum⟩ tr.metrics
          ⟨"UDP_Output_to_127_0_0_1_9000", 1, 1, "udp"⟩ = 1 ∧
        streamErrors ⟨Char.isWhitespace, Char.isAlphanum⟩ tr.metrics
          ⟨"UDP_Output_to_127_0_0_1_9000", 1, "udp", "send_failed"⟩ = 1)) = true := by
    decide +kernel
  obtain ⟨tr, hplay, hview⟩ := (Option.any_eq_true _ _).mp hview
  obtain ⟨hsent, herrors⟩ := of_decide_eq_true hview
  have hcounters := output_counters ⟨Char.isWhitespace, Char.isAlphanum⟩ (runs_of_script _ hplay)
    ⟨"UDP_Output_to_127_0_0_1_9000", 1, 1, "udp"⟩
  exact ⟨tr, runs_of_script _ hplay, hsent, herrors, hsent ▸ hcounters.2.1,
    herrors ▸ hcounters.2.2 _⟩

end Traffic

end

end StreamGateway
