import StreamGateway.FilterLaws
import StreamGateway.Traffic

/-!
# Delivery

What reaches a receiver in any run of the gateway with its traffic. Each output tries the packets
of its channel in their order, each at most once, and each that it has not missed. A channel has
what its one task broadcasts, and for a program filter that is what the filter leaves of the data
it has heard. A task whose code has ended goes on with no packet.
-/
namespace StreamGateway

open MpegtsFilter (Bytes ProgramFilter)
open Reception

/-! ## One pass -/

/-- The passes of a task, with what each needs. -/
inductive TaskSpec.Passes (next : Option (Reception Bytes)) (st : PacketState) :
    TaskSpec → PacketEvent → Passed → Prop
  | udpInput {id : Int} {name : Option String} {listenPort : UInt16}
      {bindHost multicastGroup sourceSpecificMulticast : Option String}
      {stateTx : Option StateChangeSender} {tx : ChannelId} {data : Bytes} :
      Passes next st (.udpInput id name listenPort bindHost multicastGroup
        sourceSpecificMulticast stateTx tx) (.recvFrom data) (udpInputRecv name id st data)
  | srtInput {id : Int} {name : Option String} {config : SrtInputConfig}
      {stateTx : Option StateChangeSender} {tx : ChannelId} {event : PacketEvent}
      {connected : Bool} :
      Passes next st (.srtInput id name config stateTx tx) event
        ⟨{ st with connected := connected }, [], []⟩
  | srtInputRead {id : Int} {name : Option String} {config : SrtInputConfig}
      {stateTx : Option StateChangeSender} {tx : ChannelId} {data : Bytes} :
      Passes next st (.srtInput id name config stateTx tx) (.read data)
        (srtInputRead name id st data)
  | sptsInput {id : Int} {name : Option String} {sourceInputId : Int} {programNumber : UInt16}
      {fillWithNulls : Bool} {stateTx : Option StateChangeSender} {sourceRx tx : ChannelId}
      {elapsed : Bool} {x : Reception Bytes} {passed : Passed} : next = some x →
      sptsRecv name id st x elapsed = some passed →
      Passes next st (.sptsInput id name sourceInputId programNumber fillWithNulls stateTx sourceRx
        tx) (.filter elapsed) passed
  | outputRecv {spec : TaskSpec} {inputId outputId : Int} {x : Reception Bytes} :
      spec.owner = .output inputId outputId → st.inHand = none → next = some x →
      Passes next st spec .recv (outputRecv st x)
  | srtOutput {inputId outputId : Int} {name : Option String} {config : SrtOutputConfig}
      {stateTx : Option StateChangeSender} {packetRx : ChannelId} :
      Passes next st (.srtOutput inputId outputId name config stateTx packetRx) .connected
        ⟨{ st with connected := true }, [], []⟩
  | udpOutputSend {inputId outputId : Int} {name : Option String} {destAddr : SocketAddr}
      {bindHost : Option String} {multicastConfig : Option MulticastOutputConfig}
      {packetRx : ChannelId} {packet : Bytes} {ok : Bool} : st.inHand = some packet →
      Passes next st (.udpOutput inputId outputId name destAddr bindHost multicastConfig packetRx)
        (.sendTo ok) (udpOutputSend name inputId outputId st packet ok)
  | srtOutputWrite {inputId outputId : Int} {name : Option String} {config : SrtOutputConfig}
      {stateTx : Option StateChangeSender} {packetRx : ChannelId} {packet : Bytes}
      {n : Option ℕ} : st.inHand = some packet →
      Passes next st (.srtOutput inputId outputId name config stateTx packetRx) (.write n)
        (srtOutputWrite name inputId outputId st packet n)

theorem TaskSpec.pass_cases {spec : TaskSpec} {next : Option (Reception Bytes)} {st : PacketState}
    {event : PacketEvent} {passed : Passed} (h : spec.pass next st event = some passed) :
    spec.Passes next st event passed := by
  unfold TaskSpec.pass at h
  split at h
  · obtain rfl := Option.some.inj h
    exact .udpInput
  · split at h
    · exact absurd h (by simp)
    · obtain rfl := Option.some.inj h
      exact .srtInput
  · split at h
    · obtain rfl := Option.some.inj h
      exact .srtInputRead
    · exact absurd h (by simp)
  · split at h
    · obtain rfl := Option.some.inj h
      exact .srtInput
    · exact absurd h (by simp)
  · obtain ⟨x, hx, hpassed⟩ := Option.bind_eq_some_iff.mp h
    exact .sptsInput hx hpassed
  · split at h
    · rename_i hhand
      obtain ⟨x, hx, rfl⟩ := Option.map_eq_some_iff.mp h
      exact .outputRecv rfl hhand hx
    · exact absurd h (by simp)
  · obtain ⟨packet, hpacket, rfl⟩ := Option.map_eq_some_iff.mp h
    exact .udpOutputSend hpacket
  · split at h
    · exact absurd h (by simp)
    · obtain rfl := Option.some.inj h
      exact .srtOutput
  · split at h
    · rename_i hready
      obtain ⟨x, hx, rfl⟩ := Option.map_eq_some_iff.mp h
      exact .outputRecv rfl hready.2 hx
    · exact absurd h (by simp)
  · obtain ⟨packet, hpacket, rfl⟩ := Option.map_eq_some_iff.mp h
    exact .srtOutputWrite hpacket
  · exact absurd h (by simp)

@[simp] theorem sptsWindow_receiver (name : Option String) (id : Int) (st : PacketState)
    (values : List Bytes) (elapsed : Bool) :
    (sptsWindow name id st values elapsed).state.receiver = st.receiver := by
  unfold sptsWindow
  split <;> rfl

@[simp] theorem sptsWindow_filter (name : Option String) (id : Int) (st : PacketState)
    (values : List Bytes) (elapsed : Bool) :
    (sptsWindow name id st values elapsed).state.filter = st.filter := by
  unfold sptsWindow
  split <;> rfl

@[simp] theorem sptsWindow_values (name : Option String) (id : Int) (st : PacketState)
    (values : List Bytes) (elapsed : Bool) :
    (sptsWindow name id st values elapsed).values = values := by
  unfold sptsWindow
  split <;> rfl

/-- Data goes through the filter, and what is left of it is broadcast. -/
theorem sptsRecv_value {name : Option String} {id : Int} {st : PacketState} {mptsData : Bytes}
    {elapsed : Bool} {passed : Passed}
    (h : sptsRecv name id st (.value mptsData) elapsed = some passed) :
    ∃ filtered, st.filter.filterPackets mptsData = some (passed.state.filter, filtered) ∧
      passed.values = [filtered].filter (· ≠ []) ∧
      passed.state.receiver = st.receiver.hear (.value mptsData) := by
  obtain ⟨⟨filter, filtered⟩, hfilter, rfl⟩ := Option.map_eq_some_iff.mp h
  refine ⟨filtered, ?_⟩
  dsimp only
  by_cases hempty : filtered = []
  · simp [hempty, PacketState.hear, hfilter]
  · simp [hempty, PacketState.hear, hfilter]

/-- A pass leaves the receiver alone, or the receiver hears what is next. -/
theorem TaskSpec.Passes.receiver {spec : TaskSpec} {next : Option (Reception Bytes)}
    {st : PacketState} {event : PacketEvent} {passed : Passed}
    (h : spec.Passes next st event passed) :
    passed.state.receiver = st.receiver ∨
      ∃ x, next = some x ∧ passed.state.receiver = st.receiver.hear x := by
  cases h with
  | udpInput => exact .inl rfl
  | srtInput => exact .inl rfl
  | srtInputRead =>
    refine .inl ?_
    unfold StreamGateway.srtInputRead
    dsimp only
    split <;> rfl
  | @sptsInput _ _ _ _ _ _ _ _ _ x _ hx hpassed =>
    refine .inr ⟨x, hx, ?_⟩
    cases x with
    | value mptsData => exact (sptsRecv_value hpassed).choose_spec.2.2
    | lagged missed =>
      obtain rfl := Option.some.inj hpassed
      rfl
  | @outputRecv _ _ _ x _ _ hx =>
    refine .inr ⟨x, hx, ?_⟩
    cases x <;> rfl
  | srtOutput => exact .inl rfl
  | udpOutputSend _ =>
    refine .inl ?_
    unfold StreamGateway.udpOutputSend
    split <;> rfl
  | srtOutputWrite _ =>
    refine .inl ?_
    unfold StreamGateway.srtOutputWrite
    split
    · split <;> rfl
    · rfl

/-- Who has no channel of its own broadcasts nothing. -/
theorem TaskSpec.Passes.values_eq_nil {spec : TaskSpec} {next : Option (Reception Bytes)}
    {st : PacketState} {event : PacketEvent} {passed : Passed}
    (h : spec.Passes next st event passed) (htx : spec.packetTx = none) : passed.values = [] := by
  cases h with
  | udpInput => exact absurd htx (by simp [TaskSpec.packetTx])
  | srtInput => rfl
  | srtInputRead => exact absurd htx (by simp [TaskSpec.packetTx])
  | sptsInput => exact absurd htx (by simp [TaskSpec.packetTx])
  | outputRecv => rfl
  | srtOutput => rfl
  | udpOutputSend _ =>
    unfold StreamGateway.udpOutputSend
    split <;> rfl
  | srtOutputWrite _ =>
    unfold StreamGateway.srtOutputWrite
    split
    · split <;> rfl
    · rfl

/-! ## What a task has done with what it has heard -/

/-- The values of a run of a program filter that are left for its channel. -/
def filteredValues (run : List (ProgramFilter × Bytes)) : List Bytes :=
  (run.map Prod.snd).filter (· ≠ [])

/-- A program filter has broadcast what its run leaves of the data it has heard. -/
def PacketState.Filters (st : PacketState) (programNumber : UInt16) (fillWithNulls : Bool)
    (log : List Bytes) : Prop :=
  ∃ run, (ProgramFilter.new programNumber fillWithNulls).filterBatches
      (values st.receiver.heard) = some run ∧
    st.filter = (ProgramFilter.new programNumber fillWithNulls).after run ∧
    log = filteredValues run

/-- An output has tried what it has heard, but for the packet in its hand. -/
def PacketState.Sends (st : PacketState) : Prop :=
  st.attempts.map Prod.fst ++ st.inHand.toList = values st.receiver.heard

/-- What the variables of a task and its part of a channel have to do with what it has heard. -/
def TaskSpec.Consistent (spec : TaskSpec) (st : PacketState) (log : List Bytes) : Prop :=
  match spec with
  | .sptsInput _ _ _ programNumber fillWithNulls _ _ _ => st.Filters programNumber fillWithNulls log
  | .udpOutput .. => st.Sends
  | .srtOutput .. => st.Sends
  | _ => True

theorem after_snoc (f g : ProgramFilter) (run : List (ProgramFilter × Bytes)) (out : Bytes) :
    f.after (run ++ [(g, out)]) = g := by
  simp [ProgramFilter.after]

/-- A run of a filter goes on where it ended. -/
theorem filterBatches_snoc {f g : ProgramFilter} {batches : List Bytes}
    {run : List (ProgramFilter × Bytes)} {input output : Bytes}
    (h : f.filterBatches batches = some run)
    (hnext : (f.after run).filterPackets input = some (g, output)) :
    f.filterBatches (batches ++ [input]) = some (run ++ [(g, output)]) := by
  induction batches generalizing f run with
  | nil =>
    obtain rfl := Option.some.inj h
    have hf : f.filterPackets input = some (g, output) := hnext
    simp [ProgramFilter.filterBatches, hf]
  | cons first rest ih =>
    simp only [ProgramFilter.filterBatches, Option.bind_eq_bind, Option.bind_eq_some_iff,
      Option.pure_def, Option.some.injEq] at h
    obtain ⟨⟨f', out⟩, hfirst, tail, htail, rfl⟩ := h
    have hafter : f.after ((f', out) :: tail) = f'.after tail := by
      cases tail <;> simp [ProgramFilter.after, List.getLast?_cons]
    rw [hafter] at hnext
    simp [ProgramFilter.filterBatches, hfirst, ih htail hnext]

theorem PacketState.Filters.pass {st : PacketState} {programNumber : UInt16} {fillWithNulls : Bool}
    {log : List Bytes} {name : Option String} {id : Int} {x : Reception Bytes} {elapsed : Bool}
    {passed : Passed} (h : st.Filters programNumber fillWithNulls log)
    (hpassed : sptsRecv name id st x elapsed = some passed) :
    passed.state.Filters programNumber fillWithNulls (log ++ passed.values) := by
  obtain ⟨run, hrun, hfilter, rfl⟩ := h
  cases x with
  | lagged missed =>
    obtain rfl := Option.some.inj hpassed
    refine ⟨run, ?_, hfilter, List.append_nil _⟩
    simpa [PacketState.hear, Receiver.hear] using hrun
  | value mptsData =>
    obtain ⟨filtered, hfiltered, hvalues, hreceiver⟩ := sptsRecv_value hpassed
    rw [hfilter] at hfiltered
    refine ⟨run ++ [(passed.state.filter, filtered)], ?_, (after_snoc _ _ _ _).symm, ?_⟩
    · rw [hreceiver]
      simpa [Receiver.hear] using filterBatches_snoc hrun hfiltered
    · simp [filteredValues, hvalues]

theorem PacketState.Sends.recv {st : PacketState} {x : Reception Bytes} (h : st.Sends)
    (hhand : st.inHand = none) : (outputRecv st x).state.Sends := by
  have h' : st.attempts.map Prod.fst = values st.receiver.heard := by
    simpa [PacketState.Sends, hhand] using h
  cases x with
  | value packet => simp [PacketState.Sends, outputRecv, PacketState.hear, Receiver.hear, h']
  | lagged missed =>
    simp [PacketState.Sends, outputRecv, PacketState.hear, Receiver.hear, h', hhand]

theorem PacketState.Sends.attempt {st : PacketState} {packet : Bytes} (h : st.Sends)
    (hhand : st.inHand = some packet) (result : SendResult) :
    (st.attempt packet result).Sends := by
  simpa [PacketState.Sends, PacketState.attempt, hhand] using h

/-- Each pass keeps it. -/
theorem TaskSpec.Passes.consistent {spec : TaskSpec} {next : Option (Reception Bytes)}
    {st : PacketState} {event : PacketEvent} {passed : Passed} {log : List Bytes}
    (h : spec.Passes next st event passed) (hc : spec.Consistent st log) :
    spec.Consistent passed.state (log ++ passed.values) := by
  cases h with
  | udpInput => trivial
  | srtInput => trivial
  | srtInputRead => trivial
  | sptsInput _ hpassed => exact PacketState.Filters.pass hc hpassed
  | @outputRecv spec _ _ x howner hhand _ =>
    cases spec with
    | udpOutput => exact PacketState.Sends.recv hc hhand
    | srtOutput => exact PacketState.Sends.recv hc hhand
    | _ => exact absurd howner (by simp [TaskSpec.owner])
  | srtOutput => exact hc
  | udpOutputSend hhand =>
    have hsends := PacketState.Sends.attempt hc hhand
    show (StreamGateway.udpOutputSend _ _ _ _ _ _).state.Sends
    unfold StreamGateway.udpOutputSend
    split <;> exact hsends _
  | srtOutputWrite hhand =>
    have hsends := PacketState.Sends.attempt hc hhand
    show (StreamGateway.srtOutputWrite _ _ _ _ _ _).state.Sends
    unfold StreamGateway.srtOutputWrite
    split
    · split <;> exact hsends _
    · exact hsends _

theorem TaskSpec.consistent_start {spec : TaskSpec} (sent : ChannelId → List Bytes) :
    spec.Consistent (.start spec sent) [] := by
  cases spec with
  | sptsInput => exact ⟨[], rfl, rfl, rfl⟩
  | udpOutput => rfl
  | srtOutput => rfl
  | _ => trivial

/-! ## Runs -/

namespace Traffic

/-- What was broadcast by the task, if nobody else uses its channel. -/
def log (tr : Traffic) (t : Task) : List Bytes := (t.spec.packetTx.map tr.sent).getD []

/-- What holds in every state of every run. -/
structure Sound (tr : Traffic) : Prop where
  orderly : tr.pool.Orderly World.Grows underWrite
  numbered : tr.rt.Numbered
  silent : ∀ c, (∀ t ∈ tr.rt.spawned, t.spec.packetTx ≠ some c) → tr.sent c = []
  follows : ∀ t c, t ∈ tr.rt.spawned → t.spec.packetRx = some c →
    (tr.state t).receiver.Follows (tr.sent c)
  consistent : ∀ t ∈ tr.rt.spawned, t.spec.Consistent (tr.state t) (tr.log t)

theorem sound_boot (env : Env) (db : Database) : (boot env db).Sound where
  orderly := orderly_bootPool env db
  numbered := .init _
  silent _ _ := rfl
  follows _ _ ht := absurd ht List.not_mem_nil
  consistent _ ht := absurd ht List.not_mem_nil

variable {tr tr' : Traffic}

theorem Sound.grows (h : tr.Sound) {p : Pool World}
    (hs : Pool.Step GatewayCall TaskStep tr.pool p) : Grows tr.rt p.shared.rt :=
  runs_grows (C := fun _ _ => True) h.orderly (.single ⟨hs, trivial⟩)

theorem Sound.adopt (h : tr.Sound) {p : Pool World}
    (hs : Pool.Step GatewayCall TaskStep tr.pool p) : (tr.adopt p).Sound := by
  have hgrows := h.grows hs
  have hnumbered : p.shared.rt.Numbered := h.numbered.grows hgrows
  have hsubset : tr.rt.spawned ⊆ p.shared.rt.spawned := hgrows.extends.subset
  have hunused : ∀ t c, t ∈ p.shared.rt.spawned → t ∉ tr.rt.spawned →
      t.spec.packetTx = some c → tr.sent c = [] := by
    intro t c ht hnew htx
    refine h.silent c fun u hu hutx => hnew ?_
    rw [hnumbered.apart t u c ht (hsubset hu) htx hutx]
    exact hu
  refine ⟨h.orderly.step (fun _ hp => hp.tidy) hs, hnumbered, fun c hc => ?_, fun t c ht hrx => ?_,
    fun t ht => ?_⟩
  · exact h.silent c fun t ht => hc t (hsubset ht)
  · by_cases hold : t ∈ tr.rt.spawned
    · rw [adopt_state hold]
      exact h.follows t c hold hrx
    · rw [adopt_state_new (show t ∈ p.shared.rt.spawned from ht) hold,
        PacketState.start_receiver hrx]
      exact Receiver.follows_subscribe _
  · by_cases hold : t ∈ tr.rt.spawned
    · rw [adopt_state hold]
      exact h.consistent t hold
    · rw [adopt_state_new (show t ∈ p.shared.rt.spawned from ht) hold]
      have hlog : (tr.adopt p).log t = [] := by
        unfold Traffic.log
        cases htx : t.spec.packetTx with
        | none => rfl
        | some c => exact hunused t c ht hold htx
      rw [hlog]
      exact TaskSpec.consistent_start _

theorem pass_eq_some {t : Task} {event : PacketEvent} (h : tr.pass t event = some tr') :
    ∃ passed, t.spec.Passes (tr.upcoming t) (tr.state t) event passed ∧
      tr' = tr.proceed t passed := by
  obtain ⟨passed, hpassed, rfl⟩ := Option.map_eq_some_iff.mp h
  exact ⟨passed, TaskSpec.pass_cases hpassed, rfl⟩

/-- The receiver of the task goes on along its channel, which may have grown. -/
theorem Sound.follows_proceed (h : tr.Sound) {t : Task} {event : PacketEvent} {passed : Passed}
    (hp : t.spec.Passes (tr.upcoming t) (tr.state t) event passed) {u : Task} {c : ChannelId}
    (hu : u ∈ tr.rt.spawned) (hrx : u.spec.packetRx = some c) :
    ((tr.proceed t passed).state u).receiver.Follows ((tr.proceed t passed).sent c) := by
  have hfollows := h.follows u c hu hrx
  obtain ⟨later, hlater⟩ := tr.proceed_sent_append t passed c
  rw [hlater]
  by_cases hut : u = t
  · subst hut
    rw [proceed_state]
    rcases hp.receiver with hr | ⟨x, hx, hr⟩
    · rw [hr]
      exact hfollows.append later
    · rw [hr]
      rw [Traffic.upcoming, hrx, Option.bind_some] at hx
      exact (hfollows.hear hx).append later
  · rw [proceed_state_ne _ _ _ hut]
    exact hfollows.append later

/-- The other tasks use other channels. -/
theorem Sound.log_proceed (h : tr.Sound) {t u : Task} {passed : Passed} (ht : t ∈ tr.rt.spawned)
    (hu : u ∈ tr.rt.spawned) (hut : u ≠ t) : (tr.proceed t passed).log u = tr.log u := by
  unfold log
  cases htx : u.spec.packetTx with
  | none => rfl
  | some c =>
    exact proceed_sent_ne _ _ _ fun hc => hut (h.numbered.apart u t c hu ht htx hc)

theorem log_proceed_self {t : Task} {event : PacketEvent} {passed : Passed}
    (hp : t.spec.Passes (tr.upcoming t) (tr.state t) event passed) :
    (tr.proceed t passed).log t = tr.log t ++ passed.values := by
  cases htx : t.spec.packetTx with
  | none => simp [log, htx, hp.values_eq_nil htx]
  | some c => simp [log, htx, proceed_sent]

theorem consistent_proceed {t : Task} {event : PacketEvent} {passed : Passed}
    (hp : t.spec.Passes (tr.upcoming t) (tr.state t) event passed)
    (hc : t.spec.Consistent (tr.state t) (tr.log t)) :
    t.spec.Consistent passed.state ((tr.proceed t passed).log t) := by
  rw [log_proceed_self hp]
  exact hp.consistent hc

theorem Sound.pass (h : tr.Sound) {t : Task} {event : PacketEvent} (hspawned : t ∈ tr.rt.spawned)
    (hp : tr.pass t event = some tr') : tr'.Sound := by
  obtain ⟨passed, hpasses, rfl⟩ := pass_eq_some hp
  refine ⟨h.orderly, h.numbered, fun c hc => ?_, fun u c => h.follows_proceed hpasses,
    fun u hu => ?_⟩
  · rw [proceed_sent_ne _ _ _ (hc t hspawned)]
    exact h.silent c hc
  · by_cases hut : u = t
    · subst hut
      rw [proceed_state]
      exact consistent_proceed hpasses (h.consistent u hu)
    · rw [proceed_state_ne _ _ _ hut, h.log_proceed hspawned hu hut]
      exact h.consistent u hu

theorem Sound.step (h : tr.Sound) (hs : Step tr tr') : tr'.Sound := by
  cases hs with
  | control hs => exact h.adopt hs
  | packet ht hp => exact h.pass ht.1 hp

theorem Sound.runs (h : tr.Sound) (hruns : Runs tr tr') : tr'.Sound := by
  induction hruns with
  | refl => exact h
  | tail _ hs ih => exact ih.step hs

theorem sound_of_runs {env : Env} {db : Database} (h : Runs (boot env db) tr) : tr.Sound :=
  (sound_boot env db).runs h

theorem Step.grows (h : tr.Sound) (hs : Step tr tr') : Grows tr.rt tr'.rt := by
  cases hs with
  | control hs => exact h.grows hs
  | packet _ hp =>
    obtain ⟨_, _, rfl⟩ := pass_eq_some hp
    exact .refl _

theorem Step.sent_append (hs : Step tr tr') (c : ChannelId) :
    ∃ later, tr'.sent c = tr.sent c ++ later := by
  cases hs with
  | control _ => exact ⟨[], (List.append_nil _).symm⟩
  | packet _ hp =>
    obtain ⟨_, _, rfl⟩ := pass_eq_some hp
    exact tr.proceed_sent_append _ _ c

/-- A receiver is as it was, or begins behind what is sent so far, or hears what is next. -/
theorem Step.receiver (hs : Step tr tr') {t : Task} {c : ChannelId}
    (ht : t ∈ tr'.rt.spawned) (hrx : t.spec.packetRx = some c) :
    (t ∈ tr.rt.spawned ∧ ((tr'.state t).receiver = (tr.state t).receiver ∨
        ∃ x, (tr.state t).receiver.upcoming (tr.capacity c) (tr.sent c) = some x ∧
          (tr'.state t).receiver = (tr.state t).receiver.hear x)) ∨
      t ∉ tr.rt.spawned ∧ (tr'.state t).receiver = .subscribe (tr.sent c) := by
  cases hs with
  | @control p hs =>
    by_cases hold : t ∈ tr.rt.spawned
    · exact .inl ⟨hold, .inl (by rw [adopt_state hold])⟩
    · refine .inr ⟨hold, ?_⟩
      rw [adopt_state_new (show t ∈ p.shared.rt.spawned from ht) hold,
        PacketState.start_receiver hrx]
  | @packet _ u _ _ hp =>
    obtain ⟨passed, hpasses, rfl⟩ := pass_eq_some hp
    refine .inl ⟨ht, ?_⟩
    by_cases hut : t = u
    · subst hut
      rw [proceed_state]
      refine hpasses.receiver.imp_right fun ⟨x, hx, hr⟩ => ⟨x, ?_, hr⟩
      rwa [upcoming, hrx, Option.bind_some] at hx
    · exact .inl (by rw [proceed_state_ne _ _ _ hut])

theorem Sound.heard_sublist (h : tr.Sound) {t : Task} {c : ChannelId} (ht : t ∈ tr.rt.spawned)
    (hrx : t.spec.packetRx = some c) :
    (values (tr.state t).receiver.heard).Sublist (tr.sent c) :=
  (h.follows t c ht hrx).sublist.trans ((List.drop_sublist ..).trans (List.take_sublist ..))

/-! ## What outputs deliver -/

/-- The packets that a task has taken from its channel to send them, in this order. -/
def taken (tr : Traffic) (t : Task) : List Bytes :=
  (tr.state t).attempts.map Prod.fst ++ (tr.state t).inHand.toList

theorem Sound.taken_eq (h : tr.Sound) {t : Task} {inputId outputId : Int}
    (ht : t ∈ tr.rt.spawned) (howner : t.spec.owner = .output inputId outputId) :
    tr.taken t = values (tr.state t).receiver.heard := by
  have hc := h.consistent t ht
  cases hspec : t.spec <;> simp_all [TaskSpec.Consistent, TaskSpec.owner]
  · exact hc
  · exact hc

/-- The task is behind its channel by no more than what the channel retains. -/
def Close (t : Task) (tr : Traffic) : Prop :=
  ∀ c, t ∈ tr.rt.spawned → t.spec.packetRx = some c →
    (tr.sent c).length ≤ (tr.state t).receiver.next + tr.capacity c

/-- The runs in which the task keeps up. -/
def RunsClose (t : Task) : Traffic → Traffic → Prop :=
  Relation.ReflTransGen fun tr tr' => Step tr tr' ∧ tr.Close t

theorem RunsClose.runs {t : Task} (h : RunsClose t tr tr') : Runs tr tr' := by
  induction h with
  | refl => exact .refl
  | tail _ hs ih => exact ih.tail hs.1

/-! ## A relay -/

def relayInput : Task :=
  ⟨0, .udpInput 1 (some "UDP Listener 5000") 5000 none none none (some ⟨⟩) 0⟩

def relayOutput : Task :=
  ⟨1, .udpOutput 1 1 (some "UDP Output to 127.0.0.1:9000") (.v4 [127, 0, 0, 1], 9000) none none 0⟩

/-- The gateway starts and makes an input, which receives a packet. -/
def relayInputScript : List Cue :=
  List.replicate 8 (.call 0) ++ [.arrive localEnv (.createInput (udpInputRequest 5000))] ++
    List.replicate 5 (.call 1) ++ [.packet relayInput (.recvFrom [70])]

/-- Then it makes an output, and the input receives two more packets. The output sends the first
one, and has taken the second one. -/
def relayOutputScript : List Cue :=
  [.arrive localEnv (.createOutput (udpOutputRequest "127.0.0.1"))] ++
    List.replicate 6 (.call 2) ++ [.packet relayInput (.recvFrom [71]),
      .packet relayInput (.recvFrom [72]), .packet relayOutput .recv,
      .packet relayOutput (.sendTo true), .packet relayOutput .recv]

/-- The output of the relay keeps up. -/
def relayClose (tr : Traffic) : Bool :=
  (tr.sent 0).length ≤ (tr.state relayOutput).receiver.next + tr.capacity 0

theorem close_of_check {tr : Traffic} (h : relayClose tr = true) : tr.Close relayOutput := by
  intro c _ hrx
  obtain rfl : (0 : ChannelId) = c := Option.some.inj hrx
  exact of_decide_eq_true h

/-- The output has taken the packets that came behind its start. -/
theorem exists_relayed : ∃ tr tr' : Traffic,
    RunsClose relayOutput (boot localEnv emptyDatabase) tr ∧ RunsClose relayOutput tr tr' ∧
    relayOutput ∉ tr.rt.spawned ∧ relayOutput ∈ tr'.rt.spawned ∧ tr.sent 0 = [[70]] ∧
    tr'.sent 0 = [[70], [71], [72]] ∧ tr'.taken relayOutput = [[71], [72]] := by
  have hview : ((boot localEnv emptyDatabase).play (fun tr _ => relayClose tr)
      relayInputScript).any (fun tr => (tr.play (fun tr _ => relayClose tr)
        relayOutputScript).any fun tr' => decide (relayOutput ∉ tr.rt.spawned ∧
          relayOutput ∈ tr'.rt.spawned ∧ tr.sent 0 = [[70]] ∧ tr'.sent 0 = [[70], [71], [72]] ∧
          tr'.taken relayOutput = [[71], [72]])) = true := by
    decide +kernel
  obtain ⟨tr, hinput, hview⟩ := (Option.any_eq_true _ _).mp hview
  obtain ⟨tr', houtput, hview⟩ := (Option.any_eq_true _ _).mp hview
  exact ⟨tr, tr', runs_of_play (fun _ _ h => close_of_check h) _ hinput,
    runs_of_play (fun _ _ h => close_of_check h) _ houtput, of_decide_eq_true hview⟩

/-! ## In order -/

/-- In every state of every run, what an output has taken from its channel is in the order in
which it was sent there, each packet at most once and none from before the subscription. What was
sent since then was taken, was missed, or is still to come. An output that has missed nothing has
taken all that was sent up to its position. -/
theorem delivery {env : Env} {db : Database} (hruns : Runs (boot env db) tr) {t : Task}
    {inputId outputId : Int} {c : ChannelId} (ht : t ∈ tr.rt.spawned)
    (howner : t.spec.owner = .output inputId outputId) (hrx : t.spec.packetRx = some c) :
    let r := (tr.state t).receiver
    (tr.taken t).Sublist ((tr.sent c).drop r.start) ∧
      (tr.sent c).length =
        r.start + (tr.taken t).length + misses r.heard + ((tr.sent c).length - r.next) ∧
      (misses r.heard = 0 → tr.taken t = ((tr.sent c).take r.next).drop r.start) := by
  have h := sound_of_runs hruns
  have hfollows := h.follows t c ht hrx
  rw [h.taken_eq ht howner]
  refine ⟨hfollows.sublist.trans ?_, hfollows.conservation, hfollows.values_eq⟩
  exact (List.take_sublist _ _).drop _

theorem delivery_relay : ∃ tr, Runs (boot localEnv emptyDatabase) tr ∧
    tr.taken relayOutput = [[71], [72]] ∧
    [[71], [72]].Sublist ((tr.sent 0).drop (tr.state relayOutput).receiver.start) := by
  obtain ⟨_, tr, hbefore, hclose, _, hspawned, _, _, htaken⟩ := exists_relayed
  have hruns := hbefore.runs.trans hclose.runs
  exact ⟨tr, hruns, htaken, htaken ▸ (delivery hruns hspawned rfl rfl).1⟩

/-! ## Where outputs begin -/

/-- A task that is spawned behind a state hears nothing of what was sent up to it. -/
theorem runs_start_le {t : Task} {c : ChannelId} (hnew : t ∉ tr.rt.spawned)
    (hrx : t.spec.packetRx = some c) (hruns : Runs tr tr') :
    (tr.sent c).length ≤ (tr'.sent c).length ∧ (t ∈ tr'.rt.spawned →
      (tr.sent c).length ≤ (tr'.state t).receiver.start) := by
  induction hruns with
  | refl => exact ⟨Nat.le_refl _, fun ht => absurd ht hnew⟩
  | @tail tr₁ tr₂ _ hs ih =>
    obtain ⟨later, hlater⟩ := hs.sent_append c
    refine ⟨?_, fun ht => ?_⟩
    · rw [hlater, List.length_append]
      exact Nat.le_add_right_of_le ih.1
    · rcases hs.receiver ht hrx with ⟨hold, hr | ⟨x, _, hr⟩⟩ | ⟨_, hr⟩
      · rw [hr]
        exact ih.2 hold
      · rw [hr]
        exact ih.2 hold
      · rw [hr]
        exact ih.1

/-- A task that is spawned for an output, at its first start or at a later one, never sends what its
input broadcast before. -/
theorem delivery_behind_start {env : Env} {db : Database} (hruns : Runs (boot env db) tr)
    (hlater : Runs tr tr') {t : Task} {inputId outputId : Int} {c : ChannelId}
    (hnew : t ∉ tr.rt.spawned) (ht : t ∈ tr'.rt.spawned)
    (howner : t.spec.owner = .output inputId outputId) (hrx : t.spec.packetRx = some c) :
    (tr'.taken t).Sublist ((tr'.sent c).drop (tr.sent c).length) := by
  have h := (sound_of_runs hruns).runs hlater
  have hstart := (runs_start_le hnew hrx hlater).2 ht
  rw [h.taken_eq ht howner]
  refine (h.follows t c ht hrx).sublist.trans ?_
  exact ((List.take_sublist _ _).drop _).trans (List.drop_sublist_drop_left _ hstart)

theorem delivery_behind_start_relay : ∃ tr tr', Runs (boot localEnv emptyDatabase) tr ∧
    Runs tr tr' ∧ tr.sent 0 = [[70]] ∧ tr'.taken relayOutput = [[71], [72]] ∧
    [[71], [72]].Sublist ((tr'.sent 0).drop (tr.sent 0).length) := by
  obtain ⟨tr, tr', hbefore, hclose, hnew, hspawned, hsent, _, htaken⟩ := exists_relayed
  exact ⟨tr, tr', hbefore.runs, hclose.runs, hsent, htaken, htaken ▸
    delivery_behind_start hbefore.runs hclose.runs hnew hspawned rfl rfl⟩

/-! ## Nothing is lost without need -/

theorem RunsClose.misses {env : Env} {db : Database} {t : Task} {c : ChannelId}
    (h : RunsClose t (boot env db) tr) (ht : t ∈ tr.rt.spawned)
    (hrx : t.spec.packetRx = some c) : misses (tr.state t).receiver.heard = 0 := by
  induction h with
  | refl => exact absurd ht List.not_mem_nil
  | @tail tr₁ tr₂ _ hs ih =>
    rcases hs.1.receiver ht hrx with ⟨hold, hr | ⟨x, hx, hr⟩⟩ | ⟨_, hr⟩
    · rw [hr]
      exact ih hold
    · have hmissed := Receiver.upcoming_missed hx (hs.2 c hold hrx)
      rw [hr, Receiver.misses_hear, ih hold, hmissed]
    · rw [hr]
      rfl

/-- An output that is never behind by more than its channel retains takes everything that is
sent from its subscription on, up to its position. -/
theorem delivery_complete {env : Env} {db : Database} {t : Task} {inputId outputId : Int}
    {c : ChannelId} (h : RunsClose t (boot env db) tr) (ht : t ∈ tr.rt.spawned)
    (howner : t.spec.owner = .output inputId outputId) (hrx : t.spec.packetRx = some c) :
    tr.taken t = ((tr.sent c).take (tr.state t).receiver.next).drop
      (tr.state t).receiver.start := by
  have hsound := sound_of_runs h.runs
  rw [hsound.taken_eq ht howner]
  exact (hsound.follows t c ht hrx).values_eq (h.misses ht hrx)

theorem delivery_complete_relay : ∃ tr, RunsClose relayOutput (boot localEnv emptyDatabase) tr ∧
    tr.sent 0 = [[70], [71], [72]] ∧ tr.taken relayOutput = [[71], [72]] ∧
    tr.taken relayOutput = ((tr.sent 0).take (tr.state relayOutput).receiver.next).drop
      (tr.state relayOutput).receiver.start := by
  obtain ⟨_, tr, hbefore, hclose, _, hspawned, _, hsent, htaken⟩ := exists_relayed
  have hruns := hbefore.trans hclose
  exact ⟨tr, hruns, hsent, htaken, delivery_complete hruns hspawned rfl rfl⟩

/-! ## Tasks that have ended -/

/-- A task that has ended stays so, and goes on with no packet. -/
theorem Step.ended (h : tr.Sound) (hs : Step tr tr') {t : Task} (ht : t ∈ tr.rt.spawned)
    (hended : t ∈ tr.rt.ended) : t ∈ tr'.rt.ended ∧ tr'.state t = tr.state t := by
  refine ⟨(hs.grows h).ended hended, ?_⟩
  cases hs with
  | control _ => exact adopt_state ht
  | packet hrunning hp =>
    obtain ⟨_, _, rfl⟩ := pass_eq_some hp
    exact proceed_state_ne _ _ _ fun heq => hrunning.2 (heq ▸ hended)

end Traffic

end StreamGateway
