import StreamGateway.AnalysisTasks
import StreamGateway.Routing

/-!
# What analyses are fed

An analysis has a second task that copies the packets of its input onto a channel of its own, from
which the inspector takes them. The copying ends with the first packet that is missed. The
inspector itself is a library, so what it may report on what it has heard is a parameter. Each
report is written to where the endpoint reads it by one more task, and these may overtake each
other.
-/
namespace StreamGateway

open MpegtsFilter (Bytes)
open Reception

/-- `AnalysisType::from_str`. -/
def AnalysisType.fromStr (s : String) : Except String AnalysisType :=
  match s.toLower with
  | "mux" => .ok .mux
  | "tr101" => .ok .tr101
  | _ => .error s!"Invalid analysis type: {s}"

/-! ## One analysis -/

/-- The variables of an analysis: the receiver of the copying task, whether this task goes on and
what it has sent on its channel, the receiver of the inspector, the reports that are still to be
written, and the report that can be read. -/
structure Feed (ρ : Type) where
  rx : Receiver Bytes
  converting : Bool
  sent : List Bytes
  rxVec : Receiver Bytes
  updates : List ρ
  reportData : Option ρ

/-- What happens to an analysis next. The tasks that write reports run in any order. -/
inductive FeedEvent (ρ : Type)
  | convert
  | closed
  | recv
  | report (report : ρ)
  | update (k : ℕ)

/-- `broadcast::channel(1000)`, the capacity of which is rounded up to a power of two. -/
def inspectorCapacity : ℕ := 1024

namespace Feed

variable {ρ : Type}

/-- The receiver comes from the call, which has subscribed at the position. -/
def start (position : ℕ) : Feed ρ where
  rx := ⟨position, position, []⟩
  converting := true
  sent := []
  rxVec := .subscribe []
  updates := []
  reportData := none

/-- `while let Ok(bytes) = rx.recv().await`: the loop also ends when its packet finds no receiver,
because the task of the analysis has dropped it. -/
def convert (f : Feed ρ) (listening : Bool) : Reception Bytes → Feed ρ
  | .value bytes =>
    if listening then { f with rx := f.rx.hear (.value bytes), sent := f.sent ++ [bytes] }
    else { f with rx := f.rx.hear (.value bytes), converting := false }
  | .lagged missed => { f with rx := f.rx.hear (.lagged missed), converting := false }

/-- `next` is what the channel of the input has for the copying task. The inspector runs as long
as the task of the analysis is `listening`. -/
def step (f : Feed ρ) (next : Option (Reception Bytes)) (listening : Bool) :
    FeedEvent ρ → Option (Feed ρ)
  | .convert => if f.converting then next.map (f.convert listening) else none
  | .closed => if next = none then some { f with converting := false } else none
  | .recv =>
    if listening then
      (f.rxVec.upcoming inspectorCapacity f.sent).map fun x => { f with rxVec := f.rxVec.hear x }
    else none
  | .report report => if listening then some { f with updates := f.updates ++ [report] } else none
  | .update k => f.updates[k]?.map fun report =>
    { f with updates := f.updates.eraseIdx k, reportData := some report }

/-- What holds of an analysis in every state. It has reported what the inspector was able to say
about some of what it has heard. -/
structure Sound (Reports : List (Reception Bytes) → ρ → Prop) (sent : List Bytes)
    (f : Feed ρ) : Prop where
  follows : f.rx.Follows sent
  unbroken : f.sent <+: sent.drop f.rx.start
  intact : f.converting = true → misses f.rx.heard = 0 ∧ f.sent = values f.rx.heard
  listens : f.rxVec.Follows f.sent
  reported : ∀ report, report ∈ f.updates ∨ f.reportData = some report →
    ∃ heard, heard <+: f.rxVec.heard ∧ Reports heard report

variable {Reports : List (Reception Bytes) → ρ → Prop} {sent : List Bytes} {f f' : Feed ρ}

theorem sound_start {position : ℕ} (h : position ≤ sent.length) :
    (start position : Feed ρ).Sound Reports sent where
  follows := ⟨h, rfl, List.nil_sublist _⟩
  unbroken := List.nil_prefix
  intact _ := ⟨rfl, rfl⟩
  listens := Receiver.follows_subscribe []
  reported _ hr := by simp [start] at hr

/-- More may be sent. -/
theorem Sound.append (h : f.Sound Reports sent) (later : List Bytes) :
    f.Sound Reports (sent ++ later) := by
  refine ⟨h.follows.append later, h.unbroken.trans ?_, h.intact, h.listens, h.reported⟩
  rw [List.drop_append_of_le_length (h.follows.start_le.trans h.follows.next_le)]
  exact List.prefix_append _ _

/-- The copying may end. -/
theorem Sound.close (h : f.Sound Reports sent) :
    ({ f with converting := false } : Feed ρ).Sound Reports sent :=
  ⟨h.follows, h.unbroken, fun hc => absurd hc (by simp), h.listens, h.reported⟩

/-- As long as nothing was missed, the next packet is the one behind those that were copied. -/
theorem Sound.convert (h : f.Sound Reports sent) (hon : f.converting = true) {capacity : ℕ}
    {x : Reception Bytes} (hx : f.rx.upcoming capacity sent = some x) (listening : Bool) :
    (f.convert listening x).Sound Reports sent := by
  have hfollows := h.follows.hear hx
  obtain ⟨hnone, hsent⟩ := h.intact hon
  unfold Feed.convert
  cases x with
  | lagged missed => exact ⟨hfollows, h.unbroken, fun hc => absurd hc nofun, h.listens, h.reported⟩
  | value bytes =>
    cases listening with
    | false => exact ⟨hfollows, h.unbroken, fun hc => absurd hc nofun, h.listens, h.reported⟩
    | true =>
      have hmisses : misses (f.rx.hear (.value bytes)).heard = 0 := by
        rw [Receiver.misses_hear, hnone]
        rfl
      have hvalues : f.sent ++ [bytes] = values (f.rx.hear (.value bytes)).heard := by
        rw [Receiver.values_hear, hsent]
        rfl
      refine ⟨hfollows, ?_, fun _ => ⟨hmisses, hvalues⟩, h.listens.append _, h.reported⟩
      show f.sent ++ [bytes] <+: _
      rw [hvalues, hfollows.values_eq hmisses]
      have htake := List.take_prefix (f.rx.hear (.value bytes)).next sent
      exact htake.drop _

theorem Sound.step (h : f.Sound Reports sent) {capacity : ℕ} {listening : Bool}
    {event : FeedEvent ρ} (hs : f.step (f.rx.upcoming capacity sent) listening event = some f')
    (hreport : ∀ report, event = .report report → Reports f.rxVec.heard report) :
    f'.Sound Reports sent := by
  cases event with
  | convert =>
    simp only [Feed.step, Option.ite_none_right_eq_some, Option.map_eq_some_iff] at hs
    obtain ⟨hon, x, hx, rfl⟩ := hs
    exact h.convert hon hx listening
  | closed =>
    simp only [Feed.step, Option.ite_none_right_eq_some, Option.some.injEq] at hs
    obtain ⟨_, rfl⟩ := hs
    exact h.close
  | recv =>
    simp only [Feed.step, Option.ite_none_right_eq_some, Option.map_eq_some_iff] at hs
    obtain ⟨_, x, hx, rfl⟩ := hs
    refine ⟨h.follows, h.unbroken, h.intact, h.listens.hear hx, fun report hr => ?_⟩
    obtain ⟨heard, hprefix, hr⟩ := h.reported report hr
    exact ⟨heard, hprefix.trans (List.prefix_append _ _), hr⟩
  | report new =>
    simp only [Feed.step, Option.ite_none_right_eq_some, Option.some.injEq] at hs
    obtain ⟨_, rfl⟩ := hs
    refine ⟨h.follows, h.unbroken, h.intact, h.listens, fun report hr => ?_⟩
    rcases hr with hr | hr
    · rcases List.mem_append.mp hr with hr | hr
      · exact h.reported report (.inl hr)
      · obtain rfl := List.mem_singleton.mp hr
        exact ⟨_, List.prefix_rfl, hreport report rfl⟩
    · exact h.reported report (.inr hr)
  | update k =>
    simp only [Feed.step, Option.map_eq_some_iff] at hs
    obtain ⟨new, hk, rfl⟩ := hs
    refine ⟨h.follows, h.unbroken, h.intact, h.listens, fun report hr => ?_⟩
    rcases hr with hr | hr
    · exact h.reported report (.inl (List.mem_of_mem_eraseIdx hr))
    · obtain rfl := Option.some.inj hr
      exact h.reported new (.inl (List.mem_of_getElem? hk))

/-- The inspector hears the first packet that is fed to it. -/
theorem recv_first {next : Option (Reception Bytes)} {bytes : Bytes}
    (hrx : f.rxVec = .subscribe []) (hsent : f.sent = [bytes]) :
    f.step next true .recv = some { f with rxVec := f.rxVec.hear (.value bytes) } := by
  simp [Feed.step, hrx, hsent, Receiver.upcoming, Receiver.oldest, Receiver.subscribe,
    inspectorCapacity]

/-- What is fed is added to, and only while the copying goes on and the inspector is there. -/
structure Follows (listening : Prop) (f f' : Feed ρ) : Prop where
  fed : f.sent <+: f'.sent
  ended : f.converting = false → f'.converting = false
  silent : f.converting = false ∨ ¬ listening → f'.sent = f.sent

theorem follows_of_eq {listening : Prop} (hsent : f'.sent = f.sent)
    (hconverting : f.converting = false → f'.converting = false) : Follows listening f f' :=
  ⟨by rw [hsent], hconverting, fun _ => hsent⟩

theorem follows_step {next : Option (Reception Bytes)} {listening : Bool} {event : FeedEvent ρ}
    (hs : f.step next listening event = some f') : Follows (listening = true) f f' := by
  cases event with
  | convert =>
    simp only [Feed.step, Option.ite_none_right_eq_some, Option.map_eq_some_iff] at hs
    obtain ⟨hon, x, _, rfl⟩ := hs
    cases x with
    | lagged missed => exact follows_of_eq rfl fun _ => rfl
    | value bytes =>
      cases listening with
      | false => exact follows_of_eq rfl fun _ => rfl
      | true =>
        refine ⟨List.prefix_append _ _, fun hoff => absurd (hon.symm.trans hoff) nofun, ?_⟩
        rintro (hoff | hoff)
        · exact absurd (hon.symm.trans hoff) nofun
        · exact absurd rfl hoff
  | closed =>
    simp only [Feed.step, Option.ite_none_right_eq_some, Option.some.injEq] at hs
    obtain ⟨_, rfl⟩ := hs
    exact follows_of_eq rfl fun _ => rfl
  | recv =>
    simp only [Feed.step, Option.ite_none_right_eq_some, Option.map_eq_some_iff] at hs
    obtain ⟨_, x, _, rfl⟩ := hs
    exact follows_of_eq rfl id
  | report new =>
    simp only [Feed.step, Option.ite_none_right_eq_some, Option.some.injEq] at hs
    obtain ⟨_, rfl⟩ := hs
    exact follows_of_eq rfl id
  | update k =>
    simp only [Feed.step, Option.map_eq_some_iff] at hs
    obtain ⟨new, _, rfl⟩ := hs
    exact follows_of_eq rfl id

end Feed

/-! ## The gateway with its analyses -/

/-- The gateway with its traffic, and the variables of its analyses. -/
structure Inspection (ρ : Type) where
  traffic : Traffic
  feed : Task → Feed ρ

namespace Inspection

variable {ρ : Type}

def rt (a : Inspection ρ) : Runtime := a.traffic.rt

/-- New analyses start at the positions where they have subscribed. The copying task is none of the
tasks of the runtime. It may be cut off when the task of the analysis ends: that task aborts it when
it returns, and leaves it alone when it was aborted itself. -/
def adopt (a : Inspection ρ) (tr : Traffic) (position : Task → ℕ) (cut : Task → Bool) :
    Inspection ρ where
  traffic := tr
  feed t :=
    if t ∈ tr.rt.spawned ∧ t ∉ a.rt.spawned then .start (position t)
    else if a.rt.Running t ∧ ¬ tr.rt.Running t ∧ cut t then
      { a.feed t with converting := false }
    else a.feed t

def setFeed (a : Inspection ρ) (t : Task) (f : Feed ρ) : Inspection ρ :=
  { a with feed := Function.update a.feed t f }

/-- What the channel has for the copying task of an analysis with these variables. -/
def upcoming (a : Inspection ρ) (rx : ChannelId) (f : Feed ρ) : Option (Reception Bytes) :=
  f.rx.upcoming (a.traffic.capacity rx) (a.traffic.sent rx)

/-- An analysis goes on. -/
def proceed (a : Inspection ρ) (t : Task) (rx : ChannelId) (event : FeedEvent ρ) :
    Option (Inspection ρ) :=
  ((a.feed t).step (a.upcoming rx (a.feed t)) (a.rt.Running t) event).map (a.setFeed t)

section

variable (a : Inspection ρ) (t : Task) (f : Feed ρ)

@[simp] theorem setFeed_traffic : (a.setFeed t f).traffic = a.traffic := rfl

@[simp] theorem setFeed_rt : (a.setFeed t f).rt = a.rt := rfl

@[simp] theorem setFeed_feed : (a.setFeed t f).feed t = f := Function.update_self ..

theorem setFeed_feed_ne {u : Task} (h : u ≠ t) : (a.setFeed t f).feed u = a.feed u :=
  Function.update_of_ne h ..

@[simp] theorem setFeed_self : a.setFeed t (a.feed t) = a := by
  rw [setFeed, Function.update_eq_self]

@[simp] theorem setFeed_setFeed (f' : Feed ρ) :
    (a.setFeed t f).setFeed t f' = a.setFeed t f' := by
  rw [setFeed, setFeed, Function.update_idem]
  rfl

end

/-- What the inspector may report, for each type of analysis, on what it has heard. -/
abbrev Reporting (ρ : Type) := AnalysisType → List (Reception Bytes) → ρ → Prop

/-- A step of the gateway with its traffic, or of an analysis. The subscription of a new analysis
was made by then. -/
inductive Step (Reports : Reporting ρ) : Inspection ρ → Inspection ρ → Prop
  | traffic {a : Inspection ρ} {tr : Traffic} {position : Task → ℕ} {cut : Task → Bool} :
      Traffic.Step a.traffic tr →
      (∀ t c, t.spec.packetRx = some c → position t ≤ (a.traffic.sent c).length) →
      Step Reports a (a.adopt tr position cut)
  | analysis {a a' : Inspection ρ} {t : Task} {inputId : Int} {analysisId : ℕ}
      {analysisType : AnalysisType} {timeout : Option ℕ} {rx : ChannelId} {event : FeedEvent ρ} :
      t ∈ a.rt.spawned → t.spec = .analysis inputId analysisId analysisType timeout rx →
      a.proceed t rx event = some a' →
      (∀ report, event = .report report → Reports analysisType (a.feed t).rxVec.heard report) →
      Step Reports a a'

def Runs (Reports : Reporting ρ) : Inspection ρ → Inspection ρ → Prop :=
  Relation.ReflTransGen (Step Reports)

/-- The gateway at the start of the process. -/
def boot (ρ : Type) (env : Env) (db : Database) : Inspection ρ where
  traffic := .boot env db
  feed _ := .start 0

/-- `GET /inputs/{id}/analysis/{analysis_type}/data`. -/
def getAnalysisData (a : Inspection ρ) (inputId : Int) (analysisTypeStr : String) :
    Except Response ρ :=
  match AnalysisType.fromStr analysisTypeStr with
  | .error e => .error (.internalServerError s!"Invalid analysis type: {e}")
  | .ok analysisType =>
    match a.traffic.pool.shared.streams.lookup inputId with
    | none => .error (inputNotFound inputId)
    | some inputInfo =>
      match inputInfo.analysisTasks.toPairs.find? fun x => x.2.analysisType = analysisType with
      | none => .error (.notFound
          s!"No active {analysisTypeStr} analysis found for input {inputId}")
      | some (_, analysisInfo) =>
        match (a.feed analysisInfo.taskHandle).reportData with
        | some data => .ok data
        | none => .error (.notFound (s!"No data available yet for {analysisTypeStr} analysis " ++
            s!"on input {inputId}. Analysis may be starting up."))

/-! ## Every state -/

variable {Reports : Reporting ρ} {a a' : Inspection ρ} {env : Env} {db : Database}

/-- The traffic goes on, or an analysis does. -/
theorem Step.traffic_or (hs : Step Reports a a') :
    Traffic.Step a.traffic a'.traffic ∨ a'.traffic = a.traffic := by
  cases hs with
  | traffic hs _ => exact .inl hs
  | analysis _ _ hp _ =>
    obtain ⟨_, _, rfl⟩ := Option.map_eq_some_iff.mp hp
    exact .inr rfl

theorem Runs.traffic (h : Runs Reports a a') : Traffic.Runs a.traffic a'.traffic := by
  induction h with
  | refl => exact .refl
  | tail _ hs ih =>
    rcases hs.traffic_or with hs | hs
    · exact ih.tail hs
    · rwa [hs]

/-- What holds in every state of every run. -/
structure Sound (Reports : Reporting ρ) (a : Inspection ρ) : Prop where
  traffic : a.traffic.Sound
  feeds : ∀ t ∈ a.rt.spawned, ∀ {inputId analysisId analysisType timeout rx},
    t.spec = .analysis inputId analysisId analysisType timeout rx →
      (a.feed t).Sound (Reports analysisType) (a.traffic.sent rx)
  unspawned : ∀ t, t ∉ a.rt.spawned → (a.feed t).reportData = none

theorem sound_boot : (boot ρ env db).Sound Reports :=
  ⟨Traffic.sound_boot env db, fun _ ht => absurd ht List.not_mem_nil, fun _ _ => rfl⟩

theorem Sound.adopt (h : a.Sound Reports) {tr : Traffic} {position : Task → ℕ}
    (hs : Traffic.Step a.traffic tr)
    (hposition : ∀ t c, t.spec.packetRx = some c → position t ≤ (a.traffic.sent c).length)
    (cut : Task → Bool) : (a.adopt tr position cut).Sound Reports := by
  refine ⟨h.traffic.step hs, fun t ht _ _ analysisType _ rx hspec => ?_, fun t ht => ?_⟩
  · obtain ⟨later, hlater⟩ := hs.sent_append rx
    show (ite _ _ _ : Feed ρ).Sound _ (tr.sent rx)
    rw [hlater]
    split
    · have hle := hposition t rx (by rw [hspec]; rfl)
      exact (Feed.sound_start hle).append later
    · rename_i hold
      have hspawned : t ∈ a.rt.spawned := by
        by_contra hnew
        exact hold ⟨ht, hnew⟩
      have hfeed := (h.feeds t hspawned hspec).append later
      split
      · exact hfeed.close
      · exact hfeed
  · have hnone := h.unspawned t fun hold => ht ((hs.grows h.traffic).extends.subset hold)
    show (ite _ _ _ : Feed ρ).reportData = none
    split
    · rfl
    · split
      · exact hnone
      · exact hnone

theorem Sound.step (h : a.Sound Reports) (hs : Step Reports a a') : a'.Sound Reports := by
  cases hs with
  | traffic hs hposition => exact h.adopt hs hposition _
  | @analysis _ t inputId analysisId analysisType timeout rx event ht hspec hp hreport =>
    obtain ⟨f, hf, rfl⟩ := Option.map_eq_some_iff.mp hp
    refine ⟨h.traffic, fun u hu _ _ analysisType' _ rx' hspec' => ?_, fun u hu => ?_⟩
    · by_cases hut : u = t
      · subst hut
        obtain ⟨_, _, rfl, _, rfl⟩ := TaskSpec.analysis.inj (hspec.symm.trans hspec')
        rw [setFeed_feed]
        exact (h.feeds u hu hspec).step hf hreport
      · rw [setFeed_feed_ne _ _ _ hut]
        exact h.feeds u hu hspec'
    · have hut : u ≠ t := fun hut => hu (show u ∈ a.rt.spawned from hut ▸ ht)
      rw [setFeed_feed_ne _ _ _ hut]
      exact h.unspawned u hu

theorem Runs.sound (h : a.Sound Reports) (hruns : Runs Reports a a') : a'.Sound Reports := by
  induction hruns with
  | refl => exact h
  | tail _ hs ih => exact ih.step hs

theorem sound_of_runs (h : Runs Reports (boot ρ env db) a) : a.Sound Reports :=
  Runs.sound sound_boot h

/-! ## What is fed -/

/-- An analysis that was spawned goes on from what it was. -/
theorem Step.follows (hs : Step Reports a a') {t : Task} (ht : t ∈ a.rt.spawned) :
    Feed.Follows (a.rt.Running t) (a.feed t) (a'.feed t) := by
  cases hs with
  | @traffic tr position cut _ _ =>
    show Feed.Follows _ _ (ite _ _ _)
    rw [if_neg fun hnew => hnew.2 ht]
    split
    · exact Feed.follows_of_eq rfl fun _ => rfl
    · exact Feed.follows_of_eq rfl id
  | @analysis _ u _ _ _ _ rx event _ _ hp _ =>
    obtain ⟨f, hf, rfl⟩ := Option.map_eq_some_iff.mp hp
    by_cases htu : t = u
    · subst htu
      rw [setFeed_feed]
      simpa using Feed.follows_step hf
    · rw [setFeed_feed_ne _ _ _ htu]
      exact Feed.follows_of_eq rfl id

/-- A task that was spawned stays so, and one that has ended stays so. -/
theorem Step.lifetime (h : a.Sound Reports) (hs : Step Reports a a') {t : Task}
    (ht : t ∈ a.rt.spawned) : t ∈ a'.rt.spawned ∧ (¬ a.rt.Running t → ¬ a'.rt.Running t) := by
  rcases hs.traffic_or with hs | hs
  · refine ⟨(hs.grows h.traffic).extends.subset ht, fun hdead hrunning => ?_⟩
    exact hrunning.2 (hs.ended h.traffic ht (by_contra fun hnot => hdead ⟨ht, hnot⟩)).1
  · rw [rt, hs]
    exact ⟨ht, id⟩

/-- Whatever comes, an analysis is fed no more than it was if the copying or the task has ended,
and otherwise what comes behind it. -/
theorem Runs.follows (h : a.Sound Reports) (hruns : Runs Reports a a') {t : Task}
    (ht : t ∈ a.rt.spawned) : t ∈ a'.rt.spawned ∧ (¬ a.rt.Running t → ¬ a'.rt.Running t) ∧
      Feed.Follows (a.rt.Running t) (a.feed t) (a'.feed t) := by
  induction hruns with
  | refl => exact ⟨ht, id, Feed.follows_of_eq rfl id⟩
  | tail hruns hs ih =>
    obtain ⟨hspawned, hdead, hfollows⟩ := ih
    obtain ⟨hspawned', hdead'⟩ := hs.lifetime (Runs.sound h hruns) hspawned
    have hnext := hs.follows hspawned
    refine ⟨hspawned', hdead' ∘ hdead, hfollows.fed.trans hnext.fed,
      hnext.ended ∘ hfollows.ended, fun hsilent => ?_⟩
    rw [hnext.silent (hsilent.imp hfollows.ended hdead), hfollows.silent hsilent]

/-! ## An analysis of a relay -/

/-- The gateway and its traffic may go on while the analyses wait. -/
theorem exists_runs (h : a.Sound Reports) {tr : Traffic} (hruns : Traffic.Runs a.traffic tr) :
    ∃ a' : Inspection ρ, a'.traffic = tr ∧ Runs Reports a a' ∧
      (∀ t ∈ a.rt.spawned, a'.feed t = a.feed t) ∧
      ∀ t ∈ tr.rt.spawned, t ∉ a.rt.spawned → a'.feed t = .start 0 := by
  induction hruns with
  | refl => exact ⟨a, rfl, .refl, fun _ _ => rfl, fun t ht hnew => absurd ht hnew⟩
  | @tail tr tr' _ hs ih =>
    obtain ⟨a', rfl, hruns, hkept, hstarted⟩ := ih
    have hspawned : ∀ t ∈ a.rt.spawned, t ∈ a'.rt.spawned := fun t ht =>
      (Runs.follows h hruns ht).1
    refine ⟨a'.adopt tr' (fun _ => 0) fun _ => false, rfl,
      hruns.tail (.traffic hs fun _ _ _ => Nat.zero_le _), fun t ht => ?_, fun t ht hnew => ?_⟩
    · show ite _ _ (ite _ _ _) = _
      rw [if_neg fun hnew => hnew.2 (hspawned t ht), if_neg fun hcut => absurd hcut.2.2 (by simp)]
      exact hkept t ht
    · show ite _ _ (ite _ _ _) = _
      split
      · rfl
      · rename_i hold
        have hthere : t ∈ a'.rt.spawned := by
          by_contra hnot
          exact hold ⟨ht, hnot⟩
        rw [if_neg fun hcut => absurd hcut.2.2 (by simp)]
        exact hstarted t hthere hnew

theorem getAnalysisData_of {inputId : Int} {analysisTypeStr : String} {data : ρ}
    {analysisType : AnalysisType} {inputInfo : InputInfo} {k : ℕ} {analysisInfo : AnalysisInfo}
    (htype : AnalysisType.fromStr analysisTypeStr = .ok analysisType)
    (hi : a.traffic.pool.shared.streams.lookup inputId = some inputInfo)
    (hfind : (inputInfo.analysisTasks.toPairs.find? fun x => x.2.analysisType = analysisType) =
      some (k, analysisInfo))
    (hdata : (a.feed analysisInfo.taskHandle).reportData = some data) :
    a.getAnalysisData inputId analysisTypeStr = .ok data := by
  simp only [getAnalysisData, htype, hi, hfind, hdata]

/-- One more event of an analysis, of which the variables are at hand. -/
theorem Runs.tail_event {a₀ : Inspection ρ} {t : Task} {f f' : Feed ρ} {event : FeedEvent ρ}
    {inputId : Int} {analysisId : ℕ} {analysisType : AnalysisType} {timeout : Option ℕ}
    {rx : ChannelId} (h : Runs Reports a₀ (a.setFeed t f)) (ht : t ∈ a.rt.spawned)
    (hspec : t.spec = .analysis inputId analysisId analysisType timeout rx)
    (hf : f.step (a.upcoming rx f) (a.rt.Running t) event = some f')
    (hreport : ∀ report, event = .report report → Reports analysisType f.rxVec.heard report) :
    Runs Reports a₀ (a.setFeed t f') := by
  refine h.tail (@Step.analysis _ _ _ _ t _ _ _ _ rx event ht hspec ?_ ?_)
  · refine Option.map_eq_some_iff.mpr ⟨f', ?_, a.setFeed_setFeed t f f'⟩
    rw [setFeed_feed]
    exact hf
  · rwa [setFeed_feed]

def relayAnalysis : Task := ⟨1, .analysis 1 0 .mux none 0⟩

/-- The inspector reports all that it has heard. -/
def Verbatim : Reporting (List (Reception Bytes)) := fun _ heard report => report = heard

/-- The input is analysed, and receives a packet. -/
def analysedScript : List Traffic.Cue :=
  List.replicate 8 (.call 0) ++ [.arrive localEnv (.createInput (udpInputRequest 5000))] ++
    List.replicate 5 (.call 1) ++ [.arrive localEnv (.startAnalysis 1 .mux none)] ++
    List.replicate 8 (.call 2) ++ [.packet Traffic.relayInput (.recvFrom [71])]

/-- The analysis is stopped, and its task ends. -/
def stoppedScript : List Traffic.Cue :=
  [.arrive localEnv (.stopAnalysis 1 .mux)] ++ List.replicate 3 (.call 3) ++
    [.finish relayAnalysis]

/-- The input has received a packet, of which the analysis knows nothing yet. Later the task of the
analysis ends, and the input receives another packet. -/
theorem exists_waiting : ∃ (a : Inspection (List (Reception Bytes))) (tr tr' : Traffic),
    Runs Verbatim (boot _ localEnv emptyDatabase) a ∧ a.rt.Running relayAnalysis ∧
    a.upcoming 0 (.start 0) = some (.value [71]) ∧ a.feed relayAnalysis = .start 0 ∧
    (a.traffic.pool.shared.streams.lookup 1).map (fun info => info.analysisTasks.toPairs.map
      fun x => (x.2.analysisType, x.2.taskHandle)) = some [(.mux, relayAnalysis)] ∧
    Traffic.Runs a.traffic tr ∧ Traffic.Runs tr tr' ∧ relayAnalysis ∈ tr.rt.ended ∧
    tr'.sent 0 = [[71], [72]] := by
  have hview : ((Traffic.boot localEnv emptyDatabase).play (fun _ _ => true)
      analysedScript).any (fun tr₀ => (tr₀.play (fun _ _ => true) stoppedScript).any fun tr =>
        (tr.play (fun _ _ => true) [.packet Traffic.relayInput (.recvFrom [72])]).any fun tr' =>
          decide (tr₀.rt.Running relayAnalysis ∧
            (Receiver.subscribe []).upcoming (tr₀.capacity 0) (tr₀.sent 0) = some (.value [71]) ∧
            (tr₀.pool.shared.streams.lookup 1).map (fun info => info.analysisTasks.toPairs.map
              fun x => (x.2.analysisType, x.2.taskHandle)) = some [(.mux, relayAnalysis)] ∧
            relayAnalysis ∈ tr.rt.ended ∧ tr'.sent 0 = [[71], [72]])) = true := by
    decide +kernel
  obtain ⟨tr₀, hplay, hview⟩ := (Option.any_eq_true _ _).mp hview
  obtain ⟨tr, hstop, hview⟩ := (Option.any_eq_true _ _).mp hview
  obtain ⟨tr', hlater, hview⟩ := (Option.any_eq_true _ _).mp hview
  obtain ⟨hrunning, hnext, hentry, hended, hsent⟩ := of_decide_eq_true hview
  have hboot : (boot (List (Reception Bytes)) localEnv emptyDatabase).Sound Verbatim := sound_boot
  obtain ⟨a, rfl, hruns, _, hstart⟩ := exists_runs hboot (Traffic.runs_of_script _ hplay)
  exact ⟨a, tr, tr', hruns, hrunning, hnext, hstart _ hrunning.1 List.not_mem_nil, hentry,
    Traffic.runs_of_script _ hstop, Traffic.runs_of_script _ hlater, hended, hsent⟩

/-- The packet was fed to the analysis, and its report is shown. Then the analysis is stopped, and
another packet comes. -/
theorem exists_inspected : ∃ (a : Inspection (List (Reception Bytes))) (tr tr' : Traffic),
    Runs Verbatim (boot _ localEnv emptyDatabase) a ∧ a.rt.Running relayAnalysis ∧
    (a.feed relayAnalysis).sent = [[71]] ∧ a.getAnalysisData 1 "MUX" = .ok [.value [71]] ∧
    Traffic.Runs a.traffic tr ∧ Traffic.Runs tr tr' ∧ relayAnalysis ∈ tr.rt.ended ∧
    tr'.sent 0 = [[71], [72]] := by
  obtain ⟨a, tr, tr', hruns, hrunning, hnext, hfeed, hview, hlater⟩ := exists_waiting
  have hspawned := hrunning.1
  -- the packet is copied, heard and reported, and the report is written
  let f₁ : Feed (List (Reception Bytes)) := (Feed.start 0).convert true (.value [71])
  let f₂ : Feed (List (Reception Bytes)) := { f₁ with rxVec := f₁.rxVec.hear (.value [71]) }
  let f₃ : Feed (List (Reception Bytes)) := { f₂ with updates := [[.value [71]]] }
  let f₄ : Feed (List (Reception Bytes)) :=
    { f₃ with updates := [], reportData := some [.value [71]] }
  rw [← a.setFeed_self relayAnalysis, hfeed] at hruns
  have hruns₁ := @hruns.tail_event _ _ _ _ _ _ f₁ .convert _ _ _ _ _ hspawned rfl
    (by rw [hnext, decide_eq_true hrunning]; rfl) (by simp)
  have hruns₂ := @hruns₁.tail_event _ _ _ _ _ _ f₂ .recv _ _ _ _ _ hspawned rfl
    (by rw [decide_eq_true hrunning]; exact Feed.recv_first rfl rfl) (by simp)
  have hruns₃ := @hruns₂.tail_event _ _ _ _ _ _ f₃ (.report [.value [71]]) _ _ _ _ _ hspawned rfl
    (by rw [decide_eq_true hrunning]; rfl) (by rintro _ ⟨⟩; rfl)
  have hruns₄ := @hruns₃.tail_event _ _ _ _ _ _ f₄ (.update 0) _ _ _ _ _ hspawned rfl rfl (by simp)
  refine ⟨_, tr, tr', hruns₄, hrunning, by rw [setFeed_feed]; rfl, ?_, hlater⟩
  obtain ⟨info, hi, hmap⟩ := Option.map_eq_some_iff.mp hview
  obtain ⟨⟨k, analysisInfo⟩, rest, hpairs, hentry, hrest⟩ := List.map_eq_cons_iff.mp hmap
  obtain ⟨htype, hhandle⟩ := Prod.mk.inj hentry
  refine @getAnalysisData_of _ _ _ _ _ .mux info k analysisInfo (by decide +kernel) hi ?_ ?_
  · rw [hpairs]
    exact List.find?_cons_of_pos (decide_eq_true htype)
  · show ((a.setFeed relayAnalysis f₄).feed analysisInfo.taskHandle).reportData = _
    rw [show analysisInfo.taskHandle = relayAnalysis from hhandle, setFeed_feed]

/-- In every state of every run, an analysis was fed the packets of its channel from its
subscription on, in their order and without a gap. Once it has missed a packet, or its task has
ended, nothing more is fed to it. -/
theorem analysis_unbroken (hruns : Runs Reports (boot ρ env db) a) {t : Task} {inputId : Int}
    {analysisId : ℕ} {analysisType : AnalysisType} {timeout : Option ℕ} {rx : ChannelId}
    (ht : t ∈ a.rt.spawned)
    (hspec : t.spec = .analysis inputId analysisId analysisType timeout rx) :
    (a.feed t).sent <+: (a.traffic.sent rx).drop (a.feed t).rx.start ∧
      ∀ a', Runs Reports a a' → (a.feed t).sent <+: (a'.feed t).sent ∧
        (misses (a.feed t).rx.heard ≠ 0 ∨ t ∈ a.rt.ended →
          (a'.feed t).sent = (a.feed t).sent) := by
  have h := sound_of_runs hruns
  have hfeed := h.feeds t ht hspec
  refine ⟨hfeed.unbroken, fun a' hlater => ?_⟩
  have hfollows := (hlater.follows h ht).2.2
  refine ⟨hfollows.fed, fun hsilent => hfollows.silent ?_⟩
  refine hsilent.imp (fun hmissed => ?_) fun hended hrunning => hrunning.2 hended
  rw [← Bool.not_eq_true]
  exact fun hon => hmissed (hfeed.intact hon).1

/-- The task of the analysis has ended when the second packet comes, so it is not fed. -/
theorem analysis_unbroken_relay : ∃ a a' : Inspection (List (Reception Bytes)),
    Runs Verbatim (boot _ localEnv emptyDatabase) a ∧ Runs Verbatim a a' ∧
    a'.traffic.sent 0 = [[71], [72]] ∧
    [[71]] <+: (a.traffic.sent 0).drop (a.feed relayAnalysis).rx.start ∧
    (a'.feed relayAnalysis).sent = [[71]] := by
  obtain ⟨a₀, tr, tr', hruns, hrunning, hfed, _, hstop, hlater, hended, hsent⟩ :=
    exists_inspected
  have hsound := sound_of_runs hruns
  obtain ⟨a, rfl, hstopped, hkept, _⟩ := exists_runs hsound hstop
  have hspawned : relayAnalysis ∈ a.rt.spawned := (Runs.follows hsound hstopped hrunning.1).1
  have hruns := hruns.trans hstopped
  obtain ⟨a', rfl, hruns', _, _⟩ := exists_runs (sound_of_runs hruns) hlater
  have hfed : (a.feed relayAnalysis).sent = [[71]] := (hkept _ hrunning.1) ▸ hfed
  have hunbroken := analysis_unbroken hruns hspawned rfl
  exact ⟨a, a', hruns, hruns', hsent, hfed ▸ hunbroken.1,
    ((hunbroken.2 a' hruns').2 (.inr hended)).trans hfed⟩

/-! ## What is shown -/

theorem getAnalysisData_eq_ok {inputId : Int} {analysisTypeStr : String} {data : ρ}
    (h : a.getAnalysisData inputId analysisTypeStr = .ok data) :
    ∃ k analysisInfo, AnalysisType.fromStr analysisTypeStr = .ok analysisInfo.analysisType ∧
      a.traffic.pool.shared.Analysis inputId k analysisInfo ∧
      (a.feed analysisInfo.taskHandle).reportData = some data := by
  unfold getAnalysisData at h
  split at h
  · exact absurd h nofun
  rename_i analysisType htype
  split at h
  · exact absurd h nofun
  rename_i inputInfo hi
  split at h
  · exact absurd h nofun
  rename_i k analysisInfo hfind
  split at h
  · rename_i report hreport
    obtain rfl := Except.ok.inj h
    have hfound := List.find?_some hfind
    have hanalysis : analysisInfo.analysisType = analysisType := of_decide_eq_true hfound
    refine ⟨k, analysisInfo, htype.trans (congrArg _ hanalysis.symm), ⟨inputInfo, hi, ?_⟩, hreport⟩
    exact HashMap.mem_toPairs.mp (List.mem_of_find?_eq_some hfind)
  · exact absurd h nofun

/-- The data that is shown for an analysis of an input was reported by an inspector of this type,
on packets from one unbroken part of what a task of this very input has broadcast. -/
theorem analysis_data (hdb : db.Consistent) (hruns : Runs Reports (boot ρ env db) a)
    {inputId : Int} {analysisTypeStr : String} {data : ρ}
    (hdata : a.getAnalysisData inputId analysisTypeStr = .ok data) :
    ∃ analysisType heard, AnalysisType.fromStr analysisTypeStr = .ok analysisType ∧
      Reports analysisType heard data ∧
      (values heard ≠ [] → ∃ u ∈ a.rt.spawned, u.spec.owner = .input inputId ∧
        ∃ fed, fed <:+: a.traffic.log u ∧ (values heard).Sublist fed) := by
  obtain ⟨k, analysisInfo, htype, hanalysis, hreport⟩ := getAnalysisData_eq_ok hdata
  have h := sound_of_runs hruns
  have hpool := hruns.traffic.pool
  have hreachable : Reachable a.traffic.pool.shared := ⟨env, db, a.traffic.pool.threads, hpool⟩
  obtain ⟨timeout, rx, hspec⟩ :=
    (hreachable.analysisIds.entries inputId k analysisInfo hanalysis).2.2
  have ht : analysisInfo.taskHandle ∈ a.rt.spawned := by
    by_contra hnew
    exact absurd ((h.unspawned _ hnew).symm.trans hreport) nofun
  have hfeed := h.feeds _ ht hspec
  obtain ⟨heard, hheard, hreports⟩ := hfeed.reported data (.inr hreport)
  refine ⟨_, heard, htype, hreports, fun hsome => ?_⟩
  -- what the inspector has heard was fed to it, and that comes from the channel of its input
  have hfed : (values heard).Sublist (a.feed analysisInfo.taskHandle).sent :=
    (hheard.sublist.filterMap value?).trans (hfeed.listens.sublist.trans
      ((List.drop_sublist ..).trans (List.take_sublist ..)))
  have hpart : (a.feed analysisInfo.taskHandle).sent <:+: a.traffic.sent rx :=
    hfeed.unbroken.isInfix.trans (List.drop_suffix _ _).isInfix
  obtain ⟨u, hu, htx, hlog⟩ := h.traffic.exists_sender fun hnil => hsome (by
    rw [hnil] at hpart
    rw [List.eq_nil_of_infix_nil hpart] at hfed
    exact List.sublist_nil.mp hfed)
  have hfeeds := (runs_wired hdb hpool).runtime.subscribes _ ht inputId rx
    (by rw [hspec]; rfl) (by rw [hspec]; rfl)
  exact ⟨u, hu, hfeeds.2 u hu htx, _, hlog ▸ hpart, hfed⟩

theorem analysis_data_relay : ∃ a : Inspection (List (Reception Bytes)),
    Runs Verbatim (boot _ localEnv emptyDatabase) a ∧
    a.getAnalysisData 1 "MUX" = .ok [.value [71]] ∧
    ∃ u ∈ a.rt.spawned, u.spec.owner = .input 1 ∧ ∃ fed, fed <:+: a.traffic.log u ∧
      [[71]].Sublist fed := by
  obtain ⟨a, _, _, hruns, _, _, hdata, _⟩ := exists_inspected
  obtain ⟨_, _, _, rfl, hfed⟩ := analysis_data consistent_empty hruns hdata
  exact ⟨a, hruns, hdata, hfed (by simp)⟩

end Inspection

end StreamGateway
