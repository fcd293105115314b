import StreamGateway.LoadableRows
import Mathlib.Logic.Function.Basic

/-!
# Standing across a restart

Which streams there are and which of them run is known twice: from memory, and from the status
columns of the rows, from which the streams are loaded. A request that succeeds makes the same
change to both, unless it moves all outputs of an input in memory, for which only the row of
the input is written.
-/
namespace StreamGateway

open Prog

inductive Standing
  | running | stopped
  deriving DecidableEq, Repr

/-- Which inputs there are, and which outputs of them. -/
structure Standings where
  inputs : Int → Option Standing
  outputs : Int → Int → Option Standing

namespace Standings

def setInput (s : Standings) (i : Int) (standing : Standing) : Standings :=
  { s with inputs := Function.update s.inputs i (some standing) }

def setOutput (s : Standings) (i k : Int) (standing : Standing) : Standings :=
  { s with outputs := fun j m => if j = i ∧ m = k then some standing else s.outputs j m }

/-- A stopped input runs no output. -/
def Idle (s : Standings) : Prop :=
  ∀ i k, s.inputs i = some .stopped → s.outputs i k ≠ some .running

variable {s : Standings} {i k : Int}

theorem Idle.setInput_running (h : s.Idle) : (s.setInput i .running).Idle := by
  intro j k hj
  by_cases hji : j = i
  · subst hji
    simp [setInput] at hj
  · simp only [setInput, Function.update_of_ne hji] at hj
    exact h j k hj

theorem Idle.setInput_stopped (h : s.Idle) (hnone : ∀ k, s.outputs i k ≠ some .running) :
    (s.setInput i .stopped).Idle := by
  intro j k hj
  by_cases hji : j = i
  · subst hji
    exact hnone k
  · simp only [setInput, Function.update_of_ne hji] at hj
    exact h j k hj

theorem Idle.setOutput_stopped (h : s.Idle) : (s.setOutput i k .stopped).Idle := by
  intro j m hj
  simp only [setOutput]
  split
  · simp
  · exact h j m hj

theorem Idle.setOutput_running (h : s.Idle) (hi : s.inputs i ≠ some .stopped) :
    (s.setOutput i k .running).Idle := by
  intro j m hj
  simp only [setOutput]
  split
  · rename_i hjm
    exact absurd (hjm.1 ▸ hj) hi
  · exact h j m hj

/-- One stream is started or stopped. An output is started only while its input runs, and an
input is stopped only when none of its outputs runs. -/
inductive Change (s : Standings) : Standings → Prop
  | startInput (i : Int) : Change s (s.setInput i .running)
  | stopInput (i : Int) : (∀ k, s.outputs i k ≠ some .running) → Change s (s.setInput i .stopped)
  | startOutput (i k : Int) : s.inputs i ≠ some .stopped → Change s (s.setOutput i k .running)
  | stopOutput (i k : Int) : Change s (s.setOutput i k .stopped)

theorem Change.idle {s' : Standings} (h : s.Change s') (hs : s.Idle) : s'.Idle := by
  cases h with
  | startInput => exact hs.setInput_running
  | stopInput i hnone => exact hs.setInput_stopped hnone
  | startOutput i k hi => exact hs.setOutput_running hi
  | stopOutput => exact hs.setOutput_stopped

end Standings

/-! ## In memory -/

def InputInfo.standing (info : InputInfo) : Standing :=
  if info.status = .stopped then .stopped else .running

def InputInfo.outputStanding (info : InputInfo) (k : Int) : Option Standing :=
  if k ∈ info.outputTasks then some .running
  else if k ∈ info.stoppedOutputs then some .stopped
  else none

def World.standings (w : World) : Standings where
  inputs i := (w.streams.lookup i).map InputInfo.standing
  outputs i k := (w.streams.lookup i).bind fun info => info.outputStanding k

theorem standings_of_streams {w w' : World} (h : w'.streams = w.streams) :
    w'.standings = w.standings := by
  rw [World.standings, h, World.standings]

/-- The entry of an input gets a new standing and a new output. -/
theorem standings_insert {w w' : World} {i : Int} {info' : InputInfo}
    (h : w'.streams = w.streams.insert i info') :
    w'.standings = ⟨Function.update w.standings.inputs i (some info'.standing),
      Function.update w.standings.outputs i info'.outputStanding⟩ := by
  simp only [World.standings, h, Standings.mk.injEq]
  refine ⟨funext fun j => ?_, funext fun j => ?_⟩
  · by_cases hj : j = i
    · subst hj
      simp
    · rw [Function.update_of_ne hj, AList.lookup_insert_ne hj]
  · by_cases hj : j = i
    · subst hj
      simp
    · rw [Function.update_of_ne hj, AList.lookup_insert_ne hj]

section Entries

variable {w w' : World} {i : Int} {info info' : InputInfo} {x : Standing}

/-- An input is started or stopped, and its outputs keep their standing. -/
theorem standings_setInput (hi : w.streams.lookup i = some info)
    (hs : w'.streams = w.streams.insert i info') (hx : info'.standing = x)
    (houtputs : ∀ k, info'.outputStanding k = info.outputStanding k) :
    w'.standings = w.standings.setInput i x := by
  rw [standings_insert hs, hx, Standings.setInput]
  congr 1
  refine Function.update_eq_self_iff.mpr (funext fun k => ?_)
  rw [houtputs k]
  simp [World.standings, hi]

/-- What else changes in the entry does not matter. -/
theorem standings_same (hi : w.streams.lookup i = some info)
    (hs : w'.streams = w.streams.insert i info') (hx : info'.standing = info.standing)
    (houtputs : ∀ k, info'.outputStanding k = info.outputStanding k) :
    w'.standings = w.standings := by
  rw [standings_setInput hi hs hx houtputs, Standings.setInput]
  congr 1
  refine Function.update_eq_self_iff.mpr ?_
  simp [World.standings, hi]

/-- An output is started or stopped. -/
theorem standings_setOutput {k : Int} (hi : w.streams.lookup i = some info)
    (hs : w'.streams = w.streams.insert i info') (hstatus : info'.status = info.status)
    (houtputs : ∀ m, info'.outputStanding m = if m = k then some x else info.outputStanding m) :
    w'.standings = w.standings.setOutput i k x := by
  rw [standings_insert hs, Standings.setOutput]
  congr 1
  · refine Function.update_eq_self_iff.mpr ?_
    simp [World.standings, hi, InputInfo.standing, hstatus]
  · refine funext fun j => funext fun m => ?_
    by_cases hj : j = i
    · subst hj
      simp [houtputs, World.standings, hi]
    · simp [hj]

/-- A new input has no outputs. -/
theorem standings_newInput (hi : w.streams.lookup i = none)
    (hs : w'.streams = w.streams.insert i info') (hx : info'.standing = x)
    (hbare : info'.Bare) : w'.standings = w.standings.setInput i x := by
  rw [standings_insert hs, hx, Standings.setInput]
  congr 1
  refine Function.update_eq_self_iff.mpr (funext fun k => ?_)
  simp [World.standings, hi, InputInfo.outputStanding, hbare.1, hbare.2]

theorem outputStanding_stopOutput {k : Int} (config : CreateOutputRequest) (m : Int) :
    InputInfo.outputStanding { info with
      outputTasks := info.outputTasks.erase k
      stoppedOutputs := info.stoppedOutputs.insert k config } m =
      if m = k then some .stopped else info.outputStanding m := by
  by_cases hm : m = k
  · subst hm
    simp [InputInfo.outputStanding]
  · simp [InputInfo.outputStanding, hm]

theorem outputStanding_startOutput {k : Int} (output : OutputInfo) (m : Int) :
    InputInfo.outputStanding { info with
      outputTasks := info.outputTasks.insert k output
      stoppedOutputs := info.stoppedOutputs.erase k } m =
      if m = k then some .running else info.outputStanding m := by
  by_cases hm : m = k
  · subst hm
    simp [InputInfo.outputStanding]
  · simp [InputInfo.outputStanding, hm]

theorem outputStanding_insertOutput {k : Int} (output : OutputInfo) (m : Int) :
    InputInfo.outputStanding { info with
      outputTasks := info.outputTasks.insert k output } m =
      if m = k then some .running else info.outputStanding m := by
  by_cases hm : m = k
  · subst hm
    simp [InputInfo.outputStanding]
  · simp [InputInfo.outputStanding, hm]

end Entries

/-! ## In the rows -/

def Standing.ofText (status : String) : Standing :=
  if status = "stopped" then .stopped else .running

def Database.standings (db : Database) : Standings where
  inputs i := (db.inputs.find i).map fun row => .ofText row.status
  outputs i k := (db.outputs.find k).bind fun row =>
    if row.inputId = i then some (.ofText row.status) else none

theorem standings_insertInput (db : Database) (row : InputRow) :
    Database.standings { db with inputs := db.inputs.insert row } =
      db.standings.setInput (db.inputs.lastId + 1) (.ofText row.status) := by
  simp only [Database.standings, Standings.setInput, Standings.mk.injEq, and_true]
  refine funext fun i => ?_
  rw [Table.find_insert]
  by_cases hi : i = db.inputs.lastId + 1
  · subst hi
    simp
  · rw [if_neg hi, Function.update_of_ne hi]

theorem standings_inputStatus {db : Database} {i : Int} (status : String)
    (hrow : (db.inputs.find i).isSome = true) :
    Database.standings { db with
        inputs := db.inputs.update i fun row => { row with status := status } } =
      db.standings.setInput i (.ofText status) := by
  simp only [Database.standings, Standings.setInput, Standings.mk.injEq, and_true]
  refine funext fun j => ?_
  rw [Table.find_update]
  by_cases hj : j = i
  · subst hj
    obtain ⟨row, hrow⟩ := Option.isSome_iff_exists.mp hrow
    simp [hrow]
  · rw [if_neg hj, Function.update_of_ne hj]

theorem standings_insertOutput (db : Database) (row : OutputRow) :
    Database.standings { db with outputs := db.outputs.insert row } =
      db.standings.setOutput row.inputId (db.outputs.lastId + 1) (.ofText row.status) := by
  simp only [Database.standings, Standings.setOutput, Standings.mk.injEq, true_and]
  refine funext fun i => funext fun k => ?_
  rw [Table.find_insert]
  by_cases hk : k = db.outputs.lastId + 1
  · subst hk
    by_cases hi : row.inputId = i
    · simp [hi]
    · simp [hi, Ne.symm hi, Table.find_lastId]
  · simp [hk]

theorem standings_outputStatus {db : Database} {k : Int} {row : OutputRow} (status : String)
    (hrow : db.outputs.find k = some row) :
    Database.standings { db with
        outputs := db.outputs.update k fun row => { row with status := status } } =
      db.standings.setOutput row.inputId k (.ofText status) := by
  simp only [Database.standings, Standings.setOutput, Standings.mk.injEq, true_and]
  refine funext fun i => funext fun m => ?_
  rw [Table.find_update]
  by_cases hm : m = k
  · subst hm
    by_cases hi : row.inputId = i
    · simp [hi, hrow]
    · simp [hi, Ne.symm hi, hrow]
  · simp [hm]

/-! ## Rows that come back -/

/-- The input that a program filter takes its packets from. -/
def CreateInputRequest.source : CreateInputRequest → Option Int
  | .spts sourceInputId .. => some sourceInputId
  | _ => none

/-- The source of a program filter has a row, and is no program filter. -/
def CreateInputRequest.SourceStored (req : CreateInputRequest) (db : Database) : Prop :=
  ∀ i, req.source = some i → ∃ row, (i, row) ∈ db.inputs.rows ∧ row.kind ≠ "spts"

def InputRow.Recoverable (row : InputRow) (db : Database) : Prop :=
  ∃ req : CreateInputRequest, row.kind = inputKindString req ∧
    row.configJson = .obj req.toFields ∧ req.SourceStored db

/-- The destination of a UDP output is an address with a port. -/
structure OutputRow.Recoverable (row : OutputRow) (db : Database) : Prop where
  loadable : row.Loadable
  input : ∃ inputRow, (row.inputId, inputRow) ∈ db.inputs.rows
  parses : row.kind = "udp" → (parseSocketAddr (row.destination.getD "")).isSome = true

structure Database.Recoverable (db : Database) : Prop where
  inputs : ∀ i row, (i, row) ∈ db.inputs.rows → row.Recoverable db
  outputs : ∀ k row, (k, row) ∈ db.outputs.rows → row.Recoverable db

theorem Database.Recoverable.loadable {db : Database} (h : db.Recoverable) : db.Loadable := by
  refine ⟨fun i row hrow => ?_, fun k row hrow => (h.outputs k row hrow).loadable⟩
  obtain ⟨req, hkind, hjson, _⟩ := h.inputs i row hrow
  exact ⟨req, hkind, hjson⟩

theorem recoverable_empty : emptyDatabase.Recoverable :=
  ⟨fun _ _ h => absurd h List.not_mem_nil, fun _ _ h => absurd h List.not_mem_nil⟩

/-- The inputs keep their rows and their kinds. -/
def Database.Keeps (db db' : Database) : Prop :=
  ∀ i row, (i, row) ∈ db.inputs.rows → ∃ row', (i, row') ∈ db'.inputs.rows ∧ row'.kind = row.kind

section Recoverable

variable {db db' : Database}

theorem InputRow.Recoverable.later {row : InputRow} (h : row.Recoverable db)
    (hkeeps : db.Keeps db') : row.Recoverable db' := by
  obtain ⟨req, hkind, hjson, hsource⟩ := h
  refine ⟨req, hkind, hjson, fun i hi => ?_⟩
  obtain ⟨row, hrow, hbase⟩ := hsource i hi
  obtain ⟨row', hrow', hsame⟩ := hkeeps i row hrow
  exact ⟨row', hrow', hsame ▸ hbase⟩

theorem OutputRow.Recoverable.later {row : OutputRow} (h : row.Recoverable db)
    (hkeeps : db.Keeps db') : row.Recoverable db' := by
  obtain ⟨inputRow, hinput⟩ := h.input
  obtain ⟨row', hrow', _⟩ := hkeeps _ inputRow hinput
  exact ⟨h.loadable, ⟨row', hrow'⟩, h.parses⟩

theorem recoverable_insertInput (h : db.Recoverable) {row : InputRow}
    (hrow : row.Recoverable db) :
    Database.Recoverable { db with inputs := db.inputs.insert row } := by
  have hkeeps : db.Keeps { db with inputs := db.inputs.insert row } :=
    fun i row hrow => ⟨row, Table.mem_insert.mpr (.inl hrow), rfl⟩
  refine ⟨fun i row' hrow' => ?_, fun k row' hrow' => (h.outputs k row' hrow').later hkeeps⟩
  rcases Table.mem_insert.mp hrow' with hrow' | heq
  · exact (h.inputs i row' hrow').later hkeeps
  · rw [(Prod.mk.inj heq).2]
    exact hrow.later hkeeps

theorem recoverable_insertOutput (h : db.Recoverable) {row : OutputRow}
    (hrow : row.Recoverable db) :
    Database.Recoverable { db with outputs := db.outputs.insert row } := by
  have hkeeps : db.Keeps { db with outputs := db.outputs.insert row } :=
    fun i row hrow => ⟨row, hrow, rfl⟩
  refine ⟨fun i row' hrow' => (h.inputs i row' hrow').later hkeeps, fun k row' hrow' => ?_⟩
  rcases Table.mem_insert.mp hrow' with hrow' | heq
  · exact (h.outputs k row' hrow').later hkeeps
  · rw [(Prod.mk.inj heq).2]
    exact hrow.later hkeeps

theorem recoverable_inputStatus (h : db.Recoverable) (i : Int) (status : String) :
    Database.Recoverable { db with
      inputs := db.inputs.update i fun row => { row with status := status } } := by
  have hkeeps : db.Keeps { db with
      inputs := db.inputs.update i fun row => { row with status := status } } := by
    intro j row hrow
    by_cases hj : j = i
    · subst hj
      exact ⟨_, Table.mem_update_self hrow, rfl⟩
    · exact ⟨row, List.mem_map.mpr ⟨(j, row), hrow, if_neg hj⟩, rfl⟩
  refine ⟨fun j row' hrow' => ?_, fun k row' hrow' => (h.outputs k row' hrow').later hkeeps⟩
  obtain ⟨row, hrow, heq⟩ := Table.mem_update hrow'
  obtain ⟨req, hkind, hjson, hsource⟩ := (h.inputs j row hrow).later hkeeps
  rw [heq]
  split <;> exact ⟨req, hkind, hjson, hsource⟩

theorem recoverable_outputStatus (h : db.Recoverable) (k : Int) (status : String) :
    Database.Recoverable { db with
      outputs := db.outputs.update k fun row => { row with status := status } } := by
  have hkeeps : db.Keeps { db with
      outputs := db.outputs.update k fun row => { row with status := status } } :=
    fun i row hrow => ⟨row, hrow, rfl⟩
  refine ⟨fun i row' hrow' => (h.inputs i row' hrow').later hkeeps, fun m row' hrow' => ?_⟩
  obtain ⟨row, hrow, heq⟩ := Table.mem_update hrow'
  have hold := (h.outputs m row hrow).later hkeeps
  rw [heq]
  split
  · obtain ⟨req, hreq⟩ := hold.loadable
    exact ⟨⟨req, hreq.kind, hreq.configJson, hreq.listenPort⟩, hold.input, hold.parses⟩
  · exact hold

end Recoverable

end StreamGateway
