import StreamGateway.Endpoints
import StreamGateway.Notes
import StreamGateway.OutputRows

/-!
# Automatic ports

A request may leave its port to the gateway. The search counts the ports in one column of the
outputs and in the configurations of the inputs, and nothing reserves what it finds until the
row is written. The ports that were given to streams, and what one request has found, are
noted next to the state. The port is no other stream's as long as what the search does not
count lies outside the range, and no other request writes a port of the range in between.
-/
namespace StreamGateway

open Prog

/-! ## Stored ports -/

def Env.InPortRange (env : Env) (port : UInt16) : Prop :=
  env.autoPortRangeStart ≤ port ∧ port < env.autoPortRangeEnd

instance (env : Env) (port : UInt16) : Decidable (env.InPortRange port) :=
  inferInstanceAs (Decidable (_ ∧ _))

theorem inPortRange_of_mem {env : Env} {port : UInt16} (h : port ∈ portRange env) :
    env.InPortRange port := by
  obtain ⟨n, hn, rfl⟩ := List.mem_map.mp h
  obtain ⟨i, hi, rfl⟩ := List.mem_range'.mp hn
  have hstart := env.autoPortRangeStart.toNat_lt
  have hend := env.autoPortRangeEnd.toNat_lt
  rw [Env.InPortRange, UInt16.le_iff_toNat_le, UInt16.lt_iff_toNat_lt, UInt16.toNat_ofNat']
  omega

/-- The ports that the configurations of outputs name in either field. -/
def outputConfigPorts (db : Database) : List UInt16 :=
  db.outputs.rows.flatMap fun r => r.2.configJson.toList.flatMap fun json =>
    (json.portAt "listen_port").toList ++ (json.portAt "bind_port").toList

/-- The ports that a search takes for used. -/
def countedPorts (db : Database) : List UInt16 :=
  usedListenPorts db ++ inputPorts db

/-! ## Notes -/

/-- What is noted of one request: whether it is between its first query and the end of its
last one, which ports of the range its search did not count, the port that it got with the
ports that were stored then, and the port that it was saved with, with those that other
streams had been given. -/
structure Search where
  underway : Bool
  uncounted : List UInt16
  found : Option (UInt16 × List UInt16)
  kept : Option (UInt16 × List UInt16)

def Search.fresh : Search := ⟨false, [], none, none⟩

/-- The ports that were assigned to the streams that exist, and the notes of one request. -/
structure PortNotes where
  given : List UInt16
  search : Search

abbrev Noted := World × PortNotes

/-- The ports in the configurations of streams. An assigned port of a UDP output is in a field
that also holds ports of other hosts, so it is known from the notes. -/
def storedPorts (s : Noted) : List UInt16 :=
  inputPorts s.1.db ++ outputConfigPorts s.1.db ++ s.2.given

namespace PortNotes

def start (env : Env) (w : World) (notes : PortNotes) : PortNotes :=
  { notes with search := { notes.search with
      underway := true
      uncounted := (storedPorts (w, notes)).filter fun port =>
        env.InPortRange port ∧ port ∉ countedPorts w.db } }

def fail (notes : PortNotes) : PortNotes :=
  { notes with search := { notes.search with underway := false } }

def handOut : Except String UInt16 → World → PortNotes → PortNotes
  | .ok port, w, notes => { notes with search := { notes.search with
      found := some (port, storedPorts (w, notes)) } }
  | .error _, _, notes => notes.fail

def failOnError {ε α : Type} : Except ε α → World → PortNotes → PortNotes
  | .ok _, _, notes => notes
  | .error _, _, notes => notes.fail

def save (mine : Bool) (assignedPort : Option UInt16) :
    Except String Int → World → PortNotes → PortNotes
  | .ok _, _, notes =>
    { given := notes.given ++ assignedPort.toList
      search := if mine then { notes.search with
          underway := false
          kept := assignedPort.map fun port => (port, notes.given) }
        else notes.search }
  | .error _, _, notes => if mine then notes.fail else notes

end PortNotes

/-! ## The calls with notes -/

def findPortNoted (mine : Bool) (env : Env) : Prog Noted (Except String UInt16) :=
  if mine then ((findAvailablePort env).noted PortNotes.handOut).opened (PortNotes.start env)
  else (findAvailablePort env).beside

def assignInputPortNoted (mine : Bool) (env : Env) (req : CreateInputRequest) :
    Prog Noted (Except Response (CreateInputRequest × Option UInt16)) := do
  if req.isAutomaticPort then
    match ← findPortNoted mine env with
    | .error e =>
      return .error (Response.internalServerError ("Failed to find available port: " ++ e))
    | .ok port => return .ok (req.withAssignedPort port, some port)
  else return .ok (req, none)

def createInputNoted (mine : Bool) (env : Env) (req : CreateInputRequest) :
    Prog Noted Response := do
  match validateInput env req with
  | .error e => return Response.badRequest e
  | .ok () =>
  match ← assignInputPortNoted mine env req with
  | .error r => return r
  | .ok (finalReq, assignedPort) =>
  match ← (atomic (saveInputToDb env (inputName req) finalReq)).noted
      (PortNotes.save mine assignedPort) with
  | .error e => return databaseError e
  | .ok id =>
  match ← (spawnInput finalReq id (inputName req)).beside with
  | .ok info => (installInput id (inputName req) assignedPort info).beside
  | .error e => (installFailedInput env id (inputName req) finalReq e).beside

def assignOutputPortNoted (mine : Bool) (env : Env) (req : CreateOutputRequest) :
    Prog Noted (Except Response (CreateOutputRequest × Option UInt16)) := do
  if req.isAutomaticPort then
    match ← findPortNoted mine env with
    | .error e =>
      return .error (Response.internalServerError ("Failed to find available port: " ++ e))
    | .ok port => return .ok (req.withAssignedPort port, some port)
  else return .ok (req, none)

def checkConflictsNoted (mine : Bool) (env : Env) (inputId : Int) (destinationAddr : String)
    (listenPort : Option UInt16) : Prog Noted (Except Response Unit) :=
  if mine then (checkConflicts env inputId destinationAddr listenPort).noted
    PortNotes.failOnError
  else (checkConflicts env inputId destinationAddr listenPort).beside

def createOutputHeldNoted (mine : Bool) (env : Env) (req : CreateOutputRequest) :
    Prog Noted Response := do
  match ← assignOutputPortNoted mine env req with
  | .error r => return r
  | .ok (finalReq, assignedPort) =>
  let (destinationAddr, listenPort) := outputDestination finalReq
  match ← checkConflictsNoted mine env req.inputId destinationAddr listenPort with
  | .error r => return r
  | .ok () =>
  match ← (atomic (saveOutputToDb env (outputRowName finalReq destinationAddr) req.inputId
      (outputRowKind finalReq) destinationAddr (some (.obj finalReq.toFields))
      listenPort)).noted (PortNotes.save mine assignedPort) with
  | .error e => return databaseError e
  | .ok outputId =>
  match ← (atomic (installOutputSection env finalReq req.inputId outputId
      destinationAddr)).beside with
  | .error e => return Response.ofError e
  | .ok outputInfo => return outputCreated outputInfo assignedPort

def createOutputGuardedNoted (mine : Bool) (env : Env) (req : CreateOutputRequest) :
    Prog Noted Response := do
  if ← (atomic (hasInput req.inputId)).beside then createOutputHeldNoted mine env req
  else return inputNotFound req.inputId

def createOutputNoted (mine : Bool) (env : Env) (req : CreateOutputRequest) :
    Prog Noted Response :=
  match validateOutput env req with
  | .error e => return Response.badRequest e
  | .ok () =>
    acquire .write do
      let response ← createOutputGuardedNoted mine env req
      release (return response)

namespace CreateRequest

def prog (env : Env) : CreateRequest → Prog World Unit
  | input req => (createInput env req).ignore
  | output req => (createOutput env req).ignore

/-- The call with notes. Only one call is noted apart from the port that it gives away. -/
def noted (mine : Bool) (env : Env) : CreateRequest → Prog Noted Unit
  | input req => (createInputNoted mine env req).ignore
  | output req => (createOutputNoted mine env req).ignore

end CreateRequest

/-! ## Without the notes -/

theorem erases_findPort (mine : Bool) (env : Env) :
    (findPortNoted mine env).Erases (findAvailablePort env) := by
  unfold findPortNoted
  split
  · exact (Erases.noted _ _).opened _
  · exact .beside _

theorem erases_assignInputPort (mine : Bool) (env : Env) (req : CreateInputRequest) :
    (assignInputPortNoted mine env req).Erases (assignInputPort env req) := by
  unfold assignInputPortNoted assignInputPort
  split
  · refine (erases_findPort mine env).bind fun r => ?_
    cases r <;> exact .ret _
  · exact .ret _

theorem erases_createInput (mine : Bool) (env : Env) (req : CreateInputRequest) :
    (createInputNoted mine env req).Erases (createInput env req) := by
  unfold createInputNoted createInput
  cases validateInput env req with
  | error e => exact .ret _
  | ok u =>
  refine (erases_assignInputPort mine env req).bind fun r => ?_
  rcases r with r | ⟨finalReq, assignedPort⟩
  · exact .ret _
  refine (Erases.noted _ _).bind fun r => ?_
  cases r with
  | error e => exact .ret _
  | ok id =>
  refine (Erases.beside _).bind fun r => ?_
  cases r <;> exact .beside _

theorem erases_assignOutputPort (mine : Bool) (env : Env) (req : CreateOutputRequest) :
    (assignOutputPortNoted mine env req).Erases (assignOutputPort env req) := by
  unfold assignOutputPortNoted assignOutputPort
  split
  · refine (erases_findPort mine env).bind fun r => ?_
    cases r <;> exact .ret _
  · exact .ret _

theorem erases_checkConflicts (mine : Bool) (env : Env) (inputId : Int)
    (destinationAddr : String) (listenPort : Option UInt16) :
    (checkConflictsNoted mine env inputId destinationAddr listenPort).Erases
      (checkConflicts env inputId destinationAddr listenPort) := by
  unfold checkConflictsNoted
  split
  · exact .noted _ _
  · exact .beside _

theorem erases_createOutputHeld (mine : Bool) (env : Env) (req : CreateOutputRequest) :
    (createOutputHeldNoted mine env req).Erases (createOutputHeld env req) := by
  refine (erases_assignOutputPort mine env req).bind fun r => ?_
  rcases r with r | ⟨finalReq, assignedPort⟩
  · exact .ret _
  refine (erases_checkConflicts mine env _ _ _).bind fun r => ?_
  rcases r with r | _
  · exact .ret _
  refine (Erases.noted _ _).bind fun r => ?_
  cases r with
  | error e => exact .ret _
  | ok outputId =>
  refine (Erases.beside _).bind fun r => ?_
  cases r <;> exact .ret _

theorem erases_createOutput (mine : Bool) (env : Env) (req : CreateOutputRequest) :
    (createOutputNoted mine env req).Erases (createOutput env req) := by
  unfold createOutputNoted createOutput
  cases validateOutput env req with
  | error e => exact .ret _
  | ok u =>
  refine Erases.acquire (Erases.bind ?_ fun response => .release (.ret _))
  unfold createOutputGuardedNoted createOutputGuarded
  refine (Erases.beside _).bind fun found => ?_
  split
  · exact erases_createOutputHeld mine env req
  · exact .ret _

theorem CreateRequest.erases (mine : Bool) (env : Env) (req : CreateRequest) :
    (req.noted mine env).Erases (req.prog env) := by
  cases req with
  | input req => exact (erases_createInput mine env req).ignore
  | output req => exact (erases_createOutput mine env req).ignore

/-! ## Looking for a port -/

theorem looks_checkConflicts (env : Env) (inputId : Int) (destinationAddr : String)
    (listenPort : Option UInt16) :
    Looks (checkConflicts env inputId destinationAddr listenPort) := by
  refine (looks_select env _ _).bind fun r => ?_
  rcases r with e | _ | _
  · exact .ret _
  · cases listenPort with
    | none => exact .ret _
    | some port =>
      refine (looks_select env _ _).bind fun r => ?_
      rcases r with e | _ | _ <;> exact .ret _
  · exact .ret _

/-- A port that is found is in the list and not used. -/
theorem returns_searchPort (env : Env) (usedPorts ports : List UInt16) :
    (searchPort env usedPorts ports).Returns fun r =>
      ∀ port, r = .ok port → port ∈ ports ∧ port ∉ usedPorts := by
  induction ports with
  | nil => exact .ret fun port h => absurd h (by simp)
  | cons p rest ih =>
    have hrest : (searchPort env usedPorts rest).Returns fun r =>
        ∀ port, r = .ok port → port ∈ p :: rest ∧ port ∉ usedPorts :=
      ih.mono fun r hr port h => ⟨List.mem_cons_of_mem _ (hr port h).1, (hr port h).2⟩
    unfold searchPort
    split
    · exact hrest
    rename_i hused
    refine (returns_true _).bind fun r _ => ?_
    rcases r with e | _ | _
    · exact .ret fun port h => absurd h (by simp)
    · dsimp only
      split
      · refine .ret fun port h => ?_
        obtain rfl := Except.ok.inj h
        exact ⟨List.mem_cons_self, hused⟩
      · exact hrest
    · exact hrest

/-! ## What a creation relies on -/

/-- The notes of the one call are its own. While it is underway, no port of the range is
stored, and no configuration of an input goes. -/
def portRely (env : Env) : Guarded Noted := fun _ s s' =>
  s'.2.search = s.2.search ∧ inputPorts s.1.db ⊆ inputPorts s'.1.db ∧
    (s.2.search.underway = true → ∀ port ∈ storedPorts s', env.InPortRange port →
      port ∈ storedPorts s)

instance (env : Env) (h : Option LockMode) : IsTrans Noted (portRely env h) where
  trans s s' s'' h₁ h₂ := by
    refine ⟨h₂.1.trans h₁.1, List.Subset.trans h₁.2.1 h₂.2.1, fun hu port hp hr => ?_⟩
    rw [← h₁.1] at hu
    exact h₁.2.2 (h₁.1 ▸ hu) port (h₂.2.2 hu port hp hr) hr

/-- The port is one of the range and was not stored when it was found, and it was not given
to another stream when its own was saved. -/
structure Search.Distinct (env : Env) (search : Search) : Prop where
  found : ∀ port stored, search.found = some (port, stored) →
    env.InPortRange port ∧ port ∉ stored
  kept : ∀ port given, search.kept = some (port, given) → port ∉ given

/-- The port is distinct if the search counted what it had to count. -/
def Search.Sound (env : Env) (search : Search) : Prop :=
  search.uncounted = [] → search.Distinct env

/-- The steps of the one call. -/
def portGuar (env : Env) : Guarded Noted := fun _ s s' =>
  s.2.search.Sound env → s'.2.search.Sound env

/-- The request has found the port and not saved it. -/
structure Holds (env : Env) (port : UInt16) (s : Noted) : Prop where
  underway : s.2.search.underway = true
  free : s.2.search.uncounted = [] → env.InPortRange port ∧ port ∉ storedPorts s

theorem Holds.later {env : Env} {port : UInt16} {h : Option LockMode} {s s' : Noted}
    (hs : Holds env port s) (hrely : portRely env h s s') : Holds env port s' := by
  refine ⟨?_, fun hu => ?_⟩
  · rw [hrely.1]
    exact hs.underway
  · rw [hrely.1] at hu
    obtain ⟨hr, hfree⟩ := hs.free hu
    exact ⟨hr, fun hp => hfree (hrely.2.2 hs.underway port hp hr)⟩

section Creates

variable {env : Env} {h : Option LockMode}

/-- Every stored port of the range is counted. -/
structure Counts (env : Env) (used : List UInt16) (s : Noted) : Prop where
  underway : s.2.search.underway = true
  counted : s.2.search.uncounted = [] →
    ∀ port ∈ storedPorts s, env.InPortRange port → port ∈ used

theorem Counts.later {used : List UInt16} {s s' : Noted} (hs : Counts env used s)
    (hrely : portRely env h s s') : Counts env used s' := by
  refine ⟨?_, fun hu port hp hr => ?_⟩
  · rw [hrely.1]
    exact hs.underway
  · rw [hrely.1] at hu
    exact hs.counted hu port (hrely.2.2 hs.underway port hp hr) hr

theorem guar_fail (s : Noted) : portGuar env h s (s.1, s.2.fail) :=
  fun hs hu => ⟨(hs hu).found, (hs hu).kept⟩

/-- The rest of the search, from the queries on. -/
theorem endsNoted_searchPort {used : List UInt16} {s : Noted} (hs : Counts env used s) :
    EndsNoted (portRely env) (portGuar env) PortNotes.handOut
      (searchPort env used (portRange env)) h s fun r _ s' =>
        ∀ port, r = .ok port → Holds env port s' := by
  refine (looks_searchPort env used _).endsNoted (returns_searchPort env used _)
    (fun s _ => id) (fun s s' hs hrely => hs.later hrely) (fun r s hr hs => ?_) hs
  cases r with
  | error e => exact ⟨guar_fail s, fun port hp => absurd hp (by simp)⟩
  | ok port =>
    obtain ⟨hmem, hunused⟩ := hr port rfl
    have hrange := inPortRange_of_mem hmem
    have hfree : s.2.search.uncounted = [] → port ∉ storedPorts s :=
      fun hu hp => hunused (hs.counted hu port hp hrange)
    refine ⟨fun hsound hu => ⟨fun port' stored hf => ?_, (hsound hu).kept⟩, fun port' hp => ?_⟩
    · obtain ⟨rfl, rfl⟩ := Prod.mk.inj (Option.some.inj hf)
      exact ⟨hrange, hfree hu⟩
    · obtain rfl := Except.ok.inj hp
      exact ⟨hs.underway, fun hu => ⟨hrange, hfree hu⟩⟩

theorem counts_start {s s' : Noted}
    (hrely : portRely env h (s.1, PortNotes.start env s.1 s.2) s') :
    Counts env (usedListenPorts s.1.db ++ inputPorts s'.1.db) s' := by
  refine ⟨?_, fun hu port hp hr => ?_⟩
  · rw [hrely.1]
    rfl
  · have hstored : port ∈ storedPorts s := hrely.2.2 rfl port hp hr
    rw [hrely.1] at hu
    have hcounted := List.filter_eq_nil_iff.mp hu port hstored
    have : port ∈ countedPorts s.1.db := by
      by_contra hnot
      exact hcounted (decide_eq_true ⟨hr, hnot⟩)
    rcases List.mem_append.mp this with hlisten | hinput
    · exact List.mem_append_left _ hlisten
    · exact List.mem_append_right _ (hrely.2.1 hinput)

/-- The port that the search finds is held. -/
theorem finds_findPort (s : Noted) (hs : s.2.search = .fresh) :
    (findPortNoted true env).Behaves (portRely env) (portGuar env) h s fun r _ s' =>
      ∀ port, r = .ok port → Holds env port s' := by
  refine opened_atomic (select_world env _ _) ?_ fun s₁ h₁ => ?_
  · intro s₁ t h₁ ht _
    have hfresh : s₁.2.search = .fresh := h₁.1.trans hs
    refine ht fun _ => ⟨fun port stored hf => ?_, fun port given hk => ?_⟩
    · simp [PortNotes.start, hfresh, Search.fresh] at hf
    · simp [PortNotes.start, hfresh, Search.fresh] at hk
  cases hr : (select env .listenPorts usedListenPorts s₁.1).1 with
  | error e => exact ⟨guar_fail _, fun port hp => absurd hp (by simp)⟩
  | ok listenPorts =>
  obtain rfl := select_ok hr
  refine endsNoted_atomic (select_world env _ _) id fun s₂ h₂ => ?_
  cases hr : (select env .inputConfigs inputPorts s₂.1).1 with
  | error e => exact ⟨guar_fail _, fun port hp => absurd hp (by simp)⟩
  | ok configPorts =>
  obtain rfl := select_ok hr
  exact endsNoted_searchPort (counts_start h₂)

/-- The port that is assigned is held, if there is one. -/
def HoldsAssigned (env : Env) (assignedPort : Option UInt16) (s : Noted) : Prop :=
  ∀ port, assignedPort = some port → Holds env port s

theorem HoldsAssigned.later {assignedPort : Option UInt16} {s s' : Noted}
    (hs : HoldsAssigned env assignedPort s) (hrely : portRely env h s s') :
    HoldsAssigned env assignedPort s' :=
  fun port hp => (hs port hp).later hrely

/-- The port that is found, if one is asked for, is assigned. -/
theorem finds_assign {α : Type} (req : α) (withPort : UInt16 → α) (failed : String → Response)
    (automatic : Bool) (s : Noted) (hs : s.2.search = .fresh) :
    (do
      if automatic then
        match ← findPortNoted true env with
        | .error e => return .error (failed e)
        | .ok port => return .ok (withPort port, some port)
      else return .ok (req, none) : Prog Noted (Except Response (α × Option UInt16))).Behaves
      (portRely env) (portGuar env) h s
      fun r _ s' => ∀ finalReq assignedPort, r = .ok (finalReq, assignedPort) →
        HoldsAssigned env assignedPort s' := by
  split
  · refine (finds_findPort s hs).bind fun r h s' hr => ?_
    cases r with
    | error e => exact Behaves.ret fun _ _ heq => absurd heq (by simp)
    | ok port =>
      refine Behaves.ret fun finalReq assignedPort heq port' hp => ?_
      obtain ⟨_, rfl⟩ := Prod.mk.inj (Except.ok.inj heq)
      obtain rfl := Option.some.inj hp
      exact hr port rfl
  · refine Behaves.ret fun finalReq assignedPort heq port' hp => ?_
    obtain ⟨_, rfl⟩ := Prod.mk.inj (Except.ok.inj heq)
    exact absurd hp (by simp)

theorem finds_assignInputPort (req : CreateInputRequest) (s : Noted)
    (hs : s.2.search = .fresh) :
    (assignInputPortNoted true env req).Behaves (portRely env) (portGuar env) h s
      fun r _ s' => ∀ finalReq assignedPort, r = .ok (finalReq, assignedPort) →
        HoldsAssigned env assignedPort s' :=
  finds_assign req req.withAssignedPort
    (fun e => Response.internalServerError ("Failed to find available port: " ++ e))
    req.isAutomaticPort s hs

theorem finds_assignOutputPort (req : CreateOutputRequest) (s : Noted)
    (hs : s.2.search = .fresh) :
    (assignOutputPortNoted true env req).Behaves (portRely env) (portGuar env) h s
      fun r _ s' => ∀ finalReq assignedPort, r = .ok (finalReq, assignedPort) →
        HoldsAssigned env assignedPort s' :=
  finds_assign req req.withAssignedPort
    (fun e => Response.internalServerError ("Failed to find available port: " ++ e))
    req.isAutomaticPort s hs

/-- The row is written while the port is still free. -/
theorem finds_save {f : World → Except String Int × World} {assignedPort : Option UInt16}
    {s : Noted} (hs : HoldsAssigned env assignedPort s) :
    ((atomic f).noted (PortNotes.save true assignedPort)).Behaves (portRely env) (portGuar env)
      h s fun _ _ _ => True := by
  refine fun s' hrely => ⟨fun hsound => ?_, trivial⟩
  show (PortNotes.save true assignedPort (f s'.1).1 (f s'.1).2 s'.2).search.Sound env
  cases (f s'.1).1 with
  | error e => exact guar_fail (h := h) s' hsound
  | ok id =>
    refine fun hu => ⟨(hsound hu).found, fun port given hk => ?_⟩
    obtain ⟨port', hp, hpair⟩ := Option.map_eq_some_iff.mp hk
    obtain ⟨rfl, rfl⟩ := Prod.mk.inj hpair
    obtain ⟨_, hfree⟩ := ((hs.later hrely) port' hp).free hu
    exact fun hg => hfree (List.mem_append_right _ hg)

theorem finds_beside {α : Type} (p : Prog World α) (s : Noted) :
    p.beside.Behaves (portRely env) (portGuar env) h s fun _ _ _ => True := by
  have hp : p.Behaves (fun _ _ _ => True) (fun _ _ _ => True) h s.1 fun _ _ _ => True :=
    behaves_true p h s.1
  refine hp.beside (fun _ _ _ _ => trivial) (fun _ s s' _ hsame => ?_) s.2
  rw [portGuar, hsame]
  exact id

theorem finds_createInput (req : CreateInputRequest) (s : Noted) (hs : s.2.search = .fresh) :
    (createInputNoted true env req).Behaves (portRely env) (portGuar env) h s
      fun _ _ _ => True := by
  unfold createInputNoted
  split
  · exact Behaves.ret trivial
  refine (finds_assignInputPort req s hs).bind fun r h s' hr => ?_
  rcases r with r | ⟨finalReq, assignedPort⟩
  · exact Behaves.ret trivial
  refine (finds_save (hr finalReq assignedPort rfl)).bind fun r h s' _ => ?_
  cases r with
  | error e => exact Behaves.ret trivial
  | ok id =>
  refine (finds_beside _ s').bind fun r h s' _ => ?_
  cases r <;> exact finds_beside _ s'

theorem finds_checkConflicts (inputId : Int) (destinationAddr : String)
    (listenPort : Option UInt16) {assignedPort : Option UInt16} (s : Noted)
    (hs : HoldsAssigned env assignedPort s) :
    (checkConflictsNoted true env inputId destinationAddr listenPort).Behaves (portRely env)
      (portGuar env) h s fun r _ s' => r = .ok () → HoldsAssigned env assignedPort s' := by
  refine ((looks_checkConflicts env inputId destinationAddr listenPort).endsNoted
    (returns_true _) (fun s _ => id) (fun s s' hs hrely => hs.later hrely)
    (fun r s _ hs => ?_) hs).2
  cases r with
  | error e => exact ⟨guar_fail s, fun hr => absurd hr (by simp)⟩
  | ok u => exact ⟨id, fun _ => hs⟩

theorem finds_createOutputHeld (req : CreateOutputRequest) (s : Noted)
    (hs : s.2.search = .fresh) :
    (createOutputHeldNoted true env req).Behaves (portRely env) (portGuar env) h s
      fun _ _ _ => True := by
  refine (finds_assignOutputPort req s hs).bind fun r h s' hr => ?_
  rcases r with r | ⟨finalReq, assignedPort⟩
  · exact Behaves.ret trivial
  refine (finds_checkConflicts _ _ _ s' (hr finalReq assignedPort rfl)).bind
    fun r h s' hr => ?_
  rcases r with r | _
  · exact Behaves.ret trivial
  refine (finds_save (hr rfl)).bind fun r h s' _ => ?_
  cases r with
  | error e => exact Behaves.ret trivial
  | ok outputId =>
  refine (finds_beside _ s').bind fun r h s' _ => ?_
  cases r <;> exact Behaves.ret trivial

theorem finds_createOutput (req : CreateOutputRequest) (s : Noted) (hs : s.2.search = .fresh) :
    (createOutputNoted true env req).Behaves (portRely env) (portGuar env) h s
      fun _ _ _ => True := by
  unfold createOutputNoted
  split
  · exact Behaves.ret trivial
  intro s₁ h₁
  refine Behaves.bind (Q := fun _ _ _ => True) ?_ fun _ _ _ _ _ _ => trivial
  unfold createOutputGuardedNoted
  have hfresh : s₁.2.search = .fresh := h₁.1.trans hs
  have hfound : (atomic (hasInput req.inputId)).beside.Behaves (portRely env) (portGuar env)
      (some .write) s₁ fun _ _ s' => s'.2.search = .fresh :=
    fun s₂ h₂ => ⟨id, h₂.1.trans hfresh⟩
  refine hfound.bind fun found h s₂ h₂ => ?_
  split
  · exact finds_createOutputHeld req s₂ h₂
  · exact Behaves.ret trivial

/-- The one call behaves. -/
theorem CreateRequest.finds (req : CreateRequest) (s : Noted) (hs : s.2.search = .fresh) :
    (req.noted true env).Behaves (portRely env) (portGuar env) h s fun _ _ _ => True := by
  cases req with
  | input req => exact (finds_createInput req s hs).ignore
  | output req => exact (finds_createOutput req s hs).ignore

end Creates

/-! ## The other creations -/

/-- What another creation does: it keeps the notes of the one call, and the rows of inputs. -/
def othersGuar (s s' : Noted) : Prop :=
  s'.2.search = s.2.search ∧ inputPorts s.1.db ⊆ inputPorts s'.1.db

/-- The program keeps the rows of inputs. -/
abbrev KeepsInputPorts {α : Type} (p : Prog World α) : Prop :=
  ∀ h w, p.Behaves (fun _ _ _ => True)
    (fun _ w w' => inputPorts w.db ⊆ inputPorts w'.db) h w fun _ _ _ => True

theorem keepsInputPorts_atomic {α : Type} {f : World → α × World}
    (hf : ∀ w, inputPorts w.db ⊆ inputPorts (f w).2.db) : KeepsInputPorts (atomic f) :=
  fun _ _ w _ => ⟨hf w, trivial⟩

theorem keepsInputPorts_of_looks {α : Type} {p : Prog World α} (hp : p.Looks) :
    KeepsInputPorts p := by
  intro h w
  have hbehaves : p.Behaves (fun _ _ _ => True)
      (fun _ w w' => inputPorts w.db ⊆ inputPorts w'.db) h w fun _ held' _ => held' = h ∧ True :=
    hp.behaves (fun _ _ => List.Subset.refl _) (fun _ _ _ _ _ => trivial) trivial
  exact hbehaves.weaken fun _ _ _ _ => trivial

theorem inputPorts_saveInput (env : Env) (name : Option String) (req : CreateInputRequest)
    (w : World) : inputPorts w.db ⊆ inputPorts (saveInputToDb env name req w).2.db := by
  refine query_db (P := fun db => inputPorts w.db ⊆ inputPorts db) (List.Subset.refl _) ?_
  simp only [inputPorts, Table.insert, List.flatMap_append]
  exact List.subset_append_left _ _

theorem inputPorts_status (env : Env) (id : Int) (status : String) (w : World) :
    inputPorts w.db ⊆ inputPorts (updateInputStatusInDb env id status w).2.db := by
  refine query_db (P := fun db => inputPorts w.db ⊆ inputPorts db) (List.Subset.refl _) ?_
  intro port hp
  obtain ⟨r, hr, hport⟩ := List.mem_flatMap.mp hp
  refine List.mem_flatMap.mpr ⟨_, List.mem_map.mpr ⟨r, hr, rfl⟩, ?_⟩
  split_ifs <;> exact hport

theorem inputPorts_saveOutput (env : Env) (name : Option String) (inputId : Int)
    (kind destination : String) (configJson : Option Json) (listenPort : Option UInt16)
    (w : World) : inputPorts w.db ⊆ inputPorts (saveOutputToDb env name inputId kind destination
      configJson listenPort w).2.db := by
  unfold saveOutputToDb
  split
  · exact List.Subset.refl _
  · exact query_db (P := fun db => inputPorts w.db ⊆ inputPorts db) (List.Subset.refl _)
      (List.Subset.refl _)

theorem keepsInputPorts_spawnInput (req : CreateInputRequest) (id : Int)
    (name : Option String) : KeepsInputPorts (spawnInput req id name) := by
  intro h w
  cases req with
  | udp =>
    exact Behaves.bind (Q := fun _ _ _ => True)
      (Behaves.atomic fun _ _ => ⟨List.Subset.refl _, trivial⟩) fun _ _ _ _ => .ret trivial
  | srt =>
    refine Behaves.bind (Q := fun _ _ _ => True)
      (Behaves.atomic fun _ _ => ⟨List.Subset.refl _, trivial⟩) fun _ _ _ _ => ?_
    exact Behaves.bind (Q := fun _ _ _ => True)
      (Behaves.atomic fun _ _ => ⟨List.Subset.refl _, trivial⟩) fun _ _ _ _ => .ret trivial
  | spts sourceInputId programNumber fillWithNulls reqName =>
    refine Behaves.locked fun w₁ w₂ _ _ => ?_
    unfold spawnSptsSection
    split <;> exact ⟨List.Subset.refl _, fun _ _ => trivial⟩

theorem keepsInputPorts_installInput (id : Int) (name : Option String)
    (assignedPort : Option UInt16) (info : InputInfo) :
    KeepsInputPorts (installInput id name assignedPort info) := fun _ _ =>
  Behaves.bind (Q := fun _ _ _ => True)
    (Behaves.locked fun _ _ _ _ => ⟨List.Subset.refl _, fun _ _ => trivial⟩)
    fun _ _ _ _ => .ret trivial

theorem keepsInputPorts_installFailedInput (env : Env) (id : Int) (name : Option String)
    (finalReq : CreateInputRequest) (e : HttpError) :
    KeepsInputPorts (installFailedInput env id name finalReq e) := by
  intro h w
  refine Behaves.bind (Q := fun _ _ _ => True)
    (Behaves.atomic fun _ _ => ⟨List.Subset.refl _, trivial⟩) fun info h w _ w' _ => ?_
  refine Behaves.bind (Q := fun _ _ _ => True)
    (Behaves.atomic fun _ _ => ⟨List.Subset.refl _, trivial⟩) fun _ h w _ => ?_
  exact (keepsInputPorts_atomic (inputPorts_status env id "error") h w).bind
    fun _ _ _ _ _ _ => trivial

/-- The program is one of another creation. -/
abbrev ForOthers {α : Type} (p : Prog Noted α) : Prop :=
  ∀ h s, p.Behaves (fun _ _ _ => True) (fun _ => othersGuar) h s fun _ _ _ => True

theorem forOthers_ret {α : Type} (r : α) : ForOthers (.ret r) := fun _ _ => trivial

theorem ForOthers.andThen {α β : Type} {p : Prog Noted α} {f : α → Prog Noted β}
    (hp : ForOthers p) (hf : ∀ r, ForOthers (f r)) : ForOthers (p >>= f) := fun h s =>
  (hp h s).bind fun r h s _ => hf r h s

theorem forOthers_beside {α : Type} {p : Prog World α} (hp : KeepsInputPorts p) :
    ForOthers p.beside := by
  intro h s
  have hbeside : p.beside.Behaves (fun _ _ _ => True) (fun _ => othersGuar) h (s.1, s.2)
      fun _ _ _ => True :=
    (hp h s.1).beside (fun _ _ _ _ => trivial)
      (fun _ _ _ hsub hsame => ⟨congrArg PortNotes.search hsame, hsub⟩) s.2
  exact hbeside

theorem forOthers_save {f : World → Except String Int × World} (assignedPort : Option UInt16)
    (hf : ∀ w, inputPorts w.db ⊆ inputPorts (f w).2.db) :
    ForOthers ((atomic f).noted (PortNotes.save false assignedPort)) := by
  refine fun h s s' _ => ⟨⟨?_, hf s'.1⟩, trivial⟩
  show (PortNotes.save false assignedPort (f s'.1).1 (f s'.1).2 s'.2).search = s'.2.search
  cases (f s'.1).1 <;> rfl

theorem forOthers_findPort (env : Env) : ForOthers (findPortNoted false env) :=
  forOthers_beside (keepsInputPorts_of_looks (looks_findAvailablePort env))

theorem forOthers_createInput (env : Env) (req : CreateInputRequest) :
    ForOthers (createInputNoted false env req) := by
  unfold createInputNoted
  split
  · exact forOthers_ret _
  have hassign : ForOthers (assignInputPortNoted false env req) := by
    unfold assignInputPortNoted
    split
    · exact (forOthers_findPort env).andThen fun r => by cases r <;> exact forOthers_ret _
    · exact forOthers_ret _
  refine hassign.andThen fun r => ?_
  rcases r with r | ⟨finalReq, assignedPort⟩
  · exact forOthers_ret _
  refine (forOthers_save assignedPort (inputPorts_saveInput env _ finalReq)).andThen
    fun r => ?_
  cases r with
  | error e => exact forOthers_ret _
  | ok id =>
  refine (forOthers_beside (keepsInputPorts_spawnInput finalReq id _)).andThen fun r => ?_
  cases r with
  | ok info => exact forOthers_beside (keepsInputPorts_installInput id _ assignedPort info)
  | error e => exact forOthers_beside (keepsInputPorts_installFailedInput env id _ finalReq e)

theorem forOthers_createOutputHeld (env : Env) (req : CreateOutputRequest) :
    ForOthers (createOutputHeldNoted false env req) := by
  have hassign : ForOthers (assignOutputPortNoted false env req) := by
    unfold assignOutputPortNoted
    split
    · exact (forOthers_findPort env).andThen fun r => by cases r <;> exact forOthers_ret _
    · exact forOthers_ret _
  refine hassign.andThen fun r => ?_
  rcases r with r | ⟨finalReq, assignedPort⟩
  · exact forOthers_ret _
  refine (forOthers_beside (keepsInputPorts_of_looks (looks_checkConflicts env _ _ _))).andThen
    fun r => ?_
  rcases r with r | _
  · exact forOthers_ret _
  refine (forOthers_save assignedPort (inputPorts_saveOutput env _ _ _ _ _ _)).andThen
    fun r => ?_
  cases r with
  | error e => exact forOthers_ret _
  | ok outputId =>
  refine (forOthers_beside (keepsInputPorts_atomic fun w => ?_)).andThen fun r => ?_
  · rw [installOutputSection_db]
    exact List.Subset.refl _
  · cases r <;> exact forOthers_ret _

theorem forOthers_createOutput (env : Env) (req : CreateOutputRequest) :
    ForOthers (createOutputNoted false env req) := by
  unfold createOutputNoted
  split
  · exact forOthers_ret _
  have hguarded : ForOthers (createOutputGuardedNoted false env req) := by
    refine (forOthers_beside (keepsInputPorts_atomic fun _ => List.Subset.refl _)).andThen
      fun found => ?_
    split
    · exact forOthers_createOutputHeld env req
    · exact forOthers_ret _
  intro h s s₁ _
  exact (hguarded _ s₁).bind fun _ _ _ _ _ _ => trivial

theorem CreateRequest.forOthers (env : Env) (req : CreateRequest) :
    ForOthers (req.noted false env) := by
  cases req with
  | input req => exact fun h s => (forOthers_createInput env req h s).ignore
  | output req => exact fun h s => (forOthers_createOutput env req h s).ignore

/-! ## Runs -/

/-- Another request to create a stream. -/
def OtherCreation (p : Prog Noted Unit) : Prop :=
  ∃ env req, p = CreateRequest.noted false env req

/-- Tasks take their steps. -/
def NotedTaskStep (s s' : Noted) : Prop := TaskStep s.1 s'.1 ∧ s'.2 = s.2

/-- The runs of one request next to any number of others. It is there from the start on, and
the others may run before it takes its first step. -/
def AssignmentRun (C : Noted → Noted → Prop) (env : Env) (req : CreateRequest) (w : World)
    (given : List UInt16) (p : Pool Noted) : Prop :=
  Pool.Runs OtherCreation NotedTaskStep C ⟨(w, ⟨given, .fresh⟩), [⟨req.noted true env, none⟩]⟩ p

/-- The search counts each port of the range that is stored when it begins, and no further one
is stored while the request is underway. -/
structure Undisturbed (env : Env) (s s' : Noted) : Prop where
  counted : s'.2.search.uncounted = []
  others : s.2.search.underway = true → s'.2.search.underway = true →
    ∀ port ∈ storedPorts s', env.InPortRange port → port ∈ storedPorts s

/-- The check goes through the ports that are stored, not through all ports. -/
def undisturbed (env : Env) (s s' : Noted) : Bool :=
  s'.2.search.uncounted.isEmpty && (!s.2.search.underway || !s'.2.search.underway ||
    (storedPorts s').all fun port =>
      !decide (env.InPortRange port) || (storedPorts s).contains port)

theorem undisturbed_iff {env : Env} {s s' : Noted} :
    undisturbed env s s' = true ↔ Undisturbed env s s' := by
  simp only [undisturbed, Bool.and_eq_true, List.isEmpty_iff, Bool.or_eq_true,
    Bool.not_eq_true', List.all_eq_true, decide_eq_false_iff_not, List.contains_iff_mem]
  constructor
  · rintro ⟨hcounted, hothers⟩
    refine ⟨hcounted, fun hs hs' port hp hr => ?_⟩
    rcases hothers with (hn | hn) | hall
    · simp [hs] at hn
    · simp [hs'] at hn
    · exact (hall port hp).resolve_left fun hn => hn hr
  · intro h
    refine ⟨h.counted, ?_⟩
    by_cases hs : s.2.search.underway = true
    · by_cases hs' : s'.2.search.underway = true
      · refine .inr fun port hp => ?_
        by_cases hr : env.InPortRange port
        · exact .inr (h.others hs hs' port hp hr)
        · exact .inl hr
      · exact .inl (.inr (by simpa using hs'))
    · exact .inl (.inl (by simpa using hs))

instance (env : Env) (s s' : Noted) : Decidable (Undisturbed env s s') :=
  decidable_of_iff _ undisturbed_iff

/-- Every run of creations is a run with notes. -/
theorem exists_assignmentRun {env : Env} {req : CreateRequest} {w : World}
    (given : List UInt16) {p : Pool World}
    (hruns : Pool.Runs (fun q => ∃ env req, q = CreateRequest.prog env req) TaskStep
      (fun _ _ => True) ⟨w, [⟨req.prog env, none⟩]⟩ p) :
    ∃ p', AssignmentRun (fun _ _ => True) env req w given p' ∧ p'.Erases p := by
  have hstart : Pool.Erases (⟨(w, ⟨given, .fresh⟩), [⟨req.noted true env, none⟩]⟩ : Pool Noted)
      ⟨w, [⟨req.prog env, none⟩]⟩ := ⟨rfl, .cons ⟨rfl, req.erases true env⟩ .nil⟩
  refine hstart.runs ?_ hruns
  rintro q ⟨env', req', rfl⟩
  exact ⟨_, ⟨env', req', rfl⟩, req'.erases false env'⟩

theorem portRely_of_others {env : Env} {h : Option LockMode} {s s' : Noted}
    (ho : othersGuar s s' ∨ NotedTaskStep s s') (hC : Undisturbed env s s') :
    portRely env h s s' := by
  have hguar : othersGuar s s' := by
    rcases ho with ho | ⟨ht, hnotes⟩
    · exact ho
    · exact ⟨congrArg PortNotes.search hnotes, ht.db ▸ List.Subset.refl _⟩
  exact ⟨hguar.1, hguar.2, fun hu => hC.others hu (hguar.1 ▸ hu)⟩

/-- The found port is one of the range and no stored one, and the assigned port is no other
stream's. -/
theorem assignmentRun_distinct {env : Env} {req : CreateRequest} {w : World}
    {given : List UInt16} {p : Pool Noted}
    (hrun : AssignmentRun (Undisturbed env) env req w given p) :
    p.shared.2.search.Distinct env := by
  have hinv : Pool.Led (portRely env) (portGuar env) (fun _ => othersGuar) p ∧
      p.shared.2.search.Sound env ∧ p.shared.2.search.uncounted = [] := by
    induction hrun with
    | refl =>
      refine ⟨⟨_, [], rfl, req.finds _ rfl, fun u hu => absurd hu List.not_mem_nil⟩,
        fun _ => ⟨fun _ _ hf => absurd hf (by simp [Search.fresh]),
          fun _ _ hk => absurd hk (by simp [Search.fresh])⟩, rfl⟩
    | @tail a b _ hstep ih =>
      obtain ⟨hled, hsound, hcounted⟩ := ih
      have hcalls : ∀ (p : Prog Noted Unit) (s : Noted), OtherCreation p →
          Pool.Anywhere (fun _ => othersGuar) ⟨p, none⟩ s := by
        rintro p s ⟨env', req', rfl⟩
        exact req'.forOthers env' none s
      obtain ⟨hled', hacts⟩ := hled.step
        (fun h s => ⟨rfl, List.Subset.refl _, fun _ _ hp _ => hp⟩) hcalls
        (fun _ _ ho => portRely_of_others ho hstep.2) hstep.1
      refine ⟨hled', ?_, hstep.2.counted⟩
      rcases hacts with hsame | ⟨_, hact⟩ | ⟨_, hact⟩ | hact
      · rw [hsame]
        exact hsound
      · exact hact hsound
      · rw [hact.1]
        exact hsound
      · rw [hact.2]
        exact hsound
  exact hinv.2.1 hinv.2.2

/-! ## Two automatic ports -/

/-- A request for a UDP input on any port. -/
def automaticInputRequest : CreateRequest :=
  .input (.udp none none (some true) none none none none)

/-- A request for a UDP output of the first input to any port of the given host. -/
def automaticOutputRequest (host : String) : CreateRequest :=
  .output (.udp 1 (some host) none (some true) none none none none none)

/-- The request is there, and others have been called. -/
def creationsPool (req : CreateRequest) (others : List CreateRequest) : Pool Noted :=
  ⟨(.boot emptyDatabase, ⟨[], .fresh⟩), ⟨req.noted true localEnv, none⟩ ::
    others.map fun req => ⟨req.noted false localEnv, none⟩⟩

theorem assignmentRun_of_advances {C : Noted → Noted → Prop} {check : Noted → Noted → Bool}
    (hC : ∀ s s', check s s' = true → C s s')
    (hcall : C (.boot emptyDatabase, ⟨[], .fresh⟩) (.boot emptyDatabase, ⟨[], .fresh⟩))
    {req : CreateRequest} (others : List CreateRequest) {ks : List ℕ} {p : Pool Noted}
    (h : (creationsPool req others).advances check ks = some p) :
    AssignmentRun C localEnv req (.boot emptyDatabase) [] p := by
  refine Relation.ReflTransGen.trans ?_ (Pool.runs_of_advances hC ks h)
  clear h
  suffices hcalls : ∀ called, Pool.Runs OtherCreation NotedTaskStep C
      (creationsPool req called) (creationsPool req (called ++ others)) from hcalls []
  induction others with
  | nil =>
    intro called
    rw [List.append_nil]
    exact .refl
  | cons other others ih =>
    intro called
    have hstep : Pool.Step OtherCreation NotedTaskStep (creationsPool req called)
        (creationsPool req (called ++ [other])) := by
      rw [creationsPool, creationsPool, List.map_append]
      exact .call ⟨localEnv, other, rfl⟩
    have hrest := ih (called ++ [other])
    rw [List.append_assoc] at hrest
    exact .head ⟨hstep, hcall⟩ hrest

/-- An input on a port of the range is created first, so the next port is taken. -/
theorem automaticInput_distinct : ∃ p, AssignmentRun (Undisturbed localEnv) localEnv
      automaticInputRequest (.boot emptyDatabase) [] p ∧
    p.shared.2.search.found.map Prod.fst = some 10001 ∧
    p.shared.2.search.Distinct localEnv := by
  have hview : ((creationsPool automaticInputRequest [.input (udpInputRequest 10000)]).advances
      (fun s s' => decide (Undisturbed localEnv s s')) [1, 1, 1, 1, 1, 0, 0, 0, 0]).map
      (fun p => p.shared.2.search.found.map Prod.fst) = some (some 10001) := by
    decide +kernel
  obtain ⟨p, hp, hfound⟩ := Option.map_eq_some_iff.mp hview
  have hrun : AssignmentRun (Undisturbed localEnv) localEnv automaticInputRequest
      (.boot emptyDatabase) [] p :=
    assignmentRun_of_advances (fun _ _ => of_decide_eq_true) ⟨rfl, fun _ _ _ hp _ => hp⟩ _ hp
  exact ⟨p, hrun, hfound, assignmentRun_distinct hrun⟩

/-- Two UDP outputs to different hosts get the same port, one after the other. -/
theorem automaticOutputs_collide :
    ¬ ∀ (env : Env) (req : CreateRequest) (w : World) (given : List UInt16) (p : Pool Noted),
      AssignmentRun (fun _ _ => True) env req w given p → p.shared.2.search.Distinct env := by
  intro h
  have hview : ((creationsPool (automaticOutputRequest "127.0.0.2")
      [.input (udpInputRequest 5000), automaticOutputRequest "127.0.0.1"]).advances
      (fun _ _ => true) ([1, 1, 1, 1, 1] ++ List.replicate 9 2 ++ List.replicate 9 0)).map
      (fun p => (p.shared.2.search.found, p.shared.2.search.kept)) =
      some (some (10000, [5000, 10000]), some (10000, [10000])) := by
    decide +kernel
  obtain ⟨p, hp, hview⟩ := Option.map_eq_some_iff.mp hview
  obtain ⟨hfound, _⟩ := Prod.mk.inj hview
  have hrun : AssignmentRun (fun _ _ => True) localEnv (automaticOutputRequest "127.0.0.2")
      (.boot emptyDatabase) [] p :=
    assignmentRun_of_advances (fun _ _ _ => trivial) trivial _ hp
  exact ((h _ _ _ _ p hrun).found 10000 [5000, 10000] hfound).2 (by simp)

end StreamGateway
