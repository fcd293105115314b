import StreamGateway.Async
import StreamGateway.State

/-!
# Database access

Each query is one atomic step. A query that fails changes nothing and gives the error text
that the call learns from outside. The search for a free port is a loop of queries, and
nothing reserves the port that it finds.
-/
namespace StreamGateway

open Prog

/-- The query fails as the environment says, or runs. -/
def query {α : Type} (env : Env) (q : Query) (f : Database → α × Database) (w : World) :
    Except String α × World :=
  match env.queryError q with
  | some e => (.error e, w)
  | none => (.ok (f w.db).1, { w with db := (f w.db).2 })

/-- A query that only reads. -/
def select {α : Type} (env : Env) (q : Query) (f : Database → α) (w : World) :
    Except String α × World :=
  query env q (fun db => (f db, db)) w

@[simp] theorem query_streams {α : Type} (env : Env) (q : Query) (f : Database → α × Database)
    (w : World) : (query env q f w).2.streams = w.streams := by
  unfold query
  split <;> rfl

@[simp] theorem query_rt {α : Type} (env : Env) (q : Query) (f : Database → α × Database)
    (w : World) : (query env q f w).2.rt = w.rt := by
  unfold query
  split <;> rfl

@[simp] theorem select_world {α : Type} (env : Env) (q : Query) (f : Database → α) (w : World) :
    (select env q f w).2 = w := by
  unfold select query
  split <;> rfl

/-! ## Inputs -/

def saveInputToDb (env : Env) (name : Option String) (request : CreateInputRequest) :
    World → Except String Int × World :=
  query env .saveInput fun db =>
    (db.inputs.lastId + 1, { db with
      inputs := db.inputs.insert
        ⟨name, inputKindString request, .obj request.toFields, "listening"⟩ })

/-- The second query is not run when the first one fails. -/
def deleteInputFromDb (env : Env) (id : Int) (w : World) : Except String Unit × World :=
  match query env .deleteOutputsOfInput (fun db =>
      ((), { db with outputs := db.outputs.delete fun _ row => row.inputId = id })) w with
  | (.error e, w) => (.error e, w)
  | (.ok (), w) => query env .deleteInput (fun db =>
      ((), { db with inputs := db.inputs.delete fun rowId _ => rowId = id })) w

def getAllInputs (env : Env) : World → Except String (List (Int × InputRow)) × World :=
  select env .getAllInputs fun db => db.inputs.rows

def getInputById (env : Env) (inputId : Int) : World → Except String (Option InputRow) × World :=
  select env .getInputById fun db => db.inputs.find inputId

def updateInputStatusInDb (env : Env) (inputId : Int) (status : String) :
    World → Except String Unit × World :=
  query env .updateInputStatus fun db =>
    ((), { db with inputs := db.inputs.update inputId fun row => { row with status := status } })

def updateInputInDb (env : Env) (id : Int) (name : Option String) (configJson : Json) :
    World → Except String Unit × World :=
  query env .updateInput fun db =>
    ((), { db with
      inputs := db.inputs.update id fun row =>
        { row with name := name, configJson := configJson } })

/-! ## Outputs -/

/-- The foreign key is enforced: the input must have a row. -/
def saveOutputToDb (env : Env) (name : Option String) (inputId : Int) (kind destination : String)
    (configJson : Option Json) (listenPort : Option UInt16) (w : World) :
    Except String Int × World :=
  if (w.db.inputs.find inputId).isNone then (.error "FOREIGN KEY constraint failed", w)
  else query env .saveOutput (fun db =>
    (db.outputs.lastId + 1, { db with
      outputs := db.outputs.insert
        ⟨name, inputId, kind, some destination, listenPort, configJson, "connecting"⟩ })) w

def deleteOutputFromDb (env : Env) (id : Int) : World → Except String Unit × World :=
  query env .deleteOutput fun db =>
    ((), { db with outputs := db.outputs.delete fun rowId _ => rowId = id })

def getAllOutputs (env : Env) : World → Except String (List (Int × OutputRow)) × World :=
  select env .getAllOutputs fun db => db.outputs.rows

def checkOutputExists (env : Env) (inputId : Int) (destination : String) :
    World → Except String Bool × World :=
  select env .checkOutputExists fun db =>
    db.outputs.rows.any fun r => r.2.inputId = inputId ∧ r.2.destination = some destination

/-- `exclude_output_id` is `None` in every call. -/
def checkPortConflict (env : Env) (listenPort : UInt16) :
    World → Except String Bool × World :=
  select env (.checkPortConflict listenPort) fun db =>
    db.outputs.rows.any fun r => r.2.listenPort = some listenPort

def getOutputById (env : Env) (outputId : Int) :
    World → Except String (Option OutputRow) × World :=
  select env .getOutputById fun db => db.outputs.find outputId

def updateOutputStatusInDb (env : Env) (outputId : Int) (status : String) :
    World → Except String Unit × World :=
  query env .updateOutputStatus fun db =>
    ((), { db with outputs := db.outputs.update outputId fun row => { row with status := status } })

/-- `fetch_one` fails when there is no row. -/
def getInputIdForOutput (env : Env) (outputId : Int) (w : World) : Except String Int × World :=
  match select env .getInputIdForOutput (fun db => db.outputs.find outputId) w with
  | (.error e, w) => (.error e, w)
  | (.ok none, w) =>
    (.error "no rows returned by a query that expected to return at least one row", w)
  | (.ok (some row), w) => (.ok row.inputId, w)

def updateOutputInDb (env : Env) (id : Int) (name : Option String) (destination : String)
    (configJson : Option Json) (listenPort : Option UInt16) :
    World → Except String Unit × World :=
  query env .updateOutput fun db =>
    ((), { db with
      outputs := db.outputs.update id fun row =>
        { row with
          name := name
          destination := some destination
          configJson := configJson
          listenPort := listenPort } })

/-! ## Free ports -/

/-- `config_value.get(key).and_then(|p| p.as_u64())`, cut to 16 bits. -/
def Json.portAt (key : String) : Json → Option UInt16
  | .obj o =>
    match o.lookup key with
    | some (.num n) => if 0 ≤ n then some (UInt16.ofNat n.toNat) else none
    | _ => none
  | _ => none

/-- The ports that the configurations of inputs name in either field. -/
def inputPorts (db : Database) : List UInt16 :=
  db.inputs.rows.flatMap fun r =>
    (r.2.configJson.portAt "listen_port").toList ++ (r.2.configJson.portAt "bind_port").toList

def usedListenPorts (db : Database) : List UInt16 :=
  db.outputs.rows.filterMap fun r => r.2.listenPort

/-- The first port of the list that is not used, not in conflict and can be bound. -/
def searchPort (env : Env) (usedPorts : List UInt16) :
    List UInt16 → Prog World (Except String UInt16)
  | [] => return .error (s!"No available ports in range {env.autoPortRangeStart}.." ++
      toString env.autoPortRangeEnd)
  | port :: rest => do
    if port ∈ usedPorts then searchPort env usedPorts rest
    else
      match ← atomic (checkPortConflict env port) with
      | .error e => return .error e
      | .ok true => searchPort env usedPorts rest
      | .ok false =>
        if env.portAvailable port then return .ok port else searchPort env usedPorts rest

theorem reads_searchPort (env : Env) (usedPorts ports : List UInt16) :
    Reads (searchPort env usedPorts ports) := by
  induction ports with
  | nil => exact .ret trivial
  | cons port rest ih =>
    unfold searchPort
    split
    · exact ih
    refine (Reads.atomic (select_world env _ _)).andThen fun r => ?_
    rcases r with e | _ | _
    · exact .ret trivial
    · dsimp only
      split
      · exact .ret trivial
      · exact ih
    · exact ih

/-- `auto_port_range_start..auto_port_range_end`. -/
def portRange (env : Env) : List UInt16 :=
  (List.range' env.autoPortRangeStart.toNat
    (env.autoPortRangeEnd.toNat - env.autoPortRangeStart.toNat)).map UInt16.ofNat

/-- `exclude_ids` is `None` in every call. -/
def findAvailablePort (env : Env) : Prog World (Except String UInt16) := do
  match ← atomic (select env .listenPorts usedListenPorts) with
  | .error e => return .error e
  | .ok listenPorts =>
  match ← atomic (select env .inputConfigs inputPorts) with
  | .error e => return .error e
  | .ok configPorts => searchPort env (listenPorts ++ configPorts) (portRange env)

theorem reads_findAvailablePort (env : Env) : Reads (findAvailablePort env) := by
  refine (Reads.atomic (select_world env _ _)).andThen fun r => ?_
  cases r with
  | error e => exact .ret trivial
  | ok listenPorts =>
  refine (Reads.atomic (select_world env _ _)).andThen fun r => ?_
  cases r with
  | error e => exact .ret trivial
  | ok configPorts => exact reads_searchPort env _ _

end StreamGateway
