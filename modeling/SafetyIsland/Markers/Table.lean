import Mathlib.Data.List.AList
import Mathlib.Data.List.Dedup
import Mathlib.Data.List.Sort
import Mathlib.Data.Rat.Defs
import SafetyIsland.General.Numbered
import SafetyIsland.Markers.Names

/-! The marker table of `gen_markers.py`: the parts of the resolved system model
that it reads, and the markers that `build_table` numbers. -/
namespace SafetyIsland.Markers

/-- A mapping of the model file, in the file's order. -/
abbrev Dict (α : Type) := AList fun _ : String => α

/-- The mapping with the entries as written. -/
def Dict.of {α : Type} (entries : List (String × α)) (h : (entries.map Prod.fst).Nodup) : Dict α :=
  ⟨entries.map Prod.toSigma, by simpa [List.NodupKeys, List.keys, Function.comp_def] using h⟩

def Dict.sorted {α : Type} (d : Dict α) : List String := d.keys.insertionSort (· ≤ ·)

/-- A path's `trigger`; one that is absent has no kind. -/
inductive Trigger where
  | timer (rateHz : ℚ)
  | input (value : List String)
  | other (kind : Option String) (notRead : kind ≠ some "timer" ∧ kind ≠ some "input")

def Trigger.kind : Trigger → Option String
  | timer _ => some "timer"
  | input _ => some "input"
  | other kind _ => kind

def Trigger.rateHz : Trigger → Option ℚ
  | timer rate => some rate
  | _ => none

/-- The endpoints of an `input` trigger. -/
def Trigger.value : Trigger → List String
  | input value => value
  | _ => []

/-- An entry of `contracts.node_paths`. -/
structure Path where
  trigger : Trigger
  input : List String := []
  maxLatencyMs : Option ℚ := none

structure Service where
  client : List String := []
  server : List String := []

structure Topic where
  pub : List String := []
  sub : List String := []

structure Guard where
  members : List String := []

/-- `guards` is read where the key `monitors` is absent. -/
structure Hazard where
  monitors : Option (List Guard) := none
  guards : List Guard := []

structure SystemModel where
  nodePaths : Dict Path
  /-- Of `contracts.pub_endpoints` only the keys are read. -/
  pubEndpoints : Dict Unit
  hazards : Dict Hazard
  services : Dict Service
  topics : Dict Topic

inductive Kind where
  | pathEntry | pathExit | take | serviceCall | serviceServeEntry | serviceServeExit | publish
  | lifecycleDone | lifecycleTimeout
  | supervisorDeadline | supervisorSafeState | supervisorInject | supervisorDirect
  | supervisorHandover | supervisorVehicleFault | supervisorResume | supervisorFloorWait
  | supervisorResponse
  deriving DecidableEq, Repr

/-- What `add` takes beyond a marker's name, kind and element. -/
inductive Extra where
  | path (node : String) (trigger : Option String) (maxLatencyMs rateHz : Option ℚ)
  | take (node triggers : String)
  | service (node service : String)
  | publish (node : String) (topic : Option String)
  | board (node : String)
  deriving DecidableEq

def Extra.trigger : Extra → Option String
  | path _ trigger _ _ => trigger
  | _ => none

structure Row where
  name : String
  kind : Kind
  element : String
  extra : Extra
  deriving DecidableEq

structure Marker extends Row where
  id : Nat
  deriving DecidableEq

def Row.marker (id : Nat) (row : Row) : Marker := { row with id := id }

def lifecycle : List (String × String × Kind) :=
  [("/mrm_handler/init", "MRM_HANDLER_INIT_DONE", .lifecycleDone),
   ("/mrm_handler/init", "MRM_HANDLER_INIT_TIMEOUT", .lifecycleTimeout)]

def supervision : List (String × String × Kind) :=
  [("/mrm_handler/call_mrm", "SUPERVISOR_DEADLINE", .supervisorDeadline),
   ("/mrm_handler/call_mrm", "SUPERVISOR_SAFE_STATE", .supervisorSafeState),
   ("/mrm_handler/call_mrm", "SUPERVISOR_INJECT", .supervisorInject),
   ("/mrm_handler/call_mrm", "SUPERVISOR_DIRECT", .supervisorDirect),
   ("/mrm_handler/call_mrm", "SUPERVISOR_HANDOVER", .supervisorHandover),
   ("/mrm_handler/call_mrm", "SUPERVISOR_VEHICLE_FAULT", .supervisorVehicleFault),
   ("/mrm_handler/call_mrm", "SUPERVISOR_RESUME", .supervisorResume),
   ("/mrm_handler/call_mrm", "SUPERVISOR_FLOOR_WAIT", .supervisorFloorWait),
   ("/mrm_handler/call_mrm", "SUPERVISOR_RESPONSE", .supervisorResponse)]

namespace SystemModel
variable (model : SystemModel)

def pathRows (key : String) : Option (Row × Row) := do
  let p ← model.nodePaths.lookup key
  let (node, path) ← splitEndpoint key
  let info := Extra.path node p.trigger.kind p.maxLatencyMs p.trigger.rateHz
  return ({ name := "PATH_" ++ ident node path ++ "_ENTRY", kind := .pathEntry, element := key,
            extra := info },
          { name := "PATH_" ++ ident node path ++ "_EXIT", kind := .pathExit, element := key,
            extra := info })

def tupleLe (s t : String × String) : Prop := s.1 < t.1 ∨ s.1 = t.1 ∧ s.2 ≤ t.2

instance (s t : String × String) : Decidable (tupleLe s t) :=
  inferInstanceAs (Decidable (s.1 < t.1 ∨ s.1 = t.1 ∧ s.2 ≤ t.2))

/-- `takes`: each input beside the path it triggers. -/
def takes : List (String × String) :=
  (model.nodePaths.sorted.flatMap fun key =>
    ((model.nodePaths.lookup key).elim [] Path.input).map fun ep => (ep, key)).dedup.insertionSort
      tupleLe

def takeRow (take : String × String) : Option Row := do
  let (node, name) ← splitEndpoint take.1
  return { name := "TAKE_" ++ ident node name, kind := .take, element := take.1,
           extra := .take node take.2 }

/-- The endpoints of one side of every service, each with its service. -/
def served (side : Service → List String) : List (String × String) :=
  model.services.sorted.flatMap fun srv =>
    ((model.services.lookup srv).elim [] side).map fun ep => (srv, ep)

def callRow (call : String × String) : Option Row := do
  let (node, name) ← splitEndpoint call.2
  return { name := "CALL_" ++ ident node name, kind := .serviceCall, element := call.2,
           extra := .service node call.1 }

def serveRows (serve : String × String) : Option (Row × Row) := do
  let (node, name) ← splitEndpoint serve.2
  return ({ name := "SERVE_" ++ ident node name ++ "_ENTRY", kind := .serviceServeEntry,
            element := serve.2, extra := .service node serve.1 },
          { name := "SERVE_" ++ ident node name ++ "_EXIT", kind := .serviceServeExit,
            element := serve.2, extra := .service node serve.1 })

/-- `topics_by_pub`: the last topic that names the endpoint as a publisher. -/
def topicByPub (ep : String) : Option String :=
  model.topics.entries.foldl (fun topic t => if ep ∈ t.2.pub then some t.1 else topic) none

def pubRow (ep : String) : Option Row := do
  let (node, name) ← splitEndpoint ep
  return { name := "PUB_" ++ ident node name, kind := .publish, element := ep,
           extra := .publish node (model.topicByPub ep) }

/-- A row that no contract element decides. -/
def boardRow : String × String × Kind → Option Row
  | (element, name, kind) => do
      let (node, _) ← splitEndpoint element
      return { name := name, kind := kind, element := element, extra := .board node }

/-- The rows in the order of `build_table`, by group. -/
structure Groups where
  paths : List (Row × Row)
  takes : List Row
  calls : List Row
  serves : List (Row × Row)
  pubs : List Row
  board : List Row

def groups : Option Groups := do
  let paths ← model.nodePaths.sorted.mapM model.pathRows
  let takes ← model.takes.mapM takeRow
  let calls ← (model.served Service.client).mapM callRow
  let serves ← (model.served Service.server).mapM serveRows
  let pubs ← model.pubEndpoints.sorted.mapM model.pubRow
  let board ← (lifecycle ++ supervision).mapM boardRow
  return { paths, takes, calls, serves, pubs, board }

open Numbered

def Groups.rows (g : Groups) : List Row :=
  paired g.paths ++ (g.takes ++ (g.calls ++ (paired g.serves ++ (g.pubs ++ g.board))))

def Groups.table (g : Groups) : List Marker := g.rows.foldl (add Row.marker) []

def buildTable : Option (List Marker) := model.groups.map Groups.table

variable {model} {key ep : String} {row : Row} {pair : Row × Row}

/-- A path's rows are named by its node and its path. -/
theorem pathRows_eq_some (h : model.pathRows key = some pair) :
    ∃ p node path, model.nodePaths.lookup key = some p ∧ splitEndpoint key = some (node, path) ∧
      pair.1.name = "PATH_" ++ ident node path ++ "_ENTRY" ∧
      pair.2.name = "PATH_" ++ ident node path ++ "_EXIT" ∧
      pair.1.kind = .pathEntry ∧ pair.2.kind = .pathExit ∧
      pair.1.element = key ∧ pair.2.element = key ∧ pair.2.extra = pair.1.extra := by
  simp only [pathRows, Option.bind_eq_bind, Option.bind_eq_some_iff, Option.pure_def,
    Option.some.injEq] at h
  obtain ⟨p, hPath, ⟨node, path⟩, hSplit, rfl⟩ := h
  exact ⟨p, node, path, hPath, hSplit, rfl, rfl, rfl, rfl, rfl, rfl, rfl⟩

/-- A take's row is named by its endpoint. -/
theorem takeRow_eq_some {take : String × String} (h : takeRow take = some row) :
    ∃ node name, splitEndpoint take.1 = some (node, name) ∧
      row.name = "TAKE_" ++ ident node name ∧ row.kind = .take := by
  simp only [takeRow, Option.bind_eq_bind, Option.bind_eq_some_iff, Option.pure_def,
    Option.some.injEq] at h
  obtain ⟨⟨node, name⟩, hSplit, rfl⟩ := h
  exact ⟨node, name, hSplit, rfl, rfl⟩

/-- A call's row is named by its service's client. -/
theorem callRow_eq_some {call : String × String} (h : callRow call = some row) :
    ∃ node name, splitEndpoint call.2 = some (node, name) ∧
      row.name = "CALL_" ++ ident node name ∧ row.kind = .serviceCall := by
  simp only [callRow, Option.bind_eq_bind, Option.bind_eq_some_iff, Option.pure_def,
    Option.some.injEq] at h
  obtain ⟨⟨node, name⟩, hSplit, rfl⟩ := h
  exact ⟨node, name, hSplit, rfl, rfl⟩

/-- A service's rows are named by its server. -/
theorem serveRows_eq_some {serve : String × String} (h : serveRows serve = some pair) :
    ∃ node name, splitEndpoint serve.2 = some (node, name) ∧
      pair.1.name = "SERVE_" ++ ident node name ++ "_ENTRY" ∧
      pair.2.name = "SERVE_" ++ ident node name ++ "_EXIT" ∧
      pair.1.kind = .serviceServeEntry ∧ pair.2.kind = .serviceServeExit := by
  simp only [serveRows, Option.bind_eq_bind, Option.bind_eq_some_iff, Option.pure_def,
    Option.some.injEq] at h
  obtain ⟨⟨node, name⟩, hSplit, rfl⟩ := h
  exact ⟨node, name, hSplit, rfl, rfl, rfl, rfl⟩

/-- A publisher's row is named by its endpoint. -/
theorem pubRow_eq_some (h : model.pubRow ep = some row) :
    ∃ node name, splitEndpoint ep = some (node, name) ∧
      row.name = "PUB_" ++ ident node name ∧ row.kind = .publish := by
  simp only [pubRow, Option.bind_eq_bind, Option.bind_eq_some_iff, Option.pure_def,
    Option.some.injEq] at h
  obtain ⟨⟨node, name⟩, hSplit, rfl⟩ := h
  exact ⟨node, name, hSplit, rfl, rfl⟩

/-- A board marker's name is its source's. -/
theorem boardRow_eq_some {source : String × String × Kind} (h : boardRow source = some row) :
    row.name = source.2.1 ∧ row.kind = source.2.2 := by
  obtain ⟨element, name, kind⟩ := source
  simp only [boardRow, Option.bind_eq_bind, Option.bind_eq_some_iff, Option.pure_def,
    Option.some.injEq] at h
  obtain ⟨-, -, rfl⟩ := h
  exact ⟨rfl, rfl⟩

/-- Every group of an accepted model comes from its own sources. -/
structure Groups.From (g : Groups) (model : SystemModel) : Prop where
  paths : model.nodePaths.sorted.mapM model.pathRows = some g.paths
  takes : model.takes.mapM takeRow = some g.takes
  calls : (model.served Service.client).mapM callRow = some g.calls
  serves : (model.served Service.server).mapM serveRows = some g.serves
  pubs : model.pubEndpoints.sorted.mapM model.pubRow = some g.pubs
  board : (lifecycle ++ supervision).mapM boardRow = some g.board

/-- The groups come from the model's own contract. -/
theorem groups_eq_some {g : Groups} (h : model.groups = some g) : g.From model := by
  simp only [groups, Option.bind_eq_bind, Option.bind_eq_some_iff, Option.pure_def,
    Option.some.injEq] at h
  obtain ⟨paths, hPaths, takes, hTakes, calls, hCalls, serves, hServes, pubs, hPubs, board, hBoard,
    rfl⟩ := h
  exact ⟨hPaths, hTakes, hCalls, hServes, hPubs, hBoard⟩

end SystemModel

end SafetyIsland.Markers
