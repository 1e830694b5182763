import EventWiring.Scenario.Declare

/-! The state of a session: what its names stand for, the scripts and how often
they were run, and the calls that handlers made. A bus lives as long as a name,
a running publish or a living target holds it; a target lives as long as a name
or a living callback holds it. -/
namespace EventWiring.Scenario

/-- A record of what a handler did. -/
inductive Call where
  /-- A handler was run, with the event if it takes one. -/
  | ran (label tag : String) (event : Option Event)
  /-- A request of a handler was answered. -/
  | answered (op : String) (result : Outcome)
  /-- A request of a handler was not made. -/
  | skipped (op : String)

/-- The JSON form of a call. -/
def Call.toJson : Call → Json
  | ran label tag none => .ofEntries [("target", .string label), ("tag", .string tag)]
  | ran label tag (some e) =>
    .ofEntries [("target", .string label), ("tag", .string tag), ("got", .string e.text),
      ("name", .string e.name)]
  | answered op result => .ofEntries [("op", .string op), ("ret", result.toJson)]
  | skipped op => .ofEntries [("skipped", .string op)]

/-- A target of a class. -/
structure Member where
  className : String
  target : Shared Node

/-- What a session keeps. -/
structure Session where
  buses : Directory BusId
  tokens : Directory Token
  handles : Directory BindingHandle
  chains : Directory (Shared Node)
  members : Directory Member
  binders : Directory (EventBinder Node Action)
  /-- The binders of the classes, whose targets all are nodes. -/
  shared : SharedBinders (fun _ : String => Node) Action
  /-- For every target ever made, the bus that it holds. -/
  held : List (Option BusId)
  scripts : List PlayedScript
  calls : List Call
  /-- The number of requests that handlers made. -/
  nested : Nat

/-- A session with the buses that it plays on. -/
abbrev World := Session × System (Callback Action)

namespace Session

/-- A session without names, in which the shared binders were requested once. -/
def new (fx : Fixtures) : Session :=
  { buses := .empty, tokens := .empty, handles := .empty, chains := .empty, members := .empty
    binders := .empty, shared := .warmed fx.models, held := [], scripts := [], calls := []
    nested := 0 }

/-- Notes a call. -/
def note (s : Session) (c : Call) : Session := { s with calls := s.calls ++ [c] }

/-- Makes a new target around a node. -/
def share (s : Session) (n : Node) : Session × Shared Node :=
  ({ s with held := s.held ++ [n.bus] }, ⟨s.held.length, n⟩)

/-- Counts a run of a script. The requests that it makes in this run. -/
def runScript (s : Session) (id : ScriptId) : Session × List Op :=
  match s.scripts[id]? with
  | none => (s, [])
  | some script =>
    let runs := script.runs + 1
    ({ s with scripts := s.scripts.set id { script with runs } },
      if script.max.all (runs ≤ ·) then script.ops else [])

end Session

namespace World

/-- The world in which a session starts. -/
def new (fx : Fixtures) : World := (.new fx, .new fx.registry)

/-! ### What is alive -/

/-- The living callbacks, by bus and subscription: those filed and those that a
running publish still has to run. -/
def callbacks (w : World) : List (BusId × Subscription (Callback Action)) :=
  let filed := w.2.buses.zipIdx.flatMap fun (b, id) =>
    match b with
    | some b => b.table.all.map (id, ·)
    | none => []
  let running := w.2.running.flatMap fun d => d.snapshot.map (d.bus, ·)
  filed ++ running

/-- How many living callbacks hold a target. A callback that is both filed and
running is one. -/
def holders (w : World) (t : TargetId) : Nat :=
  let holding := w.callbacks.filter fun c => c.2.callback.holds = some t
  (holding.map fun c => (c.1, c.2.id)).eraseDups.length

/-- The living targets. -/
def targets (w : World) : List TargetId :=
  w.1.chains.values.map (·.id) ++ w.1.members.values.map (·.target.id) ++
    w.callbacks.filterMap (·.2.callback.holds)

/-- The buses that something living holds. -/
def heldBuses (w : World) : List BusId :=
  w.1.buses.values ++ w.2.running.map (·.bus) ++
    w.targets.filterMap fun t => (w.1.held[t]?).join

/-- Drops the buses that nothing holds. -/
def sweepOnce (w : World) : World :=
  let held := w.heldBuses
  let dead := (List.range w.2.buses.length).filter fun id => id ∉ held
  (w.1, dead.foldl System.dropBus w.2)

/-- Drops buses until something living holds each of the rest. Every round but
the last drops one. -/
def sweepFor : Nat → World → World
  | 0, w => w
  | n + 1, w => sweepFor n w.sweepOnce

/-- Drops every bus that is no longer alive. -/
def sweep (w : World) : World :=
  sweepFor w.2.buses.length w

end World

end EventWiring.Scenario
