import EventWiring.Scenario.Fixture
import EventWiring.Scenario.Op

/-! Models from their descriptions. Every step that makes a handler runnable
gives it a script of its own, which counts its own runs. -/
namespace EventWiring.Scenario

/-- A script of a session, with the number of times it was run. -/
structure PlayedScript where
  ops : List Op
  max : Option Nat
  runs : Nat

/-- Building a model adds scripts to those of the session. -/
abbrev Building := StateT (List PlayedScript) (Except Fault)

/-- Adds a script. -/
def addScript (s : Script Op) : Building ScriptId := do
  let scripts ← get
  set (scripts ++ [⟨s.ops, s.max, 0⟩])
  pure scripts.length

/-- An entry of an event list. -/
def RefSpec.build (fx : Fixtures) : RefSpec → Building EventRef
  | .type key => do pure (.type (← fx.type key))
  | .named name => pure (.named name)

/-- One step in building a declaration. -/
def StepSpec.build (fx : Fixtures) (tag : String) (script : Script Op) :
    StepSpec → Building (MethodDecl.Step Node Action)
  | .event key => do
    pure (.param (.event (← fx.typeOr "type " key)))
  | .foreign key => do
    pure (.param (.foreign (← named "type " fx.foreign key)))
  | .annotated refs => do
    pure (.annotated ⟨← refs.mapM (RefSpec.build fx)⟩)
  | .handlesEvent key => do
    let type ← fx.typeOr "type " key
    let id ← addScript script
    pure (.handlesEvent type fun node e => .play node.label tag id (some e))
  | .handlesNone => do
    let id ← addScript script
    pure (.handlesNone fun node => .play node.label tag id none)
  | .invoker => do
    let id ← addScript script
    pure (.withInvoker fun node e => some (.play node.label tag id (some e)))
  | .unknown => throw (.badInput "build")

/-- A declared method. Its handlers are tagged with its name unless the script
has a tag. -/
def MethodSpec.build (fx : Fixtures) (m : MethodSpec Op) :
    Building (MethodDecl Node Action) := do
  let name ← required "name" m.name
  let steps ← required "build" m.steps
  let tag := m.script.tag.getD name
  pure (.build name (← steps.mapM (StepSpec.build fx tag m.script)))

mutual

/-- A model. -/
def ModelSpec.build (fx : Fixtures) : ModelSpec Op → Building (TypeModel Node Action)
  | .mk name methods extended => do
    let name ← required "name" name
    let declared ← methods.mapM (MethodSpec.build fx)
    ModelSpec.extend fx (declared.foldl TypeModel.method (.new name)) extended

/-- A model that extends others, each through the embedded node. -/
def ModelSpec.extend (fx : Fixtures) (m : TypeModel Node Action) :
    List (ModelSpec Op) → Building (TypeModel Node Action)
  | [] => pure m
  | p :: rest => do
    let parent ← ModelSpec.build fx p
    ModelSpec.extend fx (m.extending parent Node.base) rest

end

end EventWiring.Scenario
