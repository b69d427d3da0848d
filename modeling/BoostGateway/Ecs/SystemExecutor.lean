import Mathlib.Data.List.Forall2
import Mathlib.Logic.Function.Basic

/-!
# The system executor

`ParallelSystemExecutor` groups the systems of a world into stages by their declared
dependencies (`build_stages`) and runs a stage at once. A run here gives every stage an
order : `InAnyOrder` are the orders in which the systems of the stages may take their turns.
They are told apart from the order in which the systems were registered (`StagesCommute`).
-/

namespace BoostGateway.Ecs

/-- A system and what it depends on. -/
structure SystemMetadata where
  name : String
  dependencies : List String := []

/-- A system on worlds of type `σ`, for a frame of type `κ`. -/
structure SystemEntry (σ κ : Type) where
  run : σ → κ → σ
  metadata : SystemMetadata

variable {σ κ : Type}

/-- Of several systems of one name the last is meant. -/
def systemIndex (systems : List SystemMetadata) (name : String) : Option ℕ :=
  if name = "" then none
  else ((systems.zipIdx.filter (·.1.name = name)).getLast?).map Prod.snd

/-- The systems that a system waits for. Names that no system has are ignored. -/
def dependencyIndices (systems : List SystemMetadata) (metadata : SystemMetadata) : List ℕ :=
  metadata.dependencies.filterMap (systemIndex systems)

def dependents (systems : List SystemMetadata) (i : ℕ) : List ℕ :=
  systems.zipIdx.flatMap fun (metadata, j) =>
    ((dependencyIndices systems metadata).filter (· = i)).map fun _ => j

/-- The degrees after the edges to `dependents` are removed, and who is ready now. -/
def removeEdges (inDegree : ℕ → ℕ) : List ℕ → (ℕ → ℕ) × List ℕ
  | [] => (inDegree, [])
  | i :: dependents =>
    let inDegree := Function.update inDegree i (inDegree i - 1)
    let (inDegree', ready) := removeEdges inDegree dependents
    (inDegree', if inDegree i = 0 then i :: ready else ready)

/-- The stages from the systems that are ready. A stage has a system, so there are at most
as many stages as systems. -/
def stagesFrom (systems : List SystemMetadata) : ℕ → List ℕ → (ℕ → ℕ) → List (List ℕ) × (ℕ → ℕ)
  | 0, _, inDegree => ([], inDegree)
  | n + 1, ready, inDegree =>
    if ready = [] then ([], inDegree)
    else
      let (inDegree, next) := removeEdges inDegree (ready.flatMap (dependents systems))
      let (stages, inDegree) := stagesFrom systems n next inDegree
      (ready :: stages, inDegree)

/-- `ParallelSystemExecutor::build_stages`. Systems on a cycle come last. -/
def buildStages (systems : List SystemMetadata) : List (List ℕ) :=
  let n := systems.length
  let inDegree (i : ℕ) : ℕ := ((systems[i]?).map fun metadata =>
    (dependencyIndices systems metadata).length).getD 0
  let (stages, inDegree) :=
    stagesFrom systems n ((List.range n).filter (inDegree · = 0)) inDegree
  let fallback := (List.range n).filter (0 < inDegree ·)
  if stages.flatten.length = n ∨ fallback = [] then stages else stages ++ [fallback]

/-- The systems of the list take their turns. -/
def runSystems (entries : List (SystemEntry σ κ)) (ctx : κ) (s : σ) (indices : List ℕ) : σ :=
  indices.foldl (fun s i => match entries[i]? with
    | some entry => entry.run s ctx
    | none => s) s

def runStages (entries : List (SystemEntry σ κ)) (ctx : κ) (s : σ) (stages : List (List ℕ)) : σ :=
  stages.foldl (runSystems entries ctx) s

def stagesOf (entries : List (SystemEntry σ κ)) : List (List ℕ) :=
  buildStages (entries.map (·.metadata))

/-- `SequentialSystemExecutor::execute_all`. -/
def executeSequentially (entries : List (SystemEntry σ κ)) (ctx : κ) (s : σ) : σ :=
  runSystems entries ctx s (List.range entries.length)

/-- The orders in which the systems of the stages may take their turns, when
`ParallelSystemExecutor::execute_all` runs a stage at once. -/
abbrev InAnyOrder (entries : List (SystemEntry σ κ)) (stages : List (List ℕ)) : Prop :=
  List.Forall₂ List.Perm stages (stagesOf entries)

/-- The systems of a stage may run in any order on a world : it comes to what they do in the
order in which they were registered. -/
def StagesCommute (entries : List (SystemEntry σ κ)) (ctx : κ) (s : σ) : Prop :=
  ∀ stages, InAnyOrder entries stages →
    runStages entries ctx s stages = executeSequentially entries ctx s

end BoostGateway.Ecs
