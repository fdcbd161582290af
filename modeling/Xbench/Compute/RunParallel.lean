import Xbench.Events

/-!
# Running a Routine for Every Instance

`run_parallel` submits a routine to a thread pool, once for each instance, and
collects the futures as they complete. How the routine is called depends on
what the instance is: a dictionary is spread into keyword arguments, a `Node`
is passed alone, and anything else is passed with the extra arguments.

The extra arguments reach only the last case. For a `Node` they are dropped,
and a routine whose parameter has a default runs with the default.
`dispatch_node` is that fact, and it is the whole reason the call is a datum
here and not a closure.

## Main definitions

* `Item`: What an instance may be.
* `Call`: How the routine is called.
* `dispatch`: The call an instance gets.
* `runParallel`: Submitting and collecting.
* `runParallelReturning`: The same; it passes its extra arguments as two
  positional ones.

## Theorems

* `dispatch_node`: A node is passed without the extra arguments.
* `runParallel_nodes`: For nodes, the routine runs with its defaults.
* `runParallelReturning_dicts`: For dictionaries, the routine gets their entries.
-/

namespace Xbench

/-- What `isinstance` tells apart. -/
inductive Item (ω : Type) where
  | dict (params : Params)
  | node (n : Node)
  | other (x : ω)

/-- How the routine is called. -/
inductive Call (ω α : Type) where
  | keywords (params : Params)
  | bare (n : Node)
  | positional (x : ω) (args : List α)

variable {ω α β : Type}

/-- The call an instance gets. -/
def dispatch (args : List α) (kwargs : Params) : Item ω → Call ω α
  | .dict params => .keywords (params.union kwargs)
  | .node n => .bare n
  | .other x => .positional x args

/-- `run_parallel`. The results are in the order of completion. -/
def runParallel (σ : Schedule Event) (instances : List (Item ω)) (fn : Call ω α → Command β)
    (args : List α) (kwargs : Params) : Command (List β) :=
  parallel σ (instances.map (fun i => fn (dispatch args kwargs i)))

/-- The extra arguments `run_parallel_returning` passes on: its own tuple and
    its own dictionary, as two positional ones. -/
inductive Packed (α : Type) where
  | args (l : List α)
  | kwargs (d : Params)

/-- `run_parallel_returning`. -/
def runParallelReturning (σ : Schedule Event) (instances : List (Item ω))
    (fn : Call ω (Packed α) → Command β) (args : List α) (kwargs : Params) : Command (List β) :=
  runParallel σ instances fn [.args args, .kwargs kwargs] Dict.empty

theorem dispatch_node (args : List α) (kwargs : Params) (n : Node) :
    (dispatch args kwargs (.node n) : Call ω α) = .bare n := rfl

theorem runParallel_nodes (σ : Schedule Event) (nodes : List Node) (fn : Call ω α → Command β)
    (args : List α) (kwargs : Params) :
    runParallel σ (nodes.map Item.node) fn args kwargs
      = parallel σ (nodes.map (fun n => fn (.bare n))) := by
  rw [runParallel, List.map_map]
  rfl

theorem runParallelReturning_nodes (σ : Schedule Event) (nodes : List Node)
    (fn : Call ω (Packed α) → Command β) (args : List α) (kwargs : Params) :
    runParallelReturning σ (nodes.map Item.node) fn args kwargs
      = parallel σ (nodes.map (fun n => fn (.bare n))) :=
  runParallel_nodes σ nodes fn _ _

theorem runParallelReturning_dicts (σ : Schedule Event) (dicts : List Params)
    (fn : Call ω (Packed α) → Command β) (args : List α) (kwargs : Params) :
    runParallelReturning σ (dicts.map Item.dict) fn args kwargs
      = parallel σ (dicts.map (fun d => fn (.keywords d))) := by
  rw [runParallelReturning, runParallel, List.map_map]
  congr 1

end Xbench
