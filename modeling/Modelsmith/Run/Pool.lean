import Modelsmith.Run.Rows

/-! Rows shared out among workers. Each worker takes up a row, asks the shell until the row has an
outcome, and hands that in; who moves next is told by turns. -/

set_option autoImplicit false

namespace Modelsmith.Run

variable {State : Type}

/-- What an attempt comes to when it is the last one. -/
def verdict (command : String) (budget : Nat) : Answer → Except Failure Output
  | .ok output =>
    if output.success then .ok output else .error (.execution command budget (complaint (.ok output)))
  | .error reason => .error (.execution command budget (complaint (.error reason)))

def budget (options : Options) : Nat := max options.retryAttempts 1

inductive Worker where
  | idle
  /-- The row was taken up and may be asked for `left` more times. -/
  | asking (task : Task) (left : Nat)
  | holding (index : Nat) (outcome : Outcome)

/-- Rows that nobody has taken up, the workers, and the outcomes in the order in which they came. -/
structure Pool (State : Type) where
  pending : List Task
  workers : List Worker
  finished : List (Nat × Outcome)
  world : World State

/-- How many workers a batch gets: those asked for, or one for each processor, but no more than there
are rows. -/
def workerCount (options : Options) (processors rows : Nat) : Nat :=
  min (max (options.workers.getD processors) 1) (max rows 1)

namespace Worker

def answered (options : Options) (command : String) (task : Task) (left : Nat)
    (answer : Answer) : Worker :=
  let full := rowCommand command task.1
  match verdict full (budget options) answer with
  | .ok output => .holding task.2 (Prediction.parse full output.stdout options.strictOutput)
  | .error failure => if left ≤ 1 then .holding task.2 (.error failure) else .asking task (left - 1)

def remaining : Worker → Nat
  | .idle => 0
  | .asking _ left => max left 1 + 1
  | .holding _ _ => 1

def canMove (pending : List Task) : Worker → Bool
  | .idle => !pending.isEmpty
  | .asking _ _ | .holding _ _ => true

end Worker

/-- Which worker moves at each step, and which row it takes up if it is idle. Both are counted
around. -/
abbrev Turns := Nat → Nat × Nat

namespace Pool

def start (workers : Nat) (batch : List (List Double)) (world : World State) : Pool State :=
  ⟨tasks batch, List.replicate workers .idle, [], world⟩

/-- An upper bound for the steps that are left. -/
def remaining (options : Options) (pool : Pool State) : Nat :=
  pool.pending.length * (budget options + 2) + (pool.workers.map Worker.remaining).sum

def movable (pool : Pool State) : List (Worker × Nat) :=
  pool.workers.zipIdx.filter fun (worker, _) => worker.canMove pool.pending

def place (pool : Pool State) (position : Nat) (worker : Worker) : Pool State :=
  { pool with workers := pool.workers.set position worker }

/-- A step of the worker at a position. An idle one takes up the row that is its choice. -/
def step (shell : Shell State) (options : Options) (command : String) (choice : Nat)
    (pool : Pool State) (position : Nat) : Worker → Pool State
  | .idle =>
    let chosen := choice % pool.pending.length
    match pool.pending[chosen]? with
    | none => pool
    | some task =>
      { pool.place position (.asking task (budget options)) with
        pending := pool.pending.eraseIdx chosen }
  | .asking task left =>
    let (answer, world) := ask shell pool.world (rowCommand command task.1)
    { pool.place position (.answered options command task left answer) with world }
  | .holding index outcome =>
    { pool.place position .idle with finished := pool.finished ++ [(index, outcome)] }

/-- None when nothing is left to do. -/
def next? (shell : Shell State) (options : Options) (command : String) (turn : Nat × Nat)
    (pool : Pool State) : Option (Pool State) :=
  match pool.movable[turn.1 % pool.movable.length]? with
  | none => none
  | some (worker, position) => some (pool.step shell options command turn.2 position worker)

def drain (shell : Shell State) (options : Options) (command : String) (turns : Turns) :
    (fuel time : Nat) → Pool State → Pool State
  | 0, _, pool => pool
  | fuel + 1, time, pool =>
    match pool.next? shell options command (turns time) with
    | none => pool
    | some next => drain shell options command turns fuel (time + 1) next

/-- The outcomes in the order of their rows. -/
def handed (pool : Pool State) : List (Nat × Outcome) :=
  pool.finished.mergeSort fun first second => decide (first.1 ≤ second.1)

end Pool

def pooledRows (shell : Shell State) (options : Options) (command : String) (turns : Turns)
    (workers : Nat) (batch : List (List Double)) (world : World State) :
    Except Failure (List (Option Prediction)) × World State :=
  let pool := Pool.start workers batch world
  let ended := pool.drain shell options command turns (pool.remaining options) 0
  (settle batch.length ended.handed, ended.world)

end Modelsmith.Run
