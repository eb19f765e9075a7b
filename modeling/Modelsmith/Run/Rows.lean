import Modelsmith.Config.Basic
import Modelsmith.Prediction
import Modelsmith.Shell.Basic

/-! Rows of a batch, each run until its command succeeds or its attempts are used up. -/

set_option autoImplicit false

namespace Modelsmith

structure World (State : Type) where
  files : Files
  shell : State

namespace Run

variable {State : Type}

def ask (shell : Shell State) (world : World State) (command : String) :
    Answer × World State :=
  let (answer, state, files) := shell.run world.shell world.files command
  (answer, ⟨files, state⟩)

def complaint : Answer → String
  | .ok output => output.both
  | .error reason => "cannot launch: " ++ reason

/-- Asks up to `left` more times. `budget` is what the failure reports, `last` the complaint
about the attempt before. -/
def attempt (shell : Shell State) (command : String) (budget : Nat) :
    (left : Nat) → (last : String) → World State → Except Failure Output × World State
  | 0, last, world => (.error (.execution command budget last), world)
  | left + 1, _, world =>
    match ask shell world command with
    | (.ok output, world) =>
      if output.success then (.ok output, world)
      else attempt shell command budget left (complaint (.ok output)) world
    | (.error reason, world) => attempt shell command budget left (complaint (.error reason)) world

def retry (shell : Shell State) (command : String) (attempts : Nat) (world : World State) :
    Except Failure Output × World State :=
  attempt shell command (max attempts 1) (max attempts 1) "" world

def rowCommand (command : String) (row : List Double) : String :=
  row.foldl (fun text value => text ++ " " ++ String.ofList (Double.Layout.exact.render value))
    command

def row (shell : Shell State) (options : Options) (command : String) (features : List Double)
    (world : World State) : Except Failure (Option Prediction) × World State :=
  let full := rowCommand command features
  match retry shell full options.retryAttempts world with
  | (.error failure, world) => (.error failure, world)
  | (.ok output, world) => (Prediction.parse full output.stdout options.strictOutput, world)

abbrev Task := List Double × Nat

abbrev Outcome := Except Failure (Option Prediction)

def tasks (batch : List (List Double)) : List Task := batch.zipIdx

/-- Runs rows in the order in which they are taken up, whether or not those before them failed.
Every outcome keeps the number of its row. -/
def outcomes (shell : Shell State) (options : Options) (command : String) :
    List Task → World State → List (Nat × Outcome) × World State
  | [], world => ([], world)
  | (features, index) :: rest, world =>
    let (outcome, world) := row shell options command features world
    let (later, world) := outcomes shell options command rest world
    ((index, outcome) :: later, world)

/-- Puts every result into the slot with the number of its row. The first failure decides. -/
def fillSlots {α : Type} (slots : List α) :
    List (Nat × Except Failure α) → Except Failure (List α)
  | [] => .ok slots
  | (_, .error failure) :: _ => .error failure
  | (index, .ok value) :: rest => fillSlots (slots.set index value) rest

def settle {α : Type} (count : Nat) (outcomes : List (Nat × Except Failure (Option α))) :
    Except Failure (List (Option α)) :=
  fillSlots (List.replicate count none) outcomes

def rows (shell : Shell State) (options : Options) (command : String)
    (batch : List (List Double)) (world : World State) :
    Except Failure (List (Option Prediction)) × World State :=
  let (outcomes, world) := outcomes shell options command (tasks batch) world
  (settle batch.length outcomes, world)

end Run

end Modelsmith
