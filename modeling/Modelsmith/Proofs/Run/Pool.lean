import Modelsmith.Proofs.Run.Exchanges
import Mathlib.Logic.Relation

/-! Rows shared out among workers.

A pool moves by single steps of its workers: one takes up a row, asks the shell once, or hands in an
outcome. Rows are taken up in any order, and between two steps of one worker the others may do
anything. Every step keeps the outcomes that are due, so a pool that has come to its end has one
outcome for each row, and with a shell that goes by the text of a command it is the outcome that the
row has by itself.
-/

set_option autoImplicit false

namespace Modelsmith.Run

variable {State : Type}

/-- A row of a pool: nobody has taken it up, some worker asks for it, or it has an outcome. -/
inductive Job where
  | waiting (task : Task)
  | asking (task : Task) (left : Nat)
  | done (index : Nat) (outcome : Outcome)

def Job.index : Job → Nat
  | .waiting task | .asking task _ => task.2
  | .done index _ => index

/-- The outcome that a job has or will have, when rows have these outcomes. -/
def Job.due (done : Task → Nat × Outcome) : Job → Nat × Outcome
  | .waiting task | .asking task _ => done task
  | .done index outcome => (index, outcome)

def Worker.job? : Worker → Option Job
  | .idle => none
  | .asking task left => some (.asking task left)
  | .holding index outcome => some (.done index outcome)

namespace Pool

def Ended (pool : Pool State) : Prop := pool.pending = [] ∧ ∀ worker ∈ pool.workers, worker = .idle

/-- One step of one worker. Commands of several workers overlap, so the world after an answer may be
any. -/
inductive Moves (shell : Shell State) (options : Options) (command : String) :
    Pool State → Pool State → Prop where
  | pick (before after : List Task) {task : Task} (others rest : List Worker)
      {finished : List (Nat × Outcome)} {world : World State} :
      Moves shell options command
        ⟨before ++ task :: after, others ++ .idle :: rest, finished, world⟩
        ⟨before ++ after, others ++ .asking task (budget options) :: rest, finished, world⟩
  | ask {pending : List Task} {task : Task} {left : Nat} (others rest : List Worker)
      {finished : List (Nat × Outcome)} {world : World State} (later : World State) :
      Moves shell options command
        ⟨pending, others ++ .asking task left :: rest, finished, world⟩
        ⟨pending, others ++ Worker.answered options command task left
          (Run.ask shell world (rowCommand command task.1)).1 :: rest, finished, later⟩
  | deliver {pending : List Task} {index : Nat} {outcome : Outcome} (others rest : List Worker)
      {finished : List (Nat × Outcome)} {world : World State} :
      Moves shell options command
        ⟨pending, others ++ .holding index outcome :: rest, finished, world⟩
        ⟨pending, others ++ .idle :: rest, finished ++ [(index, outcome)], world⟩

/-- One step of one worker, with what is asked in it and for which row, when nothing else changes the
world. -/
inductive Goes (shell : Shell State) (options : Options) (command : String) :
    Pool State → List (Nat × Exchange) → Pool State → Prop where
  | pick (before after : List Task) {task : Task} (others rest : List Worker)
      {finished : List (Nat × Outcome)} {world : World State} :
      Goes shell options command
        ⟨before ++ task :: after, others ++ .idle :: rest, finished, world⟩ []
        ⟨before ++ after, others ++ .asking task (budget options) :: rest, finished, world⟩
  | ask {pending : List Task} {task : Task} {left : Nat} (others rest : List Worker)
      {finished : List (Nat × Outcome)} {world : World State} :
      Goes shell options command
        ⟨pending, others ++ .asking task left :: rest, finished, world⟩
        [(task.2, rowCommand command task.1,
          (Run.ask shell world (rowCommand command task.1)).1)]
        ⟨pending, others ++ Worker.answered options command task left
          (Run.ask shell world (rowCommand command task.1)).1 :: rest, finished,
          (Run.ask shell world (rowCommand command task.1)).2⟩
  | deliver {pending : List Task} {index : Nat} {outcome : Outcome} (others rest : List Worker)
      {finished : List (Nat × Outcome)} {world : World State} :
      Goes shell options command
        ⟨pending, others ++ .holding index outcome :: rest, finished, world⟩ []
        ⟨pending, others ++ .idle :: rest, finished ++ [(index, outcome)], world⟩

abbrev Reaches (shell : Shell State) (options : Options) (command : String) :
    Pool State → Pool State → Prop :=
  Relation.ReflTransGen (Moves shell options command)

end Pool

/-- The results of a batch: from the rows one after the other, or from the outcomes of a pool, which
come back in the order of the rows. -/
inductive Returns (shell : Shell State) (options : Options) (command : String) (processors : Nat)
    (batch : List (List Double)) (world : World State) :
    Except Failure (List (Option Prediction)) → Prop where
  | inTurn : Returns shell options command processors batch world
      (rows shell options command batch world).1
  | pooled {pool : Pool State} {handed : List (Nat × Outcome)}
      (several : 1 < workerCount options processors batch.length)
      (reached : Pool.Reaches shell options command
        (Pool.start (workerCount options processors batch.length) batch world) pool)
      (ended : pool.Ended) (all : handed.Perm pool.finished)
      (ordered : handed.map Prod.fst = List.range batch.length) :
      Returns shell options command processors batch world (settle batch.length handed)

namespace Pool

variable {shell : Shell State} {options : Options} {command : String}

/-! ## Every pool comes to its end -/

theorem remaining_answered (options : Options) (command : String) (task : Task) (left : Nat)
    (answer : Answer) :
    Worker.remaining (Worker.answered options command task left answer) < max left 1 + 1 := by
  unfold Worker.answered
  dsimp only
  split
  · simp only [Worker.remaining]
    omega
  · split
    · simp only [Worker.remaining]
      omega
    · simp only [Worker.remaining]
      omega

theorem Moves.remaining_lt {pool next : Pool State} (moves : Moves shell options command pool next) :
    next.remaining options < pool.remaining options := by
  cases moves with
  | pick =>
    have positive := budget_pos options
    simp only [remaining, List.length_append, List.length_cons, List.map_append, List.map_cons,
      List.sum_append, List.sum_cons, Worker.remaining, Nat.add_mul, Nat.one_mul]
    omega
  | @ask pending task left others rest finished world later =>
    have fewer := remaining_answered options command task left
      (Run.ask shell world (rowCommand command task.1)).1
    simp only [remaining, List.map_append, List.map_cons, List.sum_append, List.sum_cons]
    simp only [Worker.remaining] at fewer ⊢
    omega
  | deliver =>
    simp only [remaining, List.map_append, List.map_cons, List.sum_append, List.sum_cons,
      Worker.remaining]
    omega

theorem not_forever (trace : Nat → Pool State) :
    ¬ ∀ time, Moves shell options command (trace time) (trace (time + 1)) := by
  intro moves
  have falls : ∀ time, (trace time).remaining options + time ≤ (trace 0).remaining options := by
    intro time
    induction time with
    | zero => exact Nat.le_refl _
    | succ time ih =>
      have := (moves time).remaining_lt
      omega
  have := falls ((trace 0).remaining options + 1)
  omega

theorem Moves.workers_length {pool next : Pool State}
    (moves : Moves shell options command pool next) :
    next.workers.length = pool.workers.length := by
  cases moves <;> simp

theorem Reaches.workers_length {pool final : Pool State}
    (reached : Reaches shell options command pool final) :
    final.workers.length = pool.workers.length := by
  induction reached with
  | refl => rfl
  | tail _ moves ih => exact moves.workers_length.trans ih

theorem exists_moves {pool : Pool State} (staffed : pool.workers ≠ []) (going : ¬ pool.Ended) :
    ∃ next, Moves shell options command pool next := by
  obtain ⟨pending, workers, finished, world⟩ := pool
  by_cases resting : ∀ worker ∈ workers, worker = .idle
  · have waiting : pending ≠ [] := fun none => going ⟨none, resting⟩
    obtain ⟨task, rest, rfl⟩ := List.exists_cons_of_ne_nil waiting
    obtain ⟨worker, others, rfl⟩ := List.exists_cons_of_ne_nil staffed
    obtain rfl := resting worker List.mem_cons_self
    exact ⟨_, .pick [] _ [] _⟩
  · simp only [Classical.not_forall] at resting
    obtain ⟨worker, member, busy⟩ := resting
    obtain ⟨others, rest, rfl⟩ := List.append_of_mem member
    cases worker with
    | idle => exact absurd rfl busy
    | asking task left => exact ⟨_, .ask others rest world⟩
    | holding index outcome => exact ⟨_, .deliver others rest⟩

/-! ## Rows in turn -/

theorem asks {task : Task} {left : Nat} {pending : List Task} {finished : List (Nat × Outcome)}
    {world later : World State} {worker : Worker}
    (answered : Worker.answered options command task left
      (Run.ask shell world (rowCommand command task.1)).1 = worker) :
    Moves shell options command ⟨pending, [.asking task left], finished, world⟩
      ⟨pending, [worker], finished, later⟩ := by
  subst answered
  exact .ask [] [] later

theorem reaches_attempt (task : Task) (left : Nat) (last : String) (pending : List Task)
    (finished : List (Nat × Outcome)) (world : World State) :
    let attempts := attempt shell (rowCommand command task.1) (budget options) (left + 1) last world
    Reaches shell options command ⟨pending, [.asking task (left + 1)], finished, world⟩
      ⟨pending, [.holding task.2 (attempts.1 >>= fun output =>
        Prediction.parse (rowCommand command task.1) output.stdout options.strictOutput)],
        finished, attempts.2⟩ := by
  induction left generalizing last world with
  | zero =>
    rw [attempt_succ]
    cases judged : verdict (rowCommand command task.1) (budget options)
        (Run.ask shell world (rowCommand command task.1)).1 with
    | ok output =>
      refine .single (asks ?_)
      rw [Worker.answered, judged]
      rfl
    | error failure =>
      refine .single (asks ?_)
      rw [Worker.answered, judged]
      rfl
  | succ left ih =>
    rw [attempt_succ]
    cases judged : verdict (rowCommand command task.1) (budget options)
        (Run.ask shell world (rowCommand command task.1)).1 with
    | ok output =>
      refine .single (asks ?_)
      rw [Worker.answered, judged]
      rfl
    | error failure =>
      refine .head (asks ?_) (ih "" (Run.ask shell world (rowCommand command task.1)).2)
      rw [Worker.answered, judged]
      rfl

theorem reaches_outcomes (batch : List Task) (finished : List (Nat × Outcome))
    (world : World State) :
    Reaches shell options command ⟨batch, [.idle], finished, world⟩
      ⟨[], [.idle], finished ++ (outcomes shell options command batch world).1,
        (outcomes shell options command batch world).2⟩ := by
  induction batch generalizing finished world with
  | nil =>
    rw [outcomes, List.append_nil]
  | cons task rest ih =>
    obtain ⟨features, index⟩ := task
    obtain ⟨left, enough⟩ := Nat.exists_eq_add_one.mpr (budget_pos options)
    have picked : Moves shell options command ⟨(features, index) :: rest, [.idle], finished, world⟩
        ⟨rest, [.asking (features, index) (budget options)], finished, world⟩ :=
      .pick [] rest [] []
    have attempted : Reaches shell options command _ _ :=
      reaches_attempt (features, index) left "" rest finished world
    have asRow := row_eq_attempt shell options command features world
    rw [← enough] at attempted
    have delivered : Moves shell options command
        ⟨rest, [.holding index (row shell options command features world).1], finished,
          (row shell options command features world).2⟩
        ⟨rest, [.idle], finished ++ [(index, (row shell options command features world).1)],
          (row shell options command features world).2⟩ :=
      .deliver [] []
    have later := ih (finished ++ [(index, (row shell options command features world).1)])
      (row shell options command features world).2
    rw [List.append_assoc] at later
    refine .head picked (.trans ?_ (.head delivered later))
    rw [asRow]
    exact attempted

/-! ## What is due -/

def jobs (pool : Pool State) : List Job :=
  pool.pending.map .waiting ++ pool.workers.filterMap Worker.job? ++
    pool.finished.map fun entry => .done entry.1 entry.2

theorem jobs_waiting (before after : List Task) (task : Task) (workers : List Worker)
    (finished : List (Nat × Outcome)) (world : World State) :
    (jobs ⟨before ++ task :: after, workers, finished, world⟩).Perm
      (.waiting task :: jobs ⟨before ++ after, workers, finished, world⟩) := by
  simp only [jobs, List.map_append, List.map_cons, List.append_assoc, List.cons_append]
  exact List.perm_middle

theorem jobs_worker {worker : Worker} {job : Job} (working : worker.job? = some job)
    (pending : List Task) (others rest : List Worker) (finished : List (Nat × Outcome))
    (world : World State) :
    (jobs ⟨pending, others ++ worker :: rest, finished, world⟩).Perm
      (job :: jobs ⟨pending, others ++ .idle :: rest, finished, world⟩) := by
  have resting : Worker.job? .idle = none := rfl
  simp only [jobs, List.filterMap_append, List.filterMap_cons, working, resting, List.append_assoc,
    List.cons_append]
  rw [← List.append_assoc, ← List.append_assoc]
  exact List.perm_middle

theorem jobs_finished (pending : List Task) (workers : List Worker)
    (finished : List (Nat × Outcome)) (index : Nat) (outcome : Outcome) (world : World State) :
    (jobs ⟨pending, workers, finished ++ [(index, outcome)], world⟩).Perm
      (.done index outcome :: jobs ⟨pending, workers, finished, world⟩) := by
  simp only [jobs, List.map_append, List.map_cons, List.map_nil]
  rw [← List.append_assoc]
  exact List.perm_append_singleton ..

theorem jobs_start (workers : Nat) (batch : List (List Double)) (world : World State) :
    (start workers batch world).jobs = (tasks batch).map .waiting := by
  have resting : (List.replicate workers Worker.idle).filterMap Worker.job? = [] := by
    rw [List.filterMap_eq_nil_iff]
    intro worker member
    rw [List.eq_of_mem_replicate member]
    rfl
  simp [jobs, start, resting]

theorem Ended.jobs_eq {pool : Pool State} (ended : pool.Ended) :
    pool.jobs = pool.finished.map fun entry => .done entry.1 entry.2 := by
  have resting : pool.workers.filterMap Worker.job? = [] := by
    rw [List.filterMap_eq_nil_iff]
    intro worker member
    rw [ended.2 worker member]
    rfl
  simp [jobs, ended.1, resting]

/-- How a job goes on. -/
inductive Advances (shell : Shell State) (options : Options) (command : String) :
    Job → List (Nat × Exchange) → Job → Prop where
  | pick {task : Task} :
      Advances shell options command (.waiting task) [] (.asking task (budget options))
  | ask {task : Task} {left : Nat} {later : Job} (world : World State)
      (answered : (Worker.answered options command task left
        (Run.ask shell world (rowCommand command task.1)).1).job? = some later) :
      Advances shell options command (.asking task left)
        [(task.2, rowCommand command task.1,
          (Run.ask shell world (rowCommand command task.1)).1)] later
  | deliver {index : Nat} {outcome : Outcome} :
      Advances shell options command (.done index outcome) [] (.done index outcome)

theorem exists_job_answered (options : Options) (command : String) (task : Task) (left : Nat)
    (answer : Answer) :
    ∃ job, (Worker.answered options command task left answer).job? = some job := by
  unfold Worker.answered
  dsimp only
  split
  · exact ⟨_, rfl⟩
  · split <;> exact ⟨_, rfl⟩

/-- A step changes one job. -/
theorem Goes.advances {pool next : Pool State} {heard : List (Nat × Exchange)}
    (goes : Goes shell options command pool heard next) :
    ∃ job later rest, Advances shell options command job heard later ∧
      pool.jobs.Perm (job :: rest) ∧ next.jobs.Perm (later :: rest) := by
  cases goes with
  | pick before after others rest =>
    exact ⟨_, _, _, .pick, jobs_waiting .., jobs_worker rfl ..⟩
  | @ask pending task left others rest finished world =>
    obtain ⟨later, answered⟩ := exists_job_answered options command task left
      (Run.ask shell world (rowCommand command task.1)).1
    exact ⟨_, later, _, .ask world answered, jobs_worker rfl .., jobs_worker answered ..⟩
  | deliver others rest =>
    exact ⟨_, _, _, .deliver, jobs_worker rfl .., jobs_finished ..⟩

theorem Moves.goes {pool next : Pool State} (moves : Moves shell options command pool next) :
    ∃ heard world, Goes shell options command pool heard { next with world } := by
  cases moves with
  | pick before after others rest => exact ⟨_, _, .pick before after others rest⟩
  | ask others rest later => exact ⟨_, _, .ask others rest⟩
  | deliver others rest => exact ⟨_, _, .deliver others rest⟩

theorem Goes.moves {pool next : Pool State} {heard : List (Nat × Exchange)}
    (goes : Goes shell options command pool heard next) :
    Moves shell options command pool next := by
  cases goes with
  | pick before after others rest => exact .pick before after others rest
  | ask others rest => exact .ask others rest _
  | deliver others rest => exact .deliver others rest

def ownOutcome (options : Options) (command : String) (answer : String → Answer) (task : Task) :
    Nat × Outcome :=
  (task.2, conclude options (rowCommand command task.1) (answer (rowCommand command task.1)))

theorem due_answered {options : Options} {command : String} {answer : String → Answer} {task : Task}
    {left : Nat} {later : Job}
    (answered : (Worker.answered options command task left
      (answer (rowCommand command task.1))).job? = some later) :
    later.due (ownOutcome options command answer) = ownOutcome options command answer task := by
  unfold Worker.answered at answered
  dsimp only at answered
  cases judged : verdict (rowCommand command task.1) (budget options)
      (answer (rowCommand command task.1)) with
  | ok output =>
    simp only [judged, Worker.job?, Option.some.injEq] at answered
    rw [← answered, Job.due, ownOutcome, conclude, judged]
    rfl
  | error failure =>
    simp only [judged] at answered
    split at answered
    · simp only [Worker.job?, Option.some.injEq] at answered
      rw [← answered, Job.due, ownOutcome, conclude, judged]
      rfl
    · simp only [Worker.job?, Option.some.injEq] at answered
      rw [← answered, Job.due]

variable {answer : String → Answer} (byText : AnswersBy shell answer)
include byText

theorem Advances.due_eq {job later : Job} {heard : List (Nat × Exchange)}
    (advances : Advances shell options command job heard later) :
    later.due (ownOutcome options command answer) = job.due (ownOutcome options command answer) := by
  cases advances with
  | pick => rfl
  | ask world answered =>
    rw [show (Run.ask shell world _).1 = _ from byText ..] at answered
    exact due_answered answered
  | deliver => rfl

theorem Moves.due_perm {pool next : Pool State} (moves : Moves shell options command pool next) :
    (next.jobs.map (Job.due (ownOutcome options command answer))).Perm
      (pool.jobs.map (Job.due (ownOutcome options command answer))) := by
  obtain ⟨heard, world, goes⟩ := moves.goes
  obtain ⟨job, later, rest, advances, before, after⟩ := goes.advances
  have same := (before.map (Job.due (ownOutcome options command answer))).symm
  rw [List.map_cons, ← advances.due_eq byText, ← List.map_cons] at same
  exact (after.map _).trans same

theorem Reaches.due_perm {pool final : Pool State}
    (reached : Reaches shell options command pool final) :
    (final.jobs.map (Job.due (ownOutcome options command answer))).Perm
      (pool.jobs.map (Job.due (ownOutcome options command answer))) := by
  induction reached with
  | refl => exact .refl _
  | tail _ moves ih => exact (moves.due_perm byText).trans ih

theorem finished_perm {workers : Nat} {batch : List (List Double)} {world : World State}
    {final : Pool State} (reached : Reaches shell options command (start workers batch world) final)
    (ended : final.Ended) :
    final.finished.Perm ((tasks batch).map (ownOutcome options command answer)) := by
  have perm := Reaches.due_perm byText reached
  rw [ended.jobs_eq, jobs_start, List.map_map, List.map_map] at perm
  simpa [Function.comp_def, Job.due] using perm

end Pool

/-! ## Results -/

section

variable {shell : Shell State} {options : Options} {command : String} {answer : String → Answer}
  {batch : List (List Double)}

theorem ownOutcome_keys : ((tasks batch).map (Pool.ownOutcome options command answer)).map Prod.fst =
    List.range batch.length := by
  rw [List.map_map, show Prod.fst ∘ Pool.ownOutcome options command answer = Prod.snd from rfl, tasks,
    List.zipIdx_map_snd, List.range_eq_range']

theorem mem_ownOutcomes {index : Nat} {outcome : Outcome} :
    (index, outcome) ∈ (tasks batch).map (Pool.ownOutcome options command answer) ↔
      ∃ features, batch[index]? = some features ∧
        conclude options (rowCommand command features) (answer (rowCommand command features)) =
          outcome := by
  simp only [List.mem_map, tasks, Prod.exists, List.mk_mem_zipIdx_iff_getElem?, Pool.ownOutcome,
    Prod.mk.injEq]
  constructor
  · rintro ⟨features, number, found, rfl, same⟩
    exact ⟨features, found, same⟩
  · rintro ⟨features, found, same⟩
    exact ⟨features, index, found, rfl, same⟩

theorem settle_of_ok {handed : List (Nat × Outcome)}
    (perm : handed.Perm ((tasks batch).map (Pool.ownOutcome options command answer)))
    (succeed : ∀ features ∈ batch, ∃ value, conclude options (rowCommand command features)
      (answer (rowCommand command features)) = .ok value) :
    ∃ slots : List (Option Prediction), settle batch.length handed = .ok slots ∧
      slots.map Except.ok = batch.map fun features =>
        conclude options (rowCommand command features) (answer (rowCommand command features)) := by
  have results : ∀ entry ∈ handed, ∃ value, entry.2 = .ok value := by
    rintro ⟨index, outcome⟩ member
    obtain ⟨features, found, rfl⟩ := mem_ownOutcomes.mp (perm.mem_iff.mp member)
    exact succeed features (List.mem_of_getElem? found)
  have distinct : (handed.map Prod.fst).Nodup := by
    rw [(perm.map Prod.fst).nodup_iff, ownOutcome_keys]
    exact List.nodup_range
  obtain ⟨slots, filling, length, inside, -⟩ :=
    fillSlots_of_ok (List.replicate batch.length none) results distinct
  rw [List.length_replicate] at length inside
  refine ⟨slots, filling, List.ext_getElem (by simp [length]) ?_⟩
  intro index _ bounded
  rw [List.length_map] at bounded
  have found : batch[index]? = some batch[index] := List.getElem?_eq_getElem bounded
  obtain ⟨value, own⟩ := succeed batch[index] (List.getElem_mem bounded)
  have member := perm.mem_iff.mpr (mem_ownOutcomes.mpr ⟨_, found, own⟩)
  have stands := inside index value member bounded
  rw [List.getElem?_eq_getElem (length ▸ bounded), Option.some.injEq] at stands
  rw [List.getElem_map, List.getElem_map, stands, own]

theorem settle_of_failure (index : Nat) {features : List Double} {failure : Failure}
    (found : batch[index]? = some features)
    (fails : conclude options (rowCommand command features)
      (answer (rowCommand command features)) = .error failure)
    (first : ∀ earlier < index, ∀ others, batch[earlier]? = some others →
      ∃ value, conclude options (rowCommand command others)
        (answer (rowCommand command others)) = .ok value) :
    settle batch.length ((tasks batch).map (Pool.ownOutcome options command answer)) =
      .error failure := by
  obtain ⟨inside, rfl⟩ := List.getElem?_eq_some_iff.mp found
  have split : tasks batch = (tasks batch).take index ++ (batch[index], index) ::
      (tasks batch).drop (index + 1) := by
    have at_index : (tasks batch)[index]? = some (batch[index], index) := by
      simp [tasks, found]
    obtain ⟨bounded, same⟩ := List.getElem?_eq_some_iff.mp at_index
    rw [← same, ← List.drop_eq_getElem_cons bounded, List.take_append_drop]
  rw [split, List.map_append, List.map_cons,
    show Pool.ownOutcome options command answer (batch[index], index) = (index, .error failure) by
      rw [Pool.ownOutcome, fails]]
  apply fillSlots_of_error
  intro entry member
  obtain ⟨⟨others, number⟩, taken, rfl⟩ := List.mem_map.mp member
  obtain ⟨earlier, before, atEarlier⟩ := List.mem_take_iff_getElem.mp taken
  simp only [tasks, List.getElem_zipIdx, Nat.zero_add, Prod.mk.injEq] at atEarlier
  refine first earlier (by omega) others ?_
  rw [← atEarlier.1]
  exact List.getElem?_eq_getElem _

theorem workerCount_pos (options : Options) (processors rows : Nat) :
    0 < workerCount options processors rows := by
  unfold workerCount
  omega

variable (byText : AnswersBy shell answer)
include byText

theorem rows_eq (world : World State) : (rows shell options command batch world).1 =
    settle batch.length ((tasks batch).map (Pool.ownOutcome options command answer)) := by
  rw [show (tasks batch).map (Pool.ownOutcome options command answer) =
    (outcomes shell options command (tasks batch) world).1 from (outcomes_eq byText ..).symm]
  rfl

theorem eq_rows_of_returns {processors : Nat} {world : World State}
    {result : Except Failure (List (Option Prediction))}
    (returned : Returns shell options command processors batch world result) :
    result = (rows shell options command batch world).1 := by
  cases returned with
  | inTurn => rfl
  | @pooled pool handed several reached ended all ordered =>
    have perm := all.trans (Pool.finished_perm byText reached ended)
    have inOrder := eq_of_perm_of_keys perm (ordered.trans ownOutcome_keys.symm)
      (ordered ▸ List.nodup_range)
    rw [inOrder, rows_eq byText]

end

/-- Under a shell that goes by the text of a command, a pool gives the results of the rows in turn,
which is itself something that a pool of one worker can do. A pool comes to an end whatever its
workers do. When all rows succeed, each result stands in the slot of its row, in whatever order the
outcomes are; else the first row that fails decides. -/
theorem pool_returns_rows_in_turn {shell : Shell State} {answer : String → Answer}
    (byText : AnswersBy shell answer) (options : Options) (command : String) (processors : Nat)
    (batch : List (List Double)) (world : World State) :
    (∀ result, Returns shell options command processors batch world result ↔
      result = (rows shell options command batch world).1) ∧
    Pool.Reaches shell options command (Pool.start 1 batch world)
      ⟨[], [.idle], (outcomes shell options command (tasks batch) world).1,
        (outcomes shell options command (tasks batch) world).2⟩ ∧
    (∀ pool, Pool.Reaches shell options command
        (Pool.start (workerCount options processors batch.length) batch world) pool →
      (pool.Ended ∧ pool.finished.Perm (outcomes shell options command (tasks batch) world).1) ∨
        ∃ next, Pool.Moves shell options command pool next) ∧
    (∀ trace : Nat → Pool State,
      ¬ ∀ time, Pool.Moves shell options command (trace time) (trace (time + 1))) ∧
    ((∀ features ∈ batch, ∃ earlier value,
        (row shell options command features earlier).1 = .ok value) →
      (∀ handed, handed.Perm (outcomes shell options command (tasks batch) world).1 →
        settle batch.length handed = (rows shell options command batch world).1) ∧
      ∃ slots, (rows shell options command batch world).1 = .ok slots ∧
        slots.length = batch.length ∧
        ∀ (index : Nat) (features : List Double), batch[index]? = some features →
          ∃ value, slots[index]? = some value ∧
            ∀ earlier, (row shell options command features earlier).1 = .ok value) ∧
    ∀ (index : Nat) (features : List Double) (earlier : World State) (failure : Failure),
      batch[index]? = some features →
      (row shell options command features earlier).1 = .error failure →
      (∀ before < index, ∀ others, batch[before]? = some others →
        ∃ value, (row shell options command others earlier).1 = .ok value) →
      (rows shell options command batch world).1 = .error failure := by
  have inTurn : (outcomes shell options command (tasks batch) world).1 =
      (tasks batch).map (Pool.ownOutcome options command answer) := outcomes_eq byText ..
  refine ⟨?_, Pool.reaches_outcomes (tasks batch) [] world, ?_, Pool.not_forever, ?_, ?_⟩
  · intro result
    constructor
    · exact eq_rows_of_returns byText
    · rintro rfl
      exact .inTurn
  · intro pool reached
    by_cases ended : pool.Ended
    · exact .inl ⟨ended, inTurn ▸ Pool.finished_perm byText reached ended⟩
    · refine .inr (Pool.exists_moves ?_ ended)
      rw [← List.length_pos_iff, Pool.Reaches.workers_length reached, Pool.start,
        List.length_replicate]
      exact workerCount_pos ..
  · simp only [row_eq byText]
    intro succeed
    have succeedByText : ∀ features ∈ batch, ∃ value, conclude options
        (rowCommand command features) (answer (rowCommand command features)) = .ok value :=
      fun features member => (succeed features member).elim fun _ found => found
    obtain ⟨slots, filled, inside⟩ := settle_of_ok (.refl _) succeedByText
    rw [rows_eq byText, filled]
    refine ⟨?_, slots, rfl, by simpa using congrArg List.length inside, ?_⟩
    · intro handed perm
      obtain ⟨others, filledOthers, insideOthers⟩ := settle_of_ok (inTurn ▸ perm) succeedByText
      have same := (List.map_inj_right fun _ _ => Except.ok.inj).mp (insideOthers.trans inside.symm)
      rw [filledOthers, same]
    · intro index features found
      have stands := congrArg (·[index]?) inside
      simp only [List.getElem?_map, found, Option.map_some, Option.map_eq_some_iff] at stands
      obtain ⟨value, place, own⟩ := stands
      exact ⟨value, place, fun _ => own.symm⟩
  · simp only [row_eq byText]
    intro index features _ failure found fails first
    rw [rows_eq byText]
    exact settle_of_failure index found fails first

/-- A shell that counts its commands, prints a prediction, and fails on one row. -/
def counting : Shell Nat where
  run count files command := (.ok ⟨command != "predict 1.0", "[0]", ""⟩, count + 1, files)

theorem rowCommand_one : rowCommand "predict" [⟨false, 1023, 0⟩] = "predict 1.0" := by
  decide +kernel

theorem parse_lenient (command stdout : String) :
    ∃ value, Prediction.parse command stdout false = .ok value := by
  unfold Prediction.parse Prediction.parseBy
  split
  · exact ⟨_, rfl⟩
  · exact ⟨_, rfl⟩

theorem counting_byText : AnswersBy counting
    fun command => .ok ⟨command != "predict 1.0", "[0]", ""⟩ := fun _ _ _ => rfl

theorem rows_counting (world : World Nat) :
    (rows counting { retryAttempts := 2, workers := some 3 } "predict" [[], [⟨false, 1023, 0⟩], []]
      world).1 = .error (.execution "predict 1.0" 2 "[0]") := by
  rw [rows_eq counting_byText]
  refine settle_of_failure 1 rfl ?_ ?_
  · rw [rowCommand_one]
    rfl
  · intro before earlier others found
    obtain rfl : before = 0 := by omega
    obtain rfl := Option.some.inj found
    exact parse_lenient "predict" "[0]"

/-- Three workers, and the second of three rows fails at both attempts. -/
theorem pool_returns_rows_in_turn_counting :
    AnswersBy counting (fun command => .ok ⟨command != "predict 1.0", "[0]", ""⟩) ∧
    ∀ result, Returns counting { workers := some 3, retryAttempts := 2 } "predict" 8
        [[], [⟨false, 1023, 0⟩], []] ⟨⟨[], #[], [], 0o022, 0⟩, 0⟩ result ↔
      result = .error (.execution "predict 1.0" 2 "[0]") := by
  rw [← rows_counting]
  exact ⟨counting_byText, (pool_returns_rows_in_turn counting_byText ..).1⟩

end Modelsmith.Run
