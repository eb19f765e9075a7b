import Modelsmith.Proofs.Run.Pool
import Modelsmith.Run.Basic
import Mathlib.Data.List.Induction
import Mathlib.Data.List.Sort
import Mathlib.Tactic.Choose

/-! What a shell is asked by the workers of a pool.

The commands of several rows reach the shell mixed, as the turns of the workers have it. Each exchange
belongs to one row, and those of one row are its attempts in their order, as if it were run alone. So a
pool tries every row of its batch, whatever the turns are.
-/

set_option autoImplicit false

namespace Modelsmith.Run

variable {State : Type}

/-! ## The exchanges of one row -/

/-- The exchanges for one row, in the order in which they took place. -/
def own (index : Nat) (log : List (Nat × Exchange)) : List Exchange :=
  (log.filter (·.1 = index)).map Prod.snd

theorem own_append (index : Nat) (log more : List (Nat × Exchange)) :
    own index (log ++ more) = own index log ++ own index more := by
  simp [own]

theorem own_eq_all {index : Nat} {log : List (Nat × Exchange)}
    (all : ∀ entry ∈ log, entry.1 = index) : own index log = log.map Prod.snd := by
  rw [own, List.filter_eq_self.mpr]
  simpa using all

theorem own_eq_nil {index : Nat} {log : List (Nat × Exchange)}
    (others : ∀ entry ∈ log, entry.1 ≠ index) : own index log = [] := by
  rw [own, List.filter_eq_nil_iff.mpr, List.map_nil]
  simpa using others

/-- The exchanges of trials, mixed in some way: each belongs to one of the trials, and those of one
trial keep their order. -/
def Interleaves (command : String) (trials : List Trial) (heard : List Exchange) : Prop :=
  ∃ log : List (Nat × Exchange), log.map Prod.snd = heard ∧
    (∀ entry ∈ log, entry.1 < trials.length) ∧
    ∀ (index : Nat) (trial : Trial), trials[index]? = some trial →
      own index log = trial.exchanges command

namespace Interleaves

variable {command : String} {trials : List Trial} {heard : List Exchange}

theorem mem_iff (interleaves : Interleaves command trials heard) {exchange : Exchange} :
    exchange ∈ heard ↔ ∃ trial ∈ trials, exchange ∈ trial.exchanges command := by
  obtain ⟨log, rfl, bounded, owned⟩ := interleaves
  constructor
  · intro member
    obtain ⟨⟨index, _⟩, inside, rfl⟩ := List.mem_map.mp member
    have found := List.getElem?_eq_getElem (bounded _ inside)
    refine ⟨_, List.mem_of_getElem? found, ?_⟩
    rw [← owned index _ found]
    exact List.mem_map_of_mem (List.mem_filter.mpr ⟨inside, by simp⟩)
  · rintro ⟨trial, member, inside⟩
    obtain ⟨index, found⟩ := List.mem_iff_getElem?.mp member
    rw [← owned index trial found] at inside
    obtain ⟨entry, kept, rfl⟩ := List.mem_map.mp inside
    exact List.mem_map_of_mem (List.mem_filter.mp kept).1

/-- One trial after the other. -/
theorem inTurn (command : String) (trials : List Trial) :
    Interleaves command trials (trials.flatMap (Trial.exchanges command)) := by
  -- From the back, so that the trials keep their numbers.
  induction trials using List.reverseRecOn with
  | nil => exact ⟨[], rfl, by simp, by simp⟩
  | append_singleton trials last ih =>
    obtain ⟨log, logged, bounded, owned⟩ := ih
    have added : ∀ entry ∈ (last.exchanges command).map (trials.length, ·),
        entry.1 = trials.length := by
      intro entry member
      obtain ⟨exchange, -, rfl⟩ := List.mem_map.mp member
      rfl
    refine ⟨log ++ (last.exchanges command).map (trials.length, ·), ?_, ?_, ?_⟩
    · simp [logged, Function.comp_def]
    · intro entry member
      rw [List.length_append, List.length_singleton]
      rcases List.mem_append.mp member with before | new
      · exact Nat.lt_succ_of_lt (bounded entry before)
      · exact added entry new ▸ Nat.lt_succ_self _
    · intro index trial found
      rw [own_append]
      rcases Nat.lt_trichotomy index trials.length with before | rfl | after
      · rw [List.getElem?_append_left before] at found
        rw [owned index trial found, own_eq_nil fun entry new => (added entry new ▸ before.ne'),
          List.append_nil]
      · rw [List.getElem?_concat_length, Option.some.injEq] at found
        rw [own_eq_nil fun entry member => (bounded entry member).ne,
          own_eq_all added, found]
        simp [Function.comp_def]
      · rw [List.getElem?_eq_none (by simp; omega)] at found
        cases found

end Interleaves

/-! ## Jobs -/

/-- What has been asked for a job so far, and what that makes of it. -/
inductive Progress (options : Options) (command : String) (batch : List (List Double)) :
    Job → List Exchange → Prop where
  | waiting {features : List Double} {index : Nat} (found : batch[index]? = some features) :
      Progress options command batch (.waiting (features, index)) []
  | asking {features : List Double} {index left : Nat} (earlier : List Answer)
      (found : batch[index]? = some features)
      (failed : ∀ answer ∈ earlier, answer.succeeded = false) (more : 0 < left)
      (total : earlier.length + left = budget options) :
      Progress options command batch (.asking (features, index) left)
        (earlier.map (rowCommand command features, ·))
  | done {index : Nat} (trial : Trial) (found : batch[index]? = some trial.features)
      (within : trial.Within (budget options)) :
      Progress options command batch (.done index (trial.outcome options command))
        (trial.exchanges command)

variable {shell : Shell State} {options : Options} {command : String} {batch : List (List Double)}

theorem Progress.answered {features : List Double} {index left : Nat} {earlier : List Answer}
    (found : batch[index]? = some features)
    (failed : ∀ answer ∈ earlier, answer.succeeded = false)
    (total : earlier.length + left = budget options) (more : 0 < left) {answer : Answer} {later : Job}
    (answered : (Worker.answered options command (features, index) left answer).job? = some later) :
    Progress options command batch later
        ((earlier ++ [answer]).map (rowCommand command features, ·)) ∧ later.index = index := by
  -- A success ends the row, and so does the last attempt; the outcome goes by its answer.
  have ends (outcome : Outcome)
      (same : outcome = conclude options (rowCommand command features) answer)
      (ended : answer.succeeded = true ∨ earlier.length + 1 = budget options) :
      Progress options command batch (.done index outcome)
        ((earlier ++ [answer]).map (rowCommand command features, ·)) := by
    subst same
    exact .done ⟨features, earlier, answer⟩ found
      { failed, allowed := by change earlier.length < _; omega, ended }
  unfold Worker.answered at answered
  dsimp only at answered
  cases judged : verdict (rowCommand command features) (budget options) answer with
  | ok output =>
    simp only [judged, Worker.job?, Option.some.injEq] at answered
    subst answered
    refine ⟨ends _ ?_ (.inl ((verdict_isOk_iff ..).mp ⟨output, judged⟩)), rfl⟩
    rw [conclude, judged]
    rfl
  | error failure =>
    have fails : answer.succeeded = false := by
      refine Bool.eq_false_iff.mpr fun succeeded => ?_
      obtain ⟨output, other⟩ := (verdict_isOk_iff ..).mpr succeeded
      cases judged.symm.trans other
    simp only [judged] at answered
    split at answered
    · simp only [Worker.job?, Option.some.injEq] at answered
      subst answered
      refine ⟨ends _ ?_ (.inr (by omega)), rfl⟩
      rw [conclude, judged]
      rfl
    · simp only [Worker.job?, Option.some.injEq] at answered
      subst answered
      refine ⟨.asking _ found ?_ (by omega) (by simp; omega), rfl⟩
      exact List.forall_mem_append.mpr ⟨failed, by simpa using fails⟩

theorem Progress.advance {job later : Job} {heard : List Exchange} {more : List (Nat × Exchange)}
    (progress : Progress options command batch job heard)
    (advances : Pool.Advances shell options command job more later) :
    Progress options command batch later (heard ++ more.map Prod.snd) ∧ later.index = job.index ∧
      ∀ entry ∈ more, entry.1 = job.index := by
  cases advances with
  | pick =>
    cases progress with
    | waiting found =>
      refine ⟨?_, rfl, by simp⟩
      exact .asking [] found (by simp) (budget_pos options) (Nat.zero_add _)
  | ask world answered =>
    cases progress with
    | asking earlier found failed more total =>
      obtain ⟨next, same⟩ := Progress.answered found failed total more answered
      refine ⟨?_, same, by simp [Job.index]⟩
      simpa using next
  | deliver => exact ⟨by simpa using progress, rfl, by simp⟩

/-! ## A pool and what it has asked -/

/-- Every row of the batch is one job, and the log holds what was asked for it. -/
structure Logs (options : Options) (command : String) (batch : List (List Double))
    (pool : Pool State) (log : List (Nat × Exchange)) : Prop where
  rows : (pool.jobs.map Job.index).Perm (List.range batch.length)
  progress : ∀ job ∈ pool.jobs, Progress options command batch job (own job.index log)
  bounded : ∀ entry ∈ log, entry.1 < batch.length

theorem fst_eq_of_range {α : Type} {entries : List (Nat × α)} {count index : Nat} {entry : Nat × α}
    (ordered : entries.map Prod.fst = List.range count) (stands : entries[index]? = some entry) :
    entry.1 = index := by
  have key := congrArg (·[index]?) ordered
  simp only [List.getElem?_map, stands, Option.map_some] at key
  obtain ⟨inside, same⟩ := List.getElem?_eq_some_iff.mp key.symm
  rw [← same, List.getElem_range]

namespace Logs

theorem start (options : Options) (command : String) (batch : List (List Double)) (workers : Nat)
    (world : World State) :
    Logs options command batch (Pool.start workers batch world) [] where
  rows := by
    rw [Pool.jobs_start, List.map_map, show Job.index ∘ Job.waiting = Prod.snd from rfl, tasks,
      List.zipIdx_map_snd, List.range_eq_range']
  progress job member := by
    rw [Pool.jobs_start] at member
    obtain ⟨⟨features, index⟩, inside, rfl⟩ := List.mem_map.mp member
    exact .waiting (List.mk_mem_zipIdx_iff_getElem?.mp inside)
  bounded := by simp

theorem goes {pool next : Pool State} {log heard : List (Nat × Exchange)}
    (logs : Logs options command batch pool log)
    (goes : Pool.Goes shell options command pool heard next) :
    Logs options command batch next (log ++ heard) := by
  -- One job is exchanged for a later stage of itself, so the jobs keep their numbers.
  obtain ⟨job, later, rest, advances, before, after⟩ := goes.advances
  have inside : job ∈ pool.jobs := before.mem_iff.mpr List.mem_cons_self
  obtain ⟨progress, sameIndex, belong⟩ := (logs.progress job inside).advance advances
  have indices := (before.map Job.index).symm.trans logs.rows
  rw [List.map_cons] at indices
  have distinct := List.nodup_cons.mp (indices.nodup_iff.mpr List.nodup_range)
  refine ⟨(after.map Job.index).trans (by rwa [List.map_cons, sameIndex]), ?_, ?_⟩
  · intro other member
    rw [own_append]
    rcases List.mem_cons.mp (after.mem_iff.mp member) with rfl | untouched
    · rwa [sameIndex, own_eq_all belong]
    · -- Another job has another number, so nothing was asked for it.
      have apart : job.index ≠ other.index := fun same =>
        distinct.1 (same ▸ List.mem_map_of_mem untouched)
      have unasked : own other.index heard = [] :=
        own_eq_nil fun entry asked => belong entry asked ▸ apart
      rw [unasked, List.append_nil]
      exact logs.progress other (before.mem_iff.mpr (List.mem_cons_of_mem _ untouched))
  · intro entry member
    rcases List.mem_append.mp member with logged | asked
    · exact logs.bounded entry logged
    · rw [belong entry asked]
      exact List.mem_range.mp (indices.mem_iff.mp List.mem_cons_self)

theorem trial_of_finished {pool : Pool State} {log : List (Nat × Exchange)}
    (logs : Logs options command batch pool log) (ended : pool.Ended) {entry : Nat × Outcome}
    (finished : entry ∈ pool.finished) :
    ∃ trial : Trial, batch[entry.1]? = some trial.features ∧ trial.Within (budget options) ∧
      entry.2 = trial.outcome options command ∧ own entry.1 log = trial.exchanges command := by
  obtain ⟨index, outcome⟩ := entry
  have done : Job.done index outcome ∈ pool.jobs := by
    rw [ended.jobs_eq]
    exact List.mem_map_of_mem (f := fun entry => Job.done entry.1 entry.2) finished
  have progress := logs.progress _ done
  generalize asked : own (Job.done index outcome).index log = heard at progress
  cases progress with
  | done trial found within => exact ⟨trial, found, within, rfl, asked⟩

/-- At the end every row has been tried, and what was asked are the attempts at the rows. -/
theorem tried {pool : Pool State} {log : List (Nat × Exchange)}
    (logs : Logs options command batch pool log) (ended : pool.Ended)
    {handed : List (Nat × Outcome)} (all : handed.Perm pool.finished)
    (ordered : handed.map Prod.fst = List.range batch.length) :
    ∃ trials : List Trial, Interleaves command trials (log.map Prod.snd) ∧
      Tried options command batch trials (settle batch.length handed) := by
  have each := fun entry (member : entry ∈ handed) =>
    logs.trial_of_finished ended (all.mem_iff.mp member)
  -- The entries stand in the order of the rows, and so do the trials that are chosen for them.
  have : Nonempty Trial := ⟨[], [], .error ""⟩
  choose! trial found within outcome asked using each
  have count : handed.length = batch.length := by simpa using congrArg List.length ordered
  have features : (handed.map trial).map Trial.features = batch := by
    refine List.ext_getElem (by simpa using count) fun index _ inside => ?_
    have stands := List.getElem?_eq_getElem (count ▸ inside)
    have row := found _ (List.mem_of_getElem? stands)
    rw [fst_eq_of_range ordered stands, List.getElem?_eq_getElem inside, Option.some.injEq] at row
    simp [row]
  have outcomes : (handed.map trial).map (Trial.outcome options command) =
      handed.map Prod.snd := by
    rw [List.map_map]
    exact List.map_congr_left fun entry member => (outcome entry member).symm
  refine ⟨handed.map trial, ⟨log, rfl, ?_, ?_⟩, Settles.tried ?_ features ?_⟩
  · simpa [count] using logs.bounded
  · intro index _ stands
    rw [List.getElem?_map, Option.map_eq_some_iff] at stands
    obtain ⟨entry, stands, rfl⟩ := stands
    rw [← asked entry (List.mem_of_getElem? stands), fst_eq_of_range ordered stands]
  · rw [outcomes]
    have settles := settle_settles (handed.map Prod.snd)
    rwa [List.length_map, count, ← ordered, ← List.zip_of_prod rfl rfl] at settles
  · intro _ member
    obtain ⟨entry, inside, rfl⟩ := List.mem_map.mp member
    exact within entry inside

end Logs

/-! ## The turns of a pool -/

theorem exists_split_at {α : Type} {list : List α} {index : Nat} {item : α}
    (found : list[index]? = some item) :
    ∃ before after, list = before ++ item :: after ∧ before.length = index := by
  obtain ⟨inside, rfl⟩ := List.getElem?_eq_some_iff.mp found
  refine ⟨list.take index, list.drop (index + 1), ?_, by simp; omega⟩
  rw [← List.drop_eq_getElem_cons inside, List.take_append_drop]

namespace Pool

theorem step_goes (choice : Nat) {pool : Pool State} {position : Nat} {worker : Worker}
    (found : pool.workers[position]? = some worker) (able : worker.canMove pool.pending = true) :
    ∃ heard, Goes shell options command pool heard
      (pool.step shell options command choice position worker) := by
  obtain ⟨pending, workers, finished, world⟩ := pool
  obtain ⟨others, rest, rfl, rfl⟩ := exists_split_at found
  have placed (worker : Worker) (later : Worker) :
      (others ++ worker :: rest).set others.length later = others ++ later :: rest := by
    simp
  cases worker with
  | idle =>
    have waiting : pending ≠ [] := by simpa [Worker.canMove] using able
    have inside : choice % pending.length < pending.length :=
      Nat.mod_lt _ (List.length_pos_iff.mpr waiting)
    have chosen := List.getElem?_eq_getElem inside
    obtain ⟨before, after, split, length⟩ := exists_split_at chosen
    have erased : pending.eraseIdx (choice % pending.length) = before ++ after := by
      rw [← length, split, List.eraseIdx_append_of_length_le (Nat.le_refl _)]
      simp
    simp only [step, chosen, place, placed, erased]
    generalize pending[choice % pending.length] = task at split
    subst split
    exact ⟨_, .pick before after others rest⟩
  | asking task left =>
    simp only [step, place, placed]
    exact ⟨_, .ask others rest⟩
  | holding index outcome =>
    simp only [step, place, placed]
    exact ⟨_, .deliver others rest⟩

theorem goes_of_next? {turn : Nat × Nat} {pool next : Pool State}
    (moved : pool.next? shell options command turn = some next) :
    ∃ heard, Goes shell options command pool heard next := by
  rw [next?] at moved
  split at moved
  · cases moved
  · rename_i worker position chosen
    cases moved
    obtain ⟨numbered, able⟩ := List.mem_filter.mp (List.mem_of_getElem? chosen)
    exact step_goes _ (List.mk_mem_zipIdx_iff_getElem?.mp numbered) able

theorem ended_of_next? {turn : Nat × Nat} {pool : Pool State} (staffed : pool.workers ≠ [])
    (stopped : pool.next? shell options command turn = none) : pool.Ended := by
  have nobody : pool.movable = [] := by
    by_contra some
    have inside : turn.1 % pool.movable.length < pool.movable.length :=
      Nat.mod_lt _ (List.length_pos_iff.mpr some)
    rw [next?, List.getElem?_eq_getElem inside] at stopped
    cases stopped
  have unable : ∀ worker ∈ pool.workers, worker.canMove pool.pending = false := by
    intro worker member
    obtain ⟨position, found⟩ := List.mem_iff_getElem?.mp member
    have out := List.filter_eq_nil_iff.mp nobody _ (List.mk_mem_zipIdx_iff_getElem?.mpr found)
    simpa using out
  -- Whoever has a row can move, and an idle worker can as long as a row is left.
  have resting : ∀ worker ∈ pool.workers, worker = .idle := by
    intro worker member
    have still := unable worker member
    cases worker with
    | idle => rfl
    | asking task left => cases still
    | holding index outcome => cases still
  refine ⟨?_, resting⟩
  obtain ⟨worker, others, same⟩ := List.exists_cons_of_ne_nil staffed
  have first : worker ∈ pool.workers := same ▸ List.mem_cons_self
  have still := unable worker first
  rw [resting worker first] at still
  simpa [Worker.canMove] using still

theorem ended_of_remaining {pool : Pool State} (none : pool.remaining options = 0) : pool.Ended := by
  have parts := Nat.add_eq_zero_iff.mp none
  refine ⟨?_, fun worker member => ?_⟩
  · rcases Nat.mul_eq_zero.mp parts.1 with empty | impossible
    · exact List.length_eq_zero_iff.mp empty
    · omega
  · have nothing := List.sum_eq_zero_iff_forall_eq_nat.mp parts.2 _ (List.mem_map_of_mem member)
    cases worker with
    | idle => rfl
    | asking task left => simp [Worker.remaining] at nothing
    | holding index outcome => simp [Worker.remaining] at nothing

theorem Goes.asks {pool next : Pool State} {heard : List (Nat × Exchange)}
    (goes : Goes shell options command pool heard next) :
    Asks shell pool.world (heard.map Prod.snd) next.world := by
  cases goes with
  | pick => exact .nil _
  | ask => exact .once ..
  | deliver => exact .nil _

theorem handed_perm (pool : Pool State) : pool.handed.Perm pool.finished :=
  List.mergeSort_perm ..

theorem handed_keys {pool : Pool State} {log : List (Nat × Exchange)}
    (logs : Logs options command batch pool log) (ended : pool.Ended) :
    pool.handed.map Prod.fst = List.range batch.length := by
  have rows := logs.rows
  rw [ended.jobs_eq, List.map_map, show Job.index ∘ (fun entry : Nat × Outcome =>
    Job.done entry.1 entry.2) = Prod.fst from rfl] at rows
  have perm := (pool.handed_perm.map Prod.fst).trans rows
  have sorted : (pool.handed.map Prod.fst).Pairwise (· ≤ ·) := by
    rw [List.pairwise_map]
    have byKey : pool.handed.Pairwise fun first second => decide (first.1 ≤ second.1) = true :=
      List.pairwise_mergeSort
      (fun first second third => by simpa using Nat.le_trans)
      (fun first second => by simpa using Nat.le_total first.1 second.1) pool.finished
    exact byKey.imp fun le => of_decide_eq_true le
  have ordered : (List.range batch.length).Pairwise (· ≤ ·) :=
    List.pairwise_lt_range.imp Nat.le_of_lt
  exact perm.eq_of_pairwise (fun _ _ _ _ => Nat.le_antisymm) sorted ordered

variable (shell command)

theorem drain_ended (turns : Turns) (fuel time : Nat) {pool : Pool State}
    (staffed : pool.workers ≠ []) (enough : pool.remaining options ≤ fuel) :
    (pool.drain shell options command turns fuel time).Ended := by
  induction fuel generalizing time pool with
  | zero => exact ended_of_remaining (Nat.le_zero.mp enough)
  | succ fuel ih =>
    rw [drain]
    split
    · rename_i stopped
      exact ended_of_next? staffed stopped
    · rename_i next moved
      -- Every step takes at least one off the bound, so the fuel is enough for the rest.
      obtain ⟨heard, goes⟩ := goes_of_next? moved
      have fewer := goes.moves.remaining_lt
      refine ih (time + 1) ?_ (by omega)
      rw [← List.length_pos_iff, goes.moves.workers_length]
      exact List.length_pos_iff.mpr staffed

theorem drain_logs (turns : Turns) (fuel time : Nat) {pool : Pool State}
    {log : List (Nat × Exchange)} (logs : Logs options command batch pool log) :
    ∃ heard, Logs options command batch (pool.drain shell options command turns fuel time)
        (log ++ heard) ∧
      Asks shell pool.world (heard.map Prod.snd)
        (pool.drain shell options command turns fuel time).world ∧
      Reaches shell options command pool (pool.drain shell options command turns fuel time) := by
  induction fuel generalizing time pool log with
  | zero => exact ⟨[], by simpa [drain] using logs, .nil _, .refl⟩
  | succ fuel ih =>
    rw [drain]
    split
    · exact ⟨[], by simpa using logs, .nil _, .refl⟩
    · rename_i next moved
      obtain ⟨first, goes⟩ := goes_of_next? moved
      obtain ⟨rest, logged, asks, reached⟩ := ih (time + 1) (logs.goes goes)
      refine ⟨first ++ rest, by rwa [← List.append_assoc], ?_, .head goes.moves reached⟩
      rw [List.map_append]
      exact goes.asks.append asks

end Pool

/-! ## Batches -/

theorem pooledRows_tried (shell : Shell State) (options : Options) (command : String)
    (turns : Turns) {workers : Nat} (staffed : 0 < workers) (batch : List (List Double))
    (world : World State) :
    let pool := pooledRows shell options command turns workers batch world
    (∃ trials heard, Asks shell world heard pool.2 ∧ Interleaves command trials heard ∧
        Tried options command batch trials pool.1) ∧
      ∃ ended : Pool State,
        Pool.Reaches shell options command (Pool.start workers batch world) ended ∧ ended.Ended ∧
        ended.handed.map Prod.fst = List.range batch.length ∧
        pool.1 = settle batch.length ended.handed := by
  intro pool
  have someone : (Pool.start workers batch world).workers ≠ [] := by
    simpa [Pool.start] using staffed.ne'
  have ended := Pool.drain_ended shell command turns _ 0 someone
    (Nat.le_refl ((Pool.start workers batch world).remaining options))
  obtain ⟨log, logs, asks, reached⟩ := Pool.drain_logs shell command turns
    ((Pool.start workers batch world).remaining options) 0
    (Logs.start options command batch workers world)
  have ordered := Pool.handed_keys logs ended
  obtain ⟨trials, interleaves, tried⟩ := logs.tried ended (Pool.handed_perm _) ordered
  exact ⟨⟨trials, _, asks, interleaves, tried⟩, _, reached, ended, ordered, rfl⟩

/-- Whether the rows of a batch are run one after the other. -/
def InTurn (host : Host) (options : Options) (batch : List (List Double)) : Prop :=
  host.turns = none ∨ workerCount options host.processors batch.length = 1

theorem allRows_eq_rows (shell : Shell State) {host : Host} {options : Options} (command : String)
    {batch : List (List Double)} (inTurn : InTurn host options batch) (world : World State) :
    allRows shell host options command batch world = rows shell options command batch world := by
  rw [allRows]
  rcases inTurn with none | one
  · rw [none]
  · rw [one]
    cases host.turns <;> rfl

/-- All rows are tried, with any number of workers. -/
theorem allRows_ask (shell : Shell State) (host : Host) (options : Options) (command : String)
    (batch : List (List Double)) (world : World State) :
    ∃ (trials : List Trial) (heard : List Exchange),
      Asks shell world heard (allRows shell host options command batch world).2 ∧
      Interleaves command trials heard ∧
      (InTurn host options batch → heard = trials.flatMap (Trial.exchanges command)) ∧
      Tried options command batch trials (allRows shell host options command batch world).1 := by
  by_cases inTurn : InTurn host options batch
  · rw [allRows_eq_rows shell command inTurn]
    obtain ⟨trials, asks, tried⟩ := rows_ask shell options command batch world
    exact ⟨trials, _, asks, .inTurn command trials, fun _ => rfl, tried⟩
  · obtain ⟨turns, pooled⟩ := Option.ne_none_iff_exists'.mp (not_or.mp inTurn).1
    have positive := workerCount_pos options host.processors batch.length
    have several : ¬ workerCount options host.processors batch.length ≤ 1 := by
      have := (not_or.mp inTurn).2
      omega
    obtain ⟨⟨trials, heard, asks, interleaves, tried⟩, -⟩ :=
      pooledRows_tried shell options command turns positive batch world
    simp only [allRows, pooled, if_neg several]
    exact ⟨trials, heard, asks, interleaves, (absurd · inTurn), tried⟩

/-- What a batch gives is what its workers can come to. -/
theorem allRows_returns (shell : Shell State) (host : Host) (options : Options) (command : String)
    (batch : List (List Double)) (world : World State) :
    Returns shell options command host.processors batch world
      (allRows shell host options command batch world).1 := by
  rw [allRows]
  split
  · exact .inTurn
  · rename_i turns _
    split
    · exact .inTurn
    · rename_i several
      obtain ⟨-, ended, reached, isEnded, ordered, same⟩ := pooledRows_tried shell options command
        turns (workerCount_pos options host.processors batch.length) batch world
      rw [same]
      exact .pooled (by omega) reached isEnded ended.handed_perm ordered

end Modelsmith.Run
