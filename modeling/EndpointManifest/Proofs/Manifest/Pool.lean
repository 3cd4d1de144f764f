import EndpointManifest.Manifest.Pool
import EndpointManifest.Proofs.Manifest.Files

/-! A pool of workers makes the same manifest as one file after another, whichever way it goes. At
any moment what has been added up, with the files that are left added one after another, is the
manifest that is to come: a step moves the border between the two and nothing else. Every step
brings some file nearer to its end, and as long as files are left one more step can be made. -/

namespace EndpointManifest.Manifest

open Text

variable {disk : Disk} {settings : Settings} {paths : List Text}

theorem addOutcomes_cons (settings : Settings) (m : Manifest) (outcome : Outcome)
    (rest : List Outcome) : addOutcomes settings m (outcome :: rest) =
      (addOutcomes settings m [outcome]).bind fun m => addOutcomes settings m rest := by
  obtain ⟨path, result⟩ := outcome
  cases result with
  | ok spec => rfl
  | error e =>
    simp only [addOutcomes]
    split <;> rfl

theorem addOutcomes_workers (n : Nat) (m : Manifest) (outcomes : List Outcome) :
    addOutcomes { settings with workers := n } m outcomes = addOutcomes settings m outcomes := by
  induction outcomes generalizing m with
  | nil => rfl
  | cons outcome outcomes ih =>
    rw [addOutcomes_cons, addOutcomes_cons settings]
    have hone : addOutcomes { settings with workers := n } m [outcome] =
        addOutcomes settings m [outcome] := by
      obtain ⟨path, result⟩ := outcome
      cases result <;> rfl
    rw [hone]
    cases addOutcomes settings m [outcome] with
    | error e => rfl
    | ok m => exact ih m

theorem ofFiles_workers (n : Nat) :
    ofFiles disk { settings with workers := n } paths = ofFiles disk settings paths := by
  rw [ofFiles, ofFiles]
  split
  · rfl
  · exact addOutcomes_workers n {} _

namespace Pool

variable {pool next first : Pool} {n : Nat}

def outcomeOf (disk : Disk) (settings : Settings) (entry : Text × Task) : Outcome :=
  (entry.1, Spec.ofFile disk settings.reading entry.1)

structure LeadsTo (disk : Disk) (settings : Settings) (outcome : Except SpecError Manifest)
    (pool : Pool) : Prop where
  finished : ∀ path result, (path, .finished result) ∈ pool.queue →
    result = Spec.ofFile disk settings.reading path
  total : (pool.collected.bind fun m =>
    addOutcomes settings m (pool.queue.map (outcomeOf disk settings))) = outcome
  bounded : pool.running ≤ settings.workers

variable {outcome : Except SpecError Manifest}

theorem leadsTo_start : LeadsTo disk settings (addOutcomes settings {}
    (paths.map fun path => (path, Spec.ofFile disk settings.reading path))) (start paths) := by
  refine ⟨fun path result hmem => ?_, ?_, ?_⟩
  · obtain ⟨_, _, heq⟩ := List.mem_map.1 hmem
    cases heq
  · rw [start, List.map_map]
    rfl
  · have hnone : (start paths).running = 0 := by
      simp [running, start, List.countP_map, Function.comp_def, Task.isRunning]
    rw [hnone]
    exact Nat.zero_le _

theorem map_outcomeOf_set (front back : List (Text × Task)) (path : Text) (task task' : Task) :
    (front ++ (path, task) :: back).map (outcomeOf disk settings) =
      (front ++ (path, task') :: back).map (outcomeOf disk settings) := by
  simp [outcomeOf]

theorem running_set (front back : List (Text × Task)) (path : Text) (task : Task)
    (collected : Except SpecError Manifest) :
    running ⟨front ++ (path, task) :: back, collected⟩ =
      running ⟨front ++ back, collected⟩ + if task.isRunning then 1 else 0 := by
  simp only [running, List.countP_append, List.countP_cons]
  omega

theorem leadsTo_step (h : LeadsTo disk settings outcome pool) (hstep : Step disk settings pool next) :
    LeadsTo disk settings outcome next := by
  obtain ⟨hfinished, htotal, hbounded⟩ := h
  cases hstep with
  | @begins front back path collected free =>
    refine ⟨fun p result hmem => hfinished p result ?_, ?_, ?_⟩
    · simp only [List.mem_append, List.mem_cons, Prod.mk.injEq, reduceCtorEq, and_false,
        false_or] at hmem ⊢
      exact hmem
    · rw [← htotal]
      exact congrArg _ (funext fun m => by rw [map_outcomeOf_set front back path .running .waiting])
    · rw [running_set] at free ⊢
      exact free
  | @ends front back path collected =>
    refine ⟨fun p result hmem => ?_, ?_, ?_⟩
    · simp only [List.mem_append, List.mem_cons, Prod.mk.injEq, Task.finished.injEq] at hmem
      rcases hmem with hmem | ⟨rfl, rfl⟩ | hmem
      · exact hfinished p result (by simp [hmem])
      · rfl
      · exact hfinished p result (by simp [hmem])
    · rw [← htotal]
      exact congrArg _ (funext fun m => by rw [map_outcomeOf_set front back path _ .running])
    · rw [running_set] at hbounded ⊢
      exact Nat.le_trans (Nat.le_add_right _ _) hbounded
  | @adds path result rest m =>
    refine ⟨fun p result hmem => hfinished p result (List.mem_cons_of_mem _ hmem), ?_, ?_⟩
    · obtain rfl := hfinished path result (List.mem_cons_self ..)
      rw [← htotal]
      exact (addOutcomes_cons settings m _ _).symm
    · exact Nat.le_trans (List.Sublist.countP_le (List.sublist_cons_self ..)) hbounded
  | @drops front back path error =>
    refine ⟨fun p result hmem => hfinished p result ?_, htotal, ?_⟩
    · simp only [List.mem_append, List.mem_cons] at hmem ⊢
      exact hmem.imp_right .inr
    · rw [running_set] at hbounded
      exact Nat.le_trans (Nat.le_add_right _ _) hbounded

theorem leadsTo_run (hrun : Runs disk settings n first pool)
    (h : LeadsTo disk settings outcome first) : LeadsTo disk settings outcome pool := by
  induction hrun with
  | refl _ => exact h
  | snoc _ hstep ih => exact leadsTo_step (ih h) hstep

/-- At the end nothing is left to add up, or a failure keeps it from being added up. -/
theorem LeadsTo.eq_of_ended (h : LeadsTo disk settings outcome pool)
    (hended : pool.ended = true) : pool.collected = outcome := by
  obtain ⟨queue, collected⟩ := pool
  rw [← h.total]
  cases collected with
  | error e => rfl
  | ok m =>
    have hqueue : queue = [] := by
      simpa [ended, hasFailed] using (Bool.and_eq_true_iff.1 hended).2
    subst hqueue
    rfl

end Pool

def Task.isWaiting : Task → Bool
  | .waiting => true
  | _ => false

namespace Pool

variable {pool next first : Pool} {n : Nat}

/-- How much is left to do: every file is to be added up, what is not finished is to end before, and
what waits is to begin before that. -/
def work (pool : Pool) : Nat :=
  pool.queue.length + pool.queue.countP (!·.2.isFinished) + pool.queue.countP (·.2.isWaiting)

theorem work_step (hstep : Step disk settings pool next) : next.work + 1 ≤ pool.work := by
  cases hstep
  all_goals
    simp only [work, List.length_append, List.length_cons, List.countP_append, List.countP_cons,
      Task.isFinished, Task.isWaiting, Bool.not_true, Bool.not_false, Bool.false_eq_true, if_true,
      if_false]
    omega

theorem work_run (hrun : Runs disk settings n first pool) : n + pool.work ≤ first.work := by
  induction hrun with
  | refl pool => exact Nat.le_of_eq (Nat.zero_add _)
  | snoc _ hstep ih => have := work_step hstep; omega

theorem work_start : (start paths).work = 3 * paths.length := by
  simp [work, start, List.countP_map, Function.comp_def, Task.isFinished, Task.isWaiting]
  omega

theorem exists_unfinished {queue : List (Text × Task)}
    (h : queue.all (·.2.isFinished) = false) :
    ∃ front path back, queue = front ++ (path, .waiting) :: back ∨
      queue = front ++ (path, .running) :: back := by
  simp only [List.all_eq_false, Bool.not_eq_true] at h
  obtain ⟨⟨path, task⟩, hmem, htask⟩ := h
  obtain ⟨front, back, heq⟩ := List.append_of_mem hmem
  cases task with
  | waiting => exact ⟨front, path, back, .inl heq⟩
  | running => exact ⟨front, path, back, .inr heq⟩
  | finished result => cases htask

theorem exists_step (hworkers : 1 ≤ settings.workers) (h : pool.ended = false) :
    ∃ next, Step disk settings pool next := by
  obtain ⟨queue, collected⟩ := pool
  by_cases hall : queue.all (·.2.isFinished) = true
  · -- every file is read, so the first of them can be added up
    have hleft : queue.isEmpty = false ∧ hasFailed ⟨queue, collected⟩ = false := by
      simpa [ended, hall] using h
    cases collected with
    | error e => cases hleft.2
    | ok m =>
      cases queue with
      | nil => cases hleft.1
      | cons entry rest =>
        obtain ⟨path, task⟩ := entry
        cases task with
        | finished result => exact ⟨_, .adds⟩
        | waiting => simp [Task.isFinished] at hall
        | running => simp [Task.isFinished] at hall
  · by_cases hrun : ∃ front path back, queue = front ++ (path, .running) :: back
    · obtain ⟨front, path, back, rfl⟩ := hrun
      exact ⟨_, .ends⟩
    · -- nothing is being read, so a worker is free for a file that waits
      obtain ⟨front, path, back, heq | heq⟩ := exists_unfinished (Bool.eq_false_iff.2 hall)
      · have hnone : running ⟨queue, collected⟩ = 0 := by
          refine List.countP_eq_zero.2 fun ⟨p, task⟩ hmem htask => ?_
          obtain ⟨front', back', heq'⟩ := List.append_of_mem hmem
          cases task with
          | running => exact hrun ⟨front', p, back', heq'⟩
          | waiting => cases htask
          | finished result => cases htask
        obtain rfl : queue = front ++ (path, .waiting) :: back := heq
        exact ⟨_, .begins (by omega)⟩
      · exact absurd ⟨front, path, back, heq⟩ hrun

/-- However far a run has come, it can be brought to its end. -/
theorem exists_ended (hworkers : 1 ≤ settings.workers) (hrun : Runs disk settings n first pool) :
    ∃ m last, Runs disk settings m first last ∧ last.ended = true := by
  induction hwork : pool.work using Nat.strongRecOn generalizing n pool with
  | ind work ih =>
    cases hended : pool.ended with
    | true => exact ⟨n, pool, hrun, hended⟩
    | false =>
      obtain ⟨next, hstep⟩ : ∃ next, Step disk settings pool next := exists_step hworkers hended
      exact ih _ (hwork ▸ work_step hstep) (hrun.snoc hstep) rfl

end Pool

theorem makes_iff_eq (hworkers : 1 ≤ settings.workers) {outcome : Except SpecError Manifest} :
    Makes disk settings paths outcome ↔ outcome = ofFiles disk settings paths := by
  rw [Makes]
  split
  case isTrue _ => rfl
  case isFalse hpool =>
    have hne : paths ≠ [] := by
      rintro rfl
      simp at hpool
    rw [ofFiles_eq_addOutcomes hne]
    constructor
    · rintro ⟨n, pool, hrun, hended, rfl⟩
      exact (Pool.leadsTo_run hrun Pool.leadsTo_start).eq_of_ended hended
    · rintro rfl
      have hstart : Pool.Runs disk settings 0 (.start paths) (.start paths) := .refl _
      obtain ⟨n, pool, hrun, hended⟩ := Pool.exists_ended hworkers hstart
      exact ⟨n, pool, hrun, hended, (Pool.leadsTo_run hrun Pool.leadsTo_start).eq_of_ended hended⟩

/-- Which files are read together, and which of them ends first, cannot be seen in what they come
to. No run of the pool takes on more than the workers can do, and none is stuck or goes on for
ever. -/
theorem makes_iff_ofFiles_single (hworkers : 1 ≤ settings.workers) :
    (∀ outcome, Makes disk settings paths outcome ↔
      outcome = ofFiles disk { settings with workers := 1 } paths) ∧
    ∀ n pool, Pool.Runs disk settings n (.start paths) pool →
      n ≤ 3 * paths.length ∧ pool.running ≤ settings.workers ∧
        (pool.ended = true ∨ ∃ next, Pool.Step disk settings pool next) := by
  refine ⟨fun outcome => ?_, fun n pool hrun => ⟨?_, ?_, ?_⟩⟩
  · rw [ofFiles_workers]
    exact makes_iff_eq hworkers
  · have hwork := Pool.work_run hrun
    rw [Pool.work_start] at hwork
    omega
  · exact (Pool.leadsTo_run hrun Pool.leadsTo_start).bounded
  · cases hended : pool.ended with
    | true => exact .inl rfl
    | false => exact .inr (Pool.exists_step hworkers hended)

/-- Two workers, and two files of which one is not there. -/
theorem makes_iff_ofFiles_single_two :
    let spec := encodeUtf8 "it(\"api.get('/x')\", 0)".toList
    let disk : Disk := { top := .dir [("a.ts".toList, .file spec)] }
    let settings : Settings := { workers := 2 }
    let paths := ["b.ts", "a.ts"].map String.toList
    1 ≤ settings.workers ∧ (∃ outcome, Makes disk settings paths outcome) ∧
      ∀ outcome, Makes disk settings paths outcome →
        (outcome.toOption.map fun m => (m.scanned, m.included, m.warnings.length)) =
          some (2, 1, 1) := by
  intro spec disk settings paths
  have hworkers : 1 ≤ settings.workers := by decide
  have hmakes : ∀ outcome, Makes disk settings paths outcome ↔
      outcome = ofFiles disk { settings with workers := 1 } paths :=
    (makes_iff_ofFiles_single hworkers).1
  refine ⟨hworkers, ⟨_, (hmakes _).2 rfl⟩, fun outcome hmade => ?_⟩
  rw [(hmakes outcome).1 hmade]
  decide +kernel

end EndpointManifest.Manifest
