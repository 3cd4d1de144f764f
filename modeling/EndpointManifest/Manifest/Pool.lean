import EndpointManifest.Manifest.Basic

/-!
Spec files that are read several at a time. As many are read at once as there are workers; reading
begins and ends in any order, and the outcomes are added up in the order of the files. With the
first outcome that ends the run nothing more is added up: files that wait may then be dropped, and
those that have begun are read to their end.
-/

namespace EndpointManifest.Manifest

/-- How far the reading of a file has come. -/
inductive Task where
  | waiting
  | running
  | finished (result : Except SpecError Spec)

namespace Task

def isRunning : Task → Bool
  | .running => true
  | _ => false

def isFinished : Task → Bool
  | .finished _ => true
  | _ => false

end Task

/-- The files whose outcomes are still to be added up, in their order, and what the outcomes before
them came to. -/
structure Pool where
  queue : List (Text × Task)
  collected : Except SpecError Manifest

namespace Pool

def start (paths : List Text) : Pool := ⟨paths.map fun path => (path, .waiting), .ok {}⟩

def running (pool : Pool) : Nat := pool.queue.countP (·.2.isRunning)

def hasFailed (pool : Pool) : Bool :=
  match pool.collected with
  | .ok _ => false
  | .error _ => true

def ended (pool : Pool) : Bool :=
  pool.queue.all (·.2.isFinished) && (pool.queue.isEmpty || pool.hasFailed)

inductive Step (disk : Disk) (settings : Settings) : Pool → Pool → Prop
  /-- A worker that is free takes any file that waits. -/
  | begins {front back : List (Text × Task)} {path : Text} {collected : Except SpecError Manifest}
      (free : running ⟨front ++ (path, .waiting) :: back, collected⟩ < settings.workers) :
      Step disk settings ⟨front ++ (path, .waiting) :: back, collected⟩
        ⟨front ++ (path, .running) :: back, collected⟩
  | ends {front back : List (Text × Task)} {path : Text} {collected : Except SpecError Manifest} :
      Step disk settings ⟨front ++ (path, .running) :: back, collected⟩
        ⟨front ++ (path, .finished (Spec.ofFile disk settings.reading path)) :: back, collected⟩
  /-- The outcome of the first file is added up when it is there, however many later ones are. -/
  | adds {path : Text} {result : Except SpecError Spec} {rest : List (Text × Task)} {m : Manifest} :
      Step disk settings ⟨(path, .finished result) :: rest, .ok m⟩
        ⟨rest, addOutcomes settings m [(path, result)]⟩
  | drops {front back : List (Text × Task)} {path : Text} {error : SpecError} :
      Step disk settings ⟨front ++ (path, .waiting) :: back, .error error⟩
        ⟨front ++ back, .error error⟩

inductive Runs (disk : Disk) (settings : Settings) : Nat → Pool → Pool → Prop
  | refl (pool : Pool) : Runs disk settings 0 pool pool
  | snoc {n : Nat} {first pool next : Pool} (run : Runs disk settings n first pool)
      (step : Step disk settings pool next) : Runs disk settings (n + 1) first next

end Pool

/-- What the manifest of the files can come to. A single worker and a single file need no pool. -/
def Makes (disk : Disk) (settings : Settings) (paths : List Text)
    (outcome : Except SpecError Manifest) : Prop :=
  if settings.workers ≤ 1 ∨ paths.length ≤ 1 then outcome = ofFiles disk settings paths
  else ∃ n pool, Pool.Runs disk settings n (.start paths) pool ∧ pool.ended = true ∧
    pool.collected = outcome

end EndpointManifest.Manifest
