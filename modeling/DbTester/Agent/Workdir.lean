import DbTester.Agent.Supervisor

/-!
# The path globals over a run

`CommandFunc` puts `agentLogPath` under the working directory once. Every Start and every
Restart, whatever its outcome, passes the six other globals through `rebase` again, and the
guard of `rebase` is `filepath.HasPrefix`, a plain string-prefix test.

* `paths_of_reach`: after `n` Starts and Restarts each of the six globals is its initial value
  rebased `n` times;
* `iterate_rebase`: when the initial value is not a string prefix of the working directory's
  join and that join starts with the directory, every rebase after the first changes nothing;
* `paths_after_spawn`: for such a directory, after a Start or Restart every global is the
  join of the directory and its initial value;
* `restart_rebases_again`: with `./w` a Restart after a Start moves the data to `w/w`;
* `artifact_endsIn`: each file the monitor loop uploads keeps its name at the end of its path.
-/

namespace DbTester.Agent

open Go

/-- The number of Starts and Restarts served. -/
def spawnCount (hist : List (Request × Outcome)) : Nat :=
  (hist.filter fun p => p.1.operation.spawns).length

/-! ### Rebasing again and again -/

theorem Paths.mapData_iterate (f : String → String) (n : Nat) (g : Paths) :
    (Paths.mapData f)^[n] g = g.mapData f^[n] := by
  induction n generalizing g with
  | zero => rfl
  | succ n ih => rw [Function.iterate_succ_apply, ih]; rfl

theorem spawnCount_append (hist : List (Request × Outcome)) (r : Request) (o : Outcome) :
    spawnCount (hist ++ [(r, o)]) = spawnCount hist + if r.operation.spawns then 1 else 0 := by
  by_cases hs : r.operation.spawns <;> simp [spawnCount, hs]

section Run

variable {h : Host} {a : Process}

/-- **The globals over a run**: each Start or Restart served rebases the six globals once
more, and nothing else touches them. -/
theorem paths_of_reach (hr : Reach h a) :
    a.paths = (Process.init h).paths.mapData (rebase h.workingDirectory)^[spawnCount a.history] := by
  induction hr with
  | init => rfl
  | step _ hs ih =>
    cases hs with
    | serve sys r _ =>
      simp only [Process.serve, transfer_paths, spawnCount_append, ih]
      split
      · rw [Paths.rebaseAll, ← Paths.mapData_iterate, ← Paths.mapData_iterate,
          ← Function.iterate_succ_apply' (Paths.mapData _)]
      · rfl
    | _ => exact ih

end Run

/-- A rebase after the first changes nothing when the first one joins and the join starts
with the directory. -/
theorem iterate_rebase {wd p : String} (h₁ : Filepath.hasPrefix p wd = false)
    (h₂ : Filepath.hasPrefix (Filepath.join [wd, p]) wd = true) (n : Nat) :
    (rebase wd)^[n + 1] p = Filepath.join [wd, p] := by
  induction n with
  | zero => simp [rebase, h₁]
  | succ n ih => rw [Function.iterate_succ_apply', ih, rebase, if_pos h₂]

/-- Every global under the directory: `filepath.Join(wd, initial value)`. -/
def Paths.under (wd : String) : Paths :=
  { Paths.init.mapData (fun p => Filepath.join [wd, p]) with
    agentLogPath := Filepath.join [wd, Paths.init.agentLogPath] }

/-- The directories `rebase` handles as the globals need: no initial value starts with the
directory, and its join with each one does. -/
def Paths.rebasesOnce (wd : String) : Prop :=
  ∀ p ∈ [Paths.init.etcdDataDir, Paths.init.consulDataDir, Paths.init.zkWorkingDir,
    Paths.init.zkDataDir, Paths.init.databaseLogPath, Paths.init.monitorLogPath,
    Paths.init.agentLogPath],
    Filepath.hasPrefix p wd = false ∧ Filepath.hasPrefix (Filepath.join [wd, p]) wd = true

/-- **The globals after a Start or a Restart** for a directory that `rebase` handles: each is
the join of the directory and its initial value. -/
theorem paths_after_spawn {h : Host} {a : Process} (hr : Reach h a)
    (hwd : Paths.rebasesOnce h.workingDirectory) (hn : spawnCount a.history ≠ 0) :
    a.paths = Paths.under h.workingDirectory := by
  obtain ⟨n, hn⟩ := Nat.exists_eq_succ_of_ne_zero hn
  have hi : ∀ p ∈ _, (rebase h.workingDirectory)^[n + 1] p = _ := fun p hp =>
    iterate_rebase (hwd p hp).1 (hwd p hp).2 n
  have ha := (hwd Paths.init.agentLogPath (by simp)).1
  rw [paths_of_reach hr, hn]
  simp (disch := simp [Paths.init]) only [Process.init, Paths.mapData, Paths.under, hi, rebase,
    ha, Bool.false_eq_true, if_false]

theorem paths_after_spawn_at_start :
    ((Process.init demoHost).serve demoHost Sys.down startReq).paths =
      Paths.under demoHost.workingDirectory :=
  paths_after_spawn (Reach.init.step (.serve _ _ rfl)) (by unfold Paths.rebasesOnce; decide)
    (by decide)

/-! ### A relative working directory -/

/-- The agent started with `--working-directory ./w`. -/
def dotHost : Host := ⟨"./w", "/go", ""⟩

/-- A Start on that agent, and a Restart after it (both fail at once: only the globals
matter here). -/
def startedInDot : Process := (Process.init dotHost).serve dotHost Sys.down startReq

def restartedInDot : Process := startedInDot.serve dotHost Sys.down restartReq

/-- With the working directory `./w` the Start puts the etcd data in `w/data.etcd`, the join
of `./w` and `data.etcd`, and the Restart after it moves it to `w/w/data.etcd`:
`HasPrefix("w/data.etcd", "./w")` is false, so the join is made again. -/
theorem restart_rebases_again :
    Reach dotHost restartedInDot ∧
    startedInDot.paths.etcdDataDir =
      Filepath.join [dotHost.workingDirectory, Paths.init.etcdDataDir] ∧
    restartedInDot.paths.etcdDataDir = "w/w/data.etcd" ∧
    restartedInDot.paths.etcdDataDir ≠
      Filepath.join [dotHost.workingDirectory, Paths.init.etcdDataDir] :=
  ⟨(Reach.init.step (.serve _ _ rfl)).step (.serve _ _ (by decide)), by decide, by decide,
    by decide⟩

/-! ### The names of the uploaded files -/

/-- The files the monitor loop uploads. -/
inductive Artifact
  | databaseLog
  | monitorLog
  | agentLog
  deriving DecidableEq, Repr

/-- The global that holds an artifact's path. -/
def Artifact.path : Artifact → Paths → String
  | .databaseLog, g => g.databaseLogPath
  | .monitorLog, g => g.monitorLogPath
  | .agentLog, g => g.agentLogPath

/-- An artifact's file name: its initial path. -/
def Artifact.fileName (k : Artifact) : String := k.path Paths.init

theorem Artifact.isName (k : Artifact) : Filepath.IsName k.fileName := by
  unfold Filepath.IsName; cases k <;> decide

theorem Artifact.sep_not_mem (k : Artifact) : '/' ∉ k.fileName.data := by
  cases k <;> decide

theorem endsIn_rebase (wd : String) {e p : String} (h : Filepath.EndsIn e p)
    (he : Filepath.IsName e) (hs : '/' ∉ e.data) : Filepath.EndsIn e (rebase wd p) := by
  unfold rebase
  split
  · exact h
  · exact Filepath.endsIn_join wd h he hs

/-- **Each uploaded file keeps its name**: in every reachable state the path of each artifact
ends in its file name, whatever the working directory. -/
theorem artifact_endsIn {h : Host} {a : Process} (hr : Reach h a) (k : Artifact) :
    Filepath.EndsIn k.fileName (k.path a.paths) := by
  have hit : ∀ (n : Nat) (p : String), Filepath.EndsIn k.fileName p →
      Filepath.EndsIn k.fileName ((rebase h.workingDirectory)^[n] p) := by
    intro n
    induction n with
    | zero => exact fun _ hp => hp
    | succ n ih =>
      exact fun p hp => ih _ (endsIn_rebase _ hp k.isName k.sep_not_mem)
  rw [paths_of_reach hr]
  cases k
  · exact hit _ _ (.inl rfl)
  · exact hit _ _ (.inl rfl)
  · exact endsIn_rebase _ (.inl rfl) Artifact.agentLog.isName Artifact.agentLog.sep_not_mem

end DbTester.Agent
