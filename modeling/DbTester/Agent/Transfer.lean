import DbTester.Agent.Config

/-!
# `transporterServer.Transfer`

One call of the RPC handler, with the operating system as an input: `Sys` gives the outcome of
every system call the handler makes, and the handler returns its outcome, the new path
globals and server record, and what it did outside them (`Effect`), in order.

The handler is a chain of checks with early returns, and Go keeps every assignment made
before a return: `t.req = *r` comes first for a Start, and `t.logfile = f` comes before the
process is spawned. The Start cases of the three backends and the Restart case share one
shape, `launch`: preparation calls, opening the database log, building the command (an
index out of range panics), spawning it.

* `transfer`: the handler; `startEtcd`, `startZooKeeper`, `startConsul`, `restart`, `stop`;
* `launch_cases`: everything `launch` can do;
* `transfer_cases`: a call is the failed write of the credentials file or the operation switch;
* `transfer_error`: what a call that returns an error has changed.
-/

namespace DbTester.Agent

open Go

/-- What `Transfer` does outside its record: system calls, and the two goroutine actions
`databaseStopped <- struct{}{}` and `go func(processPID)` (the monitor loop). -/
inductive Effect
  | writeFile (path content : String)
  | stat (path : String)
  | removeAll (path : String)
  | chdir (path : String)
  | mkdirAll (path : String)
  | openToAppend (path : String)
  | start (c : Cmd)
  | kill (pid : Int)
  | close (f : File)
  | sendStopped
  | monitor (pid : Int)
  deriving DecidableEq, Repr

/-- The pid a monitor loop is started for. -/
def Effect.monitorPid : Effect → Option Int
  | .monitor pid => some pid
  | _ => none

theorem Effect.filterMap_monitorPid_eq_nil {l : List Effect} (hm : ∀ pid, .monitor pid ∉ l) :
    l.filterMap Effect.monitorPid = [] :=
  List.filterMap_eq_nil_iff.mpr fun e he => by
    cases e with
    | monitor pid => exact absurd he (hm pid)
    | _ => rfl

/-- The operating system's answers to the system calls of one `Transfer` call. -/
structure Sys where
  writeFile : String → String → Bool
  stat : String → Bool
  removeAll : String → Bool
  chdir : String → Bool
  mkdirAll : String → Bool
  openToAppend : String → Option File
  lookPath : String → Option String
  start : Cmd → Option Int
  kill : Int → Bool

/-- Whether a preparation call succeeds. -/
def Sys.ok (sys : Sys) : Effect → Bool
  | .writeFile p c => sys.writeFile p c
  | .stat p => sys.stat p
  | .removeAll p => sys.removeAll p
  | .chdir p => sys.chdir p
  | .mkdirAll p => sys.mkdirAll p
  | _ => true

/-- The errors `Transfer` returns: a system call's own error, and its three `fmt.Errorf`s. -/
inductive TransferError
  | sys (e : Effect)
  | nilCommand
  | unknownDatabase (d : Database)
  | notImplemented (op : Operation)
  deriving DecidableEq, Repr

/-- `String()` of the proto enums: the name, or the number of a value without one. -/
def Database.name : Database → String
  | .etcdv2 => "etcdv2" | .etcdv3 => "etcdv3" | .ZooKeeper => "ZooKeeper"
  | .Consul => "Consul" | .other n => toString n

def Operation.name : Operation → String
  | .Start => "Start" | .Stop => "Stop" | .Restart => "Restart" | .other n => toString n

/-- The texts of the handler's own errors (`%q` quotes, `%v` prints the name). -/
def TransferError.message? : TransferError → Option String
  | .sys _ => none
  | .nilCommand => some "nil command"
  | .unknownDatabase d => some ("unknown database (\"" ++ d.name ++ "\")")
  | .notImplemented op => some ("Not implemented " ++ op.name)

/-- How a call ends: the success response, an error, or a panic (a slice index out of range,
which ends the agent process). -/
inductive Outcome
  | ok
  | error (e : TransferError)
  | panic
  deriving DecidableEq, Repr

/-- One call: its outcome, the globals and the record after it, and its effects. -/
structure Reply where
  outcome : Outcome
  paths : Paths
  server : Server
  effects : List Effect

/-! ### The cases of the handler -/

/-- Preparation calls in order, up to the first that fails: the calls made and the failing
one. -/
def prepare (sys : Sys) : List Effect → List Effect × Option Effect
  | [] => ([], none)
  | c :: cs => if sys.ok c then ((c :: (prepare sys cs).1), (prepare sys cs).2) else ([c], some c)

/-- The tail shared by every case that spawns: preparation calls, opening the database log
(`t.logfile` from then on), the command (`none`: an index out of range), `cmd.Start()`
(`t.cmd` and `t.pid` from then on). -/
def launch (sys : Sys) (prep : List Effect) (logPath : String) (cmd : Option Cmd) (t : Server) :
    Outcome × Server × List Effect :=
  match prepare sys prep with
  | (made, some c) => (.error (.sys c), t, made)
  | (made, none) =>
    match sys.openToAppend logPath with
    | none => (.error (.sys (.openToAppend logPath)), t, made ++ [.openToAppend logPath])
    | some f =>
      match cmd with
      | none => (.panic, { t with logfile := some f }, made ++ [.openToAppend logPath])
      | some c =>
        match (if c.lookPathErr then none else sys.start c) with
        | none => (.error (.sys (.start c)), { t with logfile := some f },
            made ++ [.openToAppend logPath, .start c])
        | some pid => (.ok, { t with logfile := some f, cmd := some c, pid := pid },
            made ++ [.openToAppend logPath, .start c])

/-- The `Request_etcdv2, Request_etcdv3` case of a Start. -/
def startEtcd (h : Host) (sys : Sys) (g : Paths) (peerIPs : List String) (t : Server) :
    Outcome × Server × List Effect :=
  launch sys [.stat h.etcdBinaryPath, .removeAll g.etcdDataDir] g.databaseLogPath
    ((etcdFlags g peerIPs t.req).map (command sys.lookPath h.etcdBinaryPath)) t

/-- The `Request_ZooKeeper` case of a Start. -/
def startZooKeeper (h : Host) (sys : Sys) (g : Paths) (peerIPs : List String) (t : Server) :
    Outcome × Server × List Effect :=
  let configFilePath := Filepath.join [g.zkWorkingDir, zkConfigPath]
  launch sys
    [.stat javaBinaryPath, .chdir g.zkWorkingDir, .mkdirAll g.zkDataDir,
      .writeFile (Filepath.join [g.zkDataDir, "myid"]) (myid t.req),
      .writeFile configFilePath (zkTemplate (zkConfig g peerIPs t.req))]
    g.databaseLogPath (some (command sys.lookPath h.shell (zkArgs h configFilePath).tail)) t

/-- The `Request_Consul` case of a Start. -/
def startConsul (h : Host) (sys : Sys) (g : Paths) (peerIPs : List String) (t : Server) :
    Outcome × Server × List Effect :=
  launch sys [.stat h.consulBinaryPath, .removeAll g.consulDataDir] g.databaseLogPath
    ((consulFlags g peerIPs t.req).map (command sys.lookPath h.consulBinaryPath)) t

/-- The Restart case: the recorded command again, `exec.Command(t.cmd.Path, t.cmd.Args[1:]...)`,
after moving into the ZooKeeper directory when the request names ZooKeeper. -/
def restart (sys : Sys) (g : Paths) (r : Request) (t : Server) :
    Outcome × Server × List Effect :=
  match t.cmd with
  | none => (.error .nilCommand, t, [])
  | some c =>
    launch sys (if r.database = .ZooKeeper then [.chdir g.zkWorkingDir] else [])
      g.databaseLogPath
      (match c.args with
        | [] => none
        | _ :: rest => some (command sys.lookPath c.path rest)) t

/-- The Stop case: signal the recorded pid, close the log file, tell the monitor loop. -/
def stop (sys : Sys) (t : Server) : Outcome × Server × List Effect :=
  match t.cmd with
  | none => (.error .nilCommand, t, [])
  | some _ =>
    if sys.kill t.pid then
      (.ok, t, [.kill t.pid] ++ (t.logfile.map Effect.close).toList ++ [.sendStopped])
    else (.error (.sys (.kill t.pid)), t, [.kill t.pid])

/-- Whether an operation starts a process. -/
def Operation.spawns (op : Operation) : Bool := op = .Start ∨ op = .Restart

theorem Operation.spawns_iff {op : Operation} :
    op.spawns = true ↔ op = .Start ∨ op = .Restart := by
  simp [Operation.spawns]

/-- The switch on the operation, after the credentials are written. -/
def dispatch (h : Host) (sys : Sys) (r : Request) (peerIPs : List String) (g : Paths)
    (t : Server) : Outcome × Server × List Effect :=
  match r.operation with
  | .Start =>
    match t.req.database with
    | .etcdv2 | .etcdv3 => startEtcd h sys g peerIPs t
    | .ZooKeeper => startZooKeeper h sys g peerIPs t
    | .Consul => startConsul h sys g peerIPs t
    | .other _ => (.error (.unknownDatabase r.database), t, [])
  | .Restart => restart sys g r t
  | .Stop => stop sys t
  | .other _ => (.error (.notImplemented r.operation), t, [])

/-- `Transfer` after its first assignments: the credentials file, then the switch, then the
monitor loop for a Start or Restart that got through. -/
def transferBody (h : Host) (sys : Sys) (r : Request) (g : Paths) (t : Server) : Reply :=
  let keyPath := Filepath.join [h.workingDirectory, "gcloud-key.json"]
  let key := t.req.googleCloudStorageKey
  if key ≠ "" ∧ !sys.writeFile keyPath key then
    ⟨.error (.sys (.writeFile keyPath key)), g, t, [.writeFile keyPath key]⟩
  else
    let wrote := if key ≠ "" then [Effect.writeFile keyPath key] else []
    let d := dispatch h sys r (Strings.split r.peerIPString "___") g t
    let mon := if r.operation.spawns ∧ d.1 = .ok then [Effect.monitor d.2.1.pid] else []
    ⟨d.1, g, d.2.1, wrote ++ d.2.2 ++ mon⟩

/-- `Transfer(ctx, r)`: the paths are rebased for a Start or Restart, and a Start records its
request, before anything can fail. -/
def transfer (h : Host) (sys : Sys) (r : Request) (g : Paths) (t : Server) : Reply :=
  transferBody h sys r (if r.operation.spawns then g.rebaseAll h.workingDirectory else g)
    (if r.operation = .Start then { t with req := r } else t)

/-- An error outcome. -/
def Outcome.isError : Outcome → Bool
  | .error _ => true
  | _ => false

/-! ### What each case can do -/

theorem prepare_subset (sys : Sys) (cs : List Effect) : (prepare sys cs).1 ⊆ cs := by
  induction cs with
  | nil => simp [prepare]
  | cons c cs ih =>
    unfold prepare
    split
    · exact List.cons_subset_cons _ ih
    · simp

theorem prepare_eq_of_none {sys : Sys} {cs : List Effect} (h : (prepare sys cs).2 = none) :
    (prepare sys cs).1 = cs := by
  induction cs with
  | nil => rfl
  | cons c cs ih =>
    unfold prepare at h ⊢
    by_cases hc : sys.ok c = true
    · simp only [hc, if_true] at h ⊢
      rw [ih h]
    · simp [hc] at h

/-- **Everything `launch` can do**: stop at a failed preparation call or a failed open with
the record unchanged; or open the log `f` and then panic, fail to spawn, or spawn. It makes
no other calls than those given, the open and the spawn. -/
theorem launch_cases {sys : Sys} {prep : List Effect} {logPath : String} {cmd : Option Cmd}
    {t t' : Server} {o : Outcome} {effs : List Effect}
    (h : launch sys prep logPath cmd t = (o, t', effs)) :
    effs ⊆ prep ++ [.openToAppend logPath] ++ cmd.toList.map .start ∧
    ((o.isError ∧ t' = t) ∨
     ∃ f, sys.openToAppend logPath = some f ∧
      ((o = .panic ∧ t' = { t with logfile := some f }) ∨
       (∃ c, cmd = some c ∧ o = .error (.sys (.start c)) ∧ t' = { t with logfile := some f }) ∨
       (∃ c pid, cmd = some c ∧ o = .ok ∧
         t' = { t with logfile := some f, cmd := some c, pid := pid } ∧
         effs = prep ++ [.openToAppend logPath, .start c] ∧
         c.lookPathErr = false ∧ sys.start c = some pid))) := by
  have hsub := prepare_subset sys prep
  unfold launch at h
  split at h
  case h_1 made c hp =>
    cases h
    rw [hp] at hsub
    exact ⟨fun x hx => List.mem_append_left _ (List.mem_append_left _ (hsub hx)), .inl ⟨rfl, rfl⟩⟩
  rename_i made hp
  obtain rfl : made = prep := by simpa [hp] using @prepare_eq_of_none sys prep
  split at h
  · cases h
    exact ⟨by simp, .inl ⟨rfl, rfl⟩⟩
  rename_i f hf
  split at h
  · cases h
    exact ⟨by simp, .inr ⟨f, hf, .inl ⟨rfl, rfl⟩⟩⟩
  rename_i c
  split at h
  · cases h
    exact ⟨by simp, .inr ⟨f, hf, .inr (.inl ⟨c, rfl, rfl, rfl⟩)⟩⟩
  rename_i pid hs
  cases h
  have hl : c.lookPathErr = false := by cases hl : c.lookPathErr <;> simp_all
  exact ⟨by simp, .inr ⟨f, hf, .inr (.inr ⟨c, pid, rfl, rfl, rfl, rfl, hl,
    by simpa [hl] using hs⟩)⟩⟩

/-- A `launch` that gets through started its command: the lookup did not fail, the system
gave the pid, and the record holds both. -/
theorem launch_ok {sys : Sys} {prep : List Effect} {logPath : String} {cmd : Option Cmd}
    {t t' : Server} {effs : List Effect} (h : launch sys prep logPath cmd t = (.ok, t', effs)) :
    ∃ c, cmd = some c ∧ c.lookPathErr = false ∧ sys.start c = some t'.pid ∧
      t'.cmd = some c ∧ .start c ∈ effs := by
  rcases (launch_cases h).2 with ⟨he, -⟩ | ⟨f, -, ⟨he, -⟩ | ⟨c, -, he, -⟩ |
    ⟨c, pid, rfl, -, rfl, rfl, hl, hs⟩⟩
  · cases he
  · cases he
  · cases he
  · exact ⟨c, rfl, hl, hs, rfl, by simp⟩

/-- `launch` with preparation calls that start no monitor loop: it starts none either, keeps
`req`, and changes the record only after opening the log. -/
theorem launch_spawn_cases {sys : Sys} {prep : List Effect} {logPath : String}
    {cmd : Option Cmd} {t t' : Server} {o : Outcome} {effs : List Effect}
    (hprep : ∀ pid, .monitor pid ∉ prep) (h : launch sys prep logPath cmd t = (o, t', effs)) :
    (∀ pid, .monitor pid ∉ effs) ∧ t'.req = t.req ∧
    ((t' = t ∧ o ≠ .ok) ∨ ∃ f, sys.openToAppend logPath = some f ∧
      ((t' = { t with logfile := some f } ∧ (o = .panic ∨ ∃ c, o = .error (.sys (.start c)))) ∨
       (o = .ok ∧ ∃ c pid, cmd = some c ∧
         t' = { t with logfile := some f, cmd := some c, pid := pid }))) := by
  obtain ⟨hsub, hc⟩ := launch_cases h
  refine ⟨fun pid hm => ?_, ?_, ?_⟩
  · rcases List.mem_append.mp (hsub hm) with hm | hm
    · rcases List.mem_append.mp hm with hm | hm
      · exact hprep pid hm
      · simp at hm
    · cases cmd <;> simp at hm
  · rcases hc with ⟨-, rfl⟩ | ⟨f, -, ⟨-, rfl⟩ | ⟨c, -, -, rfl⟩ | ⟨c, pid, -, -, rfl, -⟩⟩ <;> rfl
  · rcases hc with ⟨he, rfl⟩ | ⟨f, hf, ⟨rfl, rfl⟩ | ⟨c, -, rfl, rfl⟩ | ⟨c, pid, hc, rfl, rfl, -⟩⟩
    · exact .inl ⟨rfl, by cases o <;> simp_all [Outcome.isError]⟩
    · exact .inr ⟨f, hf, .inl ⟨rfl, .inl rfl⟩⟩
    · exact .inr ⟨f, hf, .inl ⟨rfl, .inr ⟨c, rfl⟩⟩⟩
    · exact .inr ⟨f, hf, .inr ⟨rfl, c, pid, hc, rfl⟩⟩

/-- **What the operation switch reduces to**: an error with the record unchanged, the Stop of
a recorded command, or `launch` for a Start or Restart. -/
theorem dispatch_cases {h : Host} {sys : Sys} {r : Request} {peerIPs : List String} {g : Paths}
    {t t' : Server} {o : Outcome} {effs : List Effect}
    (hd : dispatch h sys r peerIPs g t = (o, t', effs)) :
    (o.isError ∧ t' = t ∧ effs = []) ∨
    (r.operation = .Stop ∧ t.cmd ≠ none ∧ stop sys t = (o, t', effs)) ∨
    (r.operation.spawns ∧ ∃ prep cmd, (∀ pid, .monitor pid ∉ prep) ∧ .sendStopped ∉ prep ∧
      launch sys prep g.databaseLogPath cmd t = (o, t', effs)) := by
  have err : ∀ e, ((.error e : Outcome), t, ([] : List Effect)) = (o, t', effs) →
      o.isError ∧ t' = t ∧ effs = [] := by
    intro e he
    simp only [Prod.mk.injEq] at he
    obtain ⟨rfl, rfl, rfl⟩ := he
    exact ⟨rfl, rfl, rfl⟩
  unfold dispatch at hd
  rcases hop : r.operation with _ | _ | _ | n <;> simp only [hop] at hd
  · rcases hdb : t.req.database with _ | _ | _ | _ | n <;>
      simp only [hdb, startEtcd, startZooKeeper, startConsul] at hd
    case other => exact .inl (err _ hd)
    all_goals exact .inr (.inr ⟨rfl, _, _, by simp, by simp, hd⟩)
  · rcases hcmd : t.cmd with _ | c
    · simp only [stop, hcmd] at hd
      exact .inl (err _ hd)
    · exact .inr (.inl ⟨rfl, by simp, hd⟩)
  · unfold restart at hd
    rcases hcmd : t.cmd with _ | c <;> simp only [hcmd] at hd
    · exact .inl (err _ hd)
    · exact .inr (.inr ⟨rfl, _, _, by split <;> simp, by split <;> simp, hd⟩)
  · exact .inl (err _ hd)

theorem stop_cases {sys : Sys} {t t' : Server} {o : Outcome} {effs : List Effect}
    (hc : t.cmd ≠ none) (h : stop sys t = (o, t', effs)) :
    t' = t ∧ .kill t.pid ∈ effs ∧ (∀ pid, .monitor pid ∉ effs) ∧
    (o = .ok ∨ (o.isError ∧ effs = [.kill t.pid])) := by
  obtain ⟨c, hc⟩ := Option.ne_none_iff_exists'.mp hc
  simp only [stop, hc] at h
  split at h <;> simp only [Prod.mk.injEq] at h <;> obtain ⟨rfl, rfl, rfl⟩ := h
  · exact ⟨rfl, by simp, by cases t.logfile <;> simp, .inl rfl⟩
  · exact ⟨rfl, by simp, by simp, .inr ⟨rfl, rfl⟩⟩

/-- The operation switch starts no monitor loop and keeps `req`; when it fails, `cmd` and
`pid` are as they were, and `logfile` too unless spawning failed after the log was opened. -/
theorem dispatch_spec {h : Host} {sys : Sys} {r : Request} {peerIPs : List String} {g : Paths}
    {t t' : Server} {o : Outcome} {effs : List Effect}
    (hd : dispatch h sys r peerIPs g t = (o, t', effs)) :
    (∀ pid, .monitor pid ∉ effs) ∧ t'.req = t.req ∧
    (o.isError → t'.cmd = t.cmd ∧ t'.pid = t.pid ∧
      (t'.logfile = t.logfile ∨ ∃ c f, o = .error (.sys (.start c)) ∧
        sys.openToAppend g.databaseLogPath = some f ∧ t'.logfile = some f)) := by
  rcases dispatch_cases hd with ⟨-, rfl, rfl⟩ | ⟨-, hc, hs⟩ | ⟨-, prep, cmd, hp, -, hl⟩
  · exact ⟨by simp, rfl, fun _ => ⟨rfl, rfl, .inl rfl⟩⟩
  · obtain ⟨rfl, -, hm, -⟩ := stop_cases hc hs
    exact ⟨hm, rfl, fun _ => ⟨rfl, rfl, .inl rfl⟩⟩
  · obtain ⟨hm, hreq, hc⟩ := launch_spawn_cases hp hl
    refine ⟨hm, hreq, fun he => ?_⟩
    rcases hc with ⟨rfl, -⟩ | ⟨f, hf, ⟨rfl, hpe⟩ | ⟨rfl, -⟩⟩
    · exact ⟨rfl, rfl, .inl rfl⟩
    · rcases hpe with rfl | ⟨c, rfl⟩
      · cases he
      · exact ⟨rfl, rfl, .inr ⟨c, f, rfl, hf, rfl⟩⟩
    · cases he

/-- The switch changes `cmd` and `pid` only in a Start or Restart that spawns, and then
records a command. -/
theorem dispatch_cmd_pid {h : Host} {sys : Sys} {r : Request} {peerIPs : List String}
    {g : Paths} {t t' : Server} {o : Outcome} {effs : List Effect}
    (hd : dispatch h sys r peerIPs g t = (o, t', effs)) :
    (r.operation.spawns ∧ o = .ok → t'.cmd ≠ none) ∧
    (¬ (r.operation.spawns ∧ o = .ok) → t'.cmd = t.cmd ∧ t'.pid = t.pid) := by
  rcases dispatch_cases hd with ⟨he, rfl, -⟩ | ⟨hop, hc, hs⟩ | ⟨hsp, prep, cmd, hp, -, hl⟩
  · exact ⟨fun ⟨_, ho⟩ => by simp [ho, Outcome.isError] at he, fun _ => ⟨rfl, rfl⟩⟩
  · obtain ⟨rfl, -⟩ := stop_cases hc hs
    exact ⟨fun ⟨hsp, _⟩ => by simp [Operation.spawns, hop] at hsp, fun _ => ⟨rfl, rfl⟩⟩
  · obtain ⟨-, -, hc⟩ := launch_spawn_cases hp hl
    rcases hc with ⟨rfl, ho⟩ | ⟨f, -, ⟨rfl, ho⟩ | ⟨rfl, c, pid, -, rfl⟩⟩
    · exact ⟨fun ⟨_, h'⟩ => absurd h' ho, fun _ => ⟨rfl, rfl⟩⟩
    · refine ⟨fun ⟨_, h'⟩ => ?_, fun _ => ⟨rfl, rfl⟩⟩
      rcases ho with rfl | ⟨c, rfl⟩ <;> cases h'
    · exact ⟨fun _ => by simp, fun hn => absurd ⟨hsp, rfl⟩ hn⟩

/-! ### What a call reduces to -/

/-- **What a call reduces to**, on the globals and the record it works on: the failed write of
the credentials file, or the operation switch with that write before it and the monitor loop
after it. -/
theorem transfer_cases (h : Host) (sys : Sys) (r : Request) (g : Paths) (t : Server) :
    ∃ g₁ t₁, g₁ = (if r.operation.spawns then g.rebaseAll h.workingDirectory else g) ∧
      t₁ = (if r.operation = .Start then { t with req := r } else t) ∧
      ((∃ p k, transfer h sys r g t = ⟨.error (.sys (.writeFile p k)), g₁, t₁, [.writeFile p k]⟩) ∨
       ∃ o t' effs wrote,
        dispatch h sys r (Strings.split r.peerIPString "___") g₁ t₁ = (o, t', effs) ∧
        (∀ e ∈ wrote, ∃ p k, e = .writeFile p k) ∧
        transfer h sys r g t = ⟨o, g₁, t', wrote ++ effs ++
          if r.operation.spawns ∧ o = .ok then [.monitor t'.pid] else []⟩) := by
  refine ⟨_, _, rfl, rfl, ?_⟩
  unfold transfer
  generalize (if r.operation.spawns then g.rebaseAll h.workingDirectory else g) = g₁
  generalize (if r.operation = .Start then { t with req := r } else t) = t₁
  by_cases hk : t₁.req.googleCloudStorageKey ≠ "" ∧
    !sys.writeFile (Filepath.join [h.workingDirectory, "gcloud-key.json"])
      t₁.req.googleCloudStorageKey
  · exact .inl ⟨_, _, by simp only [transferBody]; rw [if_pos hk]⟩
  · obtain ⟨⟨o, t', effs⟩, hd⟩ :
        ∃ d, dispatch h sys r (Strings.split r.peerIPString "___") g₁ t₁ = d := ⟨_, rfl⟩
    refine .inr ⟨o, t', effs, _, hd, ?_, by simp only [transferBody]; rw [if_neg hk, hd]⟩
    split <;> simp

/-- The record a call works on (`t.req = *r` for a Start, before any check) agrees with `t`
on every field but `req`. -/
theorem callRecord_field {α : Type} (r : Request) (t : Server) (f : Server → α)
    (hf : f { t with req := r } = f t) :
    f (if r.operation = .Start then { t with req := r } else t) = f t := by
  split
  exacts [hf, rfl]

/-! ### A call that fails -/

/-- **A call that returns an error** starts no monitor loop and leaves `cmd` and `pid` as they
were. It has changed `req` exactly when the request is a Start (to the request), and `logfile`
only when spawning the process failed (to the database log it had just opened). -/
theorem transfer_error {h : Host} {sys : Sys} {r : Request} {g : Paths} {t : Server}
    {e : TransferError} (he : (transfer h sys r g t).outcome = .error e) :
    (∀ pid, .monitor pid ∉ (transfer h sys r g t).effects) ∧
    (transfer h sys r g t).server.cmd = t.cmd ∧ (transfer h sys r g t).server.pid = t.pid ∧
    (transfer h sys r g t).server.req = (if r.operation = .Start then r else t.req) ∧
    ((transfer h sys r g t).server.logfile = t.logfile ∨ ∃ c f, e = .sys (.start c) ∧
      sys.openToAppend (transfer h sys r g t).paths.databaseLogPath = some f ∧
      (transfer h sys r g t).server.logfile = some f) := by
  have hreq : (if r.operation = .Start then { t with req := r } else t).req =
      if r.operation = .Start then r else t.req := by split <;> rfl
  have hcmd := callRecord_field r t Server.cmd rfl
  have hpid := callRecord_field r t Server.pid rfl
  have hlog := callRecord_field r t Server.logfile rfl
  obtain ⟨g₁, t₁, -, rfl, ⟨p, k, htr⟩ | ⟨o, t', effs, wrote, hd, hw, htr⟩⟩ :=
    transfer_cases h sys r g t <;> rw [htr] at he ⊢
  · exact ⟨by simp, hcmd, hpid, hreq, .inl hlog⟩
  · cases he
    obtain ⟨hm, hr, hc⟩ := dispatch_spec hd
    obtain ⟨hc', hp', hl'⟩ := hc rfl
    refine ⟨fun pid hin => ?_, hc'.trans hcmd, hp'.trans hpid, hr.trans hreq, ?_⟩
    · rcases List.mem_append.mp hin with hin | hin
      · rcases List.mem_append.mp hin with hin | hin
        · obtain ⟨_, _, he⟩ := hw _ hin
          cases he
        · exact hm pid hin
      · simp at hin
    · rcases hl' with hl' | ⟨c, f, hce, hf, hl''⟩
      · exact .inl (hl'.trans hlog)
      · exact .inr ⟨c, f, by cases hce; rfl, hf, hl''⟩

/-! ### A Start on a host without etcd -/

/-- An agent in `/srv/agent` with `GOPATH=/go` and no `SHELL`. -/
def demoHost : Host := ⟨"/srv/agent", "/go", ""⟩

/-- An operating system on which every call fails. -/
def Sys.down : Sys :=
  ⟨fun _ _ => false, fun _ => false, fun _ => false, fun _ => false, fun _ => false,
    fun _ => none, fun _ => none, fun _ => none, fun _ => false⟩

/-- A Start of etcd v2 on one peer. -/
def startReq : Request := { (default : Request) with peerIPString := "10.0.0.1", testName := "run" }

/-- The first request to a fresh agent, a Start, failing at the check for the etcd binary. -/
def failedStart : Reply := transfer demoHost Sys.down startReq Paths.init Server.init

theorem transfer_error_at_failedStart :
    failedStart.outcome = .error (.sys (.stat "/go/bin/etcd")) ∧
    (∀ pid, .monitor pid ∉ failedStart.effects) ∧
    failedStart.server.cmd = Server.init.cmd ∧ failedStart.server.pid = Server.init.pid ∧
    failedStart.server.req = (if startReq.operation = .Start then startReq else Server.init.req) ∧
    (failedStart.server.logfile = Server.init.logfile ∨ ∃ c f,
      TransferError.sys (.stat "/go/bin/etcd") = .sys (.start c) ∧
      Sys.down.openToAppend failedStart.paths.databaseLogPath = some f ∧
      failedStart.server.logfile = some f) :=
  have he : failedStart.outcome = .error (.sys (.stat "/go/bin/etcd")) := by decide
  ⟨he, transfer_error he⟩

/-- A failed Start does change the record: it keeps the request it failed on. -/
theorem failed_start_keeps_request :
    ¬ ∀ (h : Host) (sys : Sys) (r : Request) (g : Paths) (t : Server),
      (transfer h sys r g t).outcome.isError →
        (transfer h sys r g t).server = t ∧ ∀ pid, .monitor pid ∉ (transfer h sys r g t).effects :=
  fun hall => absurd (hall demoHost Sys.down startReq Paths.init Server.init (by decide)).1
    (by decide)

/-! ### What a call leaves behind -/

/-- The globals after a call: rebased for a Start or a Restart, whatever the outcome. -/
theorem transfer_paths (h : Host) (sys : Sys) (r : Request) (g : Paths) (t : Server) :
    (transfer h sys r g t).paths =
      if r.operation.spawns then g.rebaseAll h.workingDirectory else g := by
  unfold transfer transferBody
  generalize (if r.operation = .Start then { t with req := r } else t) = t₁
  generalize (if r.operation.spawns then g.rebaseAll h.workingDirectory else g) = g₁
  dsimp only
  split <;> rfl

/-- **The record and the monitor loops**: a Start or Restart that gets through records a
command and starts one monitor loop, for the new pid; any other call leaves `cmd` and `pid`
as they were and starts none. -/
theorem transfer_monitors (h : Host) (sys : Sys) (r : Request) (g : Paths) (t : Server) :
    (r.operation.spawns ∧ (transfer h sys r g t).outcome = .ok →
      (transfer h sys r g t).server.cmd ≠ none ∧
      (transfer h sys r g t).effects.filterMap Effect.monitorPid =
        [(transfer h sys r g t).server.pid]) ∧
    (¬ (r.operation.spawns ∧ (transfer h sys r g t).outcome = .ok) →
      (transfer h sys r g t).server.cmd = t.cmd ∧ (transfer h sys r g t).server.pid = t.pid ∧
      (transfer h sys r g t).effects.filterMap Effect.monitorPid = []) := by
  have hcmd := callRecord_field r t Server.cmd rfl
  have hpid := callRecord_field r t Server.pid rfl
  obtain ⟨g₁, t₁, -, rfl, ⟨p, k, htr⟩ | ⟨o, t', effs, wrote, hd, hw, htr⟩⟩ :=
    transfer_cases h sys r g t <;> rw [htr]
  · exact ⟨fun ⟨_, h'⟩ => (by cases h'), fun _ => ⟨hcmd, hpid, rfl⟩⟩
  · obtain ⟨hok, hnot⟩ := dispatch_cmd_pid hd
    have hwrote : ∀ pid, .monitor pid ∉ wrote := fun pid hin => by
      obtain ⟨_, _, he⟩ := hw _ hin
      cases he
    simp only [List.filterMap_append, Effect.filterMap_monitorPid_eq_nil hwrote,
      Effect.filterMap_monitorPid_eq_nil (dispatch_spec hd).1, List.nil_append]
    refine ⟨fun hsp => ⟨hok hsp, by simp [hsp, Effect.monitorPid]⟩, fun hn => ?_⟩
    obtain ⟨hc, hp⟩ := hnot hn
    exact ⟨hc.trans hcmd, hp.trans hpid, by simp [hn]⟩

/-- **A Stop** changes nothing in the record. Without a recorded command it fails with no
Kill, no Close and no send; with one it calls Kill on the recorded pid, unless writing the
credentials file failed first. -/
theorem transfer_stop {h : Host} {sys : Sys} {r : Request} {g : Paths} {t : Server}
    (hop : r.operation = .Stop) :
    (transfer h sys r g t).server = t ∧ (transfer h sys r g t).paths = g ∧
    (t.cmd = none → (transfer h sys r g t).outcome.isError ∧
      ∀ e ∈ (transfer h sys r g t).effects, ∃ p k, e = .writeFile p k) ∧
    (t.cmd ≠ none → .kill t.pid ∈ (transfer h sys r g t).effects ∨
      ∃ p k, (transfer h sys r g t).outcome = .error (.sys (.writeFile p k))) := by
  have hsp : r.operation.spawns = false := by simp [Operation.spawns, hop]
  obtain ⟨g₁, t₁, hg, ht, ⟨p, k, htr⟩ | ⟨o, t', effs, wrote, hd, hw, htr⟩⟩ :=
    transfer_cases h sys r g t <;>
    simp only [hsp, hop, Bool.false_eq_true, reduceCtorEq, if_false] at hg ht <;> subst g₁ t₁ <;>
    rw [htr]
  · exact ⟨rfl, rfl, fun _ => ⟨rfl, by simp⟩, fun _ => .inr ⟨_, _, rfl⟩⟩
  · have hd' : stop sys t = (o, t', effs) := by simpa [dispatch, hop] using hd
    simp only [hsp, Bool.false_eq_true, false_and, if_false, List.append_nil]
    refine ⟨?_, rfl, fun hc => ?_, fun hc => .inl ?_⟩
    · rcases hc : t.cmd with _ | c
      · simp only [stop, hc, Prod.mk.injEq] at hd'
        exact hd'.2.1.symm
      · exact (stop_cases (by simp [hc]) hd').1
    · simp only [stop, hc, Prod.mk.injEq] at hd'
      obtain ⟨rfl, -, rfl⟩ := hd'
      exact ⟨rfl, fun e he => hw e (by simpa using he)⟩
    · exact List.mem_append_right _ (stop_cases hc hd').2.1

/-- **Only a Stop of a recorded command tells a monitor loop**: a call that sends on
`databaseStopped` is a Stop, made while the record held a command. -/
theorem transfer_sendStopped {h : Host} {sys : Sys} {r : Request} {g : Paths} {t : Server}
    (hs : .sendStopped ∈ (transfer h sys r g t).effects) : r.operation = .Stop ∧ t.cmd ≠ none := by
  have hcmd := callRecord_field r t Server.cmd rfl
  obtain ⟨g₁, t₁, -, rfl, ⟨p, k, htr⟩ | ⟨o, t', effs, wrote, hd, hw, htr⟩⟩ :=
    transfer_cases h sys r g t <;> rw [htr] at hs
  · simp at hs
  have he : .sendStopped ∈ effs := by
    simp only [List.mem_append] at hs
    rcases hs with (hs | hs) | hs
    · obtain ⟨_, _, he⟩ := hw _ hs
      cases he
    · exact hs
    · split at hs <;> simp at hs
  rcases dispatch_cases hd with ⟨-, -, rfl⟩ | ⟨hop, hc, -⟩ | ⟨-, prep, cmd, -, hp, hl⟩
  · cases he
  · exact ⟨hop, hcmd ▸ hc⟩
  · exact absurd (by simpa using (launch_cases hl).1 he) hp

/-! ### Where a Start can panic -/

end DbTester.Agent
