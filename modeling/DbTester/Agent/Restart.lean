import DbTester.Agent.Supervisor

/-!
# What a Restart launches

A Restart builds its command again from the record, `exec.Command(t.cmd.Path,
t.cmd.Args[1:]...)`, and starts it against a freshly opened log. `exec.Command` keeps a path
that has a directory part and looks a bare name up in `PATH` again. So a Restart launches the
arguments of the command it replaces. It launches the same executable exactly when that
command's path has a directory part. For etcd and Consul it always has one, since their
binaries are under `$GOPATH/bin`. For ZooKeeper it has one when `LookPath` resolved the shell
to such a path.

* `dispatch_start_ok`, `dispatch_restart_ok`, `transfer_spawned`: what a Start or Restart
  that gets through records and launches;
* `serveCalls`, `lastStart`: serial calls to one agent, and the most recent Start that got
  through;
* `RestartInv`, `restartInv_step`, `restartInv_run`: the recorded command launches what the
  most recent Start launched, along every sequence of calls;
* `reach_servedBy`: every run of the agent process serves such a sequence of calls;
* `restart_relaunches`: what every Restart that gets through launches;
* `restart_changes_bare_path`: `sh` found as `sh` at the Start and as `/bin/sh` at the
  Restart.
-/

namespace DbTester.Agent

open Go

/-! ### A Start or Restart that gets through -/

section Spawn

variable {h : Host} {sys : Sys} {r : Request} {peerIPs : List String} {g : Paths}
  {t t' : Server} {effs : List Effect}

/-- A launch of `$GOPATH/bin`'s binary that gets through ran a command whose path has a
directory part. -/
theorem launch_binary_ok {prep : List Effect} {logPath bin : String} {flags : Option (List String)}
    (hb : Filepath.base bin ≠ bin)
    (hd : launch sys prep logPath (flags.map (command sys.lookPath bin)) t = (.ok, t', effs)) :
    ∃ c, t'.cmd = some c ∧ sys.start c = some t'.pid ∧ .start c ∈ effs ∧
      Filepath.base c.path ≠ c.path := by
  obtain ⟨c, hc, -, hs, ht, he⟩ := launch_ok hd
  obtain ⟨_, -, rfl⟩ := Option.map_eq_some'.mp hc
  exact ⟨_, ht, hs, he, by rw [command_path_of_base_ne _ _ hb]; exact hb⟩

/-- A Start that gets through launched a command with the pid the system gave; for etcd and
Consul its path is the binary's, which has a directory part. -/
theorem dispatch_start_ok (hop : r.operation = .Start)
    (hd : dispatch h sys r peerIPs g t = (.ok, t', effs)) :
    ∃ c, t'.cmd = some c ∧ sys.start c = some t'.pid ∧ .start c ∈ effs ∧
      (t.req.database ≠ .ZooKeeper → Filepath.base c.path ≠ c.path) := by
  unfold dispatch at hd
  rw [hop] at hd
  dsimp only at hd
  split at hd
  case h_3 hz =>
    unfold startZooKeeper at hd
    obtain ⟨c, -, -, hs, ht, he⟩ := launch_ok hd
    exact ⟨c, ht, hs, he, fun hz' => absurd hz hz'⟩
  case h_5 => cases hd
  all_goals
    obtain ⟨c, ht, hs, he, hb⟩ := launch_binary_ok
      (by first | exact h.base_etcdBinaryPath_ne | exact h.base_consulBinaryPath_ne) hd
    exact ⟨c, ht, hs, he, fun _ => hb⟩

/-- A Restart that gets through launched `exec.Command(c.Path, c.Args[1:]...)` for the
recorded command `c`, with the pid the system gave. -/
theorem dispatch_restart_ok (hop : r.operation = .Restart)
    (hd : dispatch h sys r peerIPs g t = (.ok, t', effs)) :
    ∃ c₀, t.cmd = some c₀ ∧ t'.cmd = some (command sys.lookPath c₀.path c₀.args.tail) ∧
      sys.start (command sys.lookPath c₀.path c₀.args.tail) = some t'.pid ∧
      .start (command sys.lookPath c₀.path c₀.args.tail) ∈ effs := by
  unfold dispatch restart at hd
  rw [hop] at hd
  dsimp only at hd
  split at hd
  · cases hd
  rename_i c₀ hc₀
  obtain ⟨c, hc, -, hs, ht, he⟩ := launch_ok hd
  split at hc
  · cases hc
  rename_i a rest ha
  cases hc
  refine ⟨c₀, hc₀, ?_⟩
  rw [ha]
  exact ⟨ht, hs, he⟩

/-- **A Start or Restart that gets through** records the command it launched, with the pid
the system gave. A Start records its request. Its command has a directory part unless the
database is ZooKeeper. A Restart launches the recorded command again. -/
theorem transfer_spawned (hsp : r.operation.spawns) (hok : (transfer h sys r g t).outcome = .ok) :
    ∃ c, (transfer h sys r g t).server.cmd = some c ∧ .start c ∈ (transfer h sys r g t).effects ∧
      sys.start c = some (transfer h sys r g t).server.pid ∧
      (r.operation = .Start → (transfer h sys r g t).server.req = r ∧
        (r.database ≠ .ZooKeeper → Filepath.base c.path ≠ c.path)) ∧
      (r.operation = .Restart → ∃ c₀, t.cmd = some c₀ ∧
        c = command sys.lookPath c₀.path c₀.args.tail) := by
  obtain ⟨g₁, t₁, -, ht₁, ⟨p, k, htr⟩ | ⟨o, t', effs, wrote, hd, -, htr⟩⟩ :=
    transfer_cases h sys r g t <;> rw [htr] at hok ⊢
  · cases hok
  cases hok
  have hreq := (dispatch_spec hd).2.1
  rcases Operation.spawns_iff.mp hsp with hop | hop
  · obtain ⟨c, ht, hs, he, hdir⟩ := dispatch_start_ok hop hd
    have hr : t₁.req = r := by rw [ht₁, if_pos hop]
    exact ⟨c, ht, List.mem_append_left _ (List.mem_append_right _ he), hs,
      fun _ => ⟨hreq.trans hr, fun hz => hdir (hr ▸ hz)⟩,
      fun hop' => (by cases hop.symm.trans hop')⟩
  · obtain ⟨c₀, hc₀, ht, hs, he⟩ := dispatch_restart_ok hop hd
    rw [ht₁, if_neg (by rw [hop]; decide)] at hc₀
    exact ⟨_, ht, List.mem_append_left _ (List.mem_append_right _ he), hs,
      fun hop' => (by cases hop.symm.trans hop'), fun _ => ⟨c₀, hc₀, rfl⟩⟩

end Spawn

/-! ### Serial calls -/

/-- The replies to requests served one after another, each on the globals and record the one
before left; a panic ends the process. -/
def serveCalls (h : Host) : List (Sys × Request) → Paths → Server → List ((Sys × Request) × Reply)
  | [], _, _ => []
  | c :: cs, g, t =>
    let rep := transfer h c.1 c.2 g t
    (c, rep) :: if rep.outcome = .panic then [] else serveCalls h cs rep.paths rep.server

/-- The reply to the most recent Start that got through. -/
def lastStart (tr : List ((Sys × Request) × Reply)) : Option Reply :=
  (tr.reverse.find? fun e => e.1.2.operation == .Start && e.2.outcome == .ok).map Prod.snd

theorem lastStart_append (tr : List ((Sys × Request) × Reply)) (e : (Sys × Request) × Reply) :
    lastStart (tr ++ [e]) =
      if e.1.2.operation = .Start ∧ e.2.outcome = .ok then some e.2 else lastStart tr := by
  simp only [lastStart, List.reverse_append, List.reverse_singleton, List.singleton_append,
    List.find?_cons]
  split
  · simp_all
  · rename_i hb
    rw [if_neg (by simpa using hb)]

/-- `c` launches what `c₀` launched: the same arguments after the first, and the same
executable when `c₀`'s path has a directory part. -/
def SameLaunch (c₀ c : Cmd) : Prop :=
  c.args.tail = c₀.args.tail ∧ (Filepath.base c₀.path ≠ c₀.path → c.path = c₀.path)

/-- Building the command again from `c`'s path and arguments, as a Restart does, launches what
`c` launched. -/
theorem SameLaunch.command {c₀ c : Cmd} (hs : SameLaunch c₀ c) (lookPath : String → Option String) :
    SameLaunch c₀ (command lookPath c.path c.args.tail) :=
  ⟨by rw [command_args, List.tail_cons, hs.1], fun hb => by
    rw [command_path_of_base_ne _ _ (by rw [hs.2 hb]; exact hb), hs.2 hb]⟩

/-- What holds after every prefix `tr` of the calls: the recorded command launches what the
most recent Start that got through launched, and that Start's command has a directory part
unless it started ZooKeeper. -/
def RestartInv (tr : List ((Sys × Request) × Reply)) (t : Server) : Prop :=
  ∀ c, t.cmd = some c → ∃ rep₀ c₀, lastStart tr = some rep₀ ∧ rep₀.server.cmd = some c₀ ∧
    SameLaunch c₀ c ∧ (rep₀.server.req.database ≠ .ZooKeeper → Filepath.base c₀.path ≠ c₀.path)

theorem restartInv_init : RestartInv [] Server.init := fun _ hc => by cases hc

/-- One call keeps the invariant: a Start sets it up afresh, a Restart launches the recorded
command again, and any other call leaves the record and the most recent Start alone. -/
theorem restartInv_step {h : Host} {sys : Sys} {r : Request} {g : Paths} {t : Server}
    {tr : List ((Sys × Request) × Reply)} (hi : RestartInv tr t) :
    RestartInv (tr ++ [((sys, r), transfer h sys r g t)]) (transfer h sys r g t).server := by
  intro c hc
  rw [lastStart_append]
  by_cases hsp : r.operation.spawns ∧ (transfer h sys r g t).outcome = .ok
  · obtain ⟨c', hc', -, -, hstart, hrestart⟩ := transfer_spawned hsp.1 hsp.2
    rw [hc'] at hc
    obtain rfl := Option.some.inj hc
    rcases Operation.spawns_iff.mp hsp.1 with hop | hop
    · obtain ⟨hreq, hdir⟩ := hstart hop
      exact ⟨_, c', if_pos ⟨hop, hsp.2⟩, hc', ⟨rfl, fun _ => rfl⟩, by rw [hreq]; exact hdir⟩
    · obtain ⟨c₀, ht, rfl⟩ := hrestart hop
      obtain ⟨rep₀, c₁, hl, hc₁, hs, hdir⟩ := hi c₀ ht
      exact ⟨rep₀, c₁, by rw [if_neg (by simp [hop]), hl], hc₁, hs.command _, hdir⟩
  · rw [((transfer_monitors h sys r g t).2 hsp).1] at hc
    obtain ⟨rep₀, c₀, hl, rest⟩ := hi c hc
    refine ⟨rep₀, c₀, ?_, rest⟩
    rw [if_neg fun he => hsp ⟨Operation.spawns_iff.mpr (.inl he.1), he.2⟩, hl]

/-- Along any calls, each reply is `Transfer` on some globals and a record in which the
invariant holds for the calls before it. -/
theorem restartInv_run (h : Host) (calls : List (Sys × Request)) :
    ∀ (g : Paths) (t : Server) (tr pre post : List ((Sys × Request) × Reply))
      (e : (Sys × Request) × Reply), RestartInv tr t →
      serveCalls h calls g t = pre ++ e :: post →
      ∃ g' t', e.2 = transfer h e.1.1 e.1.2 g' t' ∧ RestartInv (tr ++ pre) t' := by
  induction calls with
  | nil => intro g t tr pre post e _ hs; simp [serveCalls] at hs
  | cons c cs ih =>
    intro g t tr pre post e hi hs
    cases pre with
    | nil =>
      obtain ⟨rfl, -⟩ := List.cons.inj hs
      exact ⟨g, t, rfl, by simpa using hi⟩
    | cons x pre =>
      simp only [serveCalls, List.cons_append, List.cons.injEq] at hs
      obtain ⟨rfl, hs⟩ := hs
      split at hs
      · simp at hs
      · obtain ⟨g', t', he, hi'⟩ := ih _ _ _ pre post e (restartInv_step hi) hs
        exact ⟨g', t', he, by simpa using hi'⟩

/-! ### The calls a run of the agent process serves -/

theorem serveCalls_single (h : Host) (c : Sys × Request) (g : Paths) (t : Server) :
    serveCalls h [c] g t = [(c, transfer h c.1 c.2 g t)] := by
  simp only [serveCalls]
  split <;> rfl

theorem serveCalls_cons_of_ne_panic {h : Host} {c : Sys × Request} (cs : List (Sys × Request))
    {g : Paths} {t : Server} (hp : (transfer h c.1 c.2 g t).outcome ≠ .panic) :
    serveCalls h (c :: cs) g t = (c, transfer h c.1 c.2 g t) ::
      serveCalls h cs (transfer h c.1 c.2 g t).paths (transfer h c.1 c.2 g t).server := by
  simp only [serveCalls, if_neg hp]

/-- `calls` are the calls process `a` has served: their replies carry its history, and until
it crashes, later calls are served on its globals and record. -/
def Process.ServedBy (h : Host) (a : Process) (calls : List (Sys × Request)) : Prop :=
  (serveCalls h calls (Process.init h).paths Server.init).map (fun e => (e.1.2, e.2.outcome)) =
      a.history ∧
    (a.handler ≠ .crashed → ∀ more,
      serveCalls h (calls ++ more) (Process.init h).paths Server.init =
        serveCalls h calls (Process.init h).paths Server.init ++ serveCalls h more a.paths a.server)

section ServedBy

variable {h : Host} {a : Process} {calls : List (Sys × Request)}

theorem servedBy_init (h : Host) : (Process.init h).ServedBy h [] :=
  ⟨rfl, fun _ _ => rfl⟩

/-- Serving a request extends the calls by it. -/
theorem servedBy_serve (sys : Sys) (r : Request) (hs : a.ServedBy h calls)
    (hidle : a.handler = .idle) : (a.serve h sys r).ServedBy h (calls ++ [(sys, r)]) := by
  have happ := hs.2 (by rw [hidle]; decide)
  refine ⟨?_, fun hc more => ?_⟩
  · rw [happ, serveCalls_single, List.map_append, hs.1]
    rfl
  · have hp : (transfer h sys r a.paths a.server).outcome ≠ .panic := fun hp =>
      hc (by simp only [Process.serve, hp, if_true])
    rw [List.append_assoc, happ, happ, serveCalls_single, List.singleton_append,
      serveCalls_cons_of_ne_panic _ hp, List.append_assoc]
    rfl

/-- A goroutine's move serves nothing and changes neither globals nor record. -/
theorem Process.ServedBy.of_eq {b : Process} (hs : a.ServedBy h calls)
    (hp : b.paths = a.paths) (ht : b.server = a.server) (hh : b.history = a.history)
    (hc : b.handler ≠ .crashed → a.handler ≠ .crashed) : b.ServedBy h calls :=
  ⟨hs.1.trans hh.symm, fun hb more => by rw [hp, ht]; exact hs.2 (hc hb) more⟩

theorem servedBy_step {b : Process} (hs : a.ServedBy h calls) (hst : Step h a b) :
    ∃ calls', b.ServedBy h calls' := by
  cases hst with
  | serve sys r hidle => exact ⟨_, servedBy_serve sys r hs hidle⟩
  | firstSample _ hc _ _ => exact ⟨calls, hs.of_eq rfl rfl rfl fun _ => hc⟩
  | receive hst _ _ => exact ⟨calls, hs.of_eq rfl rfl rfl fun _ => by rw [hst]; decide⟩
  | uploaded hc _ _ => exact ⟨calls, hs.of_eq rfl rfl rfl fun _ => hc⟩
  | signalled hc _ _ => exact ⟨calls, hs.of_eq rfl rfl rfl fun _ => hc⟩

/-- **Every run of the agent process serves its requests one after another**: some calls
give, through `serveCalls`, exactly the requests and outcomes it has served, and until it
crashes it serves the next ones on its own globals and record. -/
theorem reach_servedBy (hr : Reach h a) : ∃ calls, a.ServedBy h calls := by
  induction hr with
  | init => exact ⟨[], servedBy_init h⟩
  | step _ hst ih =>
    obtain ⟨calls, hs⟩ := ih
    exact servedBy_step hs hst

end ServedBy

theorem reach_servedBy_at_restartThenStop : ∃ calls, restartThenStop.ServedBy demoHost calls :=
  reach_servedBy reach_restartThenStop

/-! ### Every Restart that gets through -/

/-- **Every Restart that gets through** launches, with the pid the system gave, the arguments
after the first of the command the most recent Start launched, whatever failed calls and
Restarts came in between. It launches the same executable whenever that command's path has a
directory part, which it has unless the Start was ZooKeeper's. -/
theorem restart_relaunches {h : Host} {calls : List (Sys × Request)}
    {pre post : List ((Sys × Request) × Reply)} {sys : Sys} {r : Request} {rep : Reply}
    (htr : serveCalls h calls (Process.init h).paths Server.init = pre ++ ((sys, r), rep) :: post)
    (hop : r.operation = .Restart) (hok : rep.outcome = .ok) :
    ∃ rep₀ c₀ c, lastStart pre = some rep₀ ∧ rep₀.server.cmd = some c₀ ∧
      rep.server.cmd = some c ∧ .start c ∈ rep.effects ∧ sys.start c = some rep.server.pid ∧
      c.args.tail = c₀.args.tail ∧ (Filepath.base c₀.path ≠ c₀.path → c.path = c₀.path) ∧
      (rep₀.server.req.database ≠ .ZooKeeper → Filepath.base c₀.path ≠ c₀.path) := by
  obtain ⟨g, t, he, hi⟩ := restartInv_run h calls _ _ [] pre post _ restartInv_init htr
  dsimp only at he
  subst he
  obtain ⟨c, hc, he, hpid, -, hrestart⟩ :=
    transfer_spawned (Operation.spawns_iff.mpr (.inr hop)) hok
  obtain ⟨c₁, ht, rfl⟩ := hrestart hop
  obtain ⟨rep₀, c₀, hl, hc₀, hs, hdir⟩ := hi c₁ ht
  exact ⟨rep₀, c₀, _, hl, hc₀, hc, he, hpid, (hs.command _).1, (hs.command _).2, hdir⟩

/-- etcd started with pid 7, a Restart that cannot open its log, and a Restart that gets
pid 8. -/
def relaunchCalls : List (Sys × Request) :=
  [(Sys.up 7, startReq), (Sys.down, restartReq), (Sys.up 8, restartReq)]

def relaunchStart : Reply :=
  transfer demoHost (Sys.up 7) startReq (Process.init demoHost).paths Server.init

def relaunchFailed : Reply :=
  transfer demoHost Sys.down restartReq relaunchStart.paths relaunchStart.server

def relaunchRestart : Reply :=
  transfer demoHost (Sys.up 8) restartReq relaunchFailed.paths relaunchFailed.server

theorem serveCalls_relaunchCalls :
    serveCalls demoHost relaunchCalls (Process.init demoHost).paths Server.init =
      [((Sys.up 7, startReq), relaunchStart), ((Sys.down, restartReq), relaunchFailed),
        ((Sys.up 8, restartReq), relaunchRestart)] :=
  rfl

theorem restart_relaunches_at_etcd :
    relaunchFailed.outcome ≠ .ok ∧ ∃ c₀ c, relaunchStart.server.cmd = some c₀ ∧
      relaunchRestart.server.cmd = some c ∧ c.path = c₀.path ∧ c.args.tail = c₀.args.tail ∧
      relaunchRestart.server.pid = 8 := by
  obtain ⟨rep₀, c₀, c, hl, hc₀, hc, -, hpid, hargs, hpath, hdir⟩ :=
    @restart_relaunches _ _ [((Sys.up 7, startReq), relaunchStart),
      ((Sys.down, restartReq), relaunchFailed)] [] _ _ _ serveCalls_relaunchCalls rfl
      (by decide)
  obtain rfl : rep₀ = relaunchStart := Option.some.inj (hl.symm.trans rfl)
  exact ⟨by decide, c₀, c, hc₀, hc, hpath (hdir (by decide)), hargs, (Option.some.inj hpid).symm⟩

/-- ZooKeeper started on a system whose `PATH` finds the shell as the bare `sh`, and restarted
on one whose `PATH` finds it as `/bin/sh`. -/
def zkStartReq : Request := { startReq with database := .ZooKeeper }

def zkRestartReq : Request := { zkStartReq with operation := .Restart }

def Sys.findingShAt (sh : String) (pid : Int) : Sys :=
  { Sys.up pid with lookPath := fun _ => some sh }

def bareStart : Reply :=
  transfer demoHost (Sys.findingShAt "sh" 7) zkStartReq (Process.init demoHost).paths Server.init

def bareRestart : Reply :=
  transfer demoHost (Sys.findingShAt "/bin/sh" 8) zkRestartReq bareStart.paths bareStart.server

theorem serveCalls_bare :
    serveCalls demoHost
      [(Sys.findingShAt "sh" 7, zkStartReq), (Sys.findingShAt "/bin/sh" 8, zkRestartReq)]
      (Process.init demoHost).paths Server.init =
      [((Sys.findingShAt "sh" 7, zkStartReq), bareStart)] ++
        ((Sys.findingShAt "/bin/sh" 8, zkRestartReq), bareRestart) :: [] :=
  rfl

/-- A Restart does not always launch the executable of the most recent Start: `exec.Command`
looks the recorded bare `sh` up in `PATH` again. -/
theorem restart_changes_bare_path :
    ¬ ∀ (h : Host) (calls : List (Sys × Request)) (pre post : List ((Sys × Request) × Reply))
      (sys : Sys) (r : Request) (rep : Reply),
      serveCalls h calls (Process.init h).paths Server.init = pre ++ ((sys, r), rep) :: post →
      r.operation = .Restart → rep.outcome = .ok →
      ∃ rep₀ c₀ c, lastStart pre = some rep₀ ∧ rep₀.server.cmd = some c₀ ∧
        rep.server.cmd = some c ∧ c.path = c₀.path ∧ c.args.tail = c₀.args.tail := by
  intro hall
  obtain ⟨rep₀, c₀, c, hl, hc₀, hc, hpath, -⟩ :=
    hall _ _ _ _ _ _ _ serveCalls_bare rfl (by decide)
  obtain rfl : rep₀ = bareStart := Option.some.inj (hl.symm.trans rfl)
  have h₀ : some "sh" = some c₀.path := congrArg (Option.map Cmd.path) hc₀
  have h₁ : some "/bin/sh" = some c.path := congrArg (Option.map Cmd.path) hc
  rw [← Option.some.inj h₀, ← Option.some.inj h₁] at hpath
  exact absurd hpath (by decide)

end DbTester.Agent
