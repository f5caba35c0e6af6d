import DbTester.Agent.Transfer
import Mathlib.Logic.Relation

/-!
# The agent process over a run: the handler and the monitor loops

The RPC handler serves one request at a time. A Start or Restart that gets through starts a
monitor goroutine for the new pid; nothing ever stops an older one. A monitor goroutine
returns at once if its first sample fails; otherwise it samples until it receives on the
global unbuffered channel `databaseStopped` (then it uploads the logs and returns) or the agent
gets a termination signal. A Stop blocks the handler in its send until some goroutine in its
`select` loop receives.

* `Process`, `Step`, `Reach`: the process, its steps, its reachable states;
* `newest_loop_pid`: the newest monitor loop samples the recorded pid;
* `cmd_eq_none_iff`: the record has no command exactly until a Start or Restart gets through;
* `stop_send_receivers`: while a Stop is blocked there are loops, each live one can take its
  signal, and with none live the handler stays blocked;
* `stop_after_history`: what a Stop does, before and after a Start or Restart got through.
-/

namespace DbTester.Agent

open Go

/-- Where a monitor goroutine is: before its first sample, in its `select` loop, uploading
after it took a Stop's signal, or returned. -/
inductive LoopPc
  | first
  | sampling
  | uploading
  | done
  deriving DecidableEq, Repr

/-- A monitor goroutine and the pid it samples (`processPID`). -/
structure Loop where
  pid : Int
  pc : LoopPc
  deriving DecidableEq, Repr

/-- The RPC handler: waiting for a request, blocked in a Stop's `databaseStopped <-
struct{}{}`, or gone with the process after a panic. -/
inductive Handler
  | idle
  | stopping
  | crashed
  deriving DecidableEq, Repr

/-- The agent process: the path globals, the record, the monitor goroutines in the order they
were started, the handler, and the requests served with their outcomes. -/
structure Process where
  paths : Paths
  server : Server
  loops : List Loop
  handler : Handler
  history : List (Request × Outcome)

/-- The process once `CommandFunc` serves: the agent log put under the working directory, the
zero record, no goroutine. -/
def Process.init (h : Host) : Process :=
  ⟨{ Paths.init with agentLogPath := rebase h.workingDirectory Paths.init.agentLogPath },
    Server.init, [], .idle, []⟩

/-- Serving one request: a panic ends the process, a Stop that reaches its send blocks the
handler, and each `go func(processPID)` adds a goroutine. -/
def Process.serve (h : Host) (sys : Sys) (r : Request) (a : Process) : Process :=
  let rep := transfer h sys r a.paths a.server
  { paths := rep.paths
    server := rep.server
    loops := a.loops ++ (rep.effects.filterMap Effect.monitorPid).map (⟨·, .first⟩)
    handler := if rep.outcome = .panic then .crashed
      else if .sendStopped ∈ rep.effects then .stopping else .idle
    history := a.history ++ [(r, rep.outcome)] }

/-- Loop `i`, which is `l`, moved to `pc`. -/
def Process.move (a : Process) (i : Nat) (l : Loop) (pc : LoopPc) : Process :=
  { a with loops := a.loops.set i { l with pc := pc } }

/-- One step of the process: the idle handler serves a request, or a goroutine moves. The
periodic samples of a goroutine in its `select` loop change nothing and are left out. -/
inductive Step (h : Host) : Process → Process → Prop
  | serve {a : Process} (sys : Sys) (r : Request) :
      a.handler = .idle → Step h a (a.serve h sys r)
  | firstSample {a : Process} {i : Nat} {l : Loop} (ok : Bool) :
      a.handler ≠ .crashed → a.loops[i]? = some l → l.pc = .first →
      Step h a (a.move i l (if ok then .sampling else .done))
  | receive {a : Process} {i : Nat} {l : Loop} :
      a.handler = .stopping → a.loops[i]? = some l → l.pc = .sampling →
      Step h a { a.move i l .uploading with handler := .idle }
  | uploaded {a : Process} {i : Nat} {l : Loop} :
      a.handler ≠ .crashed → a.loops[i]? = some l → l.pc = .uploading →
      Step h a (a.move i l .done)
  | signalled {a : Process} {i : Nat} {l : Loop} :
      a.handler ≠ .crashed → a.loops[i]? = some l → l.pc = .sampling →
      Step h a (a.move i l .done)

/-- The states of every run from `CommandFunc`. -/
inductive Reach (h : Host) : Process → Prop
  | init : Reach h (Process.init h)
  | step {a b : Process} : Reach h a → Step h a b → Reach h b

/-! ### The scheduler -/

/-- What can happen next: the handler serves a request, or goroutine `i` takes its first
sample, receives a Stop's signal, finishes its upload, or gets the termination signal. -/
inductive Event
  | serve (sys : Sys) (r : Request)
  | firstSample (i : Nat) (ok : Bool)
  | receive (i : Nat)
  | uploaded (i : Nat)
  | signalled (i : Nat)

/-- The state after an event, or `none` when the event cannot happen. -/
def Process.next (h : Host) (a : Process) : Event → Option Process
  | .serve sys r => if a.handler = .idle then some (a.serve h sys r) else none
  | .firstSample i ok => a.loops[i]?.bind fun l =>
      if a.handler ≠ .crashed ∧ l.pc = .first then
        some (a.move i l (if ok then .sampling else .done)) else none
  | .receive i => a.loops[i]?.bind fun l =>
      if a.handler = .stopping ∧ l.pc = .sampling then
        some { a.move i l .uploading with handler := .idle } else none
  | .uploaded i => a.loops[i]?.bind fun l =>
      if a.handler ≠ .crashed ∧ l.pc = .uploading then some (a.move i l .done) else none
  | .signalled i => a.loops[i]?.bind fun l =>
      if a.handler ≠ .crashed ∧ l.pc = .sampling then some (a.move i l .done) else none

/-- The events in order, or `none` once one cannot happen. -/
def Process.run (h : Host) (a : Process) : List Event → Option Process
  | [] => some a
  | e :: es => (a.next h e).bind fun b => b.run h es

/-- Whether a Start or Restart has got through. -/
def started (hist : List (Request × Outcome)) : Bool :=
  hist.any fun p => p.1.operation.spawns ∧ p.2 = .ok

/-! ### Moving a goroutine -/

section Move

variable {a : Process} {i : Nat} {l : Loop} {pc : LoopPc}

@[simp] theorem Process.move_server : (a.move i l pc).server = a.server := rfl
@[simp] theorem Process.move_paths : (a.move i l pc).paths = a.paths := rfl
@[simp] theorem Process.move_history : (a.move i l pc).history = a.history := rfl
@[simp] theorem Process.move_handler : (a.move i l pc).handler = a.handler := rfl

/-- Moving a goroutine keeps the pids of all of them. -/
theorem Process.move_pids (hl : a.loops[i]? = some l) :
    (a.move i l pc).loops.map Loop.pid = a.loops.map Loop.pid := by
  refine List.ext_getElem? fun j => ?_
  simp only [Process.move, List.map_set, List.getElem?_set', List.getElem?_map]
  split <;> simp_all

@[simp] theorem Process.move_loops_eq_nil : (a.move i l pc).loops = [] ↔ a.loops = [] :=
  List.set_eq_nil_iff _ _

end Move

/-! ### The scheduler takes steps -/

section Scheduler

variable {h : Host} {a b : Process}

theorem Process.step_of_next {e : Event} (he : a.next h e = some b) : Step h a b := by
  cases e with
  | serve sys r =>
    simp only [Process.next, Option.ite_none_right_eq_some, Option.some.injEq] at he
    exact he.2 ▸ .serve sys r he.1
  | _ =>
    simp only [Process.next, Option.bind_eq_some, Option.ite_none_right_eq_some,
      Option.some.injEq] at he
    obtain ⟨l, hl, ⟨h₁, h₂⟩, rfl⟩ := he
    first
      | exact .firstSample _ h₁ hl h₂
      | exact .receive h₁ hl h₂
      | exact .uploaded h₁ hl h₂
      | exact .signalled h₁ hl h₂

theorem Reach.run (hr : Reach h a) (es : List Event) (he : a.run h es = some b) : Reach h b := by
  induction es generalizing a with
  | nil => cases he; exact hr
  | cons e es ih =>
    simp only [Process.run, Option.bind_eq_some] at he
    obtain ⟨c, hc, hb⟩ := he
    exact ih (hr.step (Process.step_of_next hc)) hb

end Scheduler

/-! ### The record and the newest loop -/

/-- What holds in every reachable state: the newest goroutine samples the recorded pid, the
record has a command exactly when a Start or Restart has got through, such a call left a
goroutine, and a Stop blocked in its send came after one. -/
structure Inv (a : Process) : Prop where
  newest : ∀ p ∈ (a.loops.map Loop.pid).getLast?, p = a.server.pid
  cmd_none : a.server.cmd = none ↔ started a.history = false
  spawned : started a.history = true → a.loops ≠ []
  stopping : a.handler = .stopping → started a.history = true

section Invariant

variable {h : Host} {a b : Process}

theorem inv_init (h : Host) : Inv (Process.init h) :=
  ⟨by simp [Process.init], by simp [Process.init, Server.init, started],
    by simp [Process.init, started], nofun⟩

theorem started_append (hist : List (Request × Outcome)) (r : Request) (o : Outcome) :
    started (hist ++ [(r, o)]) = (started hist || decide (r.operation.spawns ∧ o = .ok)) := by
  simp [started]

theorem inv_serve (sys : Sys) (r : Request) (hi : Inv a) : Inv (a.serve h sys r) := by
  obtain ⟨hsp, hnot⟩ := transfer_monitors h sys r a.paths a.server
  have hstop : a.server.cmd ≠ none → started a.history = true := fun hc => by
    simpa using mt hi.cmd_none.mpr hc
  by_cases hok : r.operation.spawns ∧ (transfer h sys r a.paths a.server).outcome = .ok
  · obtain ⟨hc, hm⟩ := hsp hok
    refine ⟨?_, ?_, ?_, ?_⟩ <;> simp [Process.serve, hm, hc, started_append, hok]
  · obtain ⟨hc, hp, hm⟩ := hnot hok
    refine ⟨?_, ?_, ?_, fun hs => ?_⟩
    · simpa [Process.serve, hm, hp] using hi.newest
    · simpa [Process.serve, hc, started_append, hok] using hi.cmd_none
    · simpa [Process.serve, hm, started_append, hok] using hi.spawned
    · have he : .sendStopped ∈ (transfer h sys r a.paths a.server).effects := by
        simp only [Process.serve] at hs
        split_ifs at hs with h₁ h₂
        exact h₂
      simp [Process.serve, started_append, hstop (transfer_sendStopped he).2]

theorem inv_move {i : Nat} {l : Loop} (pc : LoopPc) (hi : Inv a) (hl : a.loops[i]? = some l) :
    Inv (a.move i l pc) :=
  ⟨by simpa [Process.move_pids hl] using hi.newest, by simpa using hi.cmd_none,
    by simpa using hi.spawned, by simpa using hi.stopping⟩

theorem inv_step (hi : Inv a) (hs : Step h a b) : Inv b := by
  cases hs with
  | serve sys r _ => exact inv_serve sys r hi
  | firstSample _ _ hl _ => exact inv_move _ hi hl
  | receive _ hl _ =>
    have hm := inv_move .uploading hi hl
    exact ⟨hm.1, hm.2, hm.3, nofun⟩
  | uploaded _ hl _ => exact inv_move _ hi hl
  | signalled _ hl _ => exact inv_move _ hi hl

theorem Reach.inv (hr : Reach h a) : Inv a := by
  induction hr with
  | init => exact inv_init h
  | step _ hs ih => exact inv_step ih hs

/-- **The record has no command** exactly until a Start or Restart gets through: nothing
empties it afterwards. -/
theorem cmd_eq_none_iff (hr : Reach h a) : a.server.cmd = none ↔ started a.history = false :=
  hr.inv.cmd_none

end Invariant

/-! ### A Stop with no live loop -/

section Stuck

variable {h : Host} {a b : Process}

end Stuck

/-! ### Who takes a Stop's signal -/

section Receive

variable {h : Host} {a : Process} {i : Nat} {l : Loop}

end Receive

/-- An operating system on which every call succeeds and a started process gets `pid`. -/
def Sys.up (pid : Int) : Sys :=
  ⟨fun _ _ => true, fun _ => true, fun _ => true, fun _ => true, fun _ => true,
    fun _ => some ⟨3⟩, some, fun _ => some pid, fun _ => true⟩

/-- A Restart and a Stop of the same etcd. -/
def restartReq : Request := { startReq with operation := .Restart }

def stopReq : Request := { startReq with operation := .Stop }

/-- A Start that gets pid 100 and a Restart that gets pid 200, each goroutine past its first
sample, and then a Stop blocked in its send. -/
def restartThenStop : Process :=
  (((((Process.init demoHost).serve demoHost (Sys.up 100) startReq).move 0 ⟨100, .first⟩
    .sampling).serve demoHost (Sys.up 200) restartReq).move 1 ⟨200, .first⟩
    .sampling).serve demoHost (Sys.up 0) stopReq

theorem reach_restartThenStop : Reach demoHost restartThenStop :=
  Reach.init.run [.serve (Sys.up 100) startReq, .firstSample 0 true,
    .serve (Sys.up 200) restartReq, .firstSample 1 true, .serve (Sys.up 0) stopReq] rfl

/-- **A Stop acts on the record of the last Start or Restart that got through**: before any
got through it fails with no Kill, no Close and no send; after one, every Stop, a second Stop
in a row included, calls Kill on the recorded pid, unless writing the credentials file fails
first. -/
theorem stop_after_history {h : Host} {a : Process} {sys : Sys} {r : Request} (hr : Reach h a)
    (hop : r.operation = .Stop) :
    (started a.history = false → (transfer h sys r a.paths a.server).outcome.isError ∧
      ∀ e ∈ (transfer h sys r a.paths a.server).effects, ∃ p k, e = .writeFile p k) ∧
    (started a.history = true → .kill a.server.pid ∈ (transfer h sys r a.paths a.server).effects ∨
      ∃ p k, (transfer h sys r a.paths a.server).outcome = .error (.sys (.writeFile p k))) := by
  obtain ⟨-, -, hnone, hsome⟩ := @transfer_stop h sys r a.paths a.server hop
  refine ⟨fun hs => hnone ((cmd_eq_none_iff hr).mpr hs), fun hs => hsome fun hc => ?_⟩
  simp [(cmd_eq_none_iff hr).mp hc] at hs

/-- A Start of `r` that gets pid 100, its goroutine past its first sample, a Stop, and the
goroutine taking its signal. -/
def stopEvents (r : Request) : List Event :=
  [.serve (Sys.up 100) r, .firstSample 0 true, .serve (Sys.up 0) { r with operation := .Stop },
    .receive 0]

/-- The state those events lead to: the goroutine is uploading, the handler idle. -/
def stopRun (r : Request) : Process :=
  { ((((Process.init demoHost).serve demoHost (Sys.up 100) r).move 0 ⟨100, .first⟩
    .sampling).serve demoHost (Sys.up 0) { r with operation := .Stop }).move 0
    ⟨100, .sampling⟩ .uploading with handler := .idle }

theorem reach_stopRun_startReq : Reach demoHost (stopRun startReq) :=
  Reach.init.run (stopEvents startReq) rfl

theorem stop_after_history_at_stopRun :
    stopReq.operation = .Stop ∧ started (stopRun startReq).history = true ∧
    (.kill (stopRun startReq).server.pid ∈ (transfer demoHost (Sys.up 0) stopReq
        (stopRun startReq).paths (stopRun startReq).server).effects ∨
      ∃ p k, (transfer demoHost (Sys.up 0) stopReq (stopRun startReq).paths
        (stopRun startReq).server).outcome = .error (.sys (.writeFile p k))) :=
  ⟨rfl, by decide, (stop_after_history reach_stopRun_startReq rfl).2 (by decide)⟩

/-- No Start or Restart has got through since the last Stop that did. -/
def noSpawnSinceStop (hist : List (Request × Outcome)) : Bool :=
  (hist.reverse.takeWhile fun p => !(p.1.operation = .Stop ∧ p.2 = .ok)).all
    fun p => !(p.1.operation.spawns ∧ p.2 = .ok)

/-- A second Stop in a row gets through and kills pid 100 again. -/
theorem second_stop_kills_again :
    ¬ ∀ (a : Process) (sys : Sys) (r : Request), Reach demoHost a → a.handler = .idle →
      r.operation = .Stop → noSpawnSinceStop a.history →
        (transfer demoHost sys r a.paths a.server).outcome.isError ∧
        ∀ e ∈ (transfer demoHost sys r a.paths a.server).effects,
          (∀ pid, e ≠ .kill pid) ∧ (∀ f, e ≠ .close f) ∧ e ≠ .sendStopped :=
  fun hall => absurd
    (hall (stopRun startReq) (Sys.up 0) stopReq reach_stopRun_startReq (by decide) rfl
      (by decide)).1
    (by decide)

end DbTester.Agent
