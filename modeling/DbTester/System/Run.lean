import DbTester.Agent.Supervisor
import DbTester.Control.Broadcast

/-!
# A test run: the controller and its agents

Once its checks pass, the controller's `CommandFunc` runs step 1 (`bcastReq` with Start),
step 2 (the benchmark, against the databases) and step 3 (`bcastReq` with Stop), each unless
skipped, and returns the first error. Each `sendReq` is a `Transfer` RPC to the agent at the
goroutine's endpoint. The agent serves it with its handler (`Agent.Process.serve`), and the
RPC returns what `Transfer` returned. It can also fail first (a refused connection, or the
15 s deadline), and the agent may still serve the request afterwards. A Stop that reaches its
`databaseStopped` send returns only once a monitor goroutine receives, and a panic ends the
agent, so that only the transport error ends the call.

* `Run`, `Ctrl`, `Step`, `Reach`: the controller with both broadcasts, and the agent process at
  every endpoint, under every interleaving of the controller's goroutines and the agents;
* `Run.next`, `Run.run`: a scheduler taking exactly those steps, one event at a time;
* `RunInv`: what holds in every reachable state;
* `reach_bcast`: each broadcast of a run is a run of `bcastReq` (`Control.Bcast.Reach`);
* `agent_requests`, `run_succeeds`, `reach_agents` (in `System.Requests`): what each agent
  serves, what a run that returns `nil` did, and that every agent goes through states of its
  own process;
* `run_returns`, `ctrl_events_le` (in `System.Returns`): the controller alone brings
  `CommandFunc` to return, and takes a bounded number of steps.
-/

namespace DbTester.System

open Agent Control

/-- What a goroutine of a broadcast knows of its call: the outcome of the agent's `Transfer`
once the agent took the request, and what `sendReq` returned once it returned (`nil` or the
error's text). -/
structure Call where
  outcome : Option Outcome
  reply : Option (Option String)
  deriving DecidableEq, Repr

/-- A broadcast and its calls, goroutine by goroutine. -/
structure Broadcast where
  bcast : Bcast
  calls : List Call
  deriving DecidableEq, Repr

def Broadcast.init : Broadcast := ⟨Bcast.init, []⟩

/-- What `sendReq` of goroutine `j` returned; `nil` while it has not returned. -/
def Broadcast.res (b : Broadcast) (j : Nat) : Option String :=
  (b.calls[j]?.bind Call.reply).join

/-- The two broadcasts of a run: step 1's Start and step 3's Stop. -/
inductive Round
  | start
  | stop
  deriving DecidableEq, Repr

def Round.op : Round → Operation
  | .start => .Start
  | .stop => .Stop

/-- Where `CommandFunc` is: in one of its steps, or returned. -/
inductive RunPc
  | step1
  | step2
  | step3
  | returned (r : Option String)
  deriving DecidableEq, Repr

/-- The broadcast a step runs. -/
def RunPc.round : RunPc → Option Round
  | .step1 => some .start
  | .step3 => some .stop
  | _ => none

/-- The controller with its two broadcasts, and the agent process at each endpoint. -/
structure Run where
  pc : RunPc
  start : Broadcast
  stop : Broadcast
  agents : String → Process

def Run.round (s : Run) : Round → Broadcast
  | .start => s.start
  | .stop => s.stop

def Run.setRound (s : Run) : Round → Broadcast → Run
  | .start, b => { s with start := b }
  | .stop, b => { s with stop := b }

/-- Call `j` of round `k` replaced by `c`. -/
def Run.setCall (s : Run) (k : Round) (j : Nat) (c : Call) : Run :=
  s.setRound k ⟨(s.round k).bcast, (s.round k).calls.set j c⟩

/-! ### The steps of `CommandFunc` -/

/-- After step 2: step 3, unless skipped. -/
def afterStep2 (skip3 : Bool) : RunPc := if skip3 then .returned none else .step3

/-- After step 1: step 2, unless skipped. -/
def afterStep1 (cfg : Config) (skip3 : Bool) : RunPc :=
  if cfg.step2.skip then afterStep2 skip3 else .step2

/-- The first step, with the `Skip` flags of steps 1, 2 and 3. -/
def firstStep (cfg : Config) (skip1 skip3 : Bool) : RunPc :=
  if skip1 then afterStep1 cfg skip3 else .step1

/-- Where `CommandFunc` goes when step 2 returns `r`. -/
def afterBench (skip3 : Bool) : Option String → RunPc
  | some e => .returned (some e)
  | none => afterStep2 skip3

/-- Where `CommandFunc` goes when the broadcast of a round returns `r`. -/
def Round.finish (cfg : Config) (skip3 : Bool) (k : Round) : Option String → RunPc
  | some e => .returned (some e)
  | none => match k with
    | .start => afterStep1 cfg skip3
    | .stop => .returned none

/-! ### The agents' side of a call -/

/-- What `sendReq` returns when the agent's `Transfer` ends with `o`, its handler left at
`hd`: `nil` for a success, unless the Stop is still blocked in its send; the error's text
`msg` for an error; nothing yet for a panic. -/
def answer (msg : String) (o : Outcome) (hd : Handler) : Option (Option String) :=
  match o with
  | .ok => if hd = .stopping then none else some none
  | .error _ => some (some msg)
  | .panic => none

/-- The call once the agent served it; a call that already failed keeps its error. -/
def Call.served (c : Call) (o : Outcome) (ans : Option (Option String)) : Call :=
  ⟨some o, c.reply.orElse fun _ => ans⟩

/-- The calls to `ep` whose Stop is blocked in its send return `nil`: a monitor goroutine of
the agent received. -/
def Broadcast.release (b : Broadcast) (ep : String) : Broadcast :=
  ⟨b.bcast, b.calls.mapIdx fun j c =>
    if c.outcome.isSome ∧ c.reply = none ∧ b.bcast.calls[j]?.map Prod.fst = some ep then
      { c with reply := some none } else c⟩

/-- The agent at `ep` serves call `j` of round `k`, the request `req`, on system `sys`;
`msg` is the error's text as `sendReq` gets it. -/
def Run.serve (hosts : String → Host) (s : Run) (k : Round) (j : Nat) (c : Call) (ep : String)
    (req : Request) (sys : Sys) (msg : String) : Run :=
  let a := s.agents ep
  let o := (transfer (hosts ep) sys req a.paths a.server).outcome
  let a' := a.serve (hosts ep) sys req
  { s.setCall k j (c.served o (answer msg o a'.handler)) with
    agents := Function.update s.agents ep a' }

/-- A goroutine of the agent at `ep` moves, the agent becoming `a`; when that takes a Stop's
signal, the blocked calls to `ep` return. -/
def Run.move (s : Run) (ep : String) (a : Process) : Run :=
  if (s.agents ep).handler = .stopping ∧ a.handler = .idle then
    { s with
      start := s.start.release ep
      stop := s.stop.release ep
      agents := Function.update s.agents ep a }
  else { s with agents := Function.update s.agents ep a }

section Steps

/- The checked configuration `cfg`, the request `base` that `cfg.Request()` returns, the `Skip`
flags of steps 1 and 3 (that of step 2 is `cfg.step2.skip`), and the host of each agent. -/
variable (cfg : Config) (base : Request) (skip1 skip3 : Bool) (hosts : String → Host)

/-- A step of `CommandFunc` and its goroutines: a step of the current broadcast, step 2
returning, or a call failing in transport (`grpc.Dial` failing, or the 15 s deadline). -/
inductive Ctrl : Run → Run → Prop
  | spawn {s : Run} {k : Round} {i : Nat} {ep : String} :
      s.pc.round = some k → (s.round k).bcast.pc = .spawning i → i < cfg.peerIPs.length →
      cfg.agentEndpoints[i]? = some ep →
      Ctrl s (s.setRound k ⟨{ (s.round k).bcast with
          pc := .spawning (i + 1)
          calls := (s.round k).bcast.calls ++ [(ep, sendReq { base with operation := k.op } i)]
          blocked := (s.round k).bcast.blocked ++ [i] },
        (s.round k).calls ++ [⟨none, none⟩]⟩)
  | collect {s : Run} {k : Round} :
      s.pc.round = some k → (s.round k).bcast.pc = .spawning cfg.peerIPs.length →
      Ctrl s (s.setRound k ⟨{ (s.round k).bcast with pc := .collecting }, (s.round k).calls⟩)
  | deliver {s : Run} {k : Round} {j : Nat} {c : Call} {r : Option String} :
      s.pc.round = some k → (s.round k).bcast.pc = .collecting →
      (s.round k).bcast.received.length ≠ cfg.peerIPs.length → j ∈ (s.round k).bcast.blocked →
      (s.round k).calls[j]? = some c → c.reply = some r →
      Ctrl s (s.setRound k ⟨{ (s.round k).bcast with
          blocked := (s.round k).bcast.blocked.erase j
          received := (s.round k).bcast.received ++ [j]
          errs := (s.round k).bcast.errs ++ r.toList }, (s.round k).calls⟩)
  | finish {s : Run} {k : Round} :
      s.pc.round = some k → (s.round k).bcast.pc = .collecting →
      (s.round k).bcast.received.length = cfg.peerIPs.length →
      Ctrl s { s.setRound k ⟨{ (s.round k).bcast with
          pc := .returned (s.round k).bcast.errs.head? }, (s.round k).calls⟩ with
        pc := k.finish cfg skip3 (s.round k).bcast.errs.head? }
  | bench {s : Run} (r : Option String) :
      s.pc = .step2 → Ctrl s { s with pc := afterBench skip3 r }
  | fail {s : Run} {k : Round} {j : Nat} {c : Call} (msg : String) :
      (s.round k).calls[j]? = some c → c.reply = none →
      Ctrl s (s.setCall k j { c with reply := some (some msg) })

/-- One step of the run: a step of the controller, an agent serving a call, or a goroutine of
an agent moving. -/
inductive Step : Run → Run → Prop
  | ctrl {s t : Run} : Ctrl cfg base skip3 s t → Step s t
  | serve {s : Run} {k : Round} {j : Nat} {c : Call} {ep : String} {req : Request}
      (sys : Sys) (msg : String) :
      (s.round k).calls[j]? = some c → c.outcome = none →
      (s.round k).bcast.calls[j]? = some (ep, req) → (s.agents ep).handler = .idle →
      Step s (s.serve hosts k j c ep req sys msg)
  | agent {s : Run} {ep : String} {e : Agent.Event} {a : Process} :
      (∀ sys r, e ≠ .serve sys r) → (s.agents ep).next (hosts ep) e = some a →
      Step s (s.move ep a)

/-- The run from its first step, each agent waiting for a request. -/
def Run.init (agents₀ : String → Process) : Run :=
  ⟨firstStep cfg skip1 skip3, Broadcast.init, Broadcast.init, agents₀⟩

/-- The states of every run. -/
inductive Reach (agents₀ : String → Process) : Run → Prop
  | init : (∀ ep, (agents₀ ep).handler = .idle) → Reach agents₀ (Run.init cfg skip1 skip3 agents₀)
  | step {s t : Run} : Reach agents₀ s → Step cfg base skip3 hosts s t → Reach agents₀ t

end Steps

/-! ### The scheduler -/

/-- What can happen next in a run: a step of the current broadcast, step 2 returning, the agent
of call `j` of a round serving it, the call failing, or a goroutine of an agent moving. -/
inductive RunEvent
  | spawn
  | collect
  | deliver (j : Nat)
  | finish
  | bench (r : Option String)
  | serve (k : Round) (j : Nat) (sys : Sys) (msg : String)
  | fail (k : Round) (j : Nat) (msg : String)
  | agent (ep : String) (e : Agent.Event)

/-- The event of an agent's handler serving a request; the others are its goroutines'. -/
def servesRequest : Agent.Event → Bool
  | .serve _ _ => true
  | _ => false

section Scheduler

variable (cfg : Config) (base : Request) (skip3 : Bool) (hosts : String → Host)

/-- The state after an event, or `none` when the event cannot happen. -/
def Run.next (s : Run) : RunEvent → Option Run
  | .spawn => s.pc.round.bind fun k =>
    match (s.round k).bcast.pc with
    | .spawning i =>
      if i < cfg.peerIPs.length then
        cfg.agentEndpoints[i]?.map fun ep => s.setRound k ⟨{ (s.round k).bcast with
          pc := .spawning (i + 1)
          calls := (s.round k).bcast.calls ++ [(ep, sendReq { base with operation := k.op } i)]
          blocked := (s.round k).bcast.blocked ++ [i] },
          (s.round k).calls ++ [⟨none, none⟩]⟩
      else none
    | _ => none
  | .collect => s.pc.round.bind fun k =>
    if (s.round k).bcast.pc = .spawning cfg.peerIPs.length then
      some (s.setRound k ⟨{ (s.round k).bcast with pc := .collecting }, (s.round k).calls⟩)
    else none
  | .deliver j => s.pc.round.bind fun k =>
    if (s.round k).bcast.pc = .collecting ∧
        (s.round k).bcast.received.length ≠ cfg.peerIPs.length ∧ j ∈ (s.round k).bcast.blocked then
      ((s.round k).calls[j]?.bind Call.reply).map fun r => s.setRound k ⟨{ (s.round k).bcast with
          blocked := (s.round k).bcast.blocked.erase j
          received := (s.round k).bcast.received ++ [j]
          errs := (s.round k).bcast.errs ++ r.toList }, (s.round k).calls⟩
    else none
  | .finish => s.pc.round.bind fun k =>
    if (s.round k).bcast.pc = .collecting ∧
        (s.round k).bcast.received.length = cfg.peerIPs.length then
      some { s.setRound k ⟨{ (s.round k).bcast with
          pc := .returned (s.round k).bcast.errs.head? }, (s.round k).calls⟩ with
        pc := k.finish cfg skip3 (s.round k).bcast.errs.head? }
    else none
  | .bench r => if s.pc = .step2 then some { s with pc := afterBench skip3 r } else none
  | .serve k j sys msg => (s.round k).calls[j]?.bind fun c =>
    (s.round k).bcast.calls[j]?.bind fun call =>
      if c.outcome = none ∧ (s.agents call.1).handler = .idle then
        some (s.serve hosts k j c call.1 call.2 sys msg) else none
  | .fail k j msg => (s.round k).calls[j]?.bind fun c =>
    if c.reply = none then some (s.setCall k j { c with reply := some (some msg) }) else none
  | .agent ep e => if servesRequest e then none else ((s.agents ep).next (hosts ep) e).map (s.move ep)

/-- The events in order, or `none` once one cannot happen. -/
def Run.run (s : Run) : List RunEvent → Option Run
  | [] => some s
  | e :: es => (s.next cfg base skip3 hosts e).bind fun t => t.run es

variable {cfg base skip3 hosts}

/-- The events of `CommandFunc` and its goroutines; the others are the agents'. -/
def RunEvent.byController : RunEvent → Bool
  | .serve .. | .agent .. => false
  | _ => true

theorem Run.ctrl_of_next {s t : Run} {e : RunEvent} (h : s.next cfg base skip3 hosts e = some t)
    (he : e.byController) : Ctrl cfg base skip3 s t := by
  cases e with
  | spawn =>
    simp only [Run.next, Option.bind_eq_some] at h
    obtain ⟨k, hk, h⟩ := h
    split at h
    · rename_i i hpc
      split at h
      · obtain ⟨ep, hep, rfl⟩ := Option.map_eq_some'.mp h
        exact .spawn hk hpc ‹_› hep
      · cases h
    · cases h
  | collect =>
    simp only [Run.next, Option.bind_eq_some, Option.ite_none_right_eq_some,
      Option.some.injEq] at h
    obtain ⟨k, hk, hpc, rfl⟩ := h
    exact .collect hk hpc
  | deliver j =>
    simp only [Run.next, Option.bind_eq_some, Option.ite_none_right_eq_some,
      Option.map_eq_some'] at h
    obtain ⟨k, hk, ⟨hpc, hlen, hj⟩, r, ⟨c, hc, hr⟩, rfl⟩ := h
    exact .deliver hk hpc hlen hj hc hr
  | finish =>
    simp only [Run.next, Option.bind_eq_some, Option.ite_none_right_eq_some,
      Option.some.injEq] at h
    obtain ⟨k, hk, ⟨hpc, hlen⟩, rfl⟩ := h
    exact .finish hk hpc hlen
  | bench r =>
    simp only [Run.next, Option.ite_none_right_eq_some, Option.some.injEq] at h
    obtain ⟨hpc, rfl⟩ := h
    exact .bench r hpc
  | fail k j msg =>
    simp only [Run.next, Option.bind_eq_some, Option.ite_none_right_eq_some,
      Option.some.injEq] at h
    obtain ⟨c, hc, hrep, rfl⟩ := h
    exact .fail msg hc hrep
  | serve | agent => cases he

/-- **The scheduler takes only steps of the run.** -/
theorem Run.step_of_next {s t : Run} {e : RunEvent} (h : s.next cfg base skip3 hosts e = some t) :
    Step cfg base skip3 hosts s t := by
  cases e with
  | serve k j sys msg =>
    simp only [Run.next, Option.bind_eq_some, Option.ite_none_right_eq_some,
      Option.some.injEq] at h
    obtain ⟨c, hc, ⟨ep, req⟩, hbc, ⟨hout, hidle⟩, rfl⟩ := h
    exact .serve sys msg hc hout hbc hidle
  | agent ep e =>
    simp only [Run.next, Option.ite_none_left_eq_some, Option.map_eq_some'] at h
    obtain ⟨hserve, a, ha, rfl⟩ := h
    exact .agent (fun sys r he => by simp [he, servesRequest] at hserve) ha
  | _ => exact .ctrl (Run.ctrl_of_next h rfl)

/-- **The scheduler can take every step of the controller**, by one of its events. -/
theorem Run.next_of_ctrl {s t : Run} (hc : Ctrl cfg base skip3 s t) :
    ∃ e, e.byController = true ∧ s.next cfg base skip3 hosts e = some t := by
  cases hc with
  | spawn hk hpc hlt hep => exact ⟨.spawn, rfl, by simp [Run.next, hk, hpc, hlt, hep]⟩
  | collect hk hpc => exact ⟨.collect, rfl, by simp [Run.next, hk, hpc]⟩
  | @deliver k j c r hk hpc hlen hj hc hr =>
    exact ⟨.deliver j, rfl, by simp [Run.next, hk, hpc, hlen, hj, hc, hr]⟩
  | finish hk hpc hlen => exact ⟨.finish, rfl, by simp [Run.next, hk, hpc, hlen]⟩
  | bench r hpc => exact ⟨.bench r, rfl, by simp [Run.next, hpc]⟩
  | @fail k j c msg hc hrep => exact ⟨.fail k j msg, rfl, by simp [Run.next, hc, hrep]⟩

theorem Run.next_of_step {s t : Run} (hs : Step cfg base skip3 hosts s t) :
    ∃ e, s.next cfg base skip3 hosts e = some t := by
  cases hs with
  | ctrl hc =>
    obtain ⟨e, -, he⟩ : ∃ e, e.byController = true ∧ s.next cfg base skip3 hosts e = some t :=
      Run.next_of_ctrl hc
    exact ⟨e, he⟩
  | @serve k j c ep req sys msg hc hout hbc hidle =>
    exact ⟨.serve k j sys msg, by simp [Run.next, hc, hbc, hout, hidle]⟩
  | @agent ep e a he hn =>
    have hserve : servesRequest e = false := by
      cases e with
      | serve sys r => exact absurd rfl (he sys r)
      | _ => rfl
    exact ⟨.agent ep e, by simp [Run.next, hserve, hn]⟩

theorem Reach.run {skip1 : Bool} {agents₀ : String → Process} {s t : Run}
    (hr : Reach cfg base skip1 skip3 hosts agents₀ s) (es : List RunEvent)
    (he : s.run cfg base skip3 hosts es = some t) : Reach cfg base skip1 skip3 hosts agents₀ t := by
  induction es generalizing s with
  | nil =>
    cases he
    exact hr
  | cons e es ih =>
    simp only [Run.run, Option.bind_eq_some] at he
    obtain ⟨u, hu, ht⟩ := he
    exact ih (hr.step (Run.step_of_next hu)) ht

end Scheduler

/-- The configuration `CommandFunc` hands to its steps for `onePeer`, with the credentials
`key`: one peer, its agent on port 3500. -/
def checkedOnePeer : Config :=
  { onePeer with
    googleCloudStorageKey := "key"
    peerIPString := "10.0.0.1"
    agentEndpoints := ["10.0.0.1:3500"]
    databaseEndpoints := ["10.0.0.1:0"] }

/-- A run on `checkedOnePeer` with no step skipped: the Start gets through and is delivered, step 2
returns, the agent's monitor goroutine takes its first sample, the Stop gets through and blocks
the handler in its send until that goroutine receives, and the Stop is delivered. -/
def demoEvents : List RunEvent :=
  [.spawn, .collect, .serve .start 0 (Sys.up 100) "", .deliver 0, .finish, .bench none,
    .spawn, .collect, .agent "10.0.0.1:3500" (.firstSample 0 true),
    .serve .stop 0 (Sys.up 0) "", .agent "10.0.0.1:3500" (.receive 0), .deliver 0, .finish]

/-- The run's first state, each agent as `CommandFunc` of the agent starts it. -/
def demoStart : Run := Run.init checkedOnePeer false false fun _ => Process.init demoHost

/-- The state after the first `n` events. -/
def demoAt (n : Nat) : Run :=
  (demoStart.run checkedOnePeer startReq false (fun _ => demoHost) (demoEvents.take n)).getD demoStart

/-- Every state of the demonstration is reachable: a prefix of `demoEvents` that cannot be
followed leaves the start. -/
theorem reach_demoAt (n : Nat) : Reach checkedOnePeer startReq false false (fun _ => demoHost)
    (fun _ => Process.init demoHost) (demoAt n) := by
  unfold demoAt
  cases h : demoStart.run checkedOnePeer startReq false (fun _ => demoHost) (demoEvents.take n) with
  | none => exact .init fun _ => rfl
  | some t => exact Reach.run (.init fun _ => rfl) _ h

/-! ### The rounds of a run -/

section Rounds

variable {s : Run} {k k' : Round} {b : Broadcast}

@[simp] theorem Run.round_setRound : (s.setRound k b).round k = b := by cases k <;> rfl

theorem Run.round_setRound_of_ne (hk : k' ≠ k) : (s.setRound k b).round k' = s.round k' := by
  cases k <;> cases k' <;> first | rfl | exact absurd rfl hk

@[simp] theorem Run.setRound_pc : (s.setRound k b).pc = s.pc := by cases k <;> rfl

@[simp] theorem Run.setRound_agents : (s.setRound k b).agents = s.agents := by cases k <;> rfl

@[simp] theorem Broadcast.release_init (ep : String) : Broadcast.init.release ep = Broadcast.init :=
  rfl

end Rounds

/-! ### What an agent does to a broadcast -/

/-- `b'` is `b` after agents served, failed or released calls: the same broadcast, and calls
that keep a reply or an outcome once they have one. -/
structure Broadcast.Follows (b b' : Broadcast) : Prop where
  bcast : b'.bcast = b.bcast
  length : b'.calls.length = b.calls.length
  calls : ∀ (j : Nat) (c' : Call), b'.calls[j]? = some c' → ∃ c : Call, b.calls[j]? = some c ∧
    (∀ r, c.reply = some r → c'.reply = some r) ∧ (∀ o, c.outcome = some o → c'.outcome = some o)

section Follows

variable {b : Broadcast} {j : Nat} {c : Call}

theorem List.getElem?_append_singleton {α : Type} {l : List α} {x d : α} {j : Nat}
    (hd : (l ++ [x])[j]? = some d) : (j < l.length ∧ l[j]? = some d) ∨ (j = l.length ∧ d = x) := by
  rcases Nat.lt_or_ge j l.length with hj | hj
  · exact .inl ⟨hj, List.getElem?_append_left hj ▸ hd⟩
  · rw [List.getElem?_append_right hj] at hd
    obtain ⟨hlt, hx⟩ := List.getElem?_eq_some_iff.mp hd
    simp only [List.length_singleton] at hlt
    rw [List.getElem_singleton] at hx
    exact .inr ⟨by omega, hx.symm⟩

theorem Broadcast.Follows.refl (b : Broadcast) : b.Follows b :=
  ⟨rfl, rfl, fun _ c' h => ⟨c', h, fun _ => id, fun _ => id⟩⟩

theorem Broadcast.follows_set (hc : b.calls[j]? = some c) {c' : Call}
    (hr : ∀ r, c.reply = some r → c'.reply = some r)
    (ho : ∀ o, c.outcome = some o → c'.outcome = some o) :
    b.Follows ⟨b.bcast, b.calls.set j c'⟩ := by
  refine ⟨rfl, List.length_set .., fun i d hd => ?_⟩
  rw [List.getElem?_set] at hd
  by_cases hij : j = i
  · subst hij
    rw [if_pos rfl, if_pos (List.getElem?_eq_some_iff.mp hc).1] at hd
    cases hd
    exact ⟨c, hc, hr, ho⟩
  · rw [if_neg hij] at hd
    exact ⟨d, hd, fun _ => id, fun _ => id⟩

theorem Broadcast.follows_release (b : Broadcast) (ep : String) : b.Follows (b.release ep) := by
  refine ⟨rfl, List.length_mapIdx, fun i d hd => ?_⟩
  simp only [Broadcast.release, List.getElem?_mapIdx, Option.map_eq_some'] at hd
  obtain ⟨c, hc, rfl⟩ := hd
  refine ⟨c, hc, fun r hr => ?_, fun o ho => ?_⟩ <;> split <;> simp_all

theorem Broadcast.Follows.get {b b' : Broadcast} (hf : b.Follows b') {i : Nat} {c : Call}
    (hc : b.calls[i]? = some c) : ∃ c', b'.calls[i]? = some c' ∧
      (∀ r, c.reply = some r → c'.reply = some r) ∧ (∀ o, c.outcome = some o → c'.outcome = some o) := by
  have hi : i < b'.calls.length := hf.length ▸ (List.getElem?_eq_some_iff.mp hc).1
  obtain ⟨d, hd, hdr, hdo⟩ := hf.calls i _ (List.getElem?_eq_getElem hi)
  rw [hc] at hd
  cases hd
  exact ⟨_, List.getElem?_eq_getElem hi, hdr, hdo⟩

theorem Broadcast.Follows.res_eq {b b' : Broadcast} (hf : b.Follows b') {i : Nat} {c : Call}
    {r : Option String} (hc : b.calls[i]? = some c) (hr : c.reply = some r) : b'.res i = r := by
  obtain ⟨c', hc', hr', -⟩ := hf.get hc
  simp [Broadcast.res, hc', hr' r hr]

end Follows

/-! ### What holds of each broadcast -/

section RoundInv

variable (cfg : Config) (base : Request)

/-- What holds of a broadcast in every reachable state: the main goroutine's side is a run of
`bcastReq`, with the replies so far as what `sendReq` returns; one call per goroutine; every
goroutine whose message was taken has returned; and a call returns `nil` only after the
agent's `Transfer` got through. -/
structure RoundInv (op : Operation) (b : Broadcast) : Prop where
  reach : Bcast.Reach cfg base op b.res b.bcast
  length : b.calls.length = b.bcast.calls.length
  replied : ∀ j ∈ b.bcast.received, ∃ (c : Call) (r : Option String),
    b.calls[j]? = some c ∧ c.reply = some r
  ok : ∀ (j : Nat) (c : Call), b.calls[j]? = some c → c.reply = some none → c.outcome = some .ok

variable {cfg base} {op : Operation} {b b' : Broadcast}

/-- A run of `bcastReq` reads the results of the goroutines whose message it took only. -/
theorem bcastReach_congr {res res' : Nat → Option String} {s : Bcast}
    (hr : Bcast.Reach cfg base op res s) (h : ∀ j ∈ s.received, res' j = res j) :
    Bcast.Reach cfg base op res' s := by
  induction hr with
  | init => exact .init
  | step _ hs ih =>
    cases hs with
    | spawn hpc hlt hep => exact (ih h).step (.spawn hpc hlt hep)
    | collect hpc => exact (ih h).step (.collect hpc)
    | @deliver j hpc hlen hj =>
      have hr := (ih fun i hi => h i (List.mem_append_left _ hi)).step
        (show Bcast.Step cfg base op res' _ _ from .deliver hpc hlen hj)
      rwa [h j (List.mem_append_right _ (List.mem_singleton_self j))] at hr
    | finish hpc hlen => exact (ih h).step (.finish hpc hlen)

theorem RoundInv.bcast (hi : RoundInv cfg base op b) : BcastInv cfg base op b.res b.bcast :=
  hi.reach.inv

theorem roundInv_init (op : Operation) : RoundInv cfg base op Broadcast.init :=
  ⟨.init, rfl, fun _ h => (by cases h), fun _ _ h => (by cases h)⟩

/-- Agents serving, failing and releasing calls keep a broadcast's invariant, given that a
call they make return `nil` got through. -/
theorem RoundInv.follows (hi : RoundInv cfg base op b) (hf : b.Follows b')
    (hok : ∀ (j : Nat) (c : Call), b'.calls[j]? = some c → c.reply = some none →
      c.outcome = some .ok) :
    RoundInv cfg base op b' := by
  have hres : ∀ j ∈ b.bcast.received, b'.res j = b.res j := fun j hj => by
    obtain ⟨c, r, hc, hr⟩ := hi.replied j hj
    rw [hf.res_eq hc hr, (Broadcast.Follows.refl b).res_eq hc hr]
  refine ⟨?_, by rw [hf.length, hi.length, hf.bcast], fun j hj => ?_, hok⟩
  · rw [hf.bcast]
    exact bcastReach_congr hi.reach hres
  · rw [hf.bcast] at hj
    obtain ⟨c, r, hc, hr⟩ := hi.replied j hj
    obtain ⟨c', hc', hr', -⟩ := hf.get hc
    exact ⟨c', r, hc', hr' r hr⟩

theorem RoundInv.spawn (hi : RoundInv cfg base op b) {i : Nat} {ep : String}
    (hpc : b.bcast.pc = .spawning i) (hlt : i < cfg.peerIPs.length)
    (hep : cfg.agentEndpoints[i]? = some ep) :
    RoundInv cfg base op ⟨{ b.bcast with
        pc := .spawning (i + 1)
        calls := b.bcast.calls ++ [(ep, sendReq { base with operation := op } i)]
        blocked := b.bcast.blocked ++ [i] }, b.calls ++ [⟨none, none⟩]⟩ := by
  have hget : ∀ {j c}, b.calls[j]? = some c → (b.calls ++ [⟨none, none⟩])[j]? = some c :=
    fun hc => by rw [List.getElem?_append_left (List.getElem?_eq_some_iff.mp hc).1]; exact hc
  have hres : (⟨b.bcast, b.calls ++ [⟨none, none⟩]⟩ : Broadcast).res = b.res := funext fun j => by
    rcases Nat.lt_or_ge j b.calls.length with hj | hj
    · simp [Broadcast.res, List.getElem?_append_left hj]
    · by_cases hj' : j = b.calls.length
      · subst hj'; simp [Broadcast.res, List.getElem?_eq_none hj]
      · rw [Broadcast.res, Broadcast.res, List.getElem?_eq_none (by simp; omega),
          List.getElem?_eq_none hj]
  refine ⟨?_, by simp [hi.length], fun j hj => ?_, fun j c hc hr => ?_⟩
  · have := hi.reach.step (.spawn hpc hlt hep)
    rwa [← hres] at this
  · obtain ⟨c, r, hc, hr⟩ := hi.replied j hj
    exact ⟨c, r, hget hc, hr⟩
  · rcases Nat.lt_or_ge j b.calls.length with hj | hj
    · rw [List.getElem?_append_left hj] at hc
      exact hi.ok j c hc hr
    · rw [List.getElem?_append_right hj] at hc
      obtain ⟨_, hceq⟩ := List.getElem?_eq_some_iff.mp hc
      rw [List.getElem_singleton] at hceq
      subst hceq
      cases hr

theorem RoundInv.collect (hi : RoundInv cfg base op b)
    (hpc : b.bcast.pc = .spawning cfg.peerIPs.length) :
    RoundInv cfg base op ⟨{ b.bcast with pc := .collecting }, b.calls⟩ :=
  ⟨hi.reach.step (.collect hpc), hi.length, hi.replied, hi.ok⟩

theorem RoundInv.deliver (hi : RoundInv cfg base op b) {j : Nat} {c : Call} {r : Option String}
    (hpc : b.bcast.pc = .collecting) (hlen : b.bcast.received.length ≠ cfg.peerIPs.length)
    (hj : j ∈ b.bcast.blocked) (hc : b.calls[j]? = some c) (hr : c.reply = some r) :
    RoundInv cfg base op ⟨{ b.bcast with
        blocked := b.bcast.blocked.erase j
        received := b.bcast.received ++ [j]
        errs := b.bcast.errs ++ r.toList }, b.calls⟩ := by
  have hres : b.res j = r := (Broadcast.Follows.refl b).res_eq hc hr
  refine ⟨?_, hi.length, fun i hi' => ?_, hi.ok⟩
  · have := hi.reach.step (.deliver hpc hlen hj)
    rwa [hres] at this
  · rcases List.mem_append.mp hi' with h | h
    · exact hi.replied i h
    · rw [List.mem_singleton.mp h]
      exact ⟨c, r, hc, hr⟩

theorem RoundInv.finish (hi : RoundInv cfg base op b) (hpc : b.bcast.pc = .collecting)
    (hlen : b.bcast.received.length = cfg.peerIPs.length) :
    RoundInv cfg base op ⟨{ b.bcast with pc := .returned b.bcast.errs.head? }, b.calls⟩ :=
  ⟨hi.reach.step (.finish hpc hlen), hi.length, hi.replied, hi.ok⟩

/-- A broadcast never starts more goroutines than there are peers. -/
theorem RoundInv.started_le (hi : RoundInv cfg base op b) :
    b.bcast.pc.started cfg.peerIPs.length ≤ cfg.peerIPs.length := by
  cases hpc : b.bcast.pc with
  | spawning i => exact (hi.bcast.spawning i hpc).1
  | _ => exact le_rfl

/-- The calls are those of the goroutines started. -/
theorem RoundInv.length_calls (hcfg : cfg.EndpointsBuilt) (hi : RoundInv cfg base op b) :
    b.calls.length = b.bcast.pc.started cfg.peerIPs.length := by
  rw [hi.length, hi.bcast.calls, callsUpTo_eq hcfg hi.started_le, List.length_mapIdx,
    List.length_take, Nat.min_eq_left hi.started_le]

/-- Every call is that of a goroutine started. -/
theorem RoundInv.lt_started (hi : RoundInv cfg base op b) {j : Nat} {c : Call}
    (hc : b.calls[j]? = some c) : j < b.bcast.pc.started cfg.peerIPs.length := by
  have hj := (List.getElem?_eq_some_iff.mp hc).1
  rw [hi.length, hi.bcast.calls] at hj
  exact hj.trans_le ((List.length_filterMap_le _ _).trans_eq (List.length_range _))

/-- Call `j` goes to the endpoint of peer `j`, with the request of goroutine `j`. -/
theorem RoundInv.call (hcfg : cfg.EndpointsBuilt) (hi : RoundInv cfg base op b) {j : Nat}
    {ep : String} {req : Request} (hc : b.bcast.calls[j]? = some (ep, req)) :
    cfg.agentEndpoints[j]? = some ep ∧ req = sendReq { base with operation := op } j := by
  rw [hi.bcast.calls, callsUpTo_eq hcfg hi.started_le, List.getElem?_mapIdx,
    Option.map_eq_some'] at hc
  obtain ⟨ip, hip, heq⟩ := hc
  rw [List.getElem?_take] at hip
  split at hip
  · simp only [bcastCall, Prod.mk.injEq] at heq
    rw [agentEndpoints_getElem? hcfg, hip, Option.map_some', heq.1]
    exact ⟨rfl, heq.2.symm⟩
  · cases hip

/-- **Once a broadcast returns `nil`**, every agent took its call, with success, and every
`sendReq` returned `nil`. -/
theorem RoundInv.all_ok (hi : RoundInv cfg base op b) (hret : b.bcast.pc = .returned none)
    {j : Nat} {c : Call} (hc : b.calls[j]? = some c) : c.outcome = some .ok ∧ c.reply = some none := by
  obtain ⟨hlen, hhead⟩ := hi.bcast.returned none hret
  have hperm := hi.bcast.perm
  simp only [hret, BcastPc.started] at hperm
  have hrecv : j ∈ b.bcast.received := by
    have hlen' := hperm.length_eq
    rw [List.length_append, hlen, List.length_range] at hlen'
    have hblocked : b.bcast.blocked = [] := List.eq_nil_of_length_eq_zero (by omega)
    rw [hblocked, List.nil_append] at hperm
    have hj := hi.lt_started hc
    rw [hret] at hj
    exact hperm.mem_iff.mpr (List.mem_range.mpr hj)
  obtain ⟨c', r, hc', hr⟩ := hi.replied j hrecv
  rw [hc] at hc'
  cases hc'
  have hnone : b.res j = none := List.forall_none_of_filterMap_eq_nil
    (hi.bcast.errs ▸ List.head?_eq_none_iff.mp hhead.symm) j hrecv
  rw [(Broadcast.Follows.refl b).res_eq hc hr] at hnone
  subst hnone
  exact ⟨hi.ok j c hc hr, hr⟩

end RoundInv

/-! ### Where `CommandFunc` is -/

/-- Step 1 is done: skipped, or its broadcast returned `nil`. -/
def Run.Started (skip1 : Bool) (s : Run) : Prop :=
  skip1 = true ∨ s.start.bcast.pc = .returned none

/-- What holds of the steps of `CommandFunc` in every reachable state: a skipped step sends
nothing; Stops are sent only once step 1 is done; steps 1 and 3 run until their broadcasts
return; and `nil` is returned only once each step not skipped returned `nil`. -/
structure PcInv (skip1 skip3 : Bool) (s : Run) : Prop where
  skipped1 : skip1 = true → s.start = Broadcast.init
  skipped3 : skip3 = true → s.stop = Broadcast.init
  stop : s.stop = Broadcast.init ∨ s.Started skip1
  step1 : s.pc = .step1 →
    skip1 = false ∧ s.stop = Broadcast.init ∧ ∀ r, s.start.bcast.pc ≠ .returned r
  step2 : s.pc = .step2 → s.Started skip1 ∧ s.stop = Broadcast.init
  step3 : s.pc = .step3 → s.Started skip1 ∧ skip3 = false ∧ ∀ r, s.stop.bcast.pc ≠ .returned r
  done : s.pc = .returned none →
    s.Started skip1 ∧ (skip3 = true ∨ s.stop.bcast.pc = .returned none)

section PcInv

variable {cfg : Config} {skip1 skip3 : Bool} {s t : Run}

@[simp] theorem Run.round_withPc (s : Run) (p : RunPc) (k : Round) :
    ({ s with pc := p } : Run).round k = s.round k := by cases k <;> rfl

@[simp] theorem Run.round_withAgents (s : Run) (f : String → Process) (k : Round) :
    ({ s with agents := f } : Run).round k = s.round k := by cases k <;> rfl

theorem RunPc.round_eq_some {p : RunPc} {k : Round} (hk : p.round = some k) :
    (k = .start ∧ p = .step1) ∨ (k = .stop ∧ p = .step3) := by
  cases p <;> cases k <;> simp_all [RunPc.round]

theorem afterStep1_cases (cfg : Config) (skip3 : Bool) :
    afterStep1 cfg skip3 = .step2 ∨ afterStep1 cfg skip3 = afterStep2 skip3 := by
  unfold afterStep1
  split <;> simp

theorem Broadcast.Follows.eq_init {b b' : Broadcast} (hf : b.Follows b')
    (h : b = Broadcast.init) : b' = Broadcast.init := by
  subst h
  obtain ⟨bc, cs⟩ := b'
  have hbc : bc = Bcast.init := hf.bcast
  have hcs : cs = [] := List.eq_nil_of_length_eq_zero hf.length
  rw [hbc, hcs]
  rfl

/-- Once step 1 is done with no Stop sent, `CommandFunc` is in step 2, in step 3, or has
returned `nil` with step 3 skipped. -/
theorem pcInv_after (hS : s.Started skip1) (hstop : s.stop = Broadcast.init)
    (h1 : skip1 = true → s.start = Broadcast.init)
    (hpc : s.pc = .step2 ∨ s.pc = afterStep2 skip3) : PcInv skip1 skip3 s := by
  have hbc : ∀ r, s.stop.bcast.pc ≠ .returned r := by simp [hstop, Broadcast.init, Bcast.init]
  refine ⟨h1, fun _ => hstop, .inl hstop, fun h => ?_, fun _ => ⟨hS, hstop⟩,
    fun h => ⟨hS, ?_, hbc⟩, fun h => ⟨hS, ?_⟩⟩ <;>
    cases skip3 <;> rcases hpc with hpc | hpc <;> simp_all [afterStep2]

theorem pcInv_init (agents₀ : String → Process) :
    PcInv skip1 skip3 (Run.init cfg skip1 skip3 agents₀) := by
  cases skip1
  · exact ⟨nofun, fun _ => rfl, .inl rfl, fun _ => ⟨rfl, rfl, nofun⟩, nofun, nofun, nofun⟩
  · exact pcInv_after (.inl rfl) rfl (fun _ => rfl) ((afterStep1_cases cfg skip3).imp id id)

/-- Agents serving, failing and releasing calls keep the steps' invariant. -/
theorem PcInv.follows (hi : PcInv skip1 skip3 s) (hpc : t.pc = s.pc)
    (hf : ∀ k, (s.round k).Follows (t.round k)) : PcInv skip1 skip3 t := by
  have hstart : t.start.bcast = s.start.bcast := (hf .start).bcast
  have hstop : t.stop.bcast = s.stop.bcast := (hf .stop).bcast
  have hS : s.Started skip1 → t.Started skip1 := by rw [Run.Started, Run.Started, hstart]; exact id
  have hinit : ∀ k, s.round k = Broadcast.init → t.round k = Broadcast.init :=
    fun k => (hf k).eq_init
  refine ⟨fun h => hinit .start (hi.skipped1 h), fun h => hinit .stop (hi.skipped3 h),
    hi.stop.imp (hinit .stop) hS, fun h => ?_, fun h => ?_, fun h => ?_, fun h => ?_⟩ <;>
    rw [hpc] at h
  · obtain ⟨h1, h2, h3⟩ := hi.step1 h
    exact ⟨h1, hinit .stop h2, hstart ▸ h3⟩
  · exact (hi.step2 h).imp hS (hinit .stop)
  · obtain ⟨h1, h2, h3⟩ := hi.step3 h
    exact ⟨hS h1, h2, hstop ▸ h3⟩
  · exact (hi.done h).imp hS (Or.imp_right (hstop ▸ ·))

/-- A step inside a broadcast keeps the steps' invariant. -/
theorem PcInv.setRound (hi : PcInv skip1 skip3 s) {k : Round} (hk : s.pc.round = some k)
    {b : Broadcast} (hb : ∀ r, b.bcast.pc ≠ .returned r) : PcInv skip1 skip3 (s.setRound k b) := by
  rcases RunPc.round_eq_some hk with ⟨rfl, hpc⟩ | ⟨rfl, hpc⟩
  · obtain ⟨h1, hstop, -⟩ := hi.step1 hpc
    exact ⟨by simp [h1], fun _ => hstop, .inl hstop, fun _ => ⟨h1, hstop, hb⟩,
      fun h => by simp_all [Run.setRound], fun h => by simp_all [Run.setRound],
      fun h => by simp_all [Run.setRound]⟩
  · obtain ⟨hS, h3, -⟩ := hi.step3 hpc
    exact ⟨hi.skipped1, by simp [h3], .inr hS, fun h => by simp_all [Run.setRound],
      fun h => by simp_all [Run.setRound], fun _ => ⟨hS, h3, hb⟩,
      fun h => by simp_all [Run.setRound]⟩

/-- A broadcast returning keeps the steps' invariant. -/
theorem PcInv.finish (hi : PcInv skip1 skip3 s) {k : Round} (hk : s.pc.round = some k)
    {b : Broadcast} {e : Option String} (hb : b.bcast.pc = .returned e) :
    PcInv skip1 skip3 { s.setRound k b with pc := k.finish cfg skip3 e } := by
  rcases RunPc.round_eq_some hk with ⟨rfl, hpc⟩ | ⟨rfl, hpc⟩
  · obtain ⟨h1, hstop, -⟩ := hi.step1 hpc
    cases e with
    | none =>
      exact pcInv_after (.inr hb) hstop (by simp [h1]) ((afterStep1_cases cfg skip3).imp id id)
    | some e => exact ⟨by simp [h1], fun _ => hstop, .inl hstop, nofun, nofun, nofun, nofun⟩
  · obtain ⟨hS, h3, -⟩ := hi.step3 hpc
    cases e with
    | none => exact ⟨hi.skipped1, by simp [h3], .inr hS, nofun, nofun, nofun,
        fun _ => ⟨hS, .inr hb⟩⟩
    | some e => exact ⟨hi.skipped1, by simp [h3], .inr hS, nofun, nofun, nofun, nofun⟩

/-- Step 2 returning keeps the steps' invariant. -/
theorem PcInv.bench (hi : PcInv skip1 skip3 s) (hpc : s.pc = .step2) (r : Option String) :
    PcInv skip1 skip3 { s with pc := afterBench skip3 r } := by
  obtain ⟨hS, hstop⟩ := hi.step2 hpc
  cases r with
  | none => exact pcInv_after hS hstop hi.skipped1 (.inr rfl)
  | some e => exact ⟨hi.skipped1, hi.skipped3, hi.stop, nofun, nofun, nofun, nofun⟩

end PcInv

/-! ### The agents' side of a step -/

section AgentSide

variable {h : Host} {sys : Sys} {r : Request} {a b : Process} {msg : String}

/-- A goroutine of an agent moving keeps the requests served, and changes the handler only
when it takes a Stop's signal. -/
theorem Process.next_moves {e : Event} (he : ∀ sys r, e ≠ .serve sys r)
    (hn : a.next h e = some b) :
    b.history = a.history ∧ (b.handler = a.handler ∨ a.handler = .stopping ∧ b.handler = .idle) := by
  cases e with
  | serve sys r => exact absurd rfl (he sys r)
  | _ =>
    simp only [Process.next, Option.bind_eq_some, Option.ite_none_right_eq_some,
      Option.some.injEq] at hn
    obtain ⟨l, -, ⟨h₁, -⟩, rfl⟩ := hn
    simp [h₁]

/-- A call the agent served that `sendReq` has not returned from waits on a Stop's send, or
on an agent that panicked. -/
theorem answer_eq_none
    (hans : answer msg (transfer h sys r a.paths a.server).outcome (a.serve h sys r).handler = none) :
    ((transfer h sys r a.paths a.server).outcome = .ok ∧ (a.serve h sys r).handler = .stopping) ∨
    ((transfer h sys r a.paths a.server).outcome = .panic ∧ (a.serve h sys r).handler = .crashed) := by
  simp only [Process.serve] at hans ⊢
  generalize transfer h sys r a.paths a.server = rep at hans ⊢
  cases ho : rep.outcome <;> simp_all [answer]

/-- `sendReq` gets `nil` at once only from a success that leaves the handler idle. -/
theorem answer_eq_some_none
    (hans : answer msg (transfer h sys r a.paths a.server).outcome (a.serve h sys r).handler =
      some none) :
    (transfer h sys r a.paths a.server).outcome = .ok ∧ (a.serve h sys r).handler = .idle := by
  simp only [Process.serve] at hans ⊢
  generalize transfer h sys r a.paths a.server = rep at hans ⊢
  cases ho : rep.outcome <;> simp_all [answer]

@[simp] theorem Call.served_outcome (c : Call) (o : Outcome) (ans : Option (Option String)) :
    (c.served o ans).outcome = some o := rfl

theorem Call.served_reply_some {c : Call} {o : Outcome} {ans : Option (Option String)}
    {r : Option String} (h : c.reply = some r) : (c.served o ans).reply = some r := by
  simp only [Call.served, h]
  rfl

theorem Call.served_reply_none {c : Call} {o : Outcome} {ans : Option (Option String)}
    (h : c.reply = none) : (c.served o ans).reply = ans := by
  simp only [Call.served, h]
  rfl

/-- A call served returns `nil` only after a success, given that it had not returned `nil`
and that the agent answers `nil` only after one. -/
theorem Call.served_ok {c : Call} {o : Outcome} {ans : Option (Option String)}
    (hc : c.reply ≠ some none) (hans : ans = some none → o = .ok)
    (h : (c.served o ans).reply = some none) : (c.served o ans).outcome = some .ok := by
  cases hcr : c.reply with
  | some r => exact absurd (hcr.trans ((Call.served_reply_some hcr).symm.trans h)) hc
  | none => rw [Call.served_outcome, hans ((Call.served_reply_none hcr).symm.trans h)]

theorem Broadcast.getElem?_release {b : Broadcast} {ep : String} {j : Nat} {d : Call}
    (hd : (b.release ep).calls[j]? = some d) : ∃ d₀, b.calls[j]? = some d₀ ∧
      d = if d₀.outcome.isSome ∧ d₀.reply = none ∧ b.bcast.calls[j]?.map Prod.fst = some ep then
        { d₀ with reply := some none } else d₀ := by
  dsimp only [Broadcast.release] at hd
  rw [List.getElem?_mapIdx, Option.map_eq_some'] at hd
  obtain ⟨d₀, hd₀, rfl⟩ := hd
  exact ⟨d₀, hd₀, rfl⟩

end AgentSide

/-! ### Replacing a call -/

section SetCall

variable {s : Run} {k k' : Round} {j j' : Nat} {c c' d : Call}

@[simp] theorem Run.setCall_pc : (s.setCall k j c').pc = s.pc := Run.setRound_pc

@[simp] theorem Run.setCall_agents : (s.setCall k j c').agents = s.agents := Run.setRound_agents

@[simp] theorem Run.bcast_setCall : ((s.setCall k j c').round k').bcast = (s.round k').bcast := by
  cases k <;> cases k' <;> rfl

/-- A call after the replacement: the new one, or as it was. -/
theorem Run.getElem?_setCall (hd : ((s.setCall k j c').round k').calls[j']? = some d) :
    (k' = k ∧ j' = j ∧ d = c') ∨ (s.round k').calls[j']? = some d := by
  by_cases hk : k' = k
  · subst hk
    simp only [Run.setCall, Run.round_setRound, List.getElem?_set] at hd
    split at hd
    · split at hd
      · cases hd
        exact .inl ⟨rfl, by omega, rfl⟩
      · cases hd
    · exact .inr hd
  · rw [Run.setCall, Run.round_setRound_of_ne hk] at hd
    exact .inr hd

theorem Run.follows_setCall (hc : (s.round k).calls[j]? = some c)
    (hr : ∀ r, c.reply = some r → c'.reply = some r)
    (ho : ∀ o, c.outcome = some o → c'.outcome = some o) (k' : Round) :
    (s.round k').Follows ((s.setCall k j c').round k') := by
  by_cases hk : k' = k
  · subst hk
    rw [Run.setCall, Run.round_setRound]
    exact Broadcast.follows_set hc hr ho
  · rw [Run.setCall, Run.round_setRound_of_ne hk]
    exact Broadcast.Follows.refl _

/-- The controller's steps leave the agents alone. -/
theorem Ctrl.agents {cfg : Config} {base : Request} {skip3 : Bool} {t : Run}
    (hc : Ctrl cfg base skip3 s t) : t.agents = s.agents := by
  cases hc <;> simp

end SetCall

/-! ### The invariant of a run -/

section RunInv

variable (cfg : Config) (base : Request) (skip1 skip3 : Bool)

/-- What holds in every reachable state: each broadcast's invariant, the steps' invariant,
and a call the agent took that has not returned waits on a Stop's send at that agent, or the
agent crashed. -/
structure RunInv (s : Run) : Prop where
  rounds : ∀ k : Round, RoundInv cfg base k.op (s.round k)
  pc : PcInv skip1 skip3 s
  waiting : ∀ (k : Round) (j : Nat) (c : Call) (ep : String) (req : Request) (o : Outcome),
    (s.round k).calls[j]? = some c → (s.round k).bcast.calls[j]? = some (ep, req) →
    c.outcome = some o → c.reply = none →
    (o = .ok ∧ (s.agents ep).handler = .stopping) ∨ (o = .panic ∧ (s.agents ep).handler = .crashed)

/-- `t` is `s` after a step of the controller: the same agents, each call of `s` kept, and
each call of `t` new or as it was, to the same endpoint. -/
structure Run.Grows (s t : Run) : Prop where
  agents : t.agents = s.agents
  calls : ∀ (k : Round) (j : Nat) (d : Call), (t.round k).calls[j]? = some d →
    d = ⟨none, none⟩ ∨
      ((s.round k).calls[j]? = some d ∧ (t.round k).bcast.calls[j]? = (s.round k).bcast.calls[j]?)
  kept : ∀ (k : Round) (j : Nat) (d : Call), (s.round k).calls[j]? = some d →
    (t.round k).calls[j]? = some d

variable {cfg base skip1 skip3} {s t : Run}

theorem Run.grows_setRound {k : Round} {b : Broadcast}
    (hg : ∀ (j : Nat) (d : Call), b.calls[j]? = some d → d = ⟨none, none⟩ ∨
      ((s.round k).calls[j]? = some d ∧ b.bcast.calls[j]? = (s.round k).bcast.calls[j]?))
    (hk : ∀ (j : Nat) (d : Call), (s.round k).calls[j]? = some d → b.calls[j]? = some d) :
    s.Grows (s.setRound k b) := by
  refine ⟨Run.setRound_agents, fun k' j d hd => ?_, fun k' j d hd => ?_⟩ <;> by_cases hk' : k' = k
  · subst hk'
    rw [Run.round_setRound] at hd ⊢
    exact hg j d hd
  · rw [Run.round_setRound_of_ne hk'] at hd ⊢
    exact .inr ⟨hd, rfl⟩
  · subst hk'
    rw [Run.round_setRound]
    exact hk j d hd
  · rw [Run.round_setRound_of_ne hk']
    exact hd

theorem Run.Grows.refl (s : Run) : s.Grows s :=
  ⟨rfl, fun _ _ _ hd => .inr ⟨hd, rfl⟩, fun _ _ _ => id⟩

/-- Starting a goroutine adds a call, not yet served. -/
theorem Run.grows_spawn {k : Round}
    (hlen : (s.round k).calls.length = (s.round k).bcast.calls.length) {bc : Bcast}
    {x : String × Request} (hbc : bc.calls = (s.round k).bcast.calls ++ [x]) :
    s.Grows (s.setRound k ⟨bc, (s.round k).calls ++ [⟨none, none⟩]⟩) := by
  refine Run.grows_setRound (fun j d hd => ?_) fun j d hd => ?_
  · rcases List.getElem?_append_singleton hd with ⟨hj, hd⟩ | ⟨-, rfl⟩
    · exact .inr ⟨hd, hbc ▸ List.getElem?_append_left (hlen ▸ hj)⟩
    · exact .inl rfl
  · exact List.getElem?_append_left (List.getElem?_eq_some_iff.mp hd).1 ▸ hd

/-- A step inside a broadcast that keeps its calls. -/
theorem Run.grows_setBcast {k : Round} {bc : Bcast} (hbc : bc.calls = (s.round k).bcast.calls) :
    s.Grows (s.setRound k ⟨bc, (s.round k).calls⟩) :=
  Run.grows_setRound (fun _ _ hd => .inr ⟨hd, by rw [hbc]⟩) fun _ _ => id

theorem Run.Grows.withPc (hg : s.Grows t) (p : RunPc) : s.Grows { t with pc := p } :=
  ⟨hg.agents, fun k => by simpa using hg.calls k, fun k => by simpa using hg.kept k⟩

theorem roundInv_setRound (hr : ∀ k : Round, RoundInv cfg base k.op (s.round k)) {k : Round}
    {b : Broadcast} (hb : RoundInv cfg base k.op b) (k' : Round) :
    RoundInv cfg base k'.op ((s.setRound k b).round k') := by
  by_cases hk : k' = k
  · subst hk
    rwa [Run.round_setRound]
  · rw [Run.round_setRound_of_ne hk]
    exact hr k'

theorem PcInv.withAgents (hi : PcInv skip1 skip3 s) (f : String → Process) :
    PcInv skip1 skip3 { s with agents := f } :=
  ⟨hi.skipped1, hi.skipped3, hi.stop, hi.step1, hi.step2, hi.step3, hi.done⟩

/-- A step of the controller keeps what is waiting. -/
theorem RunInv.grows (hi : RunInv cfg base skip1 skip3 s) (hg : s.Grows t)
    (hr : ∀ k : Round, RoundInv cfg base k.op (t.round k)) (hp : PcInv skip1 skip3 t) :
    RunInv cfg base skip1 skip3 t := by
  refine ⟨hr, hp, fun k j d ep req o hd hbc ho hrep => ?_⟩
  rcases hg.calls k j d hd with rfl | ⟨hd', hbc'⟩
  · cases ho
  · rw [hg.agents]
    exact hi.waiting k j d ep req o hd' (hbc' ▸ hbc) ho hrep

/-- Replacing a call by one that keeps its reply and its outcome, and that returns `nil` only
after a success, keeps each broadcast's invariant and the steps' invariant. -/
theorem RunInv.setCall (hi : RunInv cfg base skip1 skip3 s) {k : Round} {j : Nat} {c d : Call}
    (hc : (s.round k).calls[j]? = some c) (hr : ∀ r, c.reply = some r → d.reply = some r)
    (ho : ∀ o, c.outcome = some o → d.outcome = some o)
    (hok : d.reply = some none → d.outcome = some .ok) :
    (∀ k' : Round, RoundInv cfg base k'.op ((s.setCall k j d).round k')) ∧
      PcInv skip1 skip3 (s.setCall k j d) := by
  have hf := Run.follows_setCall hc hr ho
  refine ⟨fun k' => (hi.rounds k').follows (hf k') fun j' e he her => ?_,
    hi.pc.follows Run.setCall_pc hf⟩
  rcases Run.getElem?_setCall he with ⟨-, -, rfl⟩ | he
  · exact hok her
  · exact (hi.rounds k').ok j' e he her

variable {hosts : String → Host}

/-- **An agent serving a call** keeps the invariant. -/
theorem RunInv.serve (hi : RunInv cfg base skip1 skip3 s) {k : Round} {j : Nat} {c : Call}
    {ep : String} {req : Request} (sys : Sys) (msg : String)
    (hc : (s.round k).calls[j]? = some c) (hout : c.outcome = none)
    (hbc : (s.round k).bcast.calls[j]? = some (ep, req)) (hidle : (s.agents ep).handler = .idle) :
    RunInv cfg base skip1 skip3 (s.serve hosts k j c ep req sys msg) := by
  have hnot : c.reply ≠ some none := fun h => by simpa [hout] using (hi.rounds k).ok j c hc h
  obtain ⟨hr, hp⟩ := hi.setCall hc (fun _ => Call.served_reply_some)
    (fun o h => by simp [hout] at h) (Call.served_ok hnot fun h => (answer_eq_some_none h).1)
  refine ⟨fun k' => by simpa [Run.serve] using hr k', hp.withAgents _,
    fun k' j' d ep' req' o' hd hbc' ho hrep => ?_⟩
  simp only [Run.serve, Run.round_withAgents, Run.bcast_setCall] at hd hbc' ⊢
  rcases Run.getElem?_setCall hd with ⟨rfl, rfl, rfl⟩ | hd
  · rw [hbc, Option.some.injEq, Prod.mk.injEq] at hbc'
    obtain ⟨rfl, -⟩ := hbc'
    cases hcr : c.reply with
    | some _ => simp [Call.served_reply_some hcr] at hrep
    | none =>
      rw [Call.served_reply_none hcr] at hrep
      rw [Call.served_outcome, Option.some.injEq] at ho
      subst ho
      simpa using answer_eq_none hrep
  · have hw := hi.waiting k' j' d ep' req' o' hd hbc' ho hrep
    by_cases hep : ep' = ep
    · subst hep
      simp [hidle] at hw
    · rwa [Function.update_noteq hep]

/-- **A call failing in transport** keeps the invariant. -/
theorem RunInv.fail (hi : RunInv cfg base skip1 skip3 s) {k : Round} {j : Nat} {c : Call}
    (msg : String) (hc : (s.round k).calls[j]? = some c) (hrep : c.reply = none) :
    RunInv cfg base skip1 skip3 (s.setCall k j { c with reply := some (some msg) }) := by
  obtain ⟨hr, hp⟩ := hi.setCall (d := { c with reply := some (some msg) }) hc
    (fun r h => by simp [hrep] at h) (fun _ => id) (fun h => by simp at h)
  refine ⟨hr, hp, fun k' j' d ep' req' o hd hbc ho hrep' => ?_⟩
  rw [Run.bcast_setCall] at hbc
  rw [Run.setCall_agents]
  rcases Run.getElem?_setCall hd with ⟨-, -, rfl⟩ | hd
  · cases hrep'
  · exact hi.waiting k' j' d ep' req' o hd hbc ho hrep'

/-- **A goroutine of an agent moving** keeps the invariant: when it takes a Stop's signal, the
calls waiting on that agent return `nil`, and they were successes. -/
theorem RunInv.move (hi : RunInv cfg base skip1 skip3 s) {ep : String} {a : Process}
    (hh : a.handler = (s.agents ep).handler ∨
      (s.agents ep).handler = .stopping ∧ a.handler = .idle) :
    RunInv cfg base skip1 skip3 (s.move ep a) := by
  unfold Run.move
  split
  case isTrue hrel =>
    have hround : ∀ k : Round, ({ s with
        start := s.start.release ep
        stop := s.stop.release ep
        agents := Function.update s.agents ep a } : Run).round k = (s.round k).release ep :=
      fun k => by cases k <;> rfl
    refine ⟨fun k => hround k ▸ (hi.rounds k).follows (Broadcast.follows_release _ ep)
      fun j d hd hdr => ?_, hi.pc.follows rfl fun k => hround k ▸ Broadcast.follows_release _ ep,
      fun k j d ep' req o hd hbc ho hrep => ?_⟩
    · obtain ⟨d₀, hd₀, rfl⟩ := Broadcast.getElem?_release hd
      split_ifs at hdr ⊢ with hcond
      · obtain ⟨o, ho⟩ := Option.isSome_iff_exists.mp hcond.1
        obtain ⟨⟨ep₀, req⟩, hbc, rfl⟩ := Option.map_eq_some'.mp hcond.2.2
        rcases hi.waiting k j d₀ _ req o hd₀ hbc ho hcond.2.1 with ⟨rfl, -⟩ | ⟨-, hcr⟩
        · exact ho
        · simp [hrel.1] at hcr
      · exact (hi.rounds k).ok j d₀ hd₀ hdr
    · rw [hround] at hd hbc
      obtain ⟨d₀, hd₀, rfl⟩ := Broadcast.getElem?_release hd
      split_ifs at ho hrep with hcond
      by_cases hep : ep' = ep
      · subst hep
        exact absurd ⟨by simp [ho], hrep, by simp [Broadcast.release] at hbc; simp [hbc]⟩ hcond
      · simpa [Function.update_noteq hep] using hi.waiting k j d₀ ep' req o hd₀ hbc ho hrep
  case isFalse hrel =>
    have hh' : a.handler = (s.agents ep).handler := hh.resolve_right fun h => hrel ⟨h.1, h.2⟩
    refine ⟨fun k => by simpa using hi.rounds k, hi.pc.withAgents _,
      fun k j d ep' req o hd hbc ho hrep => ?_⟩
    simp only [Run.round_withAgents] at hd hbc
    have hw := hi.waiting k j d ep' req o hd hbc ho hrep
    by_cases hep : ep' = ep
    · subst hep
      simpa [hh'] using hw
    · simpa [Function.update_noteq hep] using hw

theorem runInv_init (agents₀ : String → Process) :
    RunInv cfg base skip1 skip3 (Run.init cfg skip1 skip3 agents₀) :=
  ⟨fun k => by cases k <;> exact roundInv_init _, pcInv_init agents₀,
    fun k _ _ _ _ _ hc => by cases k <;> cases hc⟩

theorem RunInv.ctrl (hi : RunInv cfg base skip1 skip3 s) (hc : Ctrl cfg base skip3 s t) :
    RunInv cfg base skip1 skip3 t := by
  cases hc with
  | @spawn k _ _ hk hpc hlt hep =>
    exact hi.grows (Run.grows_spawn (hi.rounds k).length (by rfl))
      (roundInv_setRound hi.rounds ((hi.rounds _).spawn hpc hlt hep)) (hi.pc.setRound hk nofun)
  | collect hk hpc =>
    exact hi.grows (Run.grows_setBcast rfl)
      (roundInv_setRound hi.rounds ((hi.rounds _).collect hpc)) (hi.pc.setRound hk nofun)
  | deliver hk hpc hlen hj hc hr =>
    exact hi.grows (Run.grows_setBcast rfl)
      (roundInv_setRound hi.rounds ((hi.rounds _).deliver hpc hlen hj hc hr))
      (hi.pc.setRound hk fun r h => by cases hpc.symm.trans h)
  | @finish k hk hpc hlen =>
    exact hi.grows ((Run.grows_setBcast (k := k) (by rfl)).withPc _)
      (fun k' => by simpa using roundInv_setRound hi.rounds ((hi.rounds _).finish hpc hlen) k')
      (hi.pc.finish hk rfl)
  | bench r hpc =>
    exact hi.grows ((Run.Grows.refl s).withPc _) (fun k => by simpa using hi.rounds k)
      (hi.pc.bench hpc r)
  | fail msg hc hrep => exact hi.fail msg hc hrep

theorem runInv_step (hi : RunInv cfg base skip1 skip3 s) (hs : Step cfg base skip3 hosts s t) :
    RunInv cfg base skip1 skip3 t := by
  cases hs with
  | ctrl hc => exact hi.ctrl hc
  | serve sys msg hc hout hbc hidle => exact hi.serve sys msg hc hout hbc hidle
  | agent he hn => exact hi.move (Process.next_moves he hn).2

theorem Reach.inv {agents₀ : String → Process}
    (hr : Reach cfg base skip1 skip3 hosts agents₀ s) : RunInv cfg base skip1 skip3 s := by
  induction hr with
  | init => exact runInv_init _
  | step _ hs ih => exact runInv_step ih hs

/-- **Each broadcast of a run is a run of `bcastReq`**, each goroutine's result being what its
`sendReq` returned so far: what holds of `bcastReq` alone holds of the broadcasts of the whole
system, under every interleaving with the agents and with calls failing in transport. -/
theorem reach_bcast {agents₀ : String → Process}
    (hr : Reach cfg base skip1 skip3 hosts agents₀ s) (k : Round) :
    Bcast.Reach cfg base k.op (s.round k).res (s.round k).bcast :=
  (hr.inv.rounds k).reach

theorem reach_bcast_at_demoAt_thirteen :
    Bcast.Reach checkedOnePeer startReq .Stop ((demoAt 13).round .stop).res
      ((demoAt 13).round .stop).bcast :=
  reach_bcast (reach_demoAt 13) .stop

end RunInv

end DbTester.System
