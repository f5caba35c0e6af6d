import DbTester.System.Run

/-!
# `CommandFunc` returns

The controller needs no agent to finish: a goroutine whose agent does not answer ends its call at
the 15 s deadline, so that until `CommandFunc` returns it can always take a step of its own
(`run_progress`). Each of its steps uses up one of the steps it has left (`Run.left`): starting
a goroutine, the goroutine's call returning, receiving its result, and the moves of the main
goroutines, while nothing an agent does adds one. Hence, for a configuration of `n` peers:

* `run_returns`: from every reachable state, the controller alone brings `CommandFunc` to
  return, in at most `6 n + 5` steps;
* `ctrl_events_le`: under every interleaving with the agents, a run takes at most `6 n + 5`
  steps of the controller.
-/

namespace DbTester.System

open Agent Control

/-! ### Progress -/

section Progress

variable {cfg : Config} {base : Request} {skip1 skip3 : Bool} {s : Run}

/-- Inside a broadcast, the controller can always move on its own. -/
theorem round_progress (hcfg : cfg.EndpointsBuilt) {k : Round}
    (hri : RoundInv cfg base k.op (s.round k)) (hk : s.pc.round = some k)
    (hnot : ∀ r, (s.round k).bcast.pc ≠ .returned r) : ∃ t, Ctrl cfg base skip3 s t := by
  cases hpc : (s.round k).bcast.pc with
  | spawning i =>
    obtain ⟨hle, -⟩ := hri.bcast.spawning i hpc
    rcases Nat.lt_or_ge i cfg.peerIPs.length with hlt | hge
    · have hep : cfg.agentEndpoints[i]? = some (endpoint cfg.agentPort cfg.peerIPs[i]) := by
        rw [agentEndpoints_getElem? hcfg, List.getElem?_eq_getElem hlt, Option.map_some']
      exact ⟨_, .spawn hk hpc hlt hep⟩
    · exact ⟨_, .collect hk (by rw [hpc, Nat.le_antisymm hle hge])⟩
  | collecting =>
    by_cases hlen : (s.round k).bcast.received.length = cfg.peerIPs.length
    · exact ⟨_, .finish hk hpc hlen⟩
    · have hperm := hri.bcast.perm
      rw [hpc] at hperm
      have hsum := hperm.length_eq
      simp only [List.length_append, BcastPc.started, List.length_range] at hsum
      obtain ⟨j, hj⟩ := List.exists_mem_of_length_pos
        (show 0 < (s.round k).bcast.blocked.length by omega)
      have hjlt : j < (s.round k).calls.length := by
        rw [hri.length_calls hcfg, hpc]
        exact List.mem_range.mp (hperm.subset (List.mem_append_left _ hj))
      obtain ⟨c, hc⟩ : ∃ c, (s.round k).calls[j]? = some c := ⟨_, List.getElem?_eq_getElem hjlt⟩
      cases hrep : c.reply with
      | some r => exact ⟨_, .deliver hk hpc hlen hj hc hrep⟩
      | none => exact ⟨_, .fail "context deadline exceeded" hc hrep⟩
  | returned r => exact absurd hpc (hnot r)

/-- **The controller never waits on an agent**: until `CommandFunc` returns, it can take a step
of its own. A goroutine whose agent never answers (a Stop blocked in its send with no monitor
goroutine left to receive, or an agent that panicked) gives up at its deadline. -/
theorem run_progress (hcfg : cfg.EndpointsBuilt) (hi : RunInv cfg base skip1 skip3 s)
    (hnot : ∀ r, s.pc ≠ .returned r) : ∃ t, Ctrl cfg base skip3 s t := by
  cases hpc : s.pc with
  | step1 => exact round_progress hcfg (hi.rounds .start) (by rw [hpc]; rfl) (hi.pc.step1 hpc).2.2
  | step2 => exact ⟨_, .bench none hpc⟩
  | step3 => exact round_progress hcfg (hi.rounds .stop) (by rw [hpc]; rfl) (hi.pc.step3 hpc).2.2
  | returned r => exact absurd hpc (hnot r)

end Progress

/-! ### The steps left to the controller -/

/-- Moves left to `CommandFunc` outside its broadcasts: step 2 returning. -/
def RunPc.left : RunPc → Nat
  | .step1 | .step2 => 1
  | _ => 0

/-- Steps left to a broadcast of `n` goroutines: two for each goroutine not started (starting
it, and its call returning), one for each call that has not returned, one for each result not
received, and the main goroutine's. -/
def Broadcast.left (n : Nat) (b : Broadcast) : Nat :=
  2 * (n - b.bcast.pc.started n) + b.calls.countP (·.reply.isNone) +
    (n - b.bcast.received.length) + b.bcast.pc.left

/-- Steps left to the controller of a run with `n` peers. -/
def Run.left (n : Nat) (s : Run) : Nat := s.start.left n + s.stop.left n + s.pc.left

section Left

variable {n : Nat} {s : Run} {k : Round} {b : Broadcast} {j : Nat} {c c' : Call}

theorem RunPc.left_le_one (p : RunPc) : p.left ≤ 1 := by cases p <;> simp [RunPc.left]

@[simp] theorem afterBench_left (skip3 : Bool) (r : Option String) :
    (afterBench skip3 r).left = 0 := by
  cases r <;> cases skip3 <;> rfl

/-- The broadcast of step 1 returning leaves step 2 at most; that of step 3 ends the run. -/
theorem Round.finish_left {cfg : Config} {skip3 : Bool} {p : RunPc} (hk : p.round = some k)
    (r : Option String) : (k.finish cfg skip3 r).left ≤ p.left := by
  cases k with
  | start =>
    cases p <;> cases hk
    exact RunPc.left_le_one _
  | stop => cases r <;> exact Nat.zero_le _

theorem Run.left_setRound_lt (h : b.left n < (s.round k).left n) :
    (s.setRound k b).left n < s.left n := by
  cases k <;> simp only [Run.left, Run.setRound, Run.round] at h ⊢ <;> omega

theorem Run.left_update_lt {p : RunPc} (h : b.left n < (s.round k).left n)
    (hp : p.left ≤ s.pc.left) : { s.setRound k b with pc := p }.left n < s.left n := by
  cases k <;> simp only [Run.left, Run.setRound, Run.round] at h ⊢ <;> omega

/-- Replacing call `j`, `c`, by `c'` changes the calls that have not returned by at most one. -/
theorem Broadcast.left_set (hc : b.calls[j]? = some c) (c' : Call) :
    Broadcast.left n ⟨b.bcast, b.calls.set j c'⟩ + (if c.reply.isNone then 1 else 0) =
      b.left n + (if c'.reply.isNone then 1 else 0) := by
  obtain ⟨hj, rfl⟩ := List.getElem?_eq_some_iff.mp hc
  have hpos : (if b.calls[j].reply.isNone then 1 else 0) ≤ b.calls.countP (·.reply.isNone) := by
    split
    · exact List.countP_pos_iff.mpr ⟨_, List.getElem_mem hj, ‹_›⟩
    · exact Nat.zero_le _
  simp only [Broadcast.left, List.countP_set _ _ _ _ hj]
  omega

theorem Run.left_setCall (hc : (s.round k).calls[j]? = some c) (c' : Call) :
    (s.setCall k j c').left n + (if c.reply.isNone then 1 else 0) =
      s.left n + (if c'.reply.isNone then 1 else 0) := by
  have hb := Broadcast.left_set (n := n) hc c'
  cases k <;> simp only [Run.left, Run.setCall, Run.setRound, Run.round] at hb ⊢ <;> omega

theorem Run.left_setCall_le (hc : (s.round k).calls[j]? = some c)
    (h : c'.reply = none → c.reply = none) : (s.setCall k j c').left n ≤ s.left n := by
  have := Run.left_setCall (n := n) hc c'
  cases hr : c'.reply <;> simp only [h, hr, Option.isNone_none, Option.isNone_some, ↓reduceIte,
    Bool.false_eq_true] at this <;> omega

theorem List.countP_mapIdx_le {α β : Type} {p : β → Bool} {q : α → Bool} (l : List α)
    (f : Nat → α → β) (hf : ∀ i a, p (f i a) → q a) : (l.mapIdx f).countP p ≤ l.countP q := by
  induction l generalizing f with
  | nil => simp
  | cons a l ih =>
    have := ih (fun i => f (i + 1)) fun i => hf (i + 1)
    rw [List.mapIdx_cons, List.countP_cons, List.countP_cons]
    split_ifs with hp hq
    · omega
    · exact absurd (hf 0 a hp) hq
    · omega
    · omega

/-- Releasing blocked calls only makes calls return. -/
theorem Broadcast.left_release (b : Broadcast) (ep : String) :
    (b.release ep).left n ≤ b.left n := by
  simp only [Broadcast.left, Broadcast.release]
  refine Nat.add_le_add_right (Nat.add_le_add_right (Nat.add_le_add_left ?_ _) _) _
  refine List.countP_mapIdx_le _ _ fun j c h => ?_
  split at h
  · simp at h
  · exact h

theorem Run.left_move (s : Run) (ep : String) (a : Process) : (s.move ep a).left n ≤ s.left n := by
  unfold Run.move
  split
  · have := (s.start).left_release (n := n) ep
    have := (s.stop).left_release (n := n) ep
    simp only [Run.left]
    omega
  · exact le_rfl

end Left

section Measure

variable {cfg : Config} {base : Request} {skip1 skip3 : Bool} {hosts : String → Host} {s t : Run}

/-- **Every step of the controller uses up one of its steps left.** -/
theorem Ctrl.left_lt (hi : RunInv cfg base skip1 skip3 s) (hc : Ctrl cfg base skip3 s t) :
    t.left cfg.peerIPs.length < s.left cfg.peerIPs.length := by
  cases hc with
  | spawn hk hpc hlt hep =>
    apply Run.left_setRound_lt
    simp only [Broadcast.left, hpc, BcastPc.started, BcastPc.left, List.countP_append,
      List.countP_singleton, Option.isNone_none, ↓reduceIte]
    omega
  | collect hk hpc =>
    apply Run.left_setRound_lt
    simp only [Broadcast.left, hpc, BcastPc.started, BcastPc.left]
    omega
  | @deliver k j c r hk hpc hlen hj hc hr =>
    have hsum := (hi.rounds k).bcast.perm.length_eq
    simp only [List.length_append, hpc, BcastPc.started, List.length_range] at hsum
    apply Run.left_setRound_lt
    simp only [Broadcast.left, hpc, BcastPc.started, BcastPc.left, List.length_append,
      List.length_singleton]
    omega
  | finish hk hpc hlen =>
    refine Run.left_update_lt ?_ (Round.finish_left hk _)
    simp only [Broadcast.left, hpc, BcastPc.started, BcastPc.left]
    omega
  | bench r hpc =>
    simp only [Run.left, afterBench_left, hpc]
    exact Nat.lt_succ_self _
  | @fail k j c msg hc hrep =>
    have := Run.left_setCall (n := cfg.peerIPs.length) hc { c with reply := some (some msg) }
    simp only [hrep, Option.isNone_none, Option.isNone_some, ↓reduceIte, Bool.false_eq_true] at this
    omega

/-- Nothing an agent does adds a step to the controller. -/
theorem Step.left_le (hi : RunInv cfg base skip1 skip3 s) (hs : Step cfg base skip3 hosts s t) :
    t.left cfg.peerIPs.length ≤ s.left cfg.peerIPs.length := by
  cases hs with
  | ctrl hc => exact (hc.left_lt hi).le
  | @serve k j c ep req sys msg hc hout hbc hidle =>
    refine Run.left_setCall_le hc fun h => ?_
    cases hr : c.reply with
    | none => rfl
    | some r => simp [Call.served_reply_some hr] at h
  | agent he hn => exact Run.left_move _ _ _

/-- Along a schedule, each event of the controller uses up a step left. -/
theorem RunInv.run_left (hi : RunInv cfg base skip1 skip3 s) {es : List RunEvent}
    (h : s.run cfg base skip3 hosts es = some t) :
    (es.filter (·.byController)).length + t.left cfg.peerIPs.length ≤
      s.left cfg.peerIPs.length := by
  induction es generalizing s with
  | nil =>
    cases h
    simp
  | cons e es ih =>
    simp only [Run.run, Option.bind_eq_some] at h
    obtain ⟨u, hu, hrun⟩ := h
    have hs := Run.step_of_next hu
    have ht := ih (runInv_step hi hs) hrun
    cases he : e.byController
    · have := hs.left_le hi
      simp only [List.filter_cons, he, Bool.false_eq_true, ↓reduceIte]
      omega
    · have := (Run.ctrl_of_next hu he).left_lt hi
      simp only [List.filter_cons, he, ↓reduceIte, List.length_cons]
      omega

theorem Run.left_init (agents₀ : String → Process) :
    (Run.init cfg skip1 skip3 agents₀).left cfg.peerIPs.length ≤ 6 * cfg.peerIPs.length + 5 := by
  have := RunPc.left_le_one (firstStep cfg skip1 skip3)
  simp only [Run.left, Run.init, Broadcast.left, Broadcast.init, Bcast.init, BcastPc.started,
    BcastPc.left, List.countP_nil, List.length_nil]
  omega

/-- **The controller takes at most `6 n + 5` steps**, however the agents interleave with it:
`n` goroutines started, `n` calls failing, `n` results received and two returns per broadcast,
and step 2 returning. -/
theorem ctrl_events_le {agents₀ : String → Process} {es : List RunEvent}
    (h : (Run.init cfg skip1 skip3 agents₀).run cfg base skip3 hosts es = some s) :
    (es.filter (·.byController)).length ≤ 6 * cfg.peerIPs.length + 5 := by
  have hi : RunInv cfg base skip1 skip3 (Run.init cfg skip1 skip3 agents₀) := runInv_init agents₀
  have := hi.run_left h
  have := @Run.left_init cfg skip1 skip3 agents₀
  omega

theorem ctrl_events_le_at_demo :
    demoStart.run checkedOnePeer startReq false (fun _ => demoHost) demoEvents = some (demoAt 13) ∧
    (demoEvents.filter (·.byController)).length ≤ 6 * checkedOnePeer.peerIPs.length + 5 :=
  have h : demoStart.run checkedOnePeer startReq false (fun _ => demoHost) demoEvents =
      some (demoAt 13) := rfl
  ⟨h, ctrl_events_le h⟩

theorem Reach.left_le {agents₀ : String → Process}
    (hr : Reach cfg base skip1 skip3 hosts agents₀ s) :
    s.left cfg.peerIPs.length ≤ 6 * cfg.peerIPs.length + 5 := by
  induction hr with
  | init => exact Run.left_init _
  | step hr hs ih => exact (hs.left_le hr.inv).trans ih

/-- From a state of the invariant, the controller alone returns within its steps left. -/
theorem RunInv.returns (hcfg : cfg.EndpointsBuilt) (hi : RunInv cfg base skip1 skip3 s) :
    ∃ (es : List RunEvent) (t : Run) (r : Option String), (∀ e ∈ es, e.byController = true) ∧
      es.length ≤ s.left cfg.peerIPs.length ∧ s.run cfg base skip3 hosts es = some t ∧
      t.pc = .returned r ∧ t.agents = s.agents := by
  generalize hn : s.left cfg.peerIPs.length = n
  induction n using Nat.strong_induction_on generalizing s with
  | _ n ih =>
    by_cases hret : ∃ r, s.pc = .returned r
    · obtain ⟨r, hr⟩ := hret
      exact ⟨[], s, r, by simp, by simp, rfl, hr, rfl⟩
    · obtain ⟨u, hu⟩ := run_progress hcfg hi fun r h => hret ⟨r, h⟩
      obtain ⟨e, he, hnext⟩ : ∃ e, e.byController = true ∧
          s.next cfg base skip3 hosts e = some u := Run.next_of_ctrl hu
      have hlt := hu.left_lt hi
      obtain ⟨es, t, r, hes, hlen, hrun, hpc, hag⟩ :=
        ih _ (hn ▸ hlt) (hi.ctrl hu) rfl
      refine ⟨e :: es, t, r, List.forall_mem_cons.mpr ⟨he, hes⟩, ?_, ?_, hpc, hag.trans hu.agents⟩
      · simp only [List.length_cons]
        omega
      · simp only [Run.run, hnext, Option.some_bind, hrun]

/-- **`CommandFunc` always returns, with no help from the agents**: from every reachable state,
a schedule of at most `6 n + 5` steps of the controller alone, its goroutines' calls to agents
that never answer failing at their deadline, brings it to return. -/
theorem run_returns (hcfg : cfg.EndpointsBuilt) {agents₀ : String → Process}
    (hr : Reach cfg base skip1 skip3 hosts agents₀ s) :
    ∃ (es : List RunEvent) (t : Run) (r : Option String), (∀ e ∈ es, e.byController = true) ∧
      es.length ≤ 6 * cfg.peerIPs.length + 5 ∧ s.run cfg base skip3 hosts es = some t ∧
      t.pc = .returned r ∧ t.agents = s.agents :=
  have hle := hr.left_le
  (hr.inv.returns hcfg).imp fun _ ⟨t, r, hes, hlen, h⟩ => ⟨t, r, hes, hlen.trans hle, h⟩

theorem run_returns_at_demoAt_ten : checkedOnePeer.EndpointsBuilt ∧
    ∃ (es : List RunEvent) (t : Run) (r : Option String), (∀ e ∈ es, e.byController = true) ∧
      es.length ≤ 6 * checkedOnePeer.peerIPs.length + 5 ∧
      (demoAt 10).run checkedOnePeer startReq false (fun _ => demoHost) es = some t ∧
      t.pc = .returned r ∧ t.agents = (demoAt 10).agents :=
  have hcfg : checkedOnePeer.EndpointsBuilt := by unfold Config.EndpointsBuilt; decide
  ⟨hcfg, run_returns hcfg (reach_demoAt 10)⟩

end Measure

end DbTester.System
