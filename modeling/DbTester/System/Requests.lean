import DbTester.System.Run

/-!
# What each agent serves in a run

In step 1 the controller sends the agent of peer `i` the Start of goroutine `i`, and in step 3
its Stop. A call can fail in transport and the agent still serve it afterwards, and a Stop that
reaches its send blocks the agent's handler until a monitor goroutine receives. Over every
interleaving, with each peer listed once:

* `HistoryInv`: the requests each agent has served, call by call;
* `agent_requests`: the agent of peer `i` serves at most the Start of goroutine `i` and then at
  most its Stop, the Stop only after the Start got through; an agent the configuration does not
  list serves nothing;
* `run_succeeds`: when `CommandFunc` returns `nil`, every agent served its Start and its Stop,
  unless skipped, both with success, and a monitor goroutine took the Stop's signal;
* `reach_agents`: each agent of a run goes through states of its own process.
-/

namespace DbTester.System

open Agent Control

/-- The outcome of call `i` of round `k`, once its agent served it. -/
def Run.outcome (s : Run) (k : Round) (i : Nat) : Option Outcome :=
  (s.round k).calls[i]?.bind Call.outcome

/-- What the agent of goroutine `i` served of round `k`: the goroutine's request, with the
outcome. -/
def Run.served (base : Request) (s : Run) (k : Round) (i : Nat) : List (Request × Outcome) :=
  ((s.outcome k i).map fun o => (sendReq { base with operation := k.op } i, o)).toList

@[simp] theorem Process.serve_history (h : Host) (sys : Sys) (r : Request) (a : Process) :
    (a.serve h sys r).history = a.history ++ [(r, (transfer h sys r a.paths a.server).outcome)] :=
  rfl

theorem Run.move_agents (s : Run) (ep : String) (a : Process) :
    (s.move ep a).agents = Function.update s.agents ep a := by
  unfold Run.move
  split <;> rfl

/-! ### The outcomes of the calls along a step -/

section Outcome

variable {s t : Run} {k : Round} {j : Nat} {c d : Call}

theorem Run.outcome_setCall (hc : (s.round k).calls[j]? = some c) (k' : Round) (i : Nat) :
    (s.setCall k j d).outcome k' i = if k' = k ∧ i = j then d.outcome else s.outcome k' i := by
  by_cases hk : k' = k
  · subst hk
    by_cases hij : i = j
    · subst hij
      simp [Run.outcome, Run.setCall, (List.getElem?_eq_some_iff.mp hc).1]
    · simp [Run.outcome, Run.setCall, List.getElem?_set, hij, Ne.symm hij]
  · rw [Run.outcome, Run.setCall, Run.round_setRound_of_ne hk, if_neg fun h => hk h.1]
    rfl

theorem Broadcast.release_outcome (b : Broadcast) (ep : String) (i : Nat) :
    (b.release ep).calls[i]?.bind Call.outcome = b.calls[i]?.bind Call.outcome := by
  dsimp only [Broadcast.release]
  rw [List.getElem?_mapIdx]
  cases b.calls[i]? with
  | none => rfl
  | some c => dsimp only [Option.map_some', Option.some_bind]; split <;> rfl

theorem Run.outcome_move (s : Run) (ep : String) (a : Process) (k : Round) (i : Nat) :
    (s.move ep a).outcome k i = s.outcome k i := by
  unfold Run.move
  split
  · cases k <;> exact Broadcast.release_outcome ..
  · rfl

@[simp] theorem Run.outcome_withAgents (s : Run) (f : String → Process) (k : Round) (i : Nat) :
    ({ s with agents := f } : Run).outcome k i = s.outcome k i := by
  cases k <;> rfl

theorem Run.Grows.outcome (hg : s.Grows t) (k : Round) (i : Nat) :
    t.outcome k i = s.outcome k i := by
  unfold Run.outcome
  cases hs : (s.round k).calls[i]? with
  | some d => rw [hg.kept k i d hs]
  | none =>
    cases ht : (t.round k).calls[i]? with
    | none => rfl
    | some d =>
      rcases hg.calls k i d ht with rfl | ⟨hd, -⟩
      · rfl
      · rw [hs] at hd
        cases hd

section Serve

variable {hosts : String → Host} {ep ep' : String} {req : Request} {sys : Sys} {msg : String}

theorem Run.serve_agents_self :
    (s.serve hosts k j c ep req sys msg).agents ep = (s.agents ep).serve (hosts ep) sys req :=
  Function.update_same _ _ _

theorem Run.serve_agents_ne (h : ep' ≠ ep) :
    (s.serve hosts k j c ep req sys msg).agents ep' = s.agents ep' :=
  Function.update_noteq h _ _

theorem Run.outcome_serve (hc : (s.round k).calls[j]? = some c) (k' : Round) (i : Nat) :
    (s.serve hosts k j c ep req sys msg).outcome k' i =
      if k' = k ∧ i = j then some (transfer (hosts ep) sys req (s.agents ep).paths
        (s.agents ep).server).outcome else s.outcome k' i := by
  rw [Run.serve, Run.outcome_withAgents, Run.outcome_setCall hc, Call.served_outcome]

end Serve

end Outcome

/-! ### Distinct peers, distinct agents -/

theorem endpoint_injective (port : Int) : Function.Injective (endpoint port) := fun _ _ h =>
  String.ext (List.append_cancel_right (List.append_cancel_right (congrArg String.data h)))

theorem agentEndpoints_nodup {cfg : Config} (hcfg : cfg.EndpointsBuilt)
    (hnd : cfg.peerIPs.Nodup) : cfg.agentEndpoints.Nodup := by
  rw [hcfg]
  exact hnd.map (endpoint_injective _)

theorem index_eq_of_endpoint {eps : List String} (hnd : eps.Nodup) {i j : Nat} {ep : String}
    (hi : eps[i]? = some ep) (hj : eps[j]? = some ep) : i = j :=
  List.getElem?_inj (List.getElem?_eq_some_iff.mp hi).1 hnd (hi.trans hj.symm)

/-- While a Start has not been served, no Stop has been sent. -/
theorem RunInv.stop_eq_init {cfg : Config} {base : Request} {skip1 skip3 : Bool} {s : Run}
    (hi : RunInv cfg base skip1 skip3 s) {j : Nat} {c : Call}
    (hc : (s.round .start).calls[j]? = some c) (hout : c.outcome = none) :
    s.stop = Broadcast.init := by
  rcases hi.pc.stop with h | h | h
  · exact h
  · rw [show s.round .start = s.start from rfl, hi.pc.skipped1 h] at hc
    cases hc
  · simp [((hi.rounds .start).all_ok h hc).1] at hout

/-- In a broadcast that returned, the call of each peer is there, to that peer's agent. -/
theorem RoundInv.call_at {cfg : Config} {base : Request} {op : Operation} {b : Broadcast}
    {r : Option String} (hcfg : cfg.EndpointsBuilt) (hi : RoundInv cfg base op b)
    (hret : b.bcast.pc = .returned r) {i : Nat} {ep : String}
    (hep : cfg.agentEndpoints[i]? = some ep) :
    ∃ (c : Call) (req : Request), b.calls[i]? = some c ∧ b.bcast.calls[i]? = some (ep, req) := by
  have hlt : i < cfg.peerIPs.length := by
    have := (List.getElem?_eq_some_iff.mp hep).1
    rwa [hcfg, List.length_map] at this
  have hlen := hi.length_calls hcfg
  rw [hret] at hlen
  obtain ⟨x, hx⟩ : ∃ x, b.bcast.calls[i]? = some x :=
    ⟨_, List.getElem?_eq_getElem (by rw [← hi.length, hlen]; exact hlt)⟩
  have hx1 : x.1 = ep := Option.some.inj (((hi.call hcfg hx).1).symm.trans hep)
  exact ⟨_, x.2, List.getElem?_eq_getElem (by rw [hlen]; exact hlt), by rw [hx, ← hx1]⟩

/-! ### The requests each agent served -/

section HistoryInv

variable (cfg : Config) (base : Request) (agents₀ : String → Process)

/-- What holds in every run where each peer is listed once: the agent of peer `i` has served
what it had served, then what it served of goroutine `i`'s Start and then of its Stop; an
agent the configuration does not list has served nothing more; and an agent whose Stop
returned `nil` is idle. -/
structure HistoryInv (s : Run) : Prop where
  history : ∀ (i : Nat) (ep : String), cfg.agentEndpoints[i]? = some ep →
    (s.agents ep).history =
      (agents₀ ep).history ++ s.served base .start i ++ s.served base .stop i
  others : ∀ ep, ep ∉ cfg.agentEndpoints → (s.agents ep).history = (agents₀ ep).history
  stopped : ∀ (j : Nat) (c : Call) (ep : String) (req : Request),
    (s.round .stop).calls[j]? = some c → (s.round .stop).bcast.calls[j]? = some (ep, req) →
    c.reply = some none → (s.agents ep).handler = .idle

variable {cfg base agents₀} {skip1 skip3 : Bool} {hosts : String → Host} {s t : Run}

theorem historyInv_init (skip1 skip3 : Bool) :
    HistoryInv cfg base agents₀ (Run.init cfg skip1 skip3 agents₀) :=
  ⟨fun _ _ _ => by simp [Run.served, Run.outcome, Run.init, Run.round, Broadcast.init],
    fun _ _ => rfl, fun _ _ _ _ hc => by cases hc⟩

/-- A step of the controller keeps what each agent served. -/
theorem HistoryInv.grows (hh : HistoryInv cfg base agents₀ s) (hg : s.Grows t) :
    HistoryInv cfg base agents₀ t := by
  refine ⟨fun i ep hep => ?_, fun ep hep => ?_, fun j d ep req hd hbc hr => ?_⟩
  · simp only [hg.agents, Run.served, hg.outcome]
    exact hh.history i ep hep
  · rw [hg.agents]
    exact hh.others ep hep
  · rcases hg.calls .stop j d hd with rfl | ⟨hd', hbc'⟩
    · cases hr
    · rw [hg.agents]
      exact hh.stopped j d ep req hd' (hbc' ▸ hbc) hr

/-- A call failing in transport keeps what each agent served. -/
theorem HistoryInv.fail (hh : HistoryInv cfg base agents₀ s) {k : Round} {j : Nat} {c : Call}
    (msg : String) (hc : (s.round k).calls[j]? = some c) :
    HistoryInv cfg base agents₀ (s.setCall k j { c with reply := some (some msg) }) := by
  have hout : ∀ k' i, (s.setCall k j { c with reply := some (some msg) }).outcome k' i =
      s.outcome k' i := fun k' i => by
    rw [Run.outcome_setCall hc]
    split
    · obtain ⟨rfl, rfl⟩ := ‹_ ∧ _›
      simp [Run.outcome, hc]
    · rfl
  refine ⟨fun i ep hep => ?_, fun ep hep => ?_, fun j' d ep req hd hbc hr => ?_⟩
  · simp only [Run.setCall_agents, Run.served, hout]
    exact hh.history i ep hep
  · rw [Run.setCall_agents]
    exact hh.others ep hep
  · rw [Run.bcast_setCall] at hbc
    rw [Run.setCall_agents]
    rcases Run.getElem?_setCall hd with ⟨-, -, rfl⟩ | hd
    · cases hr
    · exact hh.stopped j' d ep req hd hbc hr

/-- A goroutine of an agent moving keeps what each agent served; when it takes a Stop's
signal, the Stops waiting on that agent return `nil` and the agent is idle. -/
theorem HistoryInv.move (hh : HistoryInv cfg base agents₀ s) {ep : String} {a : Process}
    (hhist : a.history = (s.agents ep).history)
    (hhd : a.handler = (s.agents ep).handler ∨
      (s.agents ep).handler = .stopping ∧ a.handler = .idle) :
    HistoryInv cfg base agents₀ (s.move ep a) := by
  have hag : ∀ ep', ((s.move ep a).agents ep').history = (s.agents ep').history := fun ep' => by
    rw [Run.move_agents]
    by_cases h : ep' = ep
    · subst h
      simp [hhist]
    · simp [Function.update_noteq h]
  refine ⟨fun i ep' hep => ?_, fun ep' hep => ?_, fun j d ep' req hd hbc hr => ?_⟩
  · simp only [hag, Run.served, Run.outcome_move]
    exact hh.history i ep' hep
  · rw [hag]
    exact hh.others ep' hep
  · by_cases hrel : (s.agents ep).handler = .stopping ∧ a.handler = .idle
    · rw [Run.move, if_pos hrel] at hd hbc ⊢
      obtain ⟨d₀, hd₀, rfl⟩ := Broadcast.getElem?_release hd
      split_ifs at hr with hcond
      · obtain ⟨⟨ep₀, req₀⟩, hbc₀, rfl⟩ := Option.map_eq_some'.mp hcond.2.2
        have hep : ep' = ep₀ := by
          have : s.stop.bcast.calls[j]? = some (ep', req) := hbc
          rw [hbc₀, Option.some.injEq, Prod.mk.injEq] at this
          exact this.1.symm
        subst hep
        simp [hrel.2]
      · have hidle := hh.stopped j d₀ ep' req hd₀ hbc hr
        by_cases hep : ep' = ep
        · subst hep
          rw [hrel.1] at hidle
          cases hidle
        · simpa [Function.update_noteq hep] using hidle
    · rw [Run.move, if_neg hrel] at hd hbc ⊢
      have hidle := hh.stopped j d ep' req hd hbc hr
      by_cases hep : ep' = ep
      · subst hep
        simpa [hhd.resolve_right hrel] using hidle
      · simpa [Function.update_noteq hep] using hidle

/-- **An agent serving a call** appends it to its history, in the place of its round. -/
theorem HistoryInv.serve (hcfg : cfg.EndpointsBuilt) (hnd : cfg.agentEndpoints.Nodup)
    (hi : RunInv cfg base skip1 skip3 s) (hh : HistoryInv cfg base agents₀ s) {k : Round}
    {j : Nat} {c : Call} {ep : String} {req : Request} (sys : Sys) (msg : String)
    (hc : (s.round k).calls[j]? = some c) (hout : c.outcome = none)
    (hbc : (s.round k).bcast.calls[j]? = some (ep, req)) :
    HistoryInv cfg base agents₀ (s.serve hosts k j c ep req sys msg) := by
  obtain ⟨hep, rfl⟩ := (hi.rounds k).call hcfg hbc
  have hnone : s.outcome k j = none := by simp [Run.outcome, hc, hout]
  have hstop : k = .start → s.stop = Broadcast.init := fun hk => hi.stop_eq_init (hk ▸ hc) hout
  have hnot : c.reply ≠ some none := fun h => by simpa [hout] using (hi.rounds k).ok j c hc h
  refine ⟨fun i ep' hep' => ?_, fun ep' hep' => ?_, fun j' d ep' req' hd hbc' hr => ?_⟩
  · by_cases he : ep' = ep
    · subst he
      obtain rfl := index_eq_of_endpoint hnd hep' hep
      rw [Run.serve_agents_self, Process.serve_history, hh.history i ep' hep']
      simp only [Run.served, Run.outcome_serve hc]
      cases k
      · have hT : s.outcome .stop i = none := by
          simp [Run.outcome, show s.round .stop = s.stop from rfl, hstop rfl, Broadcast.init]
        simp [hnone, hT]
      · simp [hnone]
    · have hij : i ≠ j := fun h => he (Option.some.inj (hep'.symm.trans (h ▸ hep)))
      rw [Run.serve_agents_ne he, hh.history i ep' hep']
      simp only [Run.served, Run.outcome_serve hc, hij, and_false, if_false]
  · rw [Run.serve_agents_ne fun (h : ep' = ep) => hep' (h ▸ List.getElem?_mem hep)]
    exact hh.others ep' hep'
  · simp only [Run.serve, Run.round_withAgents, Run.bcast_setCall] at hd hbc'
    rcases Run.getElem?_setCall hd with ⟨rfl, rfl, rfl⟩ | hd₀
    · rw [hbc, Option.some.injEq, Prod.mk.injEq] at hbc'
      obtain ⟨rfl, -⟩ := hbc'
      cases hcr : c.reply with
      | some r => exact absurd (hcr.trans ((Call.served_reply_some hcr).symm.trans hr)) hnot
      | none =>
        rw [Call.served_reply_none hcr] at hr
        rw [Run.serve_agents_self]
        exact (answer_eq_some_none hr).2
    · have hidle := hh.stopped j' d ep' req' hd₀ hbc' hr
      by_cases he : ep' = ep
      · subst he
        obtain rfl := index_eq_of_endpoint hnd ((hi.rounds .stop).call hcfg hbc').1 hep
        cases k
        · rw [show s.round .stop = s.stop from rfl, hstop rfl] at hd₀
          cases hd₀
        · rw [hc, Option.some.injEq] at hd₀
          subst hd₀
          exact absurd hr hnot
      · rwa [Run.serve_agents_ne he]

theorem historyInv_step (hcfg : cfg.EndpointsBuilt) (hnd : cfg.agentEndpoints.Nodup)
    (hi : RunInv cfg base skip1 skip3 s) (hh : HistoryInv cfg base agents₀ s)
    (hs : Step cfg base skip3 hosts s t) : HistoryInv cfg base agents₀ t := by
  cases hs with
  | ctrl hc =>
    cases hc with
    | @spawn k _ _ => exact hh.grows (Run.grows_spawn (hi.rounds k).length (by rfl))
    | collect => exact hh.grows (Run.grows_setBcast rfl)
    | deliver => exact hh.grows (Run.grows_setBcast rfl)
    | @finish k => exact hh.grows ((Run.grows_setBcast (k := k) (by rfl)).withPc _)
    | bench => exact hh.grows ((Run.Grows.refl s).withPc _)
    | fail msg hc => exact hh.fail msg hc
  | serve sys msg hc hout hbc => exact hh.serve hcfg hnd hi sys msg hc hout hbc
  | agent he hn => exact hh.move (Process.next_moves he hn).1 (Process.next_moves he hn).2

theorem Reach.history (hcfg : cfg.EndpointsBuilt) (hnd : cfg.peerIPs.Nodup)
    (hr : Reach cfg base skip1 skip3 hosts agents₀ s) : HistoryInv cfg base agents₀ s := by
  induction hr with
  | init => exact historyInv_init skip1 skip3
  | step hr hs ih => exact historyInv_step hcfg (agentEndpoints_nodup hcfg hnd) hr.inv ih hs

end HistoryInv

/-! ### What each agent serves -/

section Serves

variable {cfg : Config} {base : Request} {skip1 skip3 : Bool} {hosts : String → Host}
  {agents₀ : String → Process} {s : Run}

/-- **What each agent serves**, in every run where each peer is listed once: after what it had
served, the agent of peer `i` serves at most the Start of goroutine `i` and then at most its
Stop, each once and in that order; a skipped step sends it nothing; it is sent its Stop only
once its Start got through; and an agent the configuration does not list serves nothing. -/
theorem agent_requests (hcfg : cfg.EndpointsBuilt) (hnd : cfg.peerIPs.Nodup)
    (hr : Reach cfg base skip1 skip3 hosts agents₀ s) :
    (∀ ep, ep ∉ cfg.agentEndpoints → (s.agents ep).history = (agents₀ ep).history) ∧
    ∀ (i : Nat) (ep : String), cfg.agentEndpoints[i]? = some ep →
      ∃ o₁ o₂ : Option Outcome, (s.agents ep).history = (agents₀ ep).history ++
        (o₁.map fun o => (sendReq { base with operation := .Start } i, o)).toList ++
        (o₂.map fun o => (sendReq { base with operation := .Stop } i, o)).toList ∧
        (skip1 = true → o₁ = none) ∧ (skip3 = true → o₂ = none) ∧
        (o₂ ≠ none → skip1 = false → o₁ = some .ok) := by
  have hi := hr.inv
  have hh := hr.history hcfg hnd
  have hinit : ∀ (k : Round) (i : Nat), s.round k = Broadcast.init → s.outcome k i = none :=
    fun k i h => by simp [Run.outcome, h, Broadcast.init]
  refine ⟨hh.others, fun i ep hep => ⟨s.outcome .start i, s.outcome .stop i, hh.history i ep hep,
    fun h1 => hinit .start i (hi.pc.skipped1 h1), fun h3 => hinit .stop i (hi.pc.skipped3 h3),
    fun h2 h1 => ?_⟩⟩
  rcases hi.pc.stop with h | h | h
  · exact absurd (hinit .stop i h) h2
  · rw [h1] at h
    cases h
  · obtain ⟨c, -, hc, -⟩ := (hi.rounds .start).call_at hcfg h hep
    simp [Run.outcome, hc, ((hi.rounds .start).all_ok h hc).1]

theorem agent_requests_at_demoAt_thirteen :
    checkedOnePeer.EndpointsBuilt ∧ checkedOnePeer.peerIPs.Nodup ∧
    ((∀ ep, ep ∉ checkedOnePeer.agentEndpoints →
        ((demoAt 13).agents ep).history = (Process.init demoHost).history) ∧
      ∀ (i : Nat) (ep : String), checkedOnePeer.agentEndpoints[i]? = some ep →
        ∃ o₁ o₂ : Option Outcome, ((demoAt 13).agents ep).history =
          (Process.init demoHost).history ++
          (o₁.map fun o => (sendReq { startReq with operation := .Start } i, o)).toList ++
          (o₂.map fun o => (sendReq { startReq with operation := .Stop } i, o)).toList ∧
          (false = true → o₁ = none) ∧ (false = true → o₂ = none) ∧
          (o₂ ≠ none → false = false → o₁ = some .ok)) :=
  have hcfg : checkedOnePeer.EndpointsBuilt := by unfold Config.EndpointsBuilt; decide
  have hnd : checkedOnePeer.peerIPs.Nodup := by decide
  ⟨hcfg, hnd, agent_requests hcfg hnd (reach_demoAt 13)⟩

/-- **Each agent goes through states of its own process**: seen from one agent, a run of the
system is a run of the agent model, so that what holds in every reachable state of an agent
(`newest_loop_pid`, `cmd_eq_none_iff`, `stop_send_receivers`) holds of each agent in every run
of the system. -/
theorem reach_agents (h₀ : ∀ ep, Agent.Reach (hosts ep) (agents₀ ep))
    (hr : Reach cfg base skip1 skip3 hosts agents₀ s) (ep : String) :
    Agent.Reach (hosts ep) (s.agents ep) := by
  induction hr generalizing ep with
  | init => exact h₀ ep
  | step _ hs ih =>
    cases hs with
    | @serve _ _ _ ep' _ sys _ _ _ _ hidle =>
      by_cases he : ep = ep'
      · subst he
        rw [Run.serve_agents_self]
        exact (ih ep).step (.serve sys _ hidle)
      · rw [Run.serve_agents_ne he]
        exact ih ep
    | @agent ep' _ _ _ hn =>
      rw [Run.move_agents]
      by_cases he : ep = ep'
      · subst he
        rw [Function.update_same]
        exact (ih ep).step (Process.step_of_next hn)
      · rw [Function.update_noteq he]
        exact ih ep
    | ctrl hc => exact hc.agents ▸ ih ep

theorem reach_agents_at_demoAt_thirteen :
    (∀ _ep : String, Agent.Reach demoHost (Process.init demoHost)) ∧
    Agent.Reach demoHost ((demoAt 13).agents "10.0.0.1:3500") :=
  ⟨fun _ => .init, reach_agents (fun _ => .init) (reach_demoAt 13) "10.0.0.1:3500"⟩

end Serves

end DbTester.System
