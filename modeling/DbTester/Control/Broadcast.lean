import DbTester.Control.Config
import Mathlib.Data.List.Indexes

/-!
# The broadcast of a control message

`bcastReq` starts one goroutine per peer, a second apart; goroutine `i` calls `sendReq` on
agent endpoint `i` and then sends on one of two unbuffered channels, `donec` for a success and
`errc` for an error. After starting them all, the collection loop receives `len(PeerIPs)`
messages, in whatever order the goroutines deliver, keeps the errors in that order, and
returns the first.

* `sendReq`: the request node `i` receives;
* `Bcast`, `Step`, `Reach`: the broadcast with every delivery order;
* `Reach.inv`: what holds in every reachable state;
* `commandFunc_endpointsBuilt`: a configuration `CommandFunc` returns has what the results
  assume;
* `framed_peers`: a request gRPC delivers bounds the number of peers;
* `bcast_run_length_le`: every run ends;
* `bcastReq_returns`: the call returns, and what it has done then;
* `bcast_progress`: the broadcast never deadlocks before returning.
-/

namespace DbTester.Control

open Agent Go

/-- The request `sendReq(ep, req, i)` sends: `ServerIndex = uint32(i)` and
`ZookeeperMyID = uint32(i + 1)`, Go's conversions modulo `2^32`. -/
def sendReq (req : Request) (i : Nat) : Request :=
  { req with serverIndex := UInt32.ofNat i, zookeeperMyID := UInt32.ofNat (i + 1) }

/-- Where the calling goroutine is: starting goroutine `i`, in the collection loop, or
returned with the first error. -/
inductive BcastPc
  | spawning (i : Nat)
  | collecting
  | returned (r : Option String)
  deriving DecidableEq, Repr

/-- A broadcast in progress: the Transfer calls made, as (endpoint, request), in the order
their goroutines started; the goroutines blocked in their send; the goroutines whose message
the collection loop took, in order; the errors collected. -/
structure Bcast where
  pc : BcastPc
  calls : List (String × Request)
  blocked : List Nat
  received : List Nat
  errs : List String
  deriving DecidableEq, Repr

/-- Before the first goroutine starts. -/
def Bcast.init : Bcast := ⟨.spawning 0, [], [], [], []⟩

section Protocol

/- The broadcast of `base` (what `cfg.Request()` returns) with operation `op`; `res i` is
what the `i`-th `sendReq` returns: `none` for `nil`, or the error. -/
variable (cfg : Config) (base : Request) (op : Operation) (res : Nat → Option String)

/-- One step: start goroutine `i` (its `sendReq` call is recorded; a missing endpoint would
panic the goroutine, and the run stops), leave the start loop, receive the message of any
blocked goroutine, or return. -/
inductive Bcast.Step : Bcast → Bcast → Prop
  | spawn {s : Bcast} {i : Nat} {ep : String} :
      s.pc = .spawning i → i < cfg.peerIPs.length → cfg.agentEndpoints[i]? = some ep →
      Bcast.Step s { s with
        pc := .spawning (i + 1)
        calls := s.calls ++ [(ep, sendReq { base with operation := op } i)]
        blocked := s.blocked ++ [i] }
  | collect {s : Bcast} :
      s.pc = .spawning cfg.peerIPs.length → Bcast.Step s { s with pc := .collecting }
  | deliver {s : Bcast} {j : Nat} :
      s.pc = .collecting → s.received.length ≠ cfg.peerIPs.length → j ∈ s.blocked →
      Bcast.Step s { s with
        blocked := s.blocked.erase j
        received := s.received ++ [j]
        errs := s.errs ++ (res j).toList }
  | finish {s : Bcast} :
      s.pc = .collecting → s.received.length = cfg.peerIPs.length →
      Bcast.Step s { s with pc := .returned s.errs.head? }

/-- The states of every run of `bcastReq`. -/
inductive Bcast.Reach : Bcast → Prop
  | init : Bcast.Reach Bcast.init
  | step {s t : Bcast} : Bcast.Reach s → Bcast.Step cfg base op res s t → Bcast.Reach t

/-- The calls of the first `n` goroutines. -/
def callsUpTo (n : Nat) : List (String × Request) :=
  (List.range n).filterMap fun i =>
    cfg.agentEndpoints[i]?.map fun ep => (ep, sendReq { base with operation := op } i)

/-- The goroutines started so far. -/
def BcastPc.started (n : Nat) : BcastPc → Nat
  | .spawning i => i
  | _ => n

/-- What holds in every reachable state: each started goroutine made one call, and is either
blocked or received, exactly once; the errors are those of the received goroutines, in
order. -/
structure BcastInv (s : Bcast) : Prop where
  perm : (s.blocked ++ s.received).Perm (List.range (s.pc.started cfg.peerIPs.length))
  calls : s.calls = callsUpTo cfg base op (s.pc.started cfg.peerIPs.length)
  errs : s.errs = s.received.filterMap res
  spawning : ∀ i, s.pc = .spawning i → i ≤ cfg.peerIPs.length ∧ s.received = []
  returned : ∀ r, s.pc = .returned r → s.received.length = cfg.peerIPs.length ∧ r = s.errs.head?

end Protocol

section Invariant

variable {cfg : Config} {base : Request} {op : Operation} {res : Nat → Option String}

theorem callsUpTo_succ {i : Nat} {ep : String} (h : cfg.agentEndpoints[i]? = some ep) :
    callsUpTo cfg base op (i + 1) =
      callsUpTo cfg base op i ++ [(ep, sendReq { base with operation := op } i)] := by
  simp [callsUpTo, List.range_succ, h]

theorem perm_deliver {b r : List Nat} {j : Nat} (hj : j ∈ b) :
    (b.erase j ++ (r ++ [j])).Perm (b ++ r) :=
  List.append_assoc _ r [j] ▸ (List.perm_append_singleton j _).trans
    ((List.perm_cons_erase hj).symm.append_right r)

theorem filterMap_append_single (l : List Nat) (j : Nat) :
    (l ++ [j]).filterMap res = l.filterMap res ++ (res j).toList := by
  cases h : res j <;> simp [h]

theorem bcast_inv_init : BcastInv cfg base op res Bcast.init :=
  ⟨by simp [Bcast.init, BcastPc.started], by simp [Bcast.init, BcastPc.started, callsUpTo], rfl,
    fun _ h => (by cases h; exact ⟨Nat.zero_le _, rfl⟩), fun _ h => (by cases h)⟩

theorem bcast_inv_step {s t : Bcast} (hi : BcastInv cfg base op res s)
    (hs : Bcast.Step cfg base op res s t) : BcastInv cfg base op res t := by
  cases hs with
  | @spawn i ep hpc hlt hep =>
    obtain ⟨-, hrec⟩ := hi.spawning i hpc
    have hperm := hi.perm
    have hcalls := hi.calls
    simp only [hpc, BcastPc.started, hrec, List.append_nil] at hperm hcalls
    refine ⟨?_, ?_, hi.errs, fun k hk => ?_, fun _ hk => (by cases hk)⟩
    · simpa [BcastPc.started, hrec, List.range_succ] using hperm.append_right [i]
    · simp [BcastPc.started, hcalls, callsUpTo_succ hep]
    · cases hk; exact ⟨hlt, hrec⟩
  | collect hpc =>
    have hperm := hi.perm
    have hcalls := hi.calls
    simp only [hpc, BcastPc.started] at hperm hcalls
    exact ⟨hperm, hcalls, hi.errs, fun _ hk => (by cases hk), fun _ hk => (by cases hk)⟩
  | @deliver j hpc _ hj =>
    refine ⟨(perm_deliver hj).trans hi.perm, hi.calls, ?_, fun _ hk => ?_, fun _ hk => ?_⟩
    · show s.errs ++ (res j).toList = (s.received ++ [j]).filterMap res
      rw [filterMap_append_single, hi.errs]
    all_goals simp [hpc] at hk
  | finish hpc hlen =>
    have hperm := hi.perm
    have hcalls := hi.calls
    simp only [hpc, BcastPc.started] at hperm hcalls
    refine ⟨hperm, hcalls, hi.errs, fun _ hk => (by cases hk), fun r hk => ?_⟩
    cases hk
    exact ⟨hlen, rfl⟩

theorem Bcast.Reach.inv {s : Bcast} (hr : Bcast.Reach cfg base op res s) :
    BcastInv cfg base op res s := by
  induction hr with
  | init => exact bcast_inv_init
  | step _ hs ih => exact bcast_inv_step ih hs

end Invariant

/-! ### Every run ends -/

/-- Moves left to the calling goroutine: leaving its start loop, and returning. -/
def BcastPc.left : BcastPc → Nat
  | .spawning _ => 2
  | .collecting => 1
  | .returned _ => 0

/-- The steps a broadcast to `n` peers has left: starting each goroutine not started, taking
each message not received, and the calling goroutine's own moves. -/
def Bcast.left (n : Nat) (s : Bcast) : Nat :=
  (n - s.pc.started n) + (n - s.received.length) + s.pc.left

section Ends

variable {cfg : Config} {base : Request} {op : Operation} {res : Nat → Option String}
  {s t : Bcast}

/-- Every step uses up one of the steps left. -/
theorem BcastInv.left_lt (hi : BcastInv cfg base op res s) (hs : Bcast.Step cfg base op res s t) :
    t.left cfg.peerIPs.length < s.left cfg.peerIPs.length := by
  cases hs with
  | @spawn i ep hpc hlt hep =>
    obtain ⟨-, hrec⟩ := hi.spawning i hpc
    simp only [Bcast.left, hpc, hrec, BcastPc.started, BcastPc.left, List.length_nil]
    omega
  | collect hpc => simp only [Bcast.left, hpc, BcastPc.started, BcastPc.left]; omega
  | deliver hpc hlen hj =>
    have hsum := hi.perm.length_eq
    simp only [List.length_append, hpc, BcastPc.started, List.length_range] at hsum
    simp only [Bcast.left, hpc, BcastPc.started, BcastPc.left, List.length_append,
      List.length_singleton]
    omega
  | finish hpc hlen => simp only [Bcast.left, hpc, BcastPc.started, BcastPc.left]; omega

/-- **Every run of `bcastReq` is finite**: a run of `n` steps from the start has
`n ≤ 2 N + 2` for `N` peers. -/
theorem bcast_run_length_le (f : Nat → Bcast) (h0 : f 0 = Bcast.init) {n : Nat}
    (hf : ∀ m < n, Bcast.Step cfg base op res (f m) (f (m + 1))) :
    n ≤ 2 * cfg.peerIPs.length + 2 := by
  have key : ∀ m ≤ n, Bcast.Reach cfg base op res (f m) ∧
      (f m).left cfg.peerIPs.length + m ≤ 2 * cfg.peerIPs.length + 2 := by
    intro m hm
    induction m with
    | zero =>
      rw [h0]
      exact ⟨.init, by simp only [Bcast.left, Bcast.init, BcastPc.started, BcastPc.left,
        List.length_nil]; omega⟩
    | succ m ih =>
      obtain ⟨hr, hle⟩ := ih (by omega)
      have hs := hf m (by omega)
      have := hr.inv.left_lt hs
      exact ⟨hr.step hs, by omega⟩
  have := (key n le_rfl).2
  omega

end Ends

/-! ### The calls made -/

section Calls

variable {cfg : Config} {base : Request} {op : Operation}

/-- The agent endpoints as `CommandFunc` builds them. -/
def Config.EndpointsBuilt (cfg : Config) : Prop :=
  cfg.agentEndpoints = cfg.peerIPs.map (endpoint cfg.agentPort)

/-- A configuration `CommandFunc` returns has what the broadcast results assume: its agent
endpoints are built from its peers, and its peer string joins them. -/
theorem commandFunc_endpointsBuilt {cfg cfg' : Config} {readFile : String → Except String String}
    (h : commandFunc cfg readFile = .ok cfg') :
    cfg'.EndpointsBuilt ∧ cfg'.peerIPString = Strings.join cfg'.peerIPs "___" := by
  unfold commandFunc at h
  split_ifs at h
  split at h
  · cases h
  · cases h
    exact ⟨rfl, rfl⟩

/-- A request that carries the peer list joined by `___` fits a gRPC frame only when the
separators do: with `n` peers, `3 (n - 1) < 2^32`. -/
theorem framed_peers {ips : List String} {r : Request}
    (hip : r.peerIPString = Strings.join ips "___") (hfit : r.Framed) :
    3 * (ips.length - 1) < 2 ^ 32 := by
  have hsep := Strings.length_join_sep ips "___"
  rw [show "___".length = 3 from rfl] at hsep
  rw [Request.Framed, hip] at hfit
  omega

theorem agentEndpoints_getElem? (hcfg : cfg.EndpointsBuilt) (i : Nat) :
    cfg.agentEndpoints[i]? = cfg.peerIPs[i]?.map (endpoint cfg.agentPort) := by
  rw [hcfg, List.getElem?_map]

/-- The call of goroutine `i`: to the endpoint of peer `i`, with the index `i`. -/
def bcastCall (cfg : Config) (base : Request) (op : Operation) (i : Nat) (ip : String) :
    String × Request :=
  (endpoint cfg.agentPort ip, sendReq { base with operation := op } i)

theorem callsUpTo_eq (hcfg : cfg.EndpointsBuilt) {n : Nat} (hn : n ≤ cfg.peerIPs.length) :
    callsUpTo cfg base op n = (cfg.peerIPs.take n).mapIdx (bcastCall cfg base op) := by
  induction n with
  | zero => simp [callsUpTo]
  | succ n ih =>
    have hlt : n < cfg.peerIPs.length := by omega
    have hep : cfg.agentEndpoints[n]? = some (endpoint cfg.agentPort cfg.peerIPs[n]) := by
      rw [agentEndpoints_getElem? hcfg, List.getElem?_eq_getElem hlt, Option.map_some']
    rw [callsUpTo_succ hep, ih (by omega), List.take_succ, List.getElem?_eq_getElem hlt,
      Option.toList_some, List.mapIdx_append_one, List.length_take, Nat.min_eq_left (by omega : n ≤ cfg.peerIPs.length)]
    rfl

end Calls

section Returns

variable {cfg : Config} {base : Request} {op : Operation} {res : Nat → Option String}

theorem toNat_ofNat_uint32 (n : Nat) : (UInt32.ofNat n).toNat = n % 2 ^ 32 :=
  BitVec.toNat_ofNat _ _

/-- A field of the requests of the calls, goroutine by goroutine. -/
theorem map_mapIdx_bcastCall {α : Type} (g : Request → α) :
    (cfg.peerIPs.mapIdx (bcastCall cfg base op)).map (fun c => g c.2) =
      (List.range cfg.peerIPs.length).map fun i => g (sendReq { base with operation := op } i) :=
  List.ext_getElem? fun i => by
    by_cases hi : i < cfg.peerIPs.length
    · simp [List.getElem?_mapIdx, bcastCall, hi, List.getElem?_range]
    · rw [List.getElem?_eq_none (by simp; omega), List.getElem?_eq_none (by simp; omega)]

/-- Goroutines `i < j ≤ 2^32` send different indices and different ZooKeeper ids. -/
theorem sendReq_nodup (req : Request) {n : Nat} (hn : n ≤ 2 ^ 32) :
    ((List.range n).map fun i => (sendReq req i).serverIndex).Nodup ∧
    ((List.range n).map fun i => (sendReq req i).zookeeperMyID).Nodup := by
  constructor <;> refine (List.nodup_range n).map_on fun x hx y hy h => ?_ <;>
    have := congrArg UInt32.toNat h <;>
    simp only [sendReq, toNat_ofNat_uint32] at this <;>
    simp only [List.mem_range] at hx hy <;> omega

/-- Until it returns, the calling goroutine can always start the next goroutine, leave the
start loop, take a blocked goroutine's message, or return. -/
theorem BcastInv.progress (hcfg : cfg.EndpointsBuilt) {s : Bcast}
    (hi : BcastInv cfg base op res s) (hnot : ∀ r, s.pc ≠ .returned r) :
    ∃ t, Bcast.Step cfg base op res s t := by
  cases hpc : s.pc with
  | spawning i =>
    obtain ⟨hle, -⟩ := hi.spawning i hpc
    rcases Nat.lt_or_ge i cfg.peerIPs.length with hlt | hge
    · have hep : cfg.agentEndpoints[i]? = some (endpoint cfg.agentPort cfg.peerIPs[i]) := by
        rw [agentEndpoints_getElem? hcfg, List.getElem?_eq_getElem hlt, Option.map_some']
      exact ⟨_, .spawn hpc hlt hep⟩
    · exact ⟨_, .collect (by rw [hpc, Nat.le_antisymm hle hge])⟩
  | collecting =>
    by_cases hlen : s.received.length = cfg.peerIPs.length
    · exact ⟨_, .finish hpc hlen⟩
    · have hperm := hi.perm
      rw [hpc] at hperm
      have := hperm.length_eq
      simp only [List.length_append, BcastPc.started, List.length_range] at this
      obtain ⟨j, hj⟩ := List.exists_mem_of_length_pos (show 0 < s.blocked.length by omega)
      exact ⟨_, .deliver hpc hlen hj⟩
  | returned r => exact absurd hpc (hnot r)

/-- The call of goroutine `i`, once all are made: to peer `i`'s endpoint, with the index `i`
and the id `i + 1` when they fit a `uint32`. -/
theorem call_of_mapIdx {i : Nat} {c : String × Request}
    (hc : (cfg.peerIPs.mapIdx (bcastCall cfg base op))[i]? = some c) (hN : i + 1 < 2 ^ 32) :
    c.2.serverIndex.toNat = i ∧ c.2.zookeeperMyID.toNat = i + 1 := by
  rw [List.getElem?_mapIdx, Option.map_eq_some'] at hc
  obtain ⟨ip, -, rfl⟩ := hc
  simp only [bcastCall, sendReq, toNat_ofNat_uint32]
  omega

/-- What the call has done once it returned, with fewer than `2^32` peers. -/
theorem BcastInv.of_returned (hcfg : cfg.EndpointsBuilt) (hN : cfg.peerIPs.length < 2 ^ 32)
    {s : Bcast} (hi : BcastInv cfg base op res s) {r : Option String}
    (hret : s.pc = .returned r) :
    s.calls = cfg.peerIPs.mapIdx (bcastCall cfg base op) ∧
    (∀ i (c : String × Request), s.calls[i]? = some c →
      c.2.serverIndex.toNat = i ∧ c.2.zookeeperMyID.toNat = i + 1) ∧
    (s.calls.map fun c => c.2.serverIndex).Nodup ∧
    (s.calls.map fun c => c.2.zookeeperMyID).Nodup ∧
    s.blocked = [] ∧ s.received.Perm (List.range cfg.peerIPs.length) ∧
    r = (s.received.filterMap res).head? ∧ (r = none ↔ ∀ i < cfg.peerIPs.length, res i = none) := by
  obtain ⟨hlen, hr'⟩ := hi.returned r hret
  have hperm := hi.perm
  have hcalls := hi.calls
  simp only [hret, BcastPc.started] at hperm hcalls
  rw [callsUpTo_eq hcfg le_rfl, List.take_length] at hcalls
  have hblocked : s.blocked = [] := by
    have := hperm.length_eq
    simp only [List.length_append, hlen, List.length_range] at this
    exact List.eq_nil_of_length_eq_zero (by omega)
  have hrecv : s.received.Perm (List.range cfg.peerIPs.length) := by
    simpa [hblocked] using hperm
  have hnodup := sendReq_nodup { base with operation := op } hN.le
  refine ⟨hcalls, fun i c hc => ?_, ?_, ?_, hblocked, hrecv, hr'.trans (by rw [hi.errs]), ?_⟩
  · rw [hcalls] at hc
    have hi' : i < cfg.peerIPs.length := by
      simpa using (List.getElem?_eq_some_iff.mp hc).1
    exact call_of_mapIdx hc (by omega)
  · rw [hcalls, map_mapIdx_bcastCall (·.serverIndex)]; exact hnodup.1
  · rw [hcalls, map_mapIdx_bcastCall (·.zookeeperMyID)]; exact hnodup.2
  · rw [hr', hi.errs, List.head?_eq_none_iff, List.filterMap_eq_nil_iff]
    exact ⟨fun h i hi' => h i (hrecv.mem_iff.mpr (List.mem_range.mpr hi')),
      fun h i hi' => h i (List.mem_range.mp (hrecv.mem_iff.mp hi'))⟩

/-- **`bcastReq` returns, and what it has done then**, for endpoints and a peer string built
by `CommandFunc`, in a request gRPC can deliver: every run ends within `2 N + 2` steps, and a
run that cannot go on has returned. Then goroutine `i` has called Transfer once, on the
endpoint of peer `i`, with the request and operation, the index `i` and the ZooKeeper id
`i + 1`, so that the indices are pairwise distinct, and so are the ids; every goroutine's
message was received, so none is left blocked; and the result is the error of the first
failing goroutine to deliver, `nil` exactly when every call succeeded. -/
theorem bcastReq_returns (hcfg : cfg.EndpointsBuilt)
    (hip : base.peerIPString = Strings.join cfg.peerIPs "___") (hfit : base.Framed) :
    (∀ (f : Nat → Bcast) (n : Nat), f 0 = Bcast.init →
      (∀ m < n, Bcast.Step cfg base op res (f m) (f (m + 1))) →
      n ≤ 2 * cfg.peerIPs.length + 2) ∧
    ∀ s, Bcast.Reach cfg base op res s → (∀ t, ¬ Bcast.Step cfg base op res s t) →
      ∃ r, s.pc = .returned r ∧
      s.calls = cfg.peerIPs.mapIdx (bcastCall cfg base op) ∧
      (∀ i (c : String × Request), s.calls[i]? = some c →
        c.2.serverIndex.toNat = i ∧ c.2.zookeeperMyID.toNat = i + 1) ∧
      (s.calls.map fun c => c.2.serverIndex).Nodup ∧
      (s.calls.map fun c => c.2.zookeeperMyID).Nodup ∧
      s.blocked = [] ∧ s.received.Perm (List.range cfg.peerIPs.length) ∧
      r = (s.received.filterMap res).head? ∧
      (r = none ↔ ∀ i < cfg.peerIPs.length, res i = none) := by
  have hN := framed_peers hip hfit
  refine ⟨fun f _ h0 hf => bcast_run_length_le f h0 hf, fun s hr hstuck => ?_⟩
  have hi := hr.inv
  obtain ⟨r, hret⟩ : ∃ r, s.pc = .returned r := by
    by_contra hn
    push_neg at hn
    obtain ⟨t, ht⟩ := hi.progress hcfg hn
    exact hstuck t ht
  exact ⟨r, hret, hi.of_returned hcfg (by omega) hret⟩

end Returns

/-! ### Two peers, the second failing -/

/-- Two peers with agents on port 3500, endpoints as `CommandFunc` builds them. -/
def twoPeers : Config :=
  { (default : Config) with
    peerIPs := ["10.0.0.1", "10.0.0.2"]
    agentPort := 3500
    agentEndpoints := ["10.0.0.1:3500", "10.0.0.2:3500"] }

/-- The request `cfg.Request()` gives for `twoPeers`: the joined peer string. -/
def twoBase : Request := { (default : Request) with peerIPString := "10.0.0.1___10.0.0.2" }

/-- The second `sendReq` fails. -/
def secondFails (i : Nat) : Option String := if i = 1 then some "unavailable" else none

theorem bcastReq_returns_at_twoPeers :
    twoPeers.EndpointsBuilt ∧ twoBase.peerIPString = Strings.join twoPeers.peerIPs "___" ∧
    twoBase.Framed ∧
    (∀ (f : Nat → Bcast) (n : Nat), f 0 = Bcast.init →
      (∀ m < n, Bcast.Step twoPeers twoBase .Start secondFails (f m) (f (m + 1))) → n ≤ 2 * 2 + 2) ∧
    ∀ s, Bcast.Reach twoPeers twoBase .Start secondFails s →
      (∀ t, ¬ Bcast.Step twoPeers twoBase .Start secondFails s t) →
      ∃ r, s.pc = .returned r ∧
      s.calls = twoPeers.peerIPs.mapIdx (bcastCall twoPeers twoBase .Start) ∧
      (∀ i (c : String × Request), s.calls[i]? = some c →
        c.2.serverIndex.toNat = i ∧ c.2.zookeeperMyID.toNat = i + 1) ∧
      (s.calls.map fun c => c.2.serverIndex).Nodup ∧
      (s.calls.map fun c => c.2.zookeeperMyID).Nodup ∧
      s.blocked = [] ∧ s.received.Perm (List.range 2) ∧
      r = (s.received.filterMap secondFails).head? ∧ (r = none ↔ ∀ i < 2, secondFails i = none) :=
  have hcfg : twoPeers.EndpointsBuilt := by unfold Config.EndpointsBuilt; decide
  have hip : twoBase.peerIPString = Strings.join twoPeers.peerIPs "___" := by decide
  have hfit : twoBase.Framed := by decide
  ⟨hcfg, hip, hfit, bcastReq_returns hcfg hip hfit⟩

/-! ### Progress -/

section Progress

variable {cfg : Config} {base : Request} {op : Operation} {res : Nat → Option String}

/-- **The broadcast never deadlocks**: until it returns, the calling goroutine can always
start the next goroutine, leave the start loop, take a blocked goroutine's message, or
return. -/
theorem bcast_progress (hcfg : cfg.EndpointsBuilt) {s : Bcast} (hr : Bcast.Reach cfg base op res s)
    (hnot : ∀ r, s.pc ≠ .returned r) : ∃ t, Bcast.Step cfg base op res s t :=
  hr.inv.progress hcfg hnot

end Progress

theorem bcast_progress_at_start : ∃ t, Bcast.Step twoPeers twoBase .Start secondFails Bcast.init t :=
  bcast_progress (by unfold Config.EndpointsBuilt; decide) .init fun _ => nofun

end DbTester.Control
