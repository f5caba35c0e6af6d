import DbTester.Control.Values

/-!
# A benchmark phase of step 2: generator, workers, compactions and the wait group

Step 2 adds each of its `W` workers to the wait group `wg` and starts it, starts the
generator, and waits on `wg`; then it closes `results` and waits for the report. Each worker
(`doHandler`) takes requests from the channel `requests` (capacity `W`) until it is closed and
drained, sends one result per request to the aggregator, and calls `wg.Done` when it returns.
The generator runs `TotalRequests` iterations; on etcd v3 with a compaction cycle `c > 0`,
iteration `i` with `i % c = 0` first adds one to `wg` and starts a compaction goroutine,
which calls `wg.Done` when it ends; then it sends the request of iteration `i`. After the
loop it closes `requests`.

Workers are interchangeable, so a state counts them by where they are (waiting for a
request, holding one whose result they will send, returned); compaction goroutines are
counted the same way.

* `writeIteration`, `readIteration`: iteration `i` of `generateWrites` and `generateReads`;
* `Phase`, `Phase.Step`, `Phase.Reach`: the phase under every interleaving;
* `phase_inv`: what holds in every reachable state;
* `add_while_positive`: the wait group is added to only before `wg.Wait` or while its counter
  is positive;
* `step2_phase`: for the two generators of step 2 on a corpus with a sample, every run ends
  with `wg.Wait` returned and the channel closed; what holds when the generator closes the
  channel, when the wait group is added to, and when `wg.Wait` returns;
* `run_length_le`, `phase_progress`: every interleaving is finite, and only the end of the
  phase or a panic of the generator stops it;
* `step2_phase_ends`: on a corpus with a sample, step 2's phase always completes.
-/

namespace DbTester.Control

/-! ### The requests -/

/-- `clientv3.Op` as the generators make it: a put, or a get of a key with the range option
and, for a local read, the serializable option. -/
inductive Op3
  | put (key : String) (value : Bytes)
  | get (key : String) (serializable : Bool)
  deriving DecidableEq, Repr

/-- `request`: one payload field per backend, `none` standing for the zero value. -/
structure Req where
  etcdv2Op : Option (String × Bytes)
  etcdv3Op : Option Op3
  zkOp : Option (String × Bytes)
  consulOp : Option (String × Bytes)
  deriving DecidableEq, Repr

/-- The payload fields of a request that are set. -/
def Req.fields (r : Req) : List String :=
  (if r.etcdv2Op.isSome then ["etcdv2Op"] else []) ++
  (if r.etcdv3Op.isSome then ["etcdv3Op"] else []) ++
  (if r.zkOp.isSome then ["zkOp"] else []) ++
  (if r.consulOp.isSome then ["consulOp"] else [])

/-- The payload field of a database. -/
def payloadField (database : String) : String :=
  match database with
  | "etcdv2" => "etcdv2Op"
  | "etcdv3" => "etcdv3Op"
  | "zk" | "zookeeper" => "zkOp"
  | "consul" => "consulOp"
  | _ => ""

/-- The switch on `cfg.Database` that sends a request: `none` for a database it does not
name, where nothing is sent. -/
def payload (database : String) (key : String) (value : Bytes) (op3 : Op3) : Option Req :=
  match database with
  | "etcdv2" => some ⟨some (key, value), none, none, none⟩
  | "etcdv3" => some ⟨none, some op3, none, none⟩
  | "zk" | "zookeeper" => some ⟨none, none, some (key, value), none⟩
  | "consul" => some ⟨none, none, none, some (key, value)⟩
  | _ => none

theorem payload_fields {database key : String} {value : Bytes} {op3 : Op3} {r : Req}
    (h : payload database key value op3 = some r) : r.fields = [payloadField database] := by
  unfold payload at h
  split at h <;> cases h <;> rfl

theorem payload_ne_none {database : String} (hdb : Config.databaseOk database) (key : String)
    (value : Bytes) (op3 : Op3) : payload database key value op3 ≠ none := by
  simp only [Config.databaseOk, decide_eq_true_eq] at hdb
  rcases hdb with rfl | rfl | rfl | rfl | rfl <;> nofun

/-! ### The generators' iterations -/

/-- What iteration `i` does after its loop test: send a request, send nothing, or panic. -/
inductive Body
  | send (r : Req)
  | skip
  | panic
  deriving DecidableEq, Repr

/-- Iteration `i`: whether it starts a compaction, then its body. -/
structure Iteration where
  compaction : Bool
  body : Body

/-- Iteration `i` of `generateWrites`: `sequentialKey i` and `sameKey` are the two key helpers'
results (they are not part of the sources). The zk key gets a leading `/`. -/
def writeIteration (cfg : Config) (vals : Values) (sequentialKey : Nat → String)
    (sameKey : String) (i : Nat) : Iteration :=
  { compaction := cfg.database = "etcdv3" ∧ cfg.step2.etcdv3CompactionCycle > 0 ∧
      (i : Int) % cfg.step2.etcdv3CompactionCycle = 0
    body :=
      match vals.pick i with
      | none => .panic
      | some (v, vs) =>
        let k := if cfg.step2.sameKey then sameKey else sequentialKey i
        let key := if cfg.database = "zk" ∨ cfg.database = "zookeeper" then "/" ++ k else k
        let value := if cfg.database = "etcdv2" then vs else v
        match payload cfg.database key value (.put k vs) with
        | some r => .send r
        | none => .skip }

/-- Iteration `i` of `generateReads`, on the key of the read phase. -/
def readIteration (cfg : Config) (key : String) (_ : Nat) : Iteration :=
  { compaction := false
    body :=
      match payload cfg.database key [] (.get key cfg.step2.localRead) with
      | some r => .send r
      | none => .skip }

/-- The requests of the first `n` iterations. -/
def sentBefore (it : Nat → Iteration) (n : Nat) : List Req :=
  (List.range n).filterMap fun j => match (it j).body with
    | .send r => some r
    | _ => none

/-- The compactions the first `n` iterations start. -/
def compBefore (it : Nat → Iteration) (n : Nat) : Nat :=
  (List.range n).countP fun j => (it j).compaction

/-- None of the first `n` iterations panics. -/
def NoPanicBefore (it : Nat → Iteration) (n : Nat) : Prop := ∀ j < n, (it j).body ≠ .panic

/-! ### The phase -/

/-- The goroutine running step 2: starting worker `k`, in `wg.Wait`, past it with `results`
closed, or returned after the report. -/
inductive MainPc
  | launching (k : Nat)
  | waiting
  | closedResults
  | returned
  deriving DecidableEq, Repr

/-- The generator: not started, at the loop test of iteration `i`, past the compaction check
of iteration `i`, blocked sending the request of iteration `i`, returned after closing
`requests`, or dead of a panic. -/
inductive GenPc
  | idle
  | top (i : Nat)
  | body (i : Nat)
  | sending (i : Nat) (r : Req)
  | closed
  | panicked
  deriving DecidableEq, Repr

/-- A phase in progress. -/
structure Phase where
  main : MainPc
  gen : GenPc
  queued : Nat
  sent : List Req
  idle : Nat
  busy : Nat
  exited : Nat
  running : Nat
  started : Nat
  counter : Nat
  received : Nat

/-- Before the first worker starts. -/
def Phase.init : Phase := ⟨.launching 0, .idle, 0, [], 0, 0, 0, 0, 0, 0, 0⟩

/-- The workers started so far. -/
def MainPc.launched (w : Nat) : MainPc → Nat
  | .launching k => k
  | _ => w

/-- Still starting workers. -/
def MainPc.isLaunching : MainPc → Bool
  | .launching _ => true
  | _ => false

/-- `wg.Wait` has returned. -/
def MainPc.pastWait : MainPc → Bool
  | .closedResults | .returned => true
  | _ => false

theorem MainPc.launched_of_not_isLaunching {m : MainPc} (w : Nat) (h : m.isLaunching = false) :
    m.launched w = w := by
  cases m <;> simp_all [isLaunching, launched]

theorem MainPc.not_isLaunching_of_pastWait {m : MainPc} (h : m.pastWait) : m.isLaunching = false := by
  cases m <;> simp_all [isLaunching, pastWait]

/-- The request an iteration's body sends. -/
def Body.request : Body → Option Req
  | .send r => some r
  | _ => none

section Steps

/- The phase with `w` workers (and a channel of capacity `w`), `total` iterations, and
iteration `it i`. -/
variable (w : Nat) (total : Int) (it : Nat → Iteration)

/-- One step of one goroutine. -/
inductive Phase.Step : Phase → Phase → Prop
  /-- `wg.Add(1)` and `go func(rh) {…}(h[k])` for worker `k`. -/
  | launch {s : Phase} {k : Nat} : s.main = .launching k → k < w →
      Phase.Step s { s with main := .launching (k + 1), idle := s.idle + 1, counter := s.counter + 1 }
  /-- `go generateWrites(…)` (or `generateReads`), and the main goroutine enters `wg.Wait`. -/
  | startGen {s : Phase} : s.main = .launching w →
      Phase.Step s { s with main := .waiting, gen := .top 0 }
  /-- The loop test holds, and the compaction check runs: `wg.Add(1)` and `go func() {…}()`. -/
  | check {s : Phase} {i : Nat} : s.gen = .top i → (i : Int) < total →
      Phase.Step s { s with
        gen := .body i
        running := s.running + if (it i).compaction then 1 else 0
        started := s.started + if (it i).compaction then 1 else 0
        counter := s.counter + if (it i).compaction then 1 else 0 }
  /-- The key, the value and the switch on the database. -/
  | build {s : Phase} {i : Nat} : s.gen = .body i →
      Phase.Step s { s with gen := match (it i).body with
        | .send r => .sending i r
        | .skip => .top (i + 1)
        | .panic => .panicked }
  /-- `requests <- r`, when the channel has room. -/
  | push {s : Phase} {i : Nat} {r : Req} : s.gen = .sending i r → s.queued < w →
      Phase.Step s { s with gen := .top (i + 1), queued := s.queued + 1, sent := s.sent ++ [r] }
  /-- The loop test fails, and the deferred `close(requests)` runs. -/
  | close {s : Phase} {i : Nat} : s.gen = .top i → ¬ (i : Int) < total →
      Phase.Step s { s with gen := .closed }
  /-- A compaction goroutine returns: `wg.Done()`. -/
  | compacted {s : Phase} : 0 < s.running →
      Phase.Step s { s with running := s.running - 1, counter := s.counter - 1 }
  /-- Modelled from the spec: a waiting worker takes the oldest queued request. -/
  | take {s : Phase} : 0 < s.idle → 0 < s.queued →
      Phase.Step s { s with idle := s.idle - 1, busy := s.busy + 1, queued := s.queued - 1 }
  /-- Modelled from the spec: a waiting worker finds the channel closed and drained, returns,
  and its deferred `wg.Done()` runs. -/
  | exit {s : Phase} : 0 < s.idle → s.queued = 0 → s.gen = .closed →
      Phase.Step s { s with idle := s.idle - 1, exited := s.exited + 1, counter := s.counter - 1 }
  /-- Modelled from the spec: a worker sends the result of its request to the aggregator. -/
  | deliver {s : Phase} : 0 < s.busy →
      Phase.Step s { s with busy := s.busy - 1, idle := s.idle + 1, received := s.received + 1 }
  /-- `wg.Wait()` returns on a zero counter, and `close(results)` runs. -/
  | wake {s : Phase} : s.main = .waiting → s.counter = 0 →
      Phase.Step s { s with main := .closedResults }
  /-- `<-pdoneC`: the report is done. -/
  | report {s : Phase} : s.main = .closedResults →
      Phase.Step s { s with main := .returned }

/-- The states of every interleaving. -/
inductive Phase.Reach : Phase → Prop
  | init : Phase.Reach Phase.init
  | step {s t : Phase} : Phase.Reach s → Phase.Step w total it s t → Phase.Reach t

/-- Where the generator is, against the iterations it has run. -/
def GenInv : GenPc → List Req → Nat → Prop
  | .idle, sent, started => sent = [] ∧ started = 0
  | .top i, sent, started => i ≤ total.toNat ∧ sent = sentBefore it i ∧
      started = compBefore it i ∧ NoPanicBefore it i
  | .body i, sent, started => (i : Int) < total ∧ sent = sentBefore it i ∧
      started = compBefore it (i + 1) ∧ NoPanicBefore it i
  | .sending i r, sent, started => (i : Int) < total ∧ (it i).body = .send r ∧
      sent = sentBefore it i ∧ started = compBefore it (i + 1) ∧ NoPanicBefore it i
  | .closed, sent, started => sent = sentBefore it total.toNat ∧
      started = compBefore it total.toNat ∧ NoPanicBefore it total.toNat
  | .panicked, _, _ => ∃ i : Nat, (i : Int) < total ∧ (it i).body = .panic ∧ NoPanicBefore it i

/-- What holds in every reachable state: the wait group counts the live workers and
compactions; at most `w` workers are started, and the generator starts after the last; a worker returns only once the
channel is closed and empty; every request sent is queued, held by a worker, or answered; the
generator has run its iterations in order; past `wg.Wait` the counter is zero. -/
structure PhaseInv (s : Phase) : Prop where
  counter : s.counter = s.idle + s.busy + s.running
  workers : s.idle + s.busy + s.exited = s.main.launched w
  launched : s.main.launched w ≤ w
  notStarted : s.gen = .idle ↔ s.main.isLaunching
  exited : 0 < s.exited → s.gen = .closed ∧ s.queued = 0
  bound : s.queued ≤ w
  flow : s.sent.length = s.received + s.queued + s.busy
  compactions : s.running ≤ s.started
  gen : GenInv total it s.gen s.sent s.started
  done : s.main.pastWait → s.counter = 0

end Steps

/-! ### The generator's iterations, one at a time -/

section Generator

variable {w : Nat} {total : Int} {it : Nat → Iteration} {s t : Phase}

theorem sentBefore_succ (n : Nat) :
    sentBefore it (n + 1) = sentBefore it n ++ (it n).body.request.toList := by
  simp only [sentBefore, List.range_succ, List.filterMap_append, List.filterMap_cons,
    List.filterMap_nil]
  cases (it n).body <;> rfl

theorem compBefore_succ (n : Nat) :
    compBefore it (n + 1) = compBefore it n + if (it n).compaction then 1 else 0 := by
  simp only [compBefore, List.range_succ, List.countP_append, List.countP_singleton]

theorem noPanicBefore_succ {n : Nat} (h : NoPanicBefore it n) (hn : (it n).body ≠ .panic) :
    NoPanicBefore it (n + 1) := fun j hj => by
  rcases Nat.lt_succ_iff_lt_or_eq.mp hj with hj | rfl
  exacts [h j hj, hn]

/-- The generator's part of the invariant is kept by every step, given that the generator
has not started while workers are being started. -/
theorem genInv_step (hs : Phase.Step w total it s t) (hg : GenInv total it s.gen s.sent s.started)
    (hidle : s.main.isLaunching → s.gen = .idle) : GenInv total it t.gen t.sent t.started := by
  cases hs with
  | startGen hm =>
    rw [hidle (by rw [hm]; rfl)] at hg
    obtain ⟨hsent, hst⟩ := hg
    exact ⟨Nat.zero_le _, hsent, hst, fun _ h => absurd h (Nat.not_lt_zero _)⟩
  | @check i hgi hlt =>
    rw [hgi] at hg
    obtain ⟨-, hsent, hst, hnp⟩ := hg
    exact ⟨hlt, hsent, by rw [hst, compBefore_succ], hnp⟩
  | @build i hgi =>
    rw [hgi] at hg
    obtain ⟨hlt, hsent, hst, hnp⟩ := hg
    show GenInv total it (match (it i).body with | .send r => _ | .skip => _ | .panic => _) _ _
    cases hb : (it i).body with
    | send r => exact ⟨hlt, hb, hsent, hst, hnp⟩
    | skip =>
      exact ⟨by omega, by simp [sentBefore_succ, hb, hsent, Body.request], hst,
        noPanicBefore_succ hnp (by rw [hb]; nofun)⟩
    | panic => exact ⟨i, hlt, hb, hnp⟩
  | @push i r hgi _ =>
    rw [hgi] at hg
    obtain ⟨hlt, hb, hsent, hst, hnp⟩ := hg
    exact ⟨by omega, by rw [sentBefore_succ, hb, hsent]; rfl, hst,
      noPanicBefore_succ hnp (by rw [hb]; nofun)⟩
  | @close i hgi hge =>
    rw [hgi] at hg
    obtain ⟨hle, hsent, hst, hnp⟩ := hg
    obtain rfl : i = total.toNat := by omega
    exact ⟨hsent, hst, hnp⟩
  | _ => exact hg

end Generator

/-! ### The invariant -/

section Invariant

variable {w : Nat} {total : Int} {it : Nat → Iteration} {s t : Phase}

theorem phaseInv_init : PhaseInv w total it Phase.init :=
  ⟨rfl, rfl, Nat.zero_le w, ⟨fun _ => rfl, fun _ => rfl⟩, fun h => absurd h (Nat.lt_irrefl 0), Nat.zero_le w,
    rfl, le_rfl, ⟨rfl, rfl⟩, nofun⟩

theorem PhaseInv.exited_eq_zero (hi : PhaseInv w total it s) (hg : s.gen ≠ .closed) :
    s.exited = 0 :=
  Nat.eq_zero_of_not_pos fun h => hg (hi.exited h).1

theorem PhaseInv.not_isLaunching (hi : PhaseInv w total it s) (hg : s.gen ≠ .idle) :
    s.main.isLaunching = false :=
  Bool.eq_false_iff.mpr fun h => hg (hi.notStarted.mpr h)

/-- Past `wg.Wait`, every worker has returned, no compaction is running, and the generator has
closed a drained channel. -/
theorem PhaseInv.of_pastWait (hW : 0 < w) (hi : PhaseInv w total it s) (hm : s.main.pastWait) :
    s.idle = 0 ∧ s.busy = 0 ∧ s.running = 0 ∧ s.exited = w ∧ s.gen = .closed ∧ s.queued = 0 := by
  have hc := hi.counter
  have h0 := hi.done hm
  have hw := hi.workers
  rw [MainPc.launched_of_not_isLaunching w (MainPc.not_isLaunching_of_pastWait hm)] at hw
  obtain ⟨hg, hq⟩ := hi.exited (by omega)
  exact ⟨by omega, by omega, by omega, by omega, hg, hq⟩

/-- **One step keeps the invariant.** -/
theorem phaseInv_step (hW : 0 < w) (hi : PhaseInv w total it s) (hs : Phase.Step w total it s t) :
    PhaseInv w total it t := by
  have hgen := genInv_step hs hi.gen hi.notStarted.mpr
  have hc := hi.counter
  have hw := hi.workers
  have hb := hi.bound
  have hf := hi.flow
  have hcp := hi.compactions
  cases hs with
  | @launch k hm hk =>
    have hg : s.gen = .idle := hi.notStarted.mpr (by rw [hm]; rfl)
    rw [hm] at hw
    exact { hi with
      counter := by dsimp only; omega
      workers := by dsimp only [MainPc.launched] at hw ⊢; omega
      launched := by dsimp only [MainPc.launched]; omega
      notStarted := by simp [hg, MainPc.isLaunching]
      done := nofun }
  | startGen hm =>
    have he := hi.exited_eq_zero (by rw [hi.notStarted.mpr (by rw [hm]; rfl)]; nofun)
    rw [hm] at hw
    exact { hi with
      workers := hw
      launched := le_rfl
      notStarted := by simp [MainPc.isLaunching]
      exited := fun h => absurd h (by dsimp only; omega)
      gen := hgen
      done := nofun }
  | @check i hg _ =>
    have hl := hi.not_isLaunching (by rw [hg]; nofun)
    have he := hi.exited_eq_zero (by rw [hg]; nofun)
    exact { hi with
      counter := by dsimp only; omega
      notStarted := by simp [hl]
      exited := fun h => absurd h (by dsimp only; omega)
      compactions := by dsimp only; omega
      gen := hgen
      done := fun hm => absurd (hi.of_pastWait hW hm).2.2.2.2.1 (by rw [hg]; nofun) }
  | @build i hg =>
    have hl := hi.not_isLaunching (by rw [hg]; nofun)
    have he := hi.exited_eq_zero (by rw [hg]; nofun)
    exact { hi with
      notStarted := by rw [hl]; cases (it i).body <;> simp
      exited := fun h => absurd h (by dsimp only; omega)
      gen := hgen }
  | @push i r hg _ =>
    have hl := hi.not_isLaunching (by rw [hg]; nofun)
    have he := hi.exited_eq_zero (by rw [hg]; nofun)
    exact { hi with
      notStarted := by simp [hl]
      exited := fun h => absurd h (by dsimp only; omega)
      bound := by dsimp only; omega
      flow := by simp only [List.length_append, List.length_singleton]; omega
      gen := hgen }
  | @close i hg _ =>
    have hl := hi.not_isLaunching (by rw [hg]; nofun)
    have he := hi.exited_eq_zero (by rw [hg]; nofun)
    exact { hi with
      notStarted := by simp [hl]
      exited := fun h => absurd h (by dsimp only; omega)
      gen := hgen }
  | compacted _ =>
    exact { hi with
      counter := by dsimp only; omega
      compactions := by dsimp only; omega
      done := fun hm => by have := hi.done hm; dsimp only; omega }
  | take _ hq =>
    exact { hi with
      counter := by dsimp only; omega
      workers := by dsimp only; omega
      exited := fun h => absurd (hi.exited h).2 (by omega)
      bound := by dsimp only; omega
      flow := by dsimp only; omega }
  | exit _ hq hg =>
    exact { hi with
      counter := by dsimp only; omega
      workers := by dsimp only; omega
      exited := fun _ => ⟨hg, hq⟩
      done := fun hm => by have := hi.done hm; dsimp only; omega }
  | deliver _ =>
    exact { hi with
      counter := by dsimp only; omega
      workers := by dsimp only; omega
      flow := by dsimp only; omega }
  | wake hm h0 =>
    rw [hm] at hw
    exact { hi with
      workers := hw
      launched := le_rfl
      notStarted := by dsimp only; rw [hi.notStarted, hm]; rfl
      done := fun _ => h0 }
  | report hm =>
    rw [hm] at hw
    exact { hi with
      workers := hw
      launched := le_rfl
      notStarted := by dsimp only; rw [hi.notStarted, hm]; rfl
      done := fun _ => hi.done (by rw [hm]; rfl) }

/-- **Every reachable state keeps the invariant**, for any number of workers. -/
theorem phase_inv (hW : 0 < w) (hr : Phase.Reach w total it s) : PhaseInv w total it s := by
  induction hr with
  | init => exact phaseInv_init
  | step _ hs ih => exact phaseInv_step hW ih hs

end Invariant

/-! ### What the phase guarantees -/

section Safety

variable {w : Nat} {total : Int} {it : Nat → Iteration} {s t : Phase}

/-- Once the generator has closed the channel it has run all its iterations, none of which
panicked. -/
theorem PhaseInv.of_closed (hi : PhaseInv w total it s) (hg : s.gen = .closed) :
    s.sent = sentBefore it total.toNat ∧ s.started = compBefore it total.toNat ∧
      NoPanicBefore it total.toNat := by
  have := hi.gen
  rwa [hg] at this

/-- A step that adds to the wait group is taken while the workers are being started, before
`wg.Wait`, or while the counter is positive: the generator adds only before it closes the
channel, when no worker has returned. -/
theorem add_while_positive (hW : 0 < w) (hi : PhaseInv w total it s)
    (hs : Phase.Step w total it s t) (hlt : s.counter < t.counter) :
    s.main.isLaunching ∨ 0 < s.counter := by
  cases hs with
  | launch hm _ => exact .inl (by rw [hm]; rfl)
  | @check i hg _ =>
    have hw := hi.workers
    rw [MainPc.launched_of_not_isLaunching w (hi.not_isLaunching (by rw [hg]; nofun)),
      hi.exited_eq_zero (by rw [hg]; nofun)] at hw
    exact .inr (by rw [hi.counter]; omega)
  | _ => dsimp only at hlt; omega

/-- Iterations that each send a request or panic: when none of the first `n` panics, they
send `n` requests. -/
theorem sentBefore_of_sends {P : Req → Prop} {n : Nat}
    (h : ∀ j, (it j).body = .panic ∨ ∃ r, (it j).body = .send r ∧ P r)
    (hnp : NoPanicBefore it n) : (sentBefore it n).length = n ∧ ∀ r ∈ sentBefore it n, P r := by
  induction n with
  | zero => exact ⟨rfl, nofun⟩
  | succ n ih =>
    obtain ⟨hlen, hP⟩ := ih fun j hj => hnp j (by omega)
    rcases h n with hp | ⟨r, hr, hPr⟩
    · exact absurd hp (hnp n (by omega))
    · rw [sentBefore_succ, hr]
      refine ⟨by simp [hlen, Body.request], fun r' hr' => ?_⟩
      rcases List.mem_append.mp hr' with hr' | hr'
      · exact hP r' hr'
      · simp only [Body.request, Option.toList_some, List.mem_singleton] at hr'
        exact hr' ▸ hPr

end Safety

/-! ### Every interleaving ends -/

/-- What the main goroutine has left to do. -/
def MainPc.rank (w : Nat) : MainPc → Nat
  | .launching k => 2 * (w - k) + 3
  | .waiting => 2
  | .closedResults => 1
  | .returned => 0

/-- What the generator has left to do, of `n` iterations. -/
def GenPc.rank (n : Nat) : GenPc → Nat
  | .idle => 6 * n + 2
  | .top i => 6 * (n - i) + 1
  | .body i => 6 * (n - i) - 1
  | .sending i _ => 6 * (n - i) - 2
  | .closed | .panicked => 0

/-- A bound on the steps left: a queued request has still to be taken and answered, a held one
answered, and a waiting worker and a running compaction have still to return. -/
def Phase.rank (w n : Nat) (s : Phase) : Nat :=
  s.main.rank w + s.gen.rank n + 2 * s.queued + 2 * s.busy + s.idle + s.running

section Ends

variable {w : Nat} {total : Int} {it : Nat → Iteration} {s t : Phase}

/-- Every step lowers the rank. -/
theorem rank_step (hi : PhaseInv w total it s) (hs : Phase.Step w total it s t) :
    t.rank w total.toNat < s.rank w total.toNat := by
  have hg := hi.gen
  cases hs with
  | launch hm _ => simp only [Phase.rank, hm, MainPc.rank]; omega
  | startGen hm =>
    simp only [Phase.rank, hm, hi.notStarted.mpr (by rw [hm]; rfl), MainPc.rank, GenPc.rank]
    omega
  | check hgi _ =>
    simp only [Phase.rank, hgi, GenPc.rank]
    split <;> omega
  | @build i hgi =>
    rw [hgi] at hg
    have := hg.1
    simp only [Phase.rank, hgi]
    cases (it i).body <;> simp only [GenPc.rank] <;> omega
  | push hgi _ =>
    rw [hgi] at hg
    have := hg.1
    simp only [Phase.rank, hgi, GenPc.rank]
    omega
  | close hgi _ => simp only [Phase.rank, hgi, GenPc.rank]; omega
  | compacted _ | take _ _ | exit _ _ _ | deliver _ => simp only [Phase.rank]; omega
  | wake hm _ | report hm => simp only [Phase.rank, hm, MainPc.rank]; omega

/-- **Every interleaving is finite**: a run of `n` steps from the start has
`n ≤ 2w + 6·max(T, 0) + 5`. -/
theorem run_length_le (hW : 0 < w) (f : Nat → Phase) (h0 : f 0 = Phase.init) {n : Nat}
    (hf : ∀ m < n, Phase.Step w total it (f m) (f (m + 1))) :
    n ≤ 2 * w + 6 * total.toNat + 5 := by
  have key : ∀ m ≤ n, Phase.Reach w total it (f m) ∧
      (f m).rank w total.toNat + m ≤ 2 * w + 6 * total.toNat + 5 := by
    intro m hm
    induction m with
    | zero =>
      rw [h0]
      exact ⟨.init, by simp only [Phase.rank, Phase.init, MainPc.rank, GenPc.rank]; omega⟩
    | succ m ih =>
      obtain ⟨hr, hle⟩ := ih (by omega)
      have hs := hf m (by omega)
      have := rank_step (phase_inv hW hr) hs
      exact ⟨hr.step hs, by omega⟩
  have := (key n le_rfl).2
  omega

/-- **No reachable state is stuck**, except at the end of the phase or after the generator
panicked. -/
theorem phase_progress (hW : 0 < w) (hr : Phase.Reach w total it s) (hg : s.gen ≠ .panicked)
    (hm : s.main ≠ .returned) : ∃ t, Phase.Step w total it s t := by
  have hi := phase_inv hW hr
  have hc := hi.counter
  cases hmain : s.main with
  | launching k =>
    have hk := hi.launched
    simp only [hmain, MainPc.launched] at hk
    rcases Nat.lt_or_ge k w with hlt | hge
    · exact ⟨_, .launch hmain hlt⟩
    · exact ⟨_, .startGen (by rw [hmain, Nat.le_antisymm hk hge])⟩
  | waiting =>
    have hl : s.main.isLaunching = false := by rw [hmain]; rfl
    have hw := hi.workers
    rw [MainPc.launched_of_not_isLaunching w hl] at hw
    cases hgen : s.gen with
    | idle => exact absurd (hi.notStarted.mp hgen) (by rw [hl]; nofun)
    | top i =>
      by_cases hlt : (i : Int) < total
      · exact ⟨_, .check hgen hlt⟩
      · exact ⟨_, .close hgen hlt⟩
    | body i => exact ⟨_, .build hgen⟩
    | sending i r =>
      rcases Nat.lt_or_ge s.queued w with hq | hq
      · exact ⟨_, .push hgen hq⟩
      rcases Nat.eq_zero_or_pos s.idle with hid | hid
      · rcases Nat.eq_zero_or_pos s.busy with hb | hb
        · exact absurd (hi.exited (by omega)).1 (by rw [hgen]; nofun)
        · exact ⟨_, .deliver hb⟩
      · exact ⟨_, .take hid (by omega)⟩
    | closed =>
      rcases Nat.eq_zero_or_pos s.running with hrun | hrun
      · rcases Nat.eq_zero_or_pos s.busy with hb | hb
        · rcases Nat.eq_zero_or_pos s.idle with hid | hid
          · exact ⟨_, .wake hmain (by omega)⟩
          · rcases Nat.eq_zero_or_pos s.queued with hq | hq
            · exact ⟨_, .exit hid hq hgen⟩
            · exact ⟨_, .take hid hq⟩
        · exact ⟨_, .deliver hb⟩
      · exact ⟨_, .compacted hrun⟩
    | panicked => exact absurd hgen hg
  | closedResults => exact ⟨_, .report hmain⟩
  | returned => exact absurd hmain hm

/-- The generator dies only at the first of its iterations whose body panics. -/
theorem gen_panicked (hW : 0 < w) (hr : Phase.Reach w total it s) (hg : s.gen = .panicked) :
    ∃ i : Nat, (i : Int) < total ∧ (it i).body = .panic ∧ NoPanicBefore it i := by
  have := (phase_inv hW hr).gen
  rwa [hg] at this

end Ends

/-! ### Step 2's generators -/

/-- The generator step 2 starts for its benchmark type: `generateWrites`, or `generateReads` on
`sameKey` (the key of the read phase's priming write); no phase runs for another type. -/
def generator (cfg : Config) (vals : Values) (sequentialKey : Nat → String) (sameKey : String) :
    Option (Nat → Iteration) :=
  match cfg.step2.benchType with
  | "write" => some (writeIteration cfg vals sequentialKey sameKey)
  | "read" => some (readIteration cfg sameKey)
  | _ => none

section Generators

variable {cfg : Config} {vals : Values} {sequentialKey : Nat → String} {sameKey : String}
  {it : Nat → Iteration}

/-- Each iteration of step 2's generator, on a database `CommandFunc` accepts, sends a request
holding only that database's payload field, or panics (a write on an empty corpus). -/
theorem generator_sends (hdb : Config.databaseOk cfg.database)
    (hgen : generator cfg vals sequentialKey sameKey = some it) (j : Nat) :
    (it j).body = .panic ∨ ∃ r, (it j).body = .send r ∧ r.fields = [payloadField cfg.database] := by
  unfold generator at hgen
  split at hgen <;> cases hgen
  · simp only [writeIteration]
    split
    · exact .inl rfl
    · split
      · exact .inr ⟨_, rfl, payload_fields ‹_›⟩
      · exact absurd ‹_› (payload_ne_none hdb _ _ _)
  · simp only [readIteration]
    split
    · exact .inr ⟨_, rfl, payload_fields ‹_›⟩
    · exact absurd ‹_› (payload_ne_none hdb _ _ _)

/-- The compactions of step 2's generator: one for each iteration `i` with `i % c = 0`, on etcd
v3 writes with a cycle `c > 0`. -/
theorem compBefore_generator (hgen : generator cfg vals sequentialKey sameKey = some it)
    (n : Nat) :
    compBefore it n = ((List.range n).filter fun (i : Nat) => cfg.step2.benchType = "write" ∧
      cfg.database = "etcdv3" ∧ cfg.step2.etcdv3CompactionCycle > 0 ∧
      (i : Int) % cfg.step2.etcdv3CompactionCycle = 0).length := by
  unfold generator at hgen
  split at hgen <;> cases hgen
  all_goals
    rw [compBefore, List.countP_eq_length_filter]
    congr
    funext i
  · simp [writeIteration, *]
  · simp [readIteration, *]

/-- On a corpus with a sample, no iteration of step 2's generator panics. -/
theorem generator_ne_panic (hgen : generator cfg vals sequentialKey sameKey = some it)
    (hlen : vals.bytes.length = vals.sampleSize) (hs : vals.strings = vals.bytes)
    (hpos : 0 < vals.sampleSize) (i : Nat) : (it i).body ≠ .panic := by
  unfold generator at hgen
  split at hgen <;> cases hgen
  · obtain ⟨⟨b, -, hb⟩, -⟩ := pick_of_sampleSize_pos hlen hs hpos i
    simp only [writeIteration, hb]
    split <;> nofun
  · simp only [readIteration]
    split <;> nofun

/-- **Step 2's benchmark phase**, for a database `CommandFunc` accepts, either benchmark type, a
corpus with a sample, any total `T`, any number `w ≥ 1` of workers, and every interleaving of
the goroutines. Every run stops within `2w + 6·max(T, 0) + 5` steps, and it stops only once
`wg.Wait` has returned and the generator has closed `requests`. In every reachable state:
(1) once the generator has closed `requests` it has sent exactly `max(T, 0)` requests, each
holding only the database's payload field; (2) a step that adds to the wait group is taken
before `wg.Wait` begins or while the counter is positive; (3) once `wg.Wait` has returned, all
`w` workers have returned and none holds a result (so no result is sent after
`close(results)`), every compaction goroutine has returned, one was started for each `i < T`
with `i % c = 0` on etcd v3 writes, and the aggregator has received all `max(T, 0)` results. -/
theorem step2_phase (hdb : Config.databaseOk cfg.database)
    (hgen : generator cfg vals sequentialKey sameKey = some it)
    (hlen : vals.bytes.length = vals.sampleSize) (hs : vals.strings = vals.bytes)
    (hpos : 0 < vals.sampleSize) {w : Nat} (hW : 0 < w) :
    (∀ (f : Nat → Phase) (n : Nat), f 0 = Phase.init →
      (∀ m < n, Phase.Step w cfg.step2.totalRequests it (f m) (f (m + 1))) →
      n ≤ 2 * w + 6 * cfg.step2.totalRequests.toNat + 5) ∧
    ∀ s, Phase.Reach w cfg.step2.totalRequests it s →
      ((∀ t, ¬ Phase.Step w cfg.step2.totalRequests it s t) →
        s.main = .returned ∧ s.gen = .closed) ∧
      (s.gen = .closed → s.sent.length = cfg.step2.totalRequests.toNat ∧
        ∀ r ∈ s.sent, r.fields = [payloadField cfg.database]) ∧
      (∀ t, Phase.Step w cfg.step2.totalRequests it s t → s.counter < t.counter →
        s.main.isLaunching ∨ 0 < s.counter) ∧
      (s.main.pastWait → s.exited = w ∧ s.busy = 0 ∧ s.running = 0 ∧
        s.started = ((List.range cfg.step2.totalRequests.toNat).filter fun (i : Nat) =>
          cfg.step2.benchType = "write" ∧ cfg.database = "etcdv3" ∧
          cfg.step2.etcdv3CompactionCycle > 0 ∧
          (i : Int) % cfg.step2.etcdv3CompactionCycle = 0).length ∧
        s.received = cfg.step2.totalRequests.toNat) := by
  have hsent := fun {n : Nat} (hnp : NoPanicBefore it n) =>
    sentBefore_of_sends (generator_sends hdb hgen) hnp
  refine ⟨fun f _ h0 hf => run_length_le hW f h0 hf, fun s hr => ?_⟩
  have hi := phase_inv hW hr
  refine ⟨fun hstuck => ?_, fun hg => ?_, fun t hs hlt => add_while_positive hW hi hs hlt,
    fun hm => ?_⟩
  · have hg : s.gen ≠ .panicked := fun hg =>
      let ⟨i, _, hi, _⟩ := gen_panicked hW hr hg
      generator_ne_panic hgen hlen hs hpos i hi
    have hm : s.main = .returned := by
      by_contra hm
      obtain ⟨t, ht⟩ := phase_progress hW hr hg hm
      exact hstuck t ht
    exact ⟨hm, (hi.of_pastWait hW (by rw [hm]; rfl)).2.2.2.2.1⟩
  · obtain ⟨h1, -, h3⟩ := hi.of_closed hg
    exact h1 ▸ hsent h3
  · obtain ⟨-, hb, hrun, he, hg, hq⟩ := hi.of_pastWait hW hm
    obtain ⟨h1, h2, h3⟩ := hi.of_closed hg
    have hf := hi.flow
    rw [h1, (hsent h3).1] at hf
    exact ⟨he, hb, hrun, by rw [h2, compBefore_generator hgen], by omega⟩

end Generators

/-- One etcd v3 write with a compaction cycle of one, one worker, and a one-value corpus. -/
def oneWrite : Config :=
  { (default : Config) with
    database := "etcdv3"
    step2 := { (default : Step2) with
      benchType := "write"
      totalRequests := 1
      etcdv3CompactionCycle := 1 } }

/-- The write generator of `oneWrite`, with decimal sequential keys. -/
def oneWriteIt : Nat → Iteration := writeIteration oneWrite ⟨[[7]], [[7]], 1⟩ toString "k"

theorem step2_phase_at_oneWrite :
    Config.databaseOk oneWrite.database ∧
    generator oneWrite ⟨[[7]], [[7]], 1⟩ toString "k" = some oneWriteIt ∧
    (∀ (f : Nat → Phase) (n : Nat), f 0 = Phase.init →
      (∀ m < n, Phase.Step 1 oneWrite.step2.totalRequests oneWriteIt (f m) (f (m + 1))) →
      n ≤ 2 * 1 + 6 * oneWrite.step2.totalRequests.toNat + 5) ∧
    ∀ s, Phase.Reach 1 oneWrite.step2.totalRequests oneWriteIt s →
      ((∀ t, ¬ Phase.Step 1 oneWrite.step2.totalRequests oneWriteIt s t) →
        s.main = .returned ∧ s.gen = .closed) ∧
      (s.gen = .closed → s.sent.length = oneWrite.step2.totalRequests.toNat ∧
        ∀ r ∈ s.sent, r.fields = [payloadField oneWrite.database]) ∧
      (∀ t, Phase.Step 1 oneWrite.step2.totalRequests oneWriteIt s t → s.counter < t.counter →
        s.main.isLaunching ∨ 0 < s.counter) ∧
      (s.main.pastWait → s.exited = 1 ∧ s.busy = 0 ∧ s.running = 0 ∧
        s.started = ((List.range oneWrite.step2.totalRequests.toNat).filter fun (i : Nat) =>
          oneWrite.step2.benchType = "write" ∧ oneWrite.database = "etcdv3" ∧
          oneWrite.step2.etcdv3CompactionCycle > 0 ∧
          (i : Int) % oneWrite.step2.etcdv3CompactionCycle = 0).length ∧
        s.received = oneWrite.step2.totalRequests.toNat) :=
  ⟨by decide, rfl, @step2_phase oneWrite ⟨[[7]], [[7]], 1⟩ toString "k" oneWriteIt (by decide) rfl rfl
    rfl Nat.one_pos 1 Nat.one_pos⟩

/-! ### Step 2's phase ends -/

section Completion

variable {cfg : Config} {vals : Values} {sequentialKey : Nat → String} {sameKey : String}
  {it : Nat → Iteration}

/-- **Step 2's phase always completes**, on a corpus with a sample, for any number `w ≥ 1` of
workers: every interleaving stops after at most `2w + 6·max(T, 0) + 5` steps, and it stops only
once `wg.Wait` has returned and the report is done. -/
theorem step2_phase_ends (hgen : generator cfg vals sequentialKey sameKey = some it)
    (hlen : vals.bytes.length = vals.sampleSize) (hs : vals.strings = vals.bytes)
    (hpos : 0 < vals.sampleSize) {w : Nat} (hW : 0 < w) :
    (∀ (f : Nat → Phase) (n : Nat), f 0 = Phase.init →
      (∀ m < n, Phase.Step w cfg.step2.totalRequests it (f m) (f (m + 1))) →
      n ≤ 2 * w + 6 * cfg.step2.totalRequests.toNat + 5) ∧
    ∀ s, Phase.Reach w cfg.step2.totalRequests it s →
      (∀ t, ¬ Phase.Step w cfg.step2.totalRequests it s t) → s.main = .returned := by
  refine ⟨fun f _ h0 hf => run_length_le hW f h0 hf, fun s hr hstuck => ?_⟩
  by_contra hm
  have hg : s.gen ≠ .panicked := fun hg =>
    let ⟨i, _, hi, _⟩ := gen_panicked hW hr hg
    generator_ne_panic hgen hlen hs hpos i hi
  obtain ⟨t, ht⟩ := phase_progress hW hr hg hm
  exact hstuck t ht

end Completion

theorem step2_phase_ends_at_oneWrite :
    generator oneWrite ⟨[[7]], [[7]], 1⟩ toString "k" = some oneWriteIt ∧
    (∀ (f : Nat → Phase) (n : Nat), f 0 = Phase.init →
      (∀ m < n, Phase.Step 1 oneWrite.step2.totalRequests oneWriteIt (f m) (f (m + 1))) →
      n ≤ 2 * 1 + 6 * oneWrite.step2.totalRequests.toNat + 5) ∧
    ∀ s, Phase.Reach 1 oneWrite.step2.totalRequests oneWriteIt s →
      (∀ t, ¬ Phase.Step 1 oneWrite.step2.totalRequests oneWriteIt s t) → s.main = .returned :=
  ⟨rfl, @step2_phase_ends oneWrite ⟨[[7]], [[7]], 1⟩ toString "k" oneWriteIt rfl rfl rfl Nat.one_pos 1
    Nat.one_pos⟩

end DbTester.Control
