import DbTester.Control.Handlers
import DbTester.Control.Phase

/-!
# Step 2

`step2` makes its values with `newValues` and returns its error when that fails. The write
benchmark makes the request channel with capacity `Clients` (a negative capacity panics),
builds its handlers (on ZooKeeper with the same key this first writes the key, and may end the
process), and runs its phase. The read benchmark takes the first sample as its value (which
panics on an empty corpus) and, on each database `CommandFunc` accepts, writes it under the key
its phase reads: at most seven attempts, each with new clients and the write on the first of
them (which panics when there is none), leaving the loop at the first success. When the last
attempt failed too, the controller calls `os.Exit(1)`: step 3 never runs, and every agent's
database keeps running. Then it makes the channel and its handlers and runs its phase. Another
benchmark type runs nothing.

The phase ends in a panic when one of the generator's iterations panics (a write on an empty
corpus divides by zero), and otherwise completes, and step 2 returns `nil`.

* `phaseEnd`, `phaseEnd_spec`: how the phase ends, and that every run of it ends so;
* `primeRead`, `step2`: the read benchmark's priming write, and the step;
* `step2_exits_iff`: step 2 ends the process exactly when a priming write fails seven times.
-/

namespace DbTester.Control

/-- How step 2 ends: returning (its error, or `nil`), panicking, or with `os.Exit(1)`. -/
inductive Step2End
  | returned (r : Option String)
  | panicked
  | exited
  deriving DecidableEq, Repr

instance (it : Nat → Iteration) (n : Nat) : Decidable (NoPanicBefore it n) :=
  Nat.decidableBallLT n _

/-- How the phase with generator `it` and `total` iterations ends: in a panic when one of the
iterations it runs panics, and otherwise once `wg.Wait` returned and the report is done. -/
def phaseEnd (it : Nat → Iteration) (total : Int) : Step2End :=
  if NoPanicBefore it total.toNat then .returned none else .panicked

/-- **Every run of the phase ends as `phaseEnd` says**, for `w ≥ 1` workers: a state no step
leaves has returned exactly when `phaseEnd` returns, and has a dead generator exactly when
`phaseEnd` panics. -/
theorem phaseEnd_spec {w : Nat} {total : Int} {it : Nat → Iteration} {s : Phase} (hW : 0 < w)
    (hr : Phase.Reach w total it s) (hstuck : ∀ t, ¬ Phase.Step w total it s t) :
    (phaseEnd it total = .returned none ↔ s.main = .returned) ∧
    (phaseEnd it total = .panicked ↔ s.gen = .panicked) := by
  have hi := phase_inv hW hr
  by_cases hg : s.gen = .panicked
  · obtain ⟨i, hlt, hb, -⟩ := gen_panicked hW hr hg
    have hnp : ¬ NoPanicBefore it total.toNat := fun h => h i (by omega) hb
    have hm : s.main ≠ .returned := fun hm => by
      simpa [hg] using (hi.of_pastWait hW (by rw [hm]; rfl)).2.2.2.2.1
    simp [phaseEnd, hnp, hm, hg]
  · have hm : s.main = .returned := by
      by_contra hm
      obtain ⟨t, ht⟩ := phase_progress hW hr hg hm
      exact hstuck t ht
    have hnp := (hi.of_closed (hi.of_pastWait hW (by rw [hm]; rfl)).2.2.2.2.1).2.2
    simp [phaseEnd, hnp, hm, hg]

/-- The write generator of `oneWrite` on an empty corpus. -/
def emptyWriteIt : Nat → Iteration := writeIteration oneWrite ⟨[], [], 0⟩ toString "k"

/-- Its phase with one worker once the generator died at iteration 0 and the compaction it
started returned: the worker waits for a request that never comes. -/
def emptyWriteStuck : Phase := ⟨.waiting, .panicked, 0, [], 1, 0, 0, 0, 1, 1, 0⟩

theorem phaseEnd_spec_at_emptyWrite :
    Phase.Reach 1 oneWrite.step2.totalRequests emptyWriteIt emptyWriteStuck ∧
    (∀ t, ¬ Phase.Step 1 oneWrite.step2.totalRequests emptyWriteIt emptyWriteStuck t) ∧
    (phaseEnd emptyWriteIt oneWrite.step2.totalRequests = .returned none ↔
      emptyWriteStuck.main = .returned) ∧
    (phaseEnd emptyWriteIt oneWrite.step2.totalRequests = .panicked ↔
      emptyWriteStuck.gen = .panicked) :=
  have hr : Phase.Reach 1 oneWrite.step2.totalRequests emptyWriteIt emptyWriteStuck :=
    (Phase.Reach.init : Phase.Reach 1 oneWrite.step2.totalRequests emptyWriteIt _)
      |>.step (.launch rfl (by decide)) |>.step (.startGen rfl) |>.step (.check rfl (by decide))
      |>.step (.build rfl) |>.step (.compacted (by decide))
  have hstuck : ∀ t, ¬ Phase.Step 1 oneWrite.step2.totalRequests emptyWriteIt emptyWriteStuck t :=
    fun t ht => by cases ht <;> simp_all [emptyWriteStuck]
  ⟨hr, hstuck, phaseEnd_spec Nat.one_pos hr hstuck⟩

/-- The read benchmark's priming write, on the database's own clients: `Connections` of them
(etcd v2, ZooKeeper, Consul) or one (etcd v3) on each attempt; a database the switch does not
name writes nothing. -/
def primeRead (cfg : Config) (primeOk : Nat → Bool) : Primed :=
  match cfg.database with
  | "etcdv2" | "zk" | "zookeeper" | "consul" =>
    primeWrite (connCount cfg.step2.connections) primeOk 7 0
  | "etcdv3" => primeWrite 1 primeOk 7 0
  | _ => .written

/-- `step2(cfg)`, with `vals` what `newValues(cfg)` returned, `sequentialKey` and `sameKey` the
key helpers' results, and `primeOk k` whether attempt `k` of the priming write succeeded. -/
def step2 (cfg : Config) (vals : Except String Values) (sequentialKey : Nat → String)
    (sameKey : String) (primeOk : Nat → Bool) : Step2End :=
  match vals with
  | .error e => .returned (some e)
  | .ok v => match cfg.step2.benchType with
    | "write" =>
      if cfg.step2.clients < 0 then .panicked
      else match newWriteHandlers cfg primeOk with
        | .ok _ => phaseEnd (writeIteration cfg v sequentialKey sameKey) cfg.step2.totalRequests
        | .panic => .panicked
        | .exit => .exited
    | "read" => match v.strings[0]? with
      | none => .panicked
      | some _ => match primeRead cfg primeOk with
        | .written =>
          if cfg.step2.clients < 0 then .panicked
          else match newReadHandlers cfg with
            | .ok _ => phaseEnd (readIteration cfg sameKey) cfg.step2.totalRequests
            | .panic => .panicked
            | .exit => .exited
        | .panic => .panicked
        | .exit => .exited
    | _ => .returned none

theorem phaseEnd_ne_exited (it : Nat → Iteration) (total : Int) : phaseEnd it total ≠ .exited := by
  unfold phaseEnd
  split <;> nofun

/-- The read benchmark's priming write ends the process exactly when the database is one
`CommandFunc` accepts, each attempt makes a client, and all seven fail. -/
theorem primeRead_eq_exit {cfg : Config} {primeOk : Nat → Bool} :
    primeRead cfg primeOk = .exit ↔ Config.databaseOk cfg.database ∧
      (cfg.database = "etcdv3" ∨ 0 < cfg.step2.connections) ∧ ∀ j < 7, primeOk j = false := by
  have hprime : ∀ count, primeWrite count primeOk 7 0 = .exit ↔
      count ≠ 0 ∧ ∀ j < 7, primeOk j = false :=
    fun count => (primeWrite_eq_exit count primeOk 6 0).trans (by simp)
  unfold primeRead
  split
  case h_6 => exact iff_of_false nofun fun ⟨h, _⟩ => by simp_all [Config.databaseOk]
  all_goals
    rename_i hdb
    simp [hprime, hdb, Config.databaseOk, connCount]

/-- **Step 2 ends the process exactly when a priming write fails seven times**: the
controller calls `os.Exit(1)`, and step 3 never runs, iff `newValues` succeeded and either the
write benchmark on ZooKeeper with the same key, with a channel and connections that exist,
fails its priming write seven times, or the read benchmark, with a sample, on a database
`CommandFunc` accepts and with clients that exist, does. -/
theorem step2_exits_iff {cfg : Config} {vals : Except String Values}
    {sequentialKey : Nat → String} {sameKey : String} {primeOk : Nat → Bool} :
    step2 cfg vals sequentialKey sameKey primeOk = .exited ↔
      ((cfg.step2.benchType = "write" ∧ (∃ v, vals = .ok v) ∧ 0 ≤ cfg.step2.clients ∧
          (cfg.database = "zk" ∨ cfg.database = "zookeeper") ∧ cfg.step2.sameKey = true ∧
          0 < cfg.step2.connections) ∨
        (cfg.step2.benchType = "read" ∧ (∃ v, vals = .ok v ∧ v.strings ≠ []) ∧
          Config.databaseOk cfg.database ∧
          (cfg.database = "etcdv3" ∨ 0 < cfg.step2.connections))) ∧
      ∀ j < 7, primeOk j = false := by
  rcases vals with e | v
  · simp [step2]
  simp only [step2]
  split
  case h_1 hb =>
    by_cases hc : cfg.step2.clients < 0
    · simp [hc, hb]
    rw [if_neg hc]
    refine (?_ : _ ↔ newWriteHandlers cfg primeOk = .exit).trans
      (newWriteHandlers_eq_exit.trans ?_)
    · split <;> simp [phaseEnd_ne_exited, *]
    · simp [hb, not_lt.mp hc, and_assoc]
  case h_2 hb =>
    cases hs : v.strings with
    | nil => simp [hb, hs]
    | cons x xs =>
      rw [List.getElem?_cons_zero]
      dsimp only
      refine (?_ : _ ↔ primeRead cfg primeOk = .exit).trans (primeRead_eq_exit.trans ?_)
      · split
        · split_ifs
          · simp_all
          · split <;> simp_all [phaseEnd_ne_exited, newReadHandlers_ne_exit]
        all_goals simp_all
      · simp [hb, hs, and_assoc]
  case h_3 hw hr => exact iff_of_false nofun fun ⟨h, _⟩ => by rcases h with h | h <;> simp_all

end DbTester.Control
