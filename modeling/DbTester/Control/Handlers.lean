import DbTester.Control.Config

/-!
# The request handlers of step 2

`newWriteHandlers` and `newReadHandlers` make a slice of `Step2.Clients` handlers, all `nil`,
and then set entry `i` for each connection `i` the backend's constructor returns: that is
`Step2.Clients` connections for etcd v3 and `Step2.Connections` for the three others. Setting
an entry past the end panics; an entry no connection sets stays `nil`, and step 2 starts a
worker on it.

* `ReqHandler`, `makeHandlers`, `fill`: the slice and the loop that fills it;
* `primeWrite`: the loop of a priming write, seven attempts that each connect anew;
* `newWriteHandlers`, `newReadHandlers`;
* `newWriteHandlers_eq_exit`, `newReadHandlers_ne_exit`: only the write handlers on ZooKeeper
  with the same key end the process, when their priming write fails seven times;
* `fill_replicate`: what the loop leaves, for any number of connections;
* `handlersFrom_self`, `newReadHandlers_of_eq`: with as many connections as clients, every
  entry is set;
* `fewer_connections_leave_nil`: etcd v2 with two clients and one connection.
-/

namespace DbTester.Control

/-- A request handler, known by the constructor that made it and its connection. -/
inductive ReqHandler
  | putEtcd2 (conn : Nat)
  | putEtcd3 (conn : Nat)
  | putOverwriteZK (conn : Nat)
  | putCreateZK (conn : Nat)
  | putConsul (conn : Nat)
  | getEtcd2 (conn : Nat)
  | getEtcd3 (conn : Nat)
  | getZK (conn : Nat)
  | getConsul (conn : Nat)
  deriving DecidableEq, Repr

/-- How building the handlers ends: the slice (`none` is a `nil` entry), a panic (a negative
length, an index out of range), or `os.Exit(1)` after the priming write failed. -/
inductive Handlers
  | ok (rhs : List (Option ReqHandler))
  | panic
  | exit
  deriving DecidableEq, Repr

/-- `make([]ReqHandler, n)`. -/
def makeHandlers (n : Int) : Option (List (Option ReqHandler)) :=
  if n < 0 then none else some (List.replicate n.toNat none)

/-- `for i := range conns { rhs[i] = mk(conns[i]) }`, from index `i` on. -/
def fill (mk : Nat → ReqHandler) : List (Option ReqHandler) → Nat → Nat → Option (List (Option ReqHandler))
  | rhs, _, 0 => some rhs
  | rhs, i, n + 1 => if i < rhs.length then fill mk (rhs.set i (some (mk i))) (i + 1) n else none

/-- The connections the `mustCreate*` constructors return for a count: as many as the count
(the constructors are not part of the sources; a negative count gives none). -/
def connCount (n : Int) : Nat := n.toNat

/-- A slice of `clients` entries filled from `conns` connections. -/
def handlersFrom (clients : Int) (conns : Nat) (mk : Nat → ReqHandler) : Handlers :=
  match makeHandlers clients with
  | none => .panic
  | some rhs =>
    match fill mk rhs 0 conns with
    | none => .panic
    | some rhs => .ok rhs

/-- How a priming write ends: written, a panic, or `os.Exit(1)`. -/
inductive Primed
  | written
  | panic
  | exit
  deriving DecidableEq, Repr

/-- The priming write's loop `for i := 0; i < 7; i++`, from attempt `k` with `n` attempts left:
each attempt makes `count` connections and writes on the first (`conns[0]` or `clients[0]`
panics when there is none), `ok k` says whether attempt `k` succeeded, the first success leaves
the loop, and after the last failure the process exits. -/
def primeWrite (count : Nat) (ok : Nat → Bool) : Nat → Nat → Primed
  | 0, _ => .exit
  | n + 1, k => if count = 0 then .panic else if ok k then .written else primeWrite count ok n (k + 1)

/-- `newWriteHandlers(cfg)`: `primeOk k` says whether attempt `k` of the ZooKeeper priming
write succeeds. -/
def newWriteHandlers (cfg : Config) (primeOk : Nat → Bool) : Handlers :=
  let s := cfg.step2
  match cfg.database with
  | "etcdv2" => handlersFrom s.clients (connCount s.connections) .putEtcd2
  | "etcdv3" => handlersFrom s.clients (connCount s.clients) .putEtcd3
  | "zk" | "zookeeper" =>
    match makeHandlers s.clients with
    | none => .panic
    | some _ =>
      match (if s.sameKey then primeWrite (connCount s.connections) primeOk 7 0 else .written) with
      | .written => handlersFrom s.clients (connCount s.connections)
          (if s.sameKey then .putOverwriteZK else .putCreateZK)
      | .panic => .panic
      | .exit => .exit
  | "consul" => handlersFrom s.clients (connCount s.connections) .putConsul
  | _ => match makeHandlers s.clients with
    | none => .panic
    | some rhs => .ok rhs

/-- `newReadHandlers(cfg)`. -/
def newReadHandlers (cfg : Config) : Handlers :=
  let s := cfg.step2
  match cfg.database with
  | "etcdv2" => handlersFrom s.clients (connCount s.connections) .getEtcd2
  | "etcdv3" => handlersFrom s.clients (connCount s.clients) .getEtcd3
  | "zk" | "zookeeper" => handlersFrom s.clients (connCount s.connections) .getZK
  | "consul" => handlersFrom s.clients (connCount s.connections) .getConsul
  | _ => match makeHandlers s.clients with
    | none => .panic
    | some rhs => .ok rhs

/-! ### What the loop leaves -/

section Fill

variable (mk : Nat → ReqHandler)

/-- **The filling loop** over `n` connections from index `i`, on a slice whose entries from
`i` on are `nil`: it panics when the connections run past the slice, and otherwise sets the
next `n` entries and leaves the rest `nil`. -/
theorem fill_replicate (pre : List (Option ReqHandler)) (m n : Nat) :
    fill mk (pre ++ List.replicate m none) pre.length n =
      if n ≤ m then
        some (pre ++ (List.range' pre.length n).map (some ∘ mk) ++ List.replicate (m - n) none)
      else none := by
  induction n generalizing pre m with
  | zero => simp [fill]
  | succ n ih =>
    cases m with
    | zero => simp [fill]
    | succ m =>
      have hset : (pre ++ List.replicate (m + 1) none).set pre.length (some (mk pre.length)) =
          (pre ++ [some (mk pre.length)]) ++ List.replicate m none := by
        simp [List.set_append_right, List.replicate_succ]
      have hlen : (pre ++ [some (mk pre.length)]).length = pre.length + 1 := by simp
      rw [fill, if_pos (by simp), hset, ← hlen, ih]
      simp only [hlen, Nat.add_le_add_iff_right, Nat.add_sub_add_right, List.range'_succ,
        List.map_cons, Function.comp, List.append_assoc, List.singleton_append]

end Fill

/-- With as many connections as clients, every entry is set: entry `i` by connection `i`. -/
theorem handlersFrom_self (n : Nat) (mk : Nat → ReqHandler) :
    handlersFrom n n mk = .ok ((List.range n).map (some ∘ mk)) := by
  have := fill_replicate mk [] n n
  simp only [List.nil_append, List.length_nil, le_refl, if_true, Nat.sub_self,
    List.replicate_zero, List.append_nil] at this
  have hn : ¬ (n : Int) < 0 := by omega
  simp [handlersFrom, makeHandlers, hn, this, List.range_eq_range']

/-! ### Which builders end the process -/

/-- **The priming loop exits** exactly when it makes connections and every attempt left
fails. -/
theorem primeWrite_eq_exit (count : Nat) (ok : Nat → Bool) (n k : Nat) :
    primeWrite count ok (n + 1) k = .exit ↔ count ≠ 0 ∧ ∀ j < n + 1, ok (k + j) = false := by
  induction n generalizing k with
  | zero => by_cases hc : count = 0 <;> cases hk : ok k <;> simp [primeWrite, hc, hk]
  | succ n ih =>
    rw [Nat.forall_lt_succ_left, primeWrite.eq_2]
    by_cases hc : count = 0 <;> cases hk : ok k <;> simp [hc, hk, ih, Nat.add_assoc, Nat.add_comm 1]

theorem handlersFrom_ne_exit (clients : Int) (conns : Nat) (mk : Nat → ReqHandler) :
    handlersFrom clients conns mk ≠ .exit := by
  unfold handlersFrom
  split
  · nofun
  · split <;> nofun

/-- The write handlers end the process only on ZooKeeper with the same key, after the priming
write failed seven times on a slice and connections that exist. -/
theorem newWriteHandlers_eq_exit {cfg : Config} {primeOk : Nat → Bool} :
    newWriteHandlers cfg primeOk = .exit ↔ (cfg.database = "zk" ∨ cfg.database = "zookeeper") ∧
      0 ≤ cfg.step2.clients ∧ cfg.step2.sameKey = true ∧ 0 < cfg.step2.connections ∧
      ∀ j < 7, primeOk j = false := by
  have hprime : primeWrite (connCount cfg.step2.connections) primeOk 7 0 = .exit ↔
      0 < cfg.step2.connections ∧ ∀ j < 7, primeOk j = false :=
    (primeWrite_eq_exit _ _ 6 0).trans (by simp [connCount])
  unfold newWriteHandlers
  split
  case h_3 hdb | h_4 hdb =>
    simp only [hdb, true_or, or_true, true_and, makeHandlers]
    by_cases hc : cfg.step2.clients < 0
    · simp [hc]
    rw [if_neg hc, ← hprime]
    cases cfg.step2.sameKey
    · simp [handlersFrom_ne_exit]
    · cases primeWrite (connCount cfg.step2.connections) primeOk 7 0 <;>
        simp [not_lt.mp hc, handlersFrom_ne_exit]
  all_goals
    refine iff_of_false ?_ fun ⟨h, _⟩ => by rcases h with h | h <;> simp_all
  case h_6 => dsimp only; split <;> nofun
  all_goals exact handlersFrom_ne_exit _ _ _

/-- The read handlers never end the process. -/
theorem newReadHandlers_ne_exit (cfg : Config) : newReadHandlers cfg ≠ .exit := by
  unfold newReadHandlers
  split
  case h_6 => dsimp only; split <;> nofun
  all_goals exact handlersFrom_ne_exit _ _ _

/-- etcd v2 with `Clients` and `Connections` as given. -/
def etcd2Cfg (clients connections : Int) : Config :=
  { (default : Config) with
    database := "etcdv2"
    step2 := { (default : Step2) with clients := clients, connections := connections } }

/-- **With as many connections as clients**, the read handlers of each database `CommandFunc`
accepts fill every entry: entry `i` is that database's read handler on connection `i`. -/
theorem newReadHandlers_of_eq {cfg : Config} {n : Nat} (hc : cfg.step2.clients = n)
    (heq : cfg.step2.connections = n) :
    (cfg.database = "etcdv2" →
      newReadHandlers cfg = .ok ((List.range n).map fun i => some (.getEtcd2 i))) ∧
    (cfg.database = "etcdv3" →
      newReadHandlers cfg = .ok ((List.range n).map fun i => some (.getEtcd3 i))) ∧
    (cfg.database = "zk" ∨ cfg.database = "zookeeper" →
      newReadHandlers cfg = .ok ((List.range n).map fun i => some (.getZK i))) ∧
    (cfg.database = "consul" →
      newReadHandlers cfg = .ok ((List.range n).map fun i => some (.getConsul i))) := by
  refine ⟨fun h => ?_, fun h => ?_, fun h => ?_, fun h => ?_⟩
  any_goals rcases h with h | h
  all_goals
    simp only [newReadHandlers, h, hc, heq, connCount, Int.toNat_ofNat]
    exact handlersFrom_self n _

theorem newReadHandlers_of_eq_at_two :
    (etcd2Cfg 2 2).step2.clients = 2 ∧ (etcd2Cfg 2 2).step2.connections = 2 ∧
    newReadHandlers (etcd2Cfg 2 2) = .ok [some (.getEtcd2 0), some (.getEtcd2 1)] :=
  ⟨rfl, rfl, (newReadHandlers_of_eq (n := 2) rfl rfl).1 rfl⟩

/-- With two clients and one connection the second handler stays `nil`; with one client and
two connections the second connection's handler is set past the end of the slice. -/
theorem fewer_connections_leave_nil :
    newWriteHandlers (etcd2Cfg 2 1) (fun _ => true) = .ok [some (.putEtcd2 0), none] ∧
    newReadHandlers (etcd2Cfg 2 1) = .ok [some (.getEtcd2 0), none] ∧
    newWriteHandlers (etcd2Cfg 1 2) (fun _ => true) = .panic :=
  ⟨rfl, rfl, rfl⟩

end DbTester.Control
