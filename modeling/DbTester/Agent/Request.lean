import DbTester.Go.Filepath

/-!
# The agent's data: the control message, the server record, the path globals

`agent/agent.go` keeps its state in two places: the record of the `transporterServer` (the
request of the last Start, the spawned command, the database log, the pid) and package
globals (the paths of its files, rewritten under the working directory by `Transfer`).

* `Operation`, `Database`, `Request`: the protobuf message `Request` (its Go code is not part
  of the sources; its fields are those `Transfer` and `sendReq` read and write), and
  `Request.Framed`, what gRPC's 4-byte frame length asks of a request it delivers;
* `Cmd`, `File`, `Server`: `*exec.Cmd`, `*os.File`, `transporterServer`;
* `Host`: the agent process's flags and environment, and the binaries they locate;
* `Paths`, `rebase`, `Paths.rebaseAll`: the path globals and the `HasPrefix`-guarded
  `filepath.Join` that puts them under the working directory;
* `command`: `exec.Command(name, arg...)`.
-/

namespace DbTester.Agent

open Go

/-- `Request_Operation`. A proto enum field carries any `int32`; `other` is a value without a
name in the enum. -/
inductive Operation
  | Start
  | Stop
  | Restart
  | other (n : Int)
  deriving DecidableEq, Repr, Inhabited

/-- `Request_Database`, with `other` as for `Operation`. -/
inductive Database
  | etcdv2
  | etcdv3
  | ZooKeeper
  | Consul
  | other (n : Int)
  deriving DecidableEq, Repr, Inhabited

/-- The control message, with the fields `Transfer` and `sendReq` read and write.
`ServerIndex` and `ZookeeperMyID` are `uint32` fields. -/
structure Request where
  operation : Operation
  database : Database
  peerIPString : String
  serverIndex : UInt32
  zookeeperMyID : UInt32
  zookeeperMaxClientCnxns : Int
  zookeeperSnapCount : Int
  testName : String
  googleCloudStorageKey : String
  googleCloudStorageSubDirectory : String
  deriving DecidableEq, Repr, Inhabited

/-- gRPC frames each message with a 4-byte length, so a request whose encoding takes `2^32`
bytes or more is never delivered. The encoding holds the bytes of `PeerIPString`, at least one
per character: a request that reaches an agent has a peer string of fewer than `2^32`
characters. -/
def Request.Framed (r : Request) : Prop := r.peerIPString.length < 2 ^ 32

instance (r : Request) : Decidable r.Framed := inferInstanceAs (Decidable (_ < _))

/-- An `*exec.Cmd` as the agent uses it: the program path, the arguments (`Args[0]` is the
name the command was made from), and whether `LookPath` failed to resolve that name. -/
structure Cmd where
  path : String
  args : List String
  lookPathErr : Bool
  deriving DecidableEq, Repr

/-- An open `*os.File`, known by its descriptor. -/
structure File where
  fd : Nat
  deriving DecidableEq, Repr

/-- `transporterServer`. -/
structure Server where
  req : Request
  cmd : Option Cmd
  logfile : Option File
  pid : Int
  deriving DecidableEq, Repr

/-- `NewTransporterServer()`: the zero record. -/
def Server.init : Server := ⟨default, none, none, 0⟩

/-- The agent process: its `--working-directory` flag and the environment variables `GOPATH`
and `SHELL`. -/
structure Host where
  workingDirectory : String
  gopath : String
  shellEnv : String

/-- `shell`: `$SHELL`, or `sh` when it is empty (`init`). -/
def Host.shell (h : Host) : String := if h.shellEnv = "" then "sh" else h.shellEnv

def Host.etcdBinaryPath (h : Host) : String := Filepath.join [h.gopath, "bin/etcd"]

def Host.consulBinaryPath (h : Host) : String := Filepath.join [h.gopath, "bin/consul"]

def javaBinaryPath : String := "/usr/bin/java"

def etcdToken : String := "etcd_token"

def zkConfigPath : String := "zookeeper.config"

/-- The path globals of `agent.go`. -/
structure Paths where
  agentLogPath : String
  databaseLogPath : String
  monitorLogPath : String
  etcdDataDir : String
  consulDataDir : String
  zkWorkingDir : String
  zkDataDir : String
  deriving DecidableEq, Repr

/-- Their initial values. -/
def Paths.init : Paths :=
  ⟨"agent.log", "database.log", "monitor.csv", "data.etcd", "data.consul", "zookeeper",
    "zookeeper/data.zk"⟩

/-- `if !filepath.HasPrefix(p, wd) { p = filepath.Join(wd, p) }`. -/
def rebase (wd p : String) : String :=
  if Filepath.hasPrefix p wd then p else Filepath.join [wd, p]

/-- The six globals other than `agentLogPath`, each passed through `f`. -/
def Paths.mapData (f : String → String) (g : Paths) : Paths :=
  { g with
    etcdDataDir := f g.etcdDataDir
    consulDataDir := f g.consulDataDir
    zkWorkingDir := f g.zkWorkingDir
    zkDataDir := f g.zkDataDir
    databaseLogPath := f g.databaseLogPath
    monitorLogPath := f g.monitorLogPath }

/-- The rewrite at the head of `Transfer` for a Start or a Restart: the six globals other than
`agentLogPath`, each rebased under the working directory. -/
def Paths.rebaseAll (wd : String) (g : Paths) : Paths := g.mapData (rebase wd)

@[simp] theorem Paths.rebaseAll_agentLogPath (wd : String) (g : Paths) :
    (g.rebaseAll wd).agentLogPath = g.agentLogPath := rfl

/-- `exec.Command(name, arg...)`: `Path` is `name`, resolved by `LookPath` when `name` has no
separator (a failed lookup is kept for `Start` to report); `Args` is `name` and then `arg`. -/
def command (lookPath : String → Option String) (name : String) (arg : List String) : Cmd :=
  if Filepath.base name = name then
    match lookPath name with
    | some lp => ⟨lp, name :: arg, false⟩
    | none => ⟨name, name :: arg, true⟩
  else ⟨name, name :: arg, false⟩

@[simp] theorem command_args (lookPath : String → Option String) (name : String)
    (arg : List String) : (command lookPath name arg).args = name :: arg := by
  unfold command; split
  · split <;> rfl
  · rfl

/-- A name with a directory part is kept as the path; only a bare name is looked up. -/
theorem command_path_of_base_ne (lookPath : String → Option String) {name : String}
    (arg : List String) (h : Filepath.base name ≠ name) :
    (command lookPath name arg).path = name := by
  simp [command, h]

/-- The etcd and Consul binaries, under `$GOPATH/bin`, have a directory part. -/
theorem Host.base_etcdBinaryPath_ne (h : Host) :
    Filepath.base h.etcdBinaryPath ≠ h.etcdBinaryPath :=
  Filepath.base_join_ne (d := "bin") (e := "etcd") ⟨by decide, by decide, by decide⟩ (by decide)
    ⟨by decide, by decide, by decide⟩ (by decide)

theorem Host.base_consulBinaryPath_ne (h : Host) :
    Filepath.base h.consulBinaryPath ≠ h.consulBinaryPath :=
  Filepath.base_join_ne (d := "bin") (e := "consul") ⟨by decide, by decide, by decide⟩ (by decide)
    ⟨by decide, by decide, by decide⟩ (by decide)

end DbTester.Agent
