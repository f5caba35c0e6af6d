import DbTester.Agent.Request

/-!
# Startup configuration of the three backends

The Start case of `Transfer` turns the peer list of the request into each backend's own
addressing:

* etcd: a name, a client URL and a peer URL per peer, and the `--initial-cluster` list of
  `name=peerURL` members (`etcdFlags`);
* ZooKeeper: a `server.k=ip:2888:3888` line per peer in the file rendered from `zkTemplate`,
  and the `myid` file (`zkConfig`, `zkTemplate`, `myid`);
* Consul: `-bind` and `-client` on the node's own address, `-bootstrap-expect` on node `0`
  and `-join` to node `0` on the others (`consulFlags`).

Indexing a slice out of range panics in Go; the flag builders return `none` there.
-/

namespace DbTester.Agent

open Go

/-! ### etcd -/

/-- `names[i]`. -/
def etcdName (i : Nat) : String := "etcd-" ++ toString (i + 1)

/-- `clientURLs[i]`. -/
def clientURL (u : String) : String := "http://" ++ u ++ ":2379"

/-- `peerURLs[i]`. -/
def peerURL (u : String) : String := "http://" ++ u ++ ":2380"

/-- `members[i]`. -/
def member (i : Nat) (u : String) : String := etcdName i ++ "=" ++ peerURL u

/-- `clusterStr`: the members joined by commas. -/
def clusterStr (peerIPs : List String) : String := Strings.join (peerIPs.mapIdx member) ","

/-- `flags` of the etcd case: every lookup is at `ServerIndex` in a slice as long as
`peerIPs`. -/
def etcdFlags (g : Paths) (peerIPs : List String) (req : Request) : Option (List String) := do
  let i := req.serverIndex.toNat
  let name ← (peerIPs.mapIdx fun k _ => etcdName k)[i]?
  let cURL ← (peerIPs.map clientURL)[i]?
  let pURL ← (peerIPs.map peerURL)[i]?
  pure ["--name", name, "--data-dir", g.etcdDataDir,
    "--listen-client-urls", cURL, "--advertise-client-urls", cURL,
    "--listen-peer-urls", pURL, "--initial-advertise-peer-urls", pURL,
    "--initial-cluster-token", etcdToken, "--initial-cluster", clusterStr peerIPs,
    "--initial-cluster-state", "new"]

/-- `ZookeeperPeer`. -/
structure ZookeeperPeer where
  myID : Nat
  ip : String
  deriving DecidableEq, Repr

/-- `ZookeeperConfig`. -/
structure ZookeeperConfig where
  tickTime : Nat
  dataDir : String
  clientPort : String
  initLimit : Nat
  syncLimit : Nat
  maxClientCnxns : Int
  snapCount : Int
  peers : List ZookeeperPeer
  deriving DecidableEq, Repr

/-- `zkConfigDefault`. -/
def zkConfigDefault : ZookeeperConfig :=
  ⟨2000, "", "2181", 5, 5, 60, 0, [⟨1, ""⟩, ⟨2, ""⟩, ⟨3, ""⟩]⟩

/-- The `{{range .Peers}}` line of `zkTemplate`. -/
def serverLine (p : ZookeeperPeer) : String :=
  "server." ++ toString p.myID ++ "=" ++ p.ip ++ ":2888:3888\n"

/-- `zkTemplate` executed on a configuration (`text/template` prints numbers in decimal and
strings as they are). -/
def zkTemplate (c : ZookeeperConfig) : String :=
  "tickTime=" ++ toString c.tickTime ++ "\ndataDir=" ++ c.dataDir ++
    "\nclientPort=" ++ c.clientPort ++ "\ninitLimit=" ++ toString c.initLimit ++
    "\nsyncLimit=" ++ toString c.syncLimit ++ "\nmaxClientCnxns=" ++ toString c.maxClientCnxns ++
    "\nsnapCount=" ++ toString c.snapCount ++ "\n" ++
    String.join (c.peers.map serverLine) ++ "\n"

/-- `zkCfg`: the default, with the data directory, one peer `{i + 1, peerIPs[i]}` per
address, and the request's limits. -/
def zkConfig (g : Paths) (peerIPs : List String) (req : Request) : ZookeeperConfig :=
  { zkConfigDefault with
    dataDir := g.zkDataDir
    peers := peerIPs.mapIdx fun i ip => ⟨i + 1, ip⟩
    maxClientCnxns := req.zookeeperMaxClientCnxns
    snapCount := req.zookeeperSnapCount }

/-- The content of the `myid` file: `fmt.Sprintf("%d", ZookeeperMyID)`. -/
def myid (req : Request) : String := toString req.zookeeperMyID

/-- `flagString` of the ZooKeeper case. -/
def zkFlagString : String :=
  "-cp zookeeper-3.4.8.jar:lib/slf4j-api-1.6.1.jar:lib/slf4j-log4j12-1.6.1.jar:" ++
    "lib/log4j-1.2.16.jar:conf org.apache.zookeeper.server.quorum.QuorumPeerMain"

/-- `args` of the ZooKeeper case: a shell runs Java on the configuration file. -/
def zkArgs (h : Host) (configFilePath : String) : List String :=
  [h.shell, "-c", javaBinaryPath ++ " " ++ zkFlagString ++ " " ++ configFilePath]

/-! ### Consul -/

/-- `flags` of the Consul case: node `0` expects a cluster of three, every other node joins
node `0`. -/
def consulFlags (g : Paths) (peerIPs : List String) (req : Request) : Option (List String) :=
  if req.serverIndex = 0 then do
    let ip ← peerIPs[0]?
    pure ["agent", "-server", "-data-dir", g.consulDataDir, "-bind", ip, "-client", ip,
      "-bootstrap-expect", "3"]
  else do
    let ip ← peerIPs[req.serverIndex.toNat]?
    let ip0 ← peerIPs[0]?
    pure ["agent", "-server", "-data-dir", g.consulDataDir, "-bind", ip, "-client", ip,
      "-join", ip0]

end DbTester.Agent
