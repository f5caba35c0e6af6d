import DbTester.Agent.Request

/-!
# The controller's configuration and `CommandFunc`

`CommandFunc` rejects a database or a benchmark type it does not know, inlines the credentials
file, and derives from the peer list the three things every later step uses: the peer string
sent to the agents and the agent and database endpoints.

* `Step2`, `Config`: the fields of the configuration that the modelled functions read (the
  type lives in a file that is not part of the sources);
* `quote`, `notSupported`: the error of a check, the value quoted as `%q` does;
* `commandFunc`: the checks and the derived fields, up to the first step.
-/

namespace DbTester.Control

open Go

/-- The `Step2` section of the configuration: the benchmark's shape. Go's `int` fields are
integers. -/
structure Step2 where
  skip : Bool
  benchType : String
  totalRequests : Int
  clients : Int
  connections : Int
  valueTestDataPath : String
  sameKey : Bool
  localRead : Bool
  etcdv3CompactionCycle : Int
  deriving DecidableEq, Repr, Inhabited

/-- The configuration, with the fields `CommandFunc` fills in. -/
structure Config where
  database : String
  peerIPs : List String
  agentPort : Int
  databasePort : Int
  step2 : Step2
  googleCloudStorageKeyPath : String
  googleCloudStorageKey : String
  peerIPString : String
  agentEndpoints : List String
  databaseEndpoints : List String
  deriving DecidableEq, Repr, Inhabited

/-- The databases `CommandFunc` accepts. -/
def Config.databaseOk (database : String) : Bool :=
  database = "etcdv2" ∨ database = "etcdv3" ∨ database = "zk" ∨ database = "zookeeper" ∨
    database = "consul"

/-- `fmt.Sprintf("%s:%d", ip, port)`. -/
def endpoint (port : Int) (ip : String) : String := ip ++ ":" ++ toString port

/-- One character as `strconv.Quote` writes it: a backslash before `"` and `\`, the named
escapes `\a \b \f \n \r \t \v`, and `\x` with two lower-case hex digits for the other
ASCII control characters. Go also escapes the characters beyond ASCII that are not printable;
they are kept here. -/
def quoteChar : Char → String
  | '"' => "\\\""
  | '\\' => "\\\\"
  | '\x07' => "\\a"
  | '\x08' => "\\b"
  | '\x0c' => "\\f"
  | '\n' => "\\n"
  | '\r' => "\\r"
  | '\t' => "\\t"
  | '\x0b' => "\\v"
  | c => if c.toNat < 0x20 ∨ c.toNat = 0x7f then
      "\\x" ++ String.mk [Nat.digitChar (c.toNat / 16), Nat.digitChar (c.toNat % 16)]
    else c.toString

/-- `%q` of a string: `strconv.Quote`. -/
def quote (s : String) : String := "\"" ++ String.join (s.data.map quoteChar) ++ "\""

/-- `fmt.Errorf("%q is not supported", s)`. -/
def notSupported (s : String) : String := quote s ++ " is not supported"

example : notSupported "etcd\"v4\n" = "\"etcd\\\"v4\\n\" is not supported" := by decide

/-- `CommandFunc` up to step 1: the two checks, the credentials file read from its path
(`readFile` is `ioutil.ReadFile`), and the derived fields. -/
def commandFunc (cfg : Config) (readFile : String → Except String String) :
    Except String Config :=
  if !Config.databaseOk cfg.database then .error (notSupported cfg.database)
  else if !cfg.step2.skip ∧ cfg.step2.benchType ≠ "write" ∧ cfg.step2.benchType ≠ "read" then
    .error (notSupported cfg.step2.benchType)
  else match readFile cfg.googleCloudStorageKeyPath with
    | .error e => .error e
    | .ok key => .ok { cfg with
        googleCloudStorageKey := key
        peerIPString := Strings.join cfg.peerIPs "___"
        agentEndpoints := cfg.peerIPs.map (endpoint cfg.agentPort)
        databaseEndpoints := cfg.peerIPs.map (endpoint cfg.databasePort) }

/-- A one-peer etcd v3 write benchmark with agents on port 3500. -/
def onePeer : Config :=
  { (default : Config) with
    database := "etcdv3"
    peerIPs := ["10.0.0.1"]
    agentPort := 3500
    step2 := { (default : Step2) with benchType := "write" } }

end DbTester.Control
