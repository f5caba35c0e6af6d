import DbTester.Go.Strings
import DbTester.Go.Filepath
import DbTester.Agent.Request
import DbTester.Agent.Config
import DbTester.Agent.Transfer
import DbTester.Agent.Supervisor
import DbTester.Agent.Workdir
import DbTester.Agent.Upload
import DbTester.Control.Config
import DbTester.Control.Broadcast
import DbTester.Control.Cluster
import DbTester.Control.Values
import DbTester.Control.Handlers
import DbTester.Control.Phase
import DbTester.Control.Step2
import DbTester.Agent.Restart
import DbTester.System.Run
import DbTester.System.Requests
import DbTester.System.Returns
