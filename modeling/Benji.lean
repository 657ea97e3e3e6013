import Benji.Ceph.World
import Benji.Ceph.Script
import Benji.Ceph.Logic
import Benji.Ceph.Preserve
import Benji.Ceph.Success
import Benji.Ceph.Snapshots
import Benji.Ceph.Signals
import Benji.Ceph.Recovery
import Benji.Ceph.Pairing
import Benji.Ceph.Leftovers
import Benji.Ceph.BaseOrder
import Benji.Operator.Resources
import Benji.Operator.JobStatus
import Benji.Operator.StatusList
import Benji.Operator.Handlers
import Benji.Operator.Parent
import Benji.Operator.Cluster
import Benji.IO.ReadEngine
import Benji.IO.Close
import Benji.IO.Retrieve
