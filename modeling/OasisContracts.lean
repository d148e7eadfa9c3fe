import OasisContracts.Types
import OasisContracts.Params
import OasisContracts.Context
import OasisContracts.Exec
import OasisContracts.Host
import OasisContracts.Contracts
import OasisContracts.Holds
import OasisContracts.Run
import OasisContracts.SubCall
import OasisContracts.Loop
import OasisContracts.Routing
import OasisContracts.Depth
import OasisContracts.Termination
import OasisContracts.Nesting
import OasisContracts.OutOfGas
import OasisContracts.Registry
import OasisContracts.Store
import OasisContracts.History
import OasisContracts.Invariants
import OasisContracts.DepthWrap
import OasisContracts.CheckMode
import OasisContracts.Queries
import OasisContracts.Upload
