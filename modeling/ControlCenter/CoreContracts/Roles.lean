import Mathlib.Data.String.Basic

/-!
# Roles of nodes

`internal/corecontracts/roles.go`: the closed set of roles a node can be assigned.
-/

set_option autoImplicit false

namespace ControlCenter.CoreContracts

/-- A role. `other` stands for a text that is none of the contract's roles. -/
inductive NodeRole where
  | managementNode
  | globalController
  | siteController
  | controllerClusterMember
  | workerNode
  | managedNode
  | agent
  | dataNode
  | consensusNode
  | repositoryNode
  | telemetryNode
  | backupRepositoryNode
  | edgeGateway
  | other (text : String)
  deriving DecidableEq

def NodeRole.text : NodeRole → String
  | .managementNode => "management-node"
  | .globalController => "global-controller"
  | .siteController => "site-controller"
  | .controllerClusterMember => "controller-cluster-member"
  | .workerNode => "worker-node"
  | .managedNode => "managed-node"
  | .agent => "agent"
  | .dataNode => "data-node"
  | .consensusNode => "consensus-node"
  | .repositoryNode => "repository-node"
  | .telemetryNode => "telemetry-node"
  | .backupRepositoryNode => "backup-repository-node"
  | .edgeGateway => "edge-gateway"
  | .other text => text

def NodeRole.valid : NodeRole → Bool
  | .other _ => false
  | _ => true

end ControlCenter.CoreContracts
