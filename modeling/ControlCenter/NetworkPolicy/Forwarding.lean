import Mathlib.Init

/-!
# Forwarding between zones

`internal/networkpolicy`: forwarding has to be enabled, and from or to the outside it needs an
edge gateway. A zone is kept as the text it is written with.
-/

set_option autoImplicit false

namespace ControlCenter.NetworkPolicy

/-- Why forwarding is refused. -/
inductive ForwardingError where
  | invalidSource
  | invalidDestination
  | forwardingDisabled
  | edgeGatewayRequired
  deriving DecidableEq

/-- A network security zone, as it is written. -/
structure Zone where
  text : String
  deriving DecidableEq

namespace Zone

def wan : Zone := ⟨"WAN"⟩
def lan : Zone := ⟨"LAN"⟩
def management : Zone := ⟨"MANAGEMENT"⟩
def dmz : Zone := ⟨"DMZ"⟩
def cluster : Zone := ⟨"CLUSTER"⟩
def storage : Zone := ⟨"STORAGE"⟩
def backup : Zone := ⟨"BACKUP"⟩

def all : List Zone := [wan, lan, management, dmz, cluster, storage, backup]

def valid (z : Zone) : Bool := z ∈ all

end Zone

structure ForwardingIntent where
  source : Zone
  destination : Zone
  explicitlyEnabled : Bool
  edgeGatewayAssigned : Bool
  deriving DecidableEq

def authorizeForwarding (intent : ForwardingIntent) : Except ForwardingError Unit :=
  if !intent.source.valid then .error .invalidSource
  else if !intent.destination.valid then .error .invalidDestination
  else if intent.source = intent.destination then .ok ()
  else if !intent.explicitlyEnabled then .error .forwardingDisabled
  else if (intent.source = Zone.wan ∨ intent.destination = Zone.wan) ∧
      intent.edgeGatewayAssigned = false then .error .edgeGatewayRequired
  else .ok ()

end ControlCenter.NetworkPolicy
