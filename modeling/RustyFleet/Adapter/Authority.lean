import RustyFleet.Adapter.State

namespace RustyFleet

section RequestIds

variable [ManifoldEnvironment]

def kioskManifoldRequestId (operationId deviceId ownerActionRequestId : String) : String :=
  "request.fleet.kiosk." ++ sha256Hex
    (separatedBytes "rusty.fleet.kiosk.manifold-request.v1" [operationId, deviceId, ownerActionRequestId])

def packageManifoldRequestId (operationId deviceId ownerActionRequestId : String) : String :=
  "request.fleet.packages." ++ sha256Hex
    (separatedBytes "rusty.fleet.packages.manifold-request.v1"
      [operationId, deviceId, ownerActionRequestId])

namespace FleetManifoldAdapter

variable (adapter : FleetManifoldAdapter)

def hasAppliedKioskAuthorization (operationId deviceId ownerActionRequestId : String) : Bool :=
  adapter.runtimeHost.appliedRequestIds.contains
    (kioskManifoldRequestId operationId deviceId ownerActionRequestId)

def hasAppliedPackageAuthorization (operationId deviceId ownerActionRequestId : String) : Bool :=
  adapter.runtimeHost.appliedRequestIds.contains
    (packageManifoldRequestId operationId deviceId ownerActionRequestId)

end FleetManifoldAdapter

end RequestIds

end RustyFleet
