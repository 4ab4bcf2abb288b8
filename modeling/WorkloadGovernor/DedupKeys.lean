import WorkloadGovernor.Polling

namespace WorkloadGovernor
open Js LogFollower

section Store
variable {Address : Type} (sdk : StellarSdk Address)

/-- One row for each event that has a record the columns take. -/
def genuine (delivered : List RpcEvent) : List ContractEventRecord :=
  (delivered.filterMap (parseRpcEvent sdk)).filter ContractEventRecord.insertable

variable {sdk}

end Store

section Sample

end Sample

end WorkloadGovernor
