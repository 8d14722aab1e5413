namespace LogPipeline

inductive Health where
  | healthy
  | degraded (reason : String)
  | unhealthy (reason : String)
  deriving DecidableEq, Repr, Inhabited

namespace Health

def isHealthy : Health → Bool
  | .healthy => true
  | _ => false

def isUnhealthy : Health → Bool
  | .unhealthy _ => true
  | _ => false

end Health

structure ComponentHealth where
  name : String
  status : Health
  deriving DecidableEq, Repr, Inhabited

namespace ComponentHealth

def degradedReason? (c : ComponentHealth) : Option String :=
  match c.status with
  | .degraded reason => some (c.name ++ ": " ++ reason)
  | _ => none

def unhealthyReason? (c : ComponentHealth) : Option String :=
  match c.status with
  | .unhealthy reason => some (c.name ++ ": " ++ reason)
  | _ => none

def overall (components : List ComponentHealth) : Health :=
  match components.filterMap unhealthyReason?, components.filterMap degradedReason? with
  | [], [] => .healthy
  | [], reasons => .degraded ("; ".intercalate reasons)
  | reasons, _ => .unhealthy ("; ".intercalate reasons)

end ComponentHealth

end LogPipeline
