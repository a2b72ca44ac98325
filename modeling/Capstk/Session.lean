import Capstk.Lib.Prog
import Capstk.Cloud

/-!
# Requests

A `Session` is the cloud together with what is still undetermined about the coming requests: how
each of them ends (`Outcome`) and in which order each `range` over a map runs (`MapOrder`). Every
request is logged with its answer. A request may fail before or after it takes effect; a statement
about every `Session` therefore covers every placement of failures.
-/

namespace Capstk

/-- How a request ends: as the service answers it, or with a failure before or after its effect. -/
inductive Outcome
  | answered
  | failedBefore (f : Failure)
  | failedAfter (f : Failure)

/-- An iteration order: some rearrangement of the entries of a map. -/
structure MapOrder where
  arrange : List (Sigma fun _ : String => String) → List (Sigma fun _ : String => String)
  perm : ∀ l, (arrange l).Perm l

/-- The requests of the SDK that the client issues, with what they send. -/
inductive Request
  | getServer (id : String)
  | listServers (selector : StringMap)
  | createServer (payload : CreateServerPayload)
  | deleteServer (id : String)
  | listServerNICs (id : String)
  | listAvailabilityZones
  | getNetwork (id : String)
  | listNetworks (selector : StringMap)
  | createNetwork (name : String) (labels : StringMap) (ipv4Prefix : String)
  | deleteNetwork (id : String)
  | listPublicIPs (selector : StringMap)
  | createPublicIP (labels : StringMap)
  | getPublicIP (id : String)
  | deletePublicIP (id : String)
  | addPublicIpToServer (serverID publicIPID : String)
  | removePublicIpFromServer (serverID publicIPID : String)
  | listSecurityGroups (selector : StringMap)
  | createSecurityGroup (name description : String) (labels : StringMap)
  | deleteSecurityGroup (id : String)
  | addSecurityGroupToServer (serverID groupID : String)
  | removeSecurityGroupFromServer (serverID groupID : String)
  | listSecurityGroupRules (groupID : String)
  | createSecurityGroupRule (groupID : String) (payload : SDKRulePayload)
  | deleteSecurityGroupRule (groupID ruleID : String)
  | listLoadBalancers
  | createLoadBalancer (payload : CreateLoadBalancerPayload)
  | getLoadBalancer (name : String)
  | deleteLoadBalancer (name : String)
  | updateTargetPool (name : String) (pool : SDKTargetPool)

/-- A request that was issued, and the error it returned, if any. -/
structure LogEntry where
  request : Request
  error : Option GoError

/-- Past the end of `outcomes` and `orders`, requests are answered and maps run in their own order.
-/
structure Session where
  cloud : Cloud
  outcomes : List Outcome := []
  orders : List MapOrder := []
  log : List LogEntry := []

/-- A call of the cloud client. -/
abbrev Call (σ α : Type) : Type := Prog σ GoError α

/-- The service's own answer, with SDK errors classified. -/
def perform {α : Type} (op : String) (effect : Cloud.Effect α) (c : Cloud) :
    Except GoError α × Cloud :=
  match effect c with
  | (.ok a, c') => (.ok a, c')
  | (.error e, c') => (.error (classifySDKError op e), c')

/-- What `Execute()` of a request comes to when it ends with `outcome`. -/
def settle {α : Type} (op : String) (effect : Cloud.Effect α) (outcome : Outcome) (c : Cloud) :
    Except GoError α × Cloud :=
  match outcome with
  | .answered => perform op effect c
  | .failedBefore f => (.error (classifySDKError op f.error), c)
  | .failedAfter f => (.error (classifySDKError op f.error), (effect c).2)

/-- The error of a call, if it failed. -/
def errorOf {α : Type} : Except GoError α → Option GoError
  | .ok _ => none
  | .error e => some e

/-- Issue a request: `c.iaasClient...Execute()` followed by `classifySDKError(op, err)`. -/
def request {α : Type} (op : String) (req : Request) (effect : Cloud.Effect α) :
    Call Session α := fun s =>
  let r := settle op effect (s.outcomes.headD .answered) s.cloud
  (r.1, { s with cloud := r.2, outcomes := s.outcomes.tail, log := s.log ++ [⟨req, errorOf r.1⟩] })

/-- The entries of `m` in the order the next `range` over it yields them. -/
def rangeOver (m : StringMap) : Call Session (List (Sigma fun _ : String => String)) := fun s =>
  match s.orders with
  | [] => (.ok m.entries, s)
  | o :: os => (.ok (o.arrange m.entries), { s with orders := os })

end Capstk
