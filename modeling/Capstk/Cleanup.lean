import Capstk.Services

/-!
# Clean-up without Kubernetes objects (`cloud/cleanup.go`)

`CleanupByTags` deletes what carries the given tags: the bastion's resources first, then load
balancers, servers and networks. An error does not stop it; the texts are collected and returned
together.
-/

namespace Capstk

open Prog

variable {σ β : Type}

/-- `if err := call(); err != nil && !IsNotFound(err) { errs = append(errs, ...) }` with the text
of the error after what was to be done. -/
def collectError (what : String) (call : Call σ Unit) : Call σ (List String) := do
  match ← attempt call with
  | .ok _ => pure []
  | .error err => if isNotFound err then pure [] else pure [what ++ ": " ++ err.text]

/-- The errors of a loop that goes on after an error. -/
def collectErrors : List β → (β → Call σ (List String)) → Call σ (List String)
  | [], _ => pure []
  | b :: bs, f => do
    let errs ← f b
    let rest ← collectErrors bs f
    pure (errs ++ rest)

/-- List the resources of a kind and delete each of them. -/
def deleteListed (kind : String) (list : Call σ (List β)) (ident : β → String)
    (delete : String → Call σ Unit) : Call σ (List String) := do
  match ← attempt list with
  | .error err => pure [err.text]
  | .ok items =>
    collectErrors items fun item =>
      collectError ("delete " ++ kind ++ " " ++ quote (ident item)) (delete (ident item))

/-- The tags of the bastion's resources, under the given ones. -/
def cleanupBastionTags (tags : StringMap) : StringMap :=
  tags.insert "cluster-api-provider-stackit/resource-role" "bastion"

/-- Every kind is tried, also after an error; the errors come back as one transient error. -/
def cleanupByTags (client : Client σ) (tags : StringMap) : Call σ Unit :=
  if tags.entries.isEmpty then fail (errorf .errInvalidInput "empty cleanup tag selector")
  else do
    let bastion ← collectError "delete bastion resources"
      (client.deleteBastion { tags := cleanupBastionTags tags } {})
    let loadBalancers ← deleteListed "load balancer" (client.listAPIServerLoadBalancersByTags tags)
      LoadBalancer.id client.deleteAPIServerLoadBalancer
    let servers ← deleteListed "server" (client.listServersByTags tags) Server.id
      client.deleteServer
    let networks ← deleteListed "network" (client.listNetworksByTags tags) Network.id
      client.deleteNetwork
    let errs := bastion ++ loadBalancers ++ servers ++ networks
    if errs.isEmpty then pure () else fail (errorf .errTransient ("; ".intercalate errs))

end Capstk
