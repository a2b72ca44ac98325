import Capstk.Webhook

/-!
# The schemas of the custom resources (`config/crd/bases/*.yaml`)

What the API server itself checks of a StackitCluster and a StackitMachine before it stores one:
lengths, patterns and bounds, the keys of lists that are maps, and the rules over the spec of a
cluster. Optional fields are left out of the JSON when they are empty, and are then not checked. The
format of a CIDR is not checked here, nor are timestamps.
-/

namespace Capstk.Schema

open Webhook NameRules

/-- The keyword of the schema that a value breaks. -/
inductive Rule
  | minLength (n : Nat)
  | maxLength (n : Nat)
  | maxProperties (n : Nat)
  | minimum (n : Int)
  | maximum (n : Int)
  | pattern
  | enum
  /-- `x-kubernetes-list-map-keys` -/
  | listMapKeys
  /-- `x-kubernetes-validations` -/
  | validation (message : String)
deriving DecidableEq, Repr

/-- Where a value breaks the schema, and which rule. -/
structure Violation where
  path : String
  rule : Rule
deriving DecidableEq, Repr

def violated (bad : Bool) (path : String) (rule : Rule) : List Violation :=
  if bad then [⟨path, rule⟩] else []

/-- Check every item of a list. -/
def items {α : Type} (path : String) (l : List α) (check : String → α → List Violation) :
    List Violation :=
  l.zipIdx.flatMap fun (a, i) => check (index path i) a

/-- `minLength` and `maxLength` -/
def length (value : String) (least most : Nat) (path : String) : List Violation :=
  violated (decide (value.length < least)) path (.minLength least) ++
  violated (decide (most < value.length)) path (.maxLength most)

/-- A field that is always there. -/
def required (value : String) (pattern : String → Bool) (path : String) : List Violation :=
  violated (value == "") path (.minLength 1) ++ violated (!pattern value) path .pattern

/-- A field that is left out when it is empty. -/
def optional (value : String) (pattern : String → Bool) (path : String) : List Violation :=
  violated (value != "" && !pattern value) path .pattern

/-! ### Status -/

/-- `^[A-Za-z]([A-Za-z0-9_,:]*[A-Za-z0-9_])?$` -/
def reasonPattern (s : String) : Bool :=
  s.toList.head?.any Char.isAlpha && s.toList.getLast?.any (fun c => c.isAlphanum || c == '_') &&
    s.toList.all fun c => c.isAlphanum || c == '_' || c == ',' || c == ':'

/-- A qualified name, with or without a domain before it. -/
def conditionTypePattern (s : String) : Bool :=
  match splitAt '/' s.toList with
  | [name] => qualifiedNameFmt name
  | [domain, name] => (splitAt '.' domain).all dns1123LabelFmt && qualifiedNameFmt name
  | _ => false

/-- The schema of `metav1.Condition`, as generated. -/
def condition (path : String) (c : Condition) : List Violation :=
  violated (!conditionTypePattern c.type) (path ++ ".type") .pattern ++
  length c.type 0 316 (path ++ ".type") ++
  length c.reason 1 1024 (path ++ ".reason") ++
  violated (!reasonPattern c.reason) (path ++ ".reason") .pattern ++
  length c.message 0 32768 (path ++ ".message") ++
  violated (decide (c.observedGeneration < 0)) (path ++ ".observedGeneration") (.minimum 0)

/-- A list of conditions is a map: no type occurs twice. -/
def conditions (cs : List Condition) : List Violation :=
  items "status.conditions" cs condition ++
  violated (decide ¬ (cs.map (·.type)).Nodup) "status.conditions" .listMapKeys

/-- An unset port is 0 and is left out. -/
def endpoint (path : String) (e : APIEndpoint) : List Violation :=
  length e.host 0 512 (path ++ ".host") ++
  violated (e.port != 0 && decide (e.port < 1)) (path ++ ".port") (.minimum 1) ++
  violated (decide (65535 < e.port)) (path ++ ".port") (.maximum 65535)

/-- A list of failure domains is a map by name. -/
def failureDomains (domains : List FailureDomain) : List Violation :=
  items "status.failureDomains" domains (fun path d => length d.name 1 256 (path ++ ".name")) ++
  violated (decide ¬ (domains.map (·.name)).Nodup) "status.failureDomains" .listMapKeys

/-- The `enum` of an address type. -/
def machineAddressTypes : List String :=
  ["Hostname", "ExternalIP", "InternalIP", "ExternalDNS", "InternalDNS"]

def addresses (l : List MachineAddress) : List Violation :=
  items "status.addresses" l fun path a =>
    length a.address 1 256 (path ++ ".address") ++
    violated (!machineAddressTypes.contains a.type) (path ++ ".type") .enum

/-! ### Spec -/

/-- Only their number is bounded; keys and values are left to the webhook. -/
def additionalLabels (labels : StringMap) : List Violation :=
  violated (decide (64 < labels.entries.length)) "spec.additionalLabels" (.maxProperties 64)

def rootVolume (v : StackitRootVolumeSpec) (path : String) : List Violation :=
  violated (decide (v.sizeGiB < 0)) (path ++ ".sizeGiB") (.minimum 0)

def sshKeyName (name path : String) : List Violation :=
  optional name sshKeyNamePattern path ++
  violated (decide (127 < name.length)) path (.maxLength 127)

def cloudInitRef (path : String) (ref : StackitBastionCloudInitRef) : List Violation :=
  violated (ref.kind != "ConfigMap" && ref.kind != "Secret") (path ++ ".kind") .enum ++
  violated (ref.name == "") (path ++ ".name") (.minLength 1) ++
  violated (ref.key == "") (path ++ ".key") (.minLength 1)

/-- What an enabled bastion needs is a rule over the whole spec (`clusterSpec`). -/
def bastion (spec : StackitBastionSpec) (path : String) : List Violation :=
  optional spec.imageID uuidPattern (path ++ ".imageID") ++
  optional spec.machineType machineTypePattern (path ++ ".machineType") ++
  sshKeyName spec.sshKeyName (path ++ ".sshKeyName") ++
  rootVolume spec.rootVolume (path ++ ".rootVolume") ++
  spec.cloudInitRef.toList.flatMap (cloudInitRef (path ++ ".cloudInitRef"))

/-- The fields, then the three `x-kubernetes-validations`. -/
def clusterSpec (spec : StackitClusterSpec) : List Violation :=
  required spec.projectID uuidPattern "spec.projectID" ++
  required spec.region regionPattern "spec.region" ++
  optional spec.networkID uuidPattern "spec.network.id" ++
  endpoint "spec.controlPlaneEndpoint" spec.controlPlaneEndpoint ++
  bastion spec.bastion "spec.bastion" ++
  additionalLabels spec.additionalLabels ++
  violated (spec.credentialsSecretRef.name == "") "spec"
    (.validation "credentialsSecretRef.name is required") ++
  violated (!spec.apiServerLoadBalancerEnabled && spec.controlPlaneEndpoint.host == "") "spec"
    (.validation
      "controlPlaneEndpoint.host is required when apiServerLoadBalancer.enabled is false") ++
  violated (spec.bastion.enabled && (spec.bastion.imageID == "" || spec.bastion.machineType == "" ||
      spec.bastion.sshKeyName == "" || spec.bastion.allowedCIDRs.isEmpty)) "spec"
    (.validation
      ("bastion.imageID, bastion.machineType, bastion.sshKeyName, and bastion.allowedCIDRs " ++
        "are required when bastion.enabled is true"))

/-- The fields of a machine spec; there is no rule over all of them. -/
def machineSpec (spec : StackitMachineSpec) : List Violation :=
  required spec.imageID uuidPattern "spec.imageID" ++
  required spec.machineType machineTypePattern "spec.machineType" ++
  optional spec.availabilityZone availabilityZonePattern "spec.availabilityZone" ++
  sshKeyName spec.sshKeyName "spec.sshKeyName" ++
  rootVolume spec.rootVolume "spec.rootVolume" ++
  optional spec.networkID uuidPattern "spec.network.id" ++
  items "spec.securityGroups" spec.securityGroups
    (fun path group => violated (!uuidPattern group) path .pattern) ++
  additionalLabels spec.additionalLabels

/-- What is wrong with a StackitCluster. -/
def stackitCluster (sc : StackitCluster) : List Violation :=
  clusterSpec sc.spec ++ endpoint "status.apiServerEndpoint" sc.status.apiServerEndpoint ++
    failureDomains sc.status.failureDomains ++ conditions sc.conditions

/-- What is wrong with a StackitMachine. -/
def stackitMachine (sm : StackitMachine) : List Violation :=
  machineSpec sm.spec ++ addresses sm.status.addresses ++ conditions sm.conditions

end Capstk.Schema
