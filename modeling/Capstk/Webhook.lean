import Capstk.Lib.Netip
import Capstk.Services

/-!
# Admission (`webhook/v1alpha1/*.go`)

Defaulting and validation of the two specs, of the two kinds and of their templates. A validation
returns the list of what is wrong; the object is accepted when it is empty. The checks of names and
labels are Kubernetes' own (`NameRules`): each returns the texts of what is wrong.
-/

namespace Capstk

/-- `k8s.io/apimachinery/pkg/util/validation` -/
structure NameRules where
  isDNS1123Subdomain : String → List String
  isQualifiedName : String → List String
  isValidLabelValue : String → List String

namespace NameRules

/-- `([A-Za-z0-9][-A-Za-z0-9_.]*)?[A-Za-z0-9]` -/
def qualifiedNameFmt (s : List Char) : Bool :=
  s.head?.any Char.isAlphanum && s.getLast?.any Char.isAlphanum &&
    s.all fun c => c.isAlphanum || c == '-' || c == '_' || c == '.'

/-- `[a-z0-9]([-a-z0-9]*[a-z0-9])?` -/
def dns1123LabelFmt (s : List Char) : Bool :=
  let alnum (c : Char) : Bool := c.isLower || c.isDigit
  s.head?.any alnum && s.getLast?.any alnum && s.all fun c => alnum c || c == '-'

/-- The pieces of `s` between the separators. -/
def splitAt (separator : Char) : List Char → List (List Char)
  | [] => [[]]
  | c :: cs =>
    match splitAt separator cs with
    | [] => [[c]]
    | part :: parts => if c == separator then [] :: part :: parts else (c :: part) :: parts

/-- `validation.IsDNS1123Subdomain` -/
def isDNS1123SubdomainErrors (s : List Char) : List String :=
  (if 253 < s.length then ["must be no more than 253 characters"] else []) ++
    (if (splitAt '.' s).all dns1123LabelFmt then [] else ["must be a lowercase RFC 1123 subdomain"])

/-- The part of a qualified name after the separator. -/
def qualifiedNameErrors (name : List Char) : List String :=
  (if name.isEmpty then ["name part must be non-empty"]
    else if 63 < name.length then ["name part must be no more than 63 characters"] else []) ++
    (if qualifiedNameFmt name then [] else ["name part must match the qualified name format"])

/-- The rules themselves; the texts are shortened. -/
def kubernetes : NameRules where
  isDNS1123Subdomain s := isDNS1123SubdomainErrors s.toList
  isQualifiedName s :=
    match splitAt '/' s.toList with
    | [name] => qualifiedNameErrors name
    | [domain, name] =>
      (if domain.isEmpty then ["prefix part must be non-empty"]
        else isDNS1123SubdomainErrors domain) ++ qualifiedNameErrors name
    | _ => ["a qualified name must have at most one separator"]
  isValidLabelValue s :=
    (if 63 < s.toList.length then ["must be no more than 63 characters"] else []) ++
      (if s.toList.isEmpty || qualifiedNameFmt s.toList then []
        else ["a valid label must match the qualified name format"])

end NameRules

namespace Webhook

/-- `field.Error`, with the bad value as text where the source gives one. -/
inductive FieldError
  | required (path detail : String)
  | invalid (path value detail : String)
  | notSupported (path value : String) (supported : List String)
  | forbidden (path detail : String)
  | duplicate (path value : String)
deriving DecidableEq, Repr

def FieldError.path : FieldError → String
  | required p _ | invalid p _ _ | notSupported p _ _ | forbidden p _ | duplicate p _ => p

/-- `if bad { allErrs = append(allErrs, err) }` -/
def check (bad : Bool) (err : FieldError) : List FieldError := if bad then [err] else []

/-! ### Patterns -/

def isLower (c : Char) : Bool := 'a' ≤ c && c ≤ 'z'
def isUpper (c : Char) : Bool := 'A' ≤ c && c ≤ 'Z'

/-- `^[0-9a-fA-F-]{36}$` -/
def uuidPattern (s : String) : Bool :=
  s.toList.length == 36 && s.toList.all fun c => Netip.isHexDigit c || c == '-'

/-- `^[a-z]{2}[0-9]{2}` followed by whatever `rest` accepts. -/
def regionThen (rest : List Char → Bool) (s : String) : Bool :=
  match s.toList with
  | a :: b :: c :: d :: cs => isLower a && isLower b && c.isDigit && d.isDigit && rest cs
  | _ => false

/-- `^[a-z]{2}[0-9]{2}$` -/
def regionPattern : String → Bool := regionThen List.isEmpty

/-- `^[a-z]{2}[0-9]{2}-[a-z0-9]+$` -/
def availabilityZonePattern : String → Bool := regionThen fun cs =>
  match cs with
  | '-' :: cs => !cs.isEmpty && cs.all fun c => isLower c || c.isDigit
  | _ => false

/-- `^[a-z0-9][a-z0-9.-]*[a-z0-9]$` -/
def machineTypePattern (s : String) : Bool :=
  let alnum (c : Char) : Bool := isLower c || c.isDigit
  decide (2 ≤ s.toList.length) && s.toList.all (fun c => alnum c || c == '.' || c == '-') &&
    s.toList.head?.any alnum && s.toList.getLast?.any alnum

/-- `^[A-Za-z0-9_.@-]+$` -/
def sshKeyNamePattern (s : String) : Bool :=
  !s.toList.isEmpty && s.toList.all fun c =>
    isUpper c || isLower c || c.isDigit || c == '_' || c == '.' || c == '@' || c == '-'

/-! ### Defaults -/

/-- Whether the user has set anything of the root volume. -/
def rootVolumeConfigured (v : StackitRootVolumeSpec) : Bool :=
  decide (0 < v.sizeGiB) || v.performanceClass != "" || v.deleteOnTermination.isSome

/-- Only a `deleteOnTermination` that is unset gets a value. -/
def defaultRootVolume (v : StackitRootVolumeSpec) : StackitRootVolumeSpec :=
  match v.deleteOnTermination with
  | none => { v with deleteOnTermination := some true }
  | some _ => v

/-- The root volume of a bastion that is neither enabled nor configured stays as it is. -/
def defaultClusterSpec (spec : StackitClusterSpec) : StackitClusterSpec :=
  if spec.bastion.enabled || rootVolumeConfigured spec.bastion.rootVolume then
    { spec with
      bastion := { spec.bastion with rootVolume := defaultRootVolume spec.bastion.rootVolume } }
  else spec

/-- A root volume that is not configured stays as it is. -/
def defaultMachineSpec (spec : StackitMachineSpec) : StackitMachineSpec :=
  if rootVolumeConfigured spec.rootVolume then
    { spec with rootVolume := defaultRootVolume spec.rootVolume }
  else spec

/-! ### Validation -/

/-- A missing value is reported as such, not as one that does not match. -/
def validateRequiredPattern (value : String) (pattern : String → Bool) (path detail : String) :
    List FieldError :=
  if value = "" then [.required path "required"]
  else check (!pattern value) (.invalid path value detail)

/-- `if value != "" && !pattern.MatchString(value)` -/
def validateOptionalPattern (value : String) (pattern : String → Bool) (path detail : String) :
    List FieldError :=
  check (value != "" && !pattern value) (.invalid path value detail)

/-- `deleteOnTermination` alone configures nothing. -/
def validateRootVolume (v : StackitRootVolumeSpec) (path : String) : List FieldError :=
  check (decide (v.sizeGiB < 0))
    (.invalid (path ++ ".sizeGiB") (toString v.sizeGiB) "must be greater than or equal to 0") ++
  check (v.deleteOnTermination.isSome && v.sizeGiB == 0 && v.performanceClass == "")
    (.invalid (path ++ ".deleteOnTermination") (toString (v.deleteOnTermination.getD false))
      "requires rootVolume.sizeGiB or rootVolume.performanceClass")

/-- Run `f` on every element with its index. -/
def eachIndexed {α : Type} (l : List α) (f : Nat → α → List FieldError) : List FieldError :=
  l.zipIdx.flatMap fun (a, i) => f i a

def index (path : String) (i : Nat) : String := path ++ "[" ++ toString i ++ "]"

section
variable (rules : NameRules)

/-- All complaints about one value are one error. -/
def validateDNS1123Subdomain (value path : String) : List FieldError :=
  let errs := rules.isDNS1123Subdomain value
  check (!errs.isEmpty) (.invalid path value ("; ".intercalate errs))

/-- The namespace may be left out, the name may not. -/
def validateSecretReference (ref : SecretReference) (path : String) : List FieldError :=
  (if ref.name = "" then [.required (path ++ ".name") "required"]
    else validateDNS1123Subdomain rules ref.name (path ++ ".name")) ++
  (if ref.namespace' = "" then []
    else validateDNS1123Subdomain rules ref.namespace' (path ++ ".namespace"))

/-- Key and value are reported under the same path. -/
def validateAdditionalLabels (labels : StringMap) (path : String) : List FieldError :=
  labels.entries.flatMap fun e =>
    let key := path ++ "[" ++ e.1 ++ "]"
    let keyErrs := rules.isQualifiedName e.1
    let valueErrs := rules.isValidLabelValue e.2
    check (!keyErrs.isEmpty)
      (.invalid key e.1 ("invalid label key: " ++ "; ".intercalate keyErrs)) ++
    check (!valueErrs.isEmpty)
      (.invalid key e.2 ("invalid label value: " ++ "; ".intercalate valueErrs))

/-- Kind, name and key are checked whether or not the bastion is enabled. -/
def validateBastionCloudInitRef (ref : StackitBastionCloudInitRef) (path : String) :
    List FieldError :=
  check (ref.kind != "ConfigMap" && ref.kind != "Secret")
    (.notSupported (path ++ ".kind") ref.kind ["ConfigMap", "Secret"]) ++
  (if ref.name = "" then [.required (path ++ ".name") "required when cloudInitRef is set"]
    else validateDNS1123Subdomain rules ref.name (path ++ ".name")) ++
  check (ref.key == "") (.required (path ++ ".key") "required when cloudInitRef is set")

/-- The three patterns are checked once when the bastion is enabled and once more when the field
is set, so a bad field of an enabled bastion is reported twice. -/
def validateBastionSpec (spec : StackitBastionSpec) (path : String) : List FieldError :=
  (if spec.enabled then
    validateRequiredPattern spec.imageID uuidPattern (path ++ ".imageID")
      "must be a STACKIT image UUID" ++
    validateRequiredPattern spec.machineType machineTypePattern (path ++ ".machineType")
      "must be a valid STACKIT machine type" ++
    validateRequiredPattern spec.sshKeyName sshKeyNamePattern (path ++ ".sshKeyName")
      "must be a valid STACKIT SSH key name" ++
    check spec.allowedCIDRs.isEmpty
      (.required (path ++ ".allowedCIDRs") "required when bastion.enabled is true")
   else []) ++
  eachIndexed spec.allowedCIDRs (fun i cidr => check (Netip.parsePrefix cidr).isNone
    (.invalid (index (path ++ ".allowedCIDRs") i) cidr "must be a valid CIDR")) ++
  validateOptionalPattern spec.imageID uuidPattern (path ++ ".imageID")
    "must be a STACKIT image UUID" ++
  validateOptionalPattern spec.machineType machineTypePattern (path ++ ".machineType")
    "must be a valid STACKIT machine type" ++
  validateOptionalPattern spec.sshKeyName sshKeyNamePattern (path ++ ".sshKeyName")
    "must be a valid STACKIT SSH key name" ++
  validateRootVolume spec.rootVolume (path ++ ".rootVolume") ++
  (match spec.cloudInitRef with
    | some ref => validateBastionCloudInitRef rules ref (path ++ ".cloudInitRef")
    | none => [])

/-- What is wrong with the spec of a cluster: every field is checked, and every error returned. -/
def validateStackitClusterSpec (spec : StackitClusterSpec) (path : String) : List FieldError :=
  validateRequiredPattern spec.projectID uuidPattern (path ++ ".projectID")
    "must be a STACKIT project UUID" ++
  validateRequiredPattern spec.region regionPattern (path ++ ".region")
    "must use STACKIT region format, for example eu01" ++
  validateSecretReference rules spec.credentialsSecretRef (path ++ ".credentialsSecretRef") ++
  check (!spec.apiServerLoadBalancerEnabled && spec.controlPlaneEndpoint.host == "")
    (.required (path ++ ".controlPlaneEndpoint.host")
      "required when apiServerLoadBalancer.enabled is false") ++
  validateOptionalPattern spec.networkID uuidPattern (path ++ ".network.id")
    "must be a STACKIT network UUID" ++
  validateBastionSpec rules spec.bastion (path ++ ".bastion") ++
  validateAdditionalLabels rules spec.additionalLabels (path ++ ".additionalLabels")

/-- `cloud.ParseProviderID` succeeds. -/
def isProviderID (providerID : String) : Bool :=
  let scheme := "stackit://".toList
  let serverID := providerID.toList.drop scheme.length
  scheme.isPrefixOf providerID.toList && !serverID.isEmpty && !serverID.contains '/'

/-- The loop of `validateSecurityGroups`; `seen` holds the valid groups before. -/
def validateSecurityGroupsFrom (path : String) : Nat → List String → List String → List FieldError
  | _, _, [] => []
  | i, seen, group :: groups =>
    if !uuidPattern group then
      .invalid (index path i) group "must be a STACKIT security group UUID" ::
        validateSecurityGroupsFrom path (i + 1) seen groups
    else if seen.contains group then
      .duplicate (index path i) group :: validateSecurityGroupsFrom path (i + 1) seen groups
    else validateSecurityGroupsFrom path (i + 1) (group :: seen) groups

def validateSecurityGroups (groups : List String) (path : String) : List FieldError :=
  validateSecurityGroupsFrom path 0 [] groups

/-- A template must not set it, since each machine gets its own. -/
def validateProviderID (providerID : Option String) (path : String) (allowProviderID : Bool) :
    List FieldError :=
  match providerID with
  | none => []
  | some id =>
    if !allowProviderID then
      [.forbidden path "providerID is generated per machine and must not be set in a template"]
    else check (!isProviderID id)
      (.invalid path id "must use STACKIT providerID format stackit://<server-id>")

/-- The spec of a machine, or of a template, which must not have a provider ID. -/
def validateStackitMachineSpec (spec : StackitMachineSpec) (path : String)
    (allowProviderID : Bool) : List FieldError :=
  validateProviderID spec.providerID (path ++ ".providerID") allowProviderID ++
  validateRequiredPattern spec.imageID uuidPattern (path ++ ".imageID")
    "must be a STACKIT image UUID" ++
  validateRequiredPattern spec.machineType machineTypePattern (path ++ ".machineType")
    "must be a valid STACKIT machine type" ++
  validateOptionalPattern spec.availabilityZone availabilityZonePattern
    (path ++ ".availabilityZone") "must use STACKIT availability zone format, for example eu01-1" ++
  validateOptionalPattern spec.sshKeyName sshKeyNamePattern (path ++ ".sshKeyName")
    "must be a valid STACKIT SSH key name" ++
  validateOptionalPattern spec.networkID uuidPattern (path ++ ".network.id")
    "must be a STACKIT network UUID" ++
  validateRootVolume spec.rootVolume (path ++ ".rootVolume") ++
  validateSecurityGroups spec.securityGroups (path ++ ".securityGroups") ++
  validateAdditionalLabels rules spec.additionalLabels (path ++ ".additionalLabels")

end

/-! ### Updates -/

/-- The error of a field that must not change. -/
def immutable (path : String) (changed : Bool) : List FieldError :=
  check changed (.forbidden path "field is immutable")

/-- Some fields are fixed from the start, others once what they describe exists in the cloud. -/
def validateStackitClusterSpecUpdate (old new : StackitCluster) : List FieldError :=
  immutable "spec.projectID" (old.spec.projectID != new.spec.projectID) ++
  immutable "spec.region" (old.spec.region != new.spec.region) ++
  immutable "spec.network.id" (old.spec.networkID != new.spec.networkID) ++
  immutable "spec.credentialsSecretRef"
    (old.spec.credentialsSecretRef != new.spec.credentialsSecretRef) ++
  check (old.status.apiServerLoadBalancerID != "" &&
      old.spec.apiServerLoadBalancerEnabled != new.spec.apiServerLoadBalancerEnabled)
    (.forbidden "spec.apiServerLoadBalancer.enabled"
      "field is immutable after the API server load balancer has been provisioned") ++
  check (old.status.bastion.serverID != "" && old.spec.bastion.enabled &&
      new.spec.bastion.enabled && { old.spec.bastion with cloudInitRef := none } !=
        { new.spec.bastion with cloudInitRef := none })
    (.forbidden "spec.bastion"
      ("bastion fields other than cloudInitRef are immutable after the bastion server has been " ++
        "provisioned"))

/-- Equality of two label maps. -/
def sameLabels (a b : StringMap) : Bool := a.subB b && b.subB a

/-- Equality of two machine specs up to the provider ID and the labels. -/
def sameVMFields (a b : StackitMachineSpec) : Bool :=
  a.imageID == b.imageID && a.machineType == b.machineType &&
    a.availabilityZone == b.availabilityZone && a.sshKeyName == b.sshKeyName &&
    a.rootVolume == b.rootVolume && a.networkID == b.networkID &&
    a.securityGroups == b.securityGroups

/-- The two specs are compared after defaulting both of them. -/
def validateStackitMachineSpecUpdate (old new : StackitMachine) : List FieldError :=
  check (!sameVMFields (defaultMachineSpec old.spec) (defaultMachineSpec new.spec))
    (.forbidden "spec" "VM creation fields are immutable; create a replacement Machine instead") ++
  check (old.spec.providerID.isSome && new.spec.providerID.isNone)
    (.forbidden "spec.providerID" "providerID is controller-owned and cannot be removed") ++
  check (old.spec.providerID.isSome && new.spec.providerID.isSome &&
      old.spec.providerID != new.spec.providerID)
    (.forbidden "spec.providerID" "providerID is controller-owned and cannot be changed") ++
  check (old.status.instanceID != "" &&
      !sameLabels old.spec.additionalLabels new.spec.additionalLabels)
    (.forbidden "spec.additionalLabels" "field is immutable after the server has been provisioned")

/-- `ValidateUpdate` of a StackitCluster accepts the change. -/
def admitsClusterUpdate (rules : NameRules) (old new : StackitCluster) : Bool :=
  (validateStackitClusterSpec rules new.spec "spec" ++
    validateStackitClusterSpecUpdate old new).isEmpty

/-- `ValidateUpdate` of a StackitMachine accepts the change. -/
def admitsMachineUpdate (rules : NameRules) (old new : StackitMachine) : Bool :=
  (validateStackitMachineSpec rules new.spec "spec" true ++
    validateStackitMachineSpecUpdate old new).isEmpty

/-- `Default` of a StackitCluster -/
def defaultStackitCluster (sc : StackitCluster) : StackitCluster :=
  { sc with spec := defaultClusterSpec sc.spec }

/-- `Default` of a StackitMachine -/
def defaultStackitMachine (sm : StackitMachine) : StackitMachine :=
  { sm with spec := defaultMachineSpec sm.spec }

/-! ### Templates -/

/-- `clusterv1.ObjectMeta` -/
structure TemplateObjectMeta where
  labels : StringMap := ∅
  annotations : StringMap := ∅

/-- `ObjectMeta.Validate` of Cluster API: what is wrong with the metadata of a template. -/
structure MetadataRules where
  validate : TemplateObjectMeta → String → List FieldError

/-- `spec.template` of a template -/
structure Template (Spec : Type) where
  metadata : TemplateObjectMeta := {}
  spec : Spec

abbrev StackitClusterTemplate : Type := Template StackitClusterSpec

abbrev StackitMachineTemplate : Type := Template StackitMachineSpec

/-- `Default` of a StackitClusterTemplate -/
def defaultStackitClusterTemplate (t : StackitClusterTemplate) : StackitClusterTemplate :=
  { t with spec := defaultClusterSpec t.spec }

/-- `Default` of a StackitMachineTemplate -/
def defaultStackitMachineTemplate (t : StackitMachineTemplate) : StackitMachineTemplate :=
  { t with spec := defaultMachineSpec t.spec }

def immutableTemplateSpecMessage : String :=
  "field is immutable; create a new template resource instead"

/-- `equality.Semantic.DeepEqual` of two cluster specs -/
def sameClusterSpec (a b : StackitClusterSpec) : Bool :=
  a.projectID == b.projectID && a.region == b.region &&
    a.credentialsSecretRef == b.credentialsSecretRef && a.networkID == b.networkID &&
    a.apiServerLoadBalancerEnabled == b.apiServerLoadBalancerEnabled &&
    a.controlPlaneEndpoint == b.controlPlaneEndpoint && a.bastion == b.bastion &&
    sameLabels a.additionalLabels b.additionalLabels

/-- `equality.Semantic.DeepEqual` of two machine specs -/
def sameMachineSpec (a b : StackitMachineSpec) : Bool :=
  sameVMFields a b && a.providerID == b.providerID &&
    sameLabels a.additionalLabels b.additionalLabels

section
variable {Spec : Type} (metadata : MetadataRules)

/-- `ValidateCreate` of a template -/
def validateTemplate (validate : Spec → String → List FieldError) (t : Template Spec) :
    List FieldError :=
  metadata.validate t.metadata "spec.template.metadata" ++ validate t.spec "spec.template.spec"

/-- `ValidateUpdate` of a template; the specs are compared after defaulting both of them. The
error's value is the whole spec, which is left out. -/
def validateTemplateUpdate (validate : Spec → String → List FieldError) (default : Spec → Spec)
    (same : Spec → Spec → Bool) (old new : Template Spec) : List FieldError :=
  validateTemplate metadata validate new ++
    check (!same (default old.spec) (default new.spec))
    (.invalid "spec.template.spec" "" immutableTemplateSpecMessage)

variable (rules : NameRules)

/-- `ValidateCreate` of a StackitClusterTemplate -/
def validateStackitClusterTemplate : StackitClusterTemplate → List FieldError :=
  validateTemplate metadata (validateStackitClusterSpec rules)

/-- `ValidateUpdate` of a StackitClusterTemplate -/
def validateStackitClusterTemplateUpdate : StackitClusterTemplate → StackitClusterTemplate →
    List FieldError :=
  validateTemplateUpdate metadata (validateStackitClusterSpec rules) defaultClusterSpec
    sameClusterSpec

/-- `ValidateCreate` of a StackitMachineTemplate; a template has no provider ID. -/
def validateStackitMachineTemplate : StackitMachineTemplate → List FieldError :=
  validateTemplate metadata fun spec path => validateStackitMachineSpec rules spec path false

/-- `ValidateUpdate` of a StackitMachineTemplate -/
def validateStackitMachineTemplateUpdate : StackitMachineTemplate → StackitMachineTemplate →
    List FieldError :=
  validateTemplateUpdate metadata
    (fun spec path => validateStackitMachineSpec rules spec path false) defaultMachineSpec
    sameMachineSpec

end

end Webhook

end Capstk
