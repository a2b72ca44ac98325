import Mathlib.Data.List.Infix

/-!
# Errors (`cloud/errors.go`, `classifySDKError`)

A Go error is its text and the sentinel it wraps; `errors.Is` only ever asks for the sentinel.
`SDKError` is what a STACKIT SDK call returns before `classifySDKError` sorts it.
-/

namespace Capstk

/-- The sentinels the controllers look for with `errors.Is`; `apiNotFound` stands for the API
server's own NotFound status (`apierrors.IsNotFound`). -/
inductive Sentinel
  | errNotFound
  | errUnauthorized
  | errInvalidInput
  | errConflict
  | errTransient
  | errCredentialsInvalid
  | errBootstrapDataInvalid
  | errInvalidProviderID
  | errInstanceGone
  | apiNotFound
deriving DecidableEq, Repr

namespace Sentinel

/-- The text of the error variable, which every error that wraps it repeats. -/
def text : Sentinel → String
  | errNotFound => "not found"
  | errUnauthorized => "unauthorized"
  | errInvalidInput => "invalid input"
  | errConflict => "conflict"
  | errTransient => "transient"
  | errCredentialsInvalid => "credentials invalid"
  | errBootstrapDataInvalid => "bootstrap data invalid: secret has no \"value\" or \"userData\" key"
  | errInvalidProviderID => "invalid providerID"
  | errInstanceGone => "instance gone"
  | apiNotFound => "not found"

end Sentinel

/-- An error: the sentinel that `errors.Is` finds in its chain, and what `Error()` returns. -/
structure GoError where
  wraps : Option Sentinel
  text : String
deriving DecidableEq, Repr

/-- `fmt.Errorf("%w: ...", sentinel, ...)` -/
def errorf (s : Sentinel) (detail : String) : GoError := ⟨some s, s.text ++ ": " ++ detail⟩

/-- `fmt.Errorf("...: %w", err)` -/
def wrapf (detail : String) (err : GoError) : GoError := ⟨err.wraps, detail ++ ": " ++ err.text⟩

def isNotFound (err : GoError) : Bool := err.wraps == some .errNotFound
def isUnauthorized (err : GoError) : Bool := err.wraps == some .errUnauthorized
def isInvalidInput (err : GoError) : Bool := err.wraps == some .errInvalidInput
def isConflict (err : GoError) : Bool := err.wraps == some .errConflict
def isTransient (err : GoError) : Bool := err.wraps == some .errTransient
/-- What another try can mend. -/
def isRetryable (err : GoError) : Bool := isConflict err || isTransient err

/-- `apierrors.IsNotFound` -/
def isAPINotFound (err : GoError) : Bool := err.wraps == some .apiNotFound

/-- `strings.Contains` -/
def contains (s sub : String) : Bool := decide (sub.toList <:+: s.toList)

/-- An error of an SDK call: an HTTP answer with a status code, or anything else. -/
inductive SDKError
  | openAPI (statusCode : Nat) (text : String)
  | other (text : String)
deriving DecidableEq, Repr

def SDKError.text : SDKError → String
  | openAPI _ t => t
  | other t => t

/-- The status code decides the sentinel; what has none that is listed is transient. -/
def classifySDKError (op : String) (err : SDKError) : GoError :=
  let detail := op ++ ": " ++ err.text
  match err with
  | .openAPI 404 _ => errorf .errNotFound detail
  | .openAPI 401 _ | .openAPI 403 _ => errorf .errUnauthorized detail
  | .openAPI 409 _ => errorf .errConflict detail
  | .openAPI 400 _ | .openAPI 422 _ => errorf .errInvalidInput detail
  | .openAPI 429 _ => errorf .errTransient detail
  | _ => errorf .errTransient detail

/-- Such a project has no load balancers yet, so this is not a lack of rights. -/
def isLoadBalancerServiceNotEnabled (err : GoError) : Bool :=
  isUnauthorized err && contains err.text "Service not enabled"

theorem isLoadBalancerServiceNotEnabled_of_not {err : GoError} (h : isUnauthorized err = false) :
    isLoadBalancerServiceNotEnabled err = false := by
  rw [isLoadBalancerServiceNotEnabled, h, Bool.false_and]

@[simp] theorem isNotFound_errorf (s : Sentinel) (d : String) :
    isNotFound (errorf s d) = decide (s = .errNotFound) := by cases s <;> rfl

@[simp] theorem isAPINotFound_errorf (s : Sentinel) (d : String) :
    isAPINotFound (errorf s d) = decide (s = .apiNotFound) := by cases s <;> rfl

@[simp] theorem isNotFound_classify_404 (op t : String) :
    isNotFound (classifySDKError op (.openAPI 404 t)) = true := rfl

/-- A request that failed: the service refused it or the answer got lost. Such an answer never
claims that a resource does not exist; `404` and "Service not enabled" come only from the state of
the cloud (`Cloud`). -/
structure Failure where
  error : SDKError
  honest : ∀ op, isNotFound (classifySDKError op error) = false ∧
    isLoadBalancerServiceNotEnabled (classifySDKError op error) = false

namespace Failure

/-- A timeout, for instance. -/
def timeout : Failure := ⟨.other "timeout", fun _ => ⟨rfl, rfl⟩⟩

theorem not_isNotFound (f : Failure) (op : String) :
    isNotFound (classifySDKError op f.error) = false :=
  (f.honest op).1

end Failure

end Capstk
