import Capstk.Api

/-!
# Conditions and retry decisions (`util/conditions.go`, `controller/constants.go`)
-/

namespace Capstk

/-! ### Delays, in seconds -/

def retryableErrorRequeueAfter : Nat := 5
def deleteRequeueAfter : Nat := 5
def credentialsRetryRequeueAfter : Nat := 60

/-! ### Conditions -/

/-- `meta.FindStatusCondition` -/
def findStatusCondition (conditions : List Condition) (conditionType : String) : Option Condition :=
  conditions.find? fun c => c.type == conditionType

/-- `meta.IsStatusConditionTrue` -/
def isStatusConditionTrue (conditions : List Condition) (conditionType : String) : Bool :=
  match findStatusCondition conditions conditionType with
  | some c => c.status == .true
  | none => false

/-- `meta.SetStatusCondition`: overwrite the condition of that type, or append it. -/
def setStatusCondition : List Condition → Condition → List Condition
  | [], new => [new]
  | c :: cs, new => if c.type == new.type then new :: cs else c :: setStatusCondition cs new

/-- One status, reason and message for all the types. -/
def setConditions (conditions : List Condition) (generation : Int) (status : ConditionStatus)
    (reason message : String) (conditionTypes : List String) : List Condition :=
  conditionTypes.foldl (fun cs t => setStatusCondition cs ⟨t, status, reason, message, generation⟩)
    conditions

theorem findStatusCondition_set (cs : List Condition) (new : Condition) (t : String) :
    findStatusCondition (setStatusCondition cs new) t =
      if new.type = t then some new else findStatusCondition cs t := by
  induction cs with
  | nil => by_cases h : new.type = t <;> simp [setStatusCondition, findStatusCondition, h]
  | cons c cs ih =>
    simp only [setStatusCondition]
    by_cases hc : c.type = new.type
    · by_cases h : new.type = t
      · simp [hc, h, findStatusCondition]
      · simp [hc, h, findStatusCondition]
    · simp only [beq_iff_eq, hc, if_false]
      by_cases ht : c.type = t
      · have h : new.type ≠ t := fun h => hc (ht.trans h.symm)
        simp [findStatusCondition, ht, h]
      · simpa [findStatusCondition, ht] using ih

/-- `SetConditions` decides the condition of every listed type and leaves the others. -/
theorem findStatusCondition_setConditions (cs : List Condition) (g : Int) (st : ConditionStatus)
    (reason message : String) (types : List String) (t : String) :
    findStatusCondition (setConditions cs g st reason message types) t =
      if t ∈ types then some ⟨t, st, reason, message, g⟩ else findStatusCondition cs t := by
  induction types generalizing cs with
  | nil => rfl
  | cons t' types ih =>
    show findStatusCondition (setConditions (setStatusCondition cs _) g st reason message types) t
      = _
    rw [ih, findStatusCondition_set]
    by_cases h : t ∈ types
    · simp [h]
    · by_cases ht : t' = t
      · simp [ht]
      · simp [h, ht, Ne.symm ht]

/-! ### Retry decisions -/

/-- The conditions after the failure, and how to retry. -/
def credentialFailureResult (conditions : List Condition) (generation : Int) (err : GoError)
    (requeueAfter : Nat) (conditionTypes : List String) : List Condition × Except GoError Result :=
  (setConditions conditions generation .false "CredentialsInvalid" err.text conditionTypes,
    if isUnauthorized err || isInvalidInput err || err.wraps == some .errCredentialsInvalid then
      .ok { requeueAfter }
    else .error err)

/-- A retryable error becomes a delay. Any other one is returned, or only recorded in the
conditions. -/
def cloudFailureResult (conditions : List Condition) (generation : Int) (reason : String)
    (err : GoError) (requeueAfter : Nat) (returnError : Bool) (conditionTypes : List String) :
    List Condition × Except GoError Result :=
  (setConditions conditions generation .false reason err.text conditionTypes,
    if isRetryable err then .ok { requeueAfter }
    else if returnError then .error err
    else .ok {})

end Capstk
