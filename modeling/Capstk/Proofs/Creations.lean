import Capstk.Lib.Run
import Capstk.Proofs.Bastion

/-!
# Creating under partial failure

The calls of the SDK client that create something look for the tags first. Cut at any request and
repeated in any mixture, they never bring a second resource of a kind that carries the same tags:
each of them creates at most the first one (`AddsFirst`), and that is all the induction needs.
-/

namespace Capstk

open Prog SDKClient

variable {k : Kind} {T : StringMap} {c c' : Cloud} {s : Session}

/-- At most one server, network, public IP and security group carries the tags. -/
def AtMostOne (T : StringMap) (c : Cloud) : Prop :=
  ∀ k, k ≠ .loadBalancer → (tagged k T c).length ≤ 1

theorem AtMostOne.addsFirst {ks : Kind → Prop} (h : AtMostOne T c) (hadds : AddsFirst ks T c c') :
    AtMostOne T c' := by
  intro k hk
  rcases hadds k with hsame | ⟨-, hnone, id, -, hnew⟩
  · rw [tagged, hsame]
    exact h k hk
  · rw [tagged_append hnew, hnone]
    simp

namespace SDKClient

theorem wp_createNetwork (input : CreateNetworkInput) (hT : input.tags.entries.isEmpty = false)
    (s : Session) :
    wp (createNetwork input) (fun _ t => Ensured .network input.tags s.cloud t.cloud) s := by
  unfold createNetwork
  refine wp_ite (fun _ => .refl _ _ _) fun _ => wp_ite (fun h => by rw [hT] at h; cases h) fun _ =>
    ?_
  refine (wp_ensure (adds_createNetwork input.name input.ipv4Prefix)
    (wp_findNetworkByTags input.tags s) ?_).imp
    fun r t h => h.1
  exact fun _ _ => ⟨rfl, _, rfl, rfl⟩

theorem addsFirst_ensureNodeSSHAccess (input : NodeSSHAccessInput) :
    Keeps (fun s t : Session => AddsFirst (· = .securityGroup) input.tags s.cloud t.cloud)
      (ensureNodeSSHAccess input) := by
  have hR : Closed fun s t : Session => AddsFirst (· = .securityGroup) input.tags s.cloud t.cloud :=
    AddsFirst.closed
  have hsame : ∀ {α : Type} {x : Call Session α},
      Keeps (fun s t : Session => SameResources s.cloud t.cloud) x →
        Keeps (fun s t : Session => AddsFirst (· = .securityGroup) input.tags s.cloud t.cloud)
        x := fun h =>
    h.imp fun _ _ h => .of_same h
  refine .ite (.fail hR _)
    (.ite (.fail hR _) (.bind hR (fun s => ?_) fun g => .bind hR (.ite (.fail hR _) ?_) fun _ =>
    ?_))
  · exact (wp_ensureSecurityGroup _ _ input.tags s).1.addsFirst rfl
  · exact .bind hR (hsame (sameResources_listRules _)) fun rules =>
      .ite (.pure hR ()) (hsame (sameResources_createRule _ _))
  · exact .bind hR (hsame (sameResources_addSecurityGroupToServer _ _)) fun _ => .pure hR g

end SDKClient

/-! ### Sequences of calls -/

/-- A call of the SDK client that creates what is missing. -/
inductive CreateCall
  | createServer (input : CreateServerInput)
  | createNetwork (input : CreateNetworkInput)
  | ensureBastion (input : BastionInput)
  | ensureNodeSSHAccess (input : NodeSSHAccessInput)

namespace CreateCall

def tags : CreateCall → StringMap
  | createServer input => input.tags
  | createNetwork input => input.tags
  | ensureBastion input => input.tags
  | ensureNodeSSHAccess input => input.tags

/-- The state after the call, whether it answered or failed. -/
def issue (s : Session) : CreateCall → Session
  | createServer input => (SDKClient.createServer input).after s
  | createNetwork input => (SDKClient.createNetwork input).after s
  | ensureBastion input => (SDKClient.ensureBastion input).after s
  | ensureNodeSSHAccess input => (SDKClient.ensureNodeSSHAccess input).after s

/-- One call, whichever of its requests fail: at most the first resource of each kind appears. -/
theorem addsFirst_issue (call : CreateCall) (hT : call.tags.entries.isEmpty = false) (s : Session) :
    AddsFirst (fun _ => True) call.tags s.cloud (call.issue s).cloud := by
  cases call with
  | createServer input => exact (wp_createServer input s).1.addsFirst trivial
  | createNetwork input => exact (wp_createNetwork input hT s).addsFirst trivial
  | ensureBastion input => exact (wp_ensureBastion input s).1.mono fun _ _ => trivial
  | ensureNodeSSHAccess input =>
    exact (addsFirst_ensureNodeSSHAccess input s).mono fun _ _ => trivial

end CreateCall

/-- **Creation is idempotent.** Any sequence of creating calls with the same tags, each request of
which may fail before or after taking effect, leaves at most one server, network, public IP and
security group with these tags. -/
theorem creations_stay_unique {calls : List CreateCall} (hT : T.entries.isEmpty = false)
    (hcalls : ∀ call ∈ calls, call.tags = T) (h₀ : AtMostOne T s.cloud) :
    AtMostOne T (Runs.run CreateCall.issue s calls).cloud := by
  induction calls generalizing s with
  | nil => exact h₀
  | cons call calls ih =>
    have htags : call.tags = T := hcalls call (by simp)
    have hadds := call.addsFirst_issue (htags ▸ hT) s
    rw [htags] at hadds
    exact ih (fun call' h => hcalls call' (by simp [h])) (h₀.addsFirst hadds)

/-- The request that creates the bastion's server takes effect and times out; the calls that follow
find the server instead of creating another one. -/
theorem creations_stay_unique_lostAnswer :
    let T := clusterTags "c" "ns" ∅
    let bastion : CreateCall := .ensureBastion
      { name := "b", networkID := "n", imageID := "i", machineType := "m", sshKeyName := "k",
        allowedCIDRs := ["10.0.0.0/8"],
        tags := T }
    let node : CreateCall :=
      .ensureNodeSSHAccess
      { name := "g", serverID := "x", bastionSecurityGroupID := "y", tags := T }
    let calls :=
      [bastion, .createServer { name := "s", tags := T }, node,
      .createNetwork { name := "n", tags := T }, bastion]
    let answered := List.replicate 5 Outcome.answered
    let s : Session :=
      { cloud := { ids := .unary }, outcomes := answered ++ [.failedAfter .timeout] }
    AtMostOne T (Runs.run CreateCall.issue s calls).cloud ∧
      tagged .server T (Runs.run CreateCall.issue s [bastion]).cloud = ["iii"] ∧
      (Runs.run CreateCall.issue s [bastion]).outcomes = [] := by
  intro T bastion node calls answered s
  refine ⟨creations_stay_unique rfl ?_ ?_, by decide +kernel, by decide +kernel⟩
  · intro call hcall
    simp only [calls, List.mem_cons, List.not_mem_nil, or_false] at hcall
    rcases hcall with rfl | rfl | rfl | rfl | rfl <;> rfl
  · intro k _
    cases k <;> exact Nat.zero_le 1

end Capstk
