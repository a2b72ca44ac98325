import Capstk.Lib.Run
import Capstk.Proofs.Sweep

/-!
# Deleting the bastion in several attempts

An attempt may end anywhere, and the next one finds some of the resources gone. What carries over is
that nothing has come and that only the bastion's own resources were touched (`Sparing`): then the
recorded IDs still name what is left, and an attempt that goes through takes the rest away.
-/

namespace Capstk

open Prog SDKClient

variable {T : StringMap} {c c' c'' : Cloud} {input : BastionInput} {status : Bastion}

/-- Each recorded ID is that of the one resource with the tags. -/
structure BastionRecorded (status : Bastion) (T : StringMap) (c : Cloud) : Prop where
  server : status.serverID ≠ "" → tagged .server T c = [status.serverID]
  publicIP : status.publicIPID ≠ "" → tagged .publicIP T c = [status.publicIPID]
  securityGroup : status.securityGroupID ≠ "" → tagged .securityGroup T c = [status.securityGroupID]

/-- The resources with the tags, of the kinds a bastion consists of. -/
def OfBastion (T : StringMap) (c : Cloud) (k : Kind) (id : String) : Prop :=
  IsBastionKind k ∧ id ∈ tagged k T c

theorem BastionRecorded.current (h : BastionRecorded status T c) : BastionCurrent status T c := by
  have hone : ∀ {recorded : String} {ids : List String}, (recorded ≠ "" → ids = [recorded]) →
      Current recorded ids :=
    fun h hne x hx => by simpa [h hne] using hx
  exact ⟨hone h.server, hone h.publicIP, hone h.securityGroup⟩

/-- From `c` to `c'` nothing has come, and nothing but the bastion of `c` was touched. -/
structure Sparing (T : StringMap) (c c' : Cloud) : Prop where
  shrinks : Shrinks c c'
  spares : Spares (OfBastion T c) c c'

theorem Sparing.refl (T : StringMap) (c : Cloud) : Sparing T c c := ⟨.refl c, .refl c⟩

/-- Whatever becomes of an attempt, it spares the rest; and one that goes through leaves nothing. -/
theorem Sparing.wp_deleteBastion {s : Session} (h : Sparing input.tags c s.cloud)
    (hids : DistinctIDs c) (hstatus : BastionRecorded status input.tags c) :
    wp (deleteBastion input status) (fun r t => Sparing input.tags c t.cloud ∧
      (r = .ok () → BastionGone input.tags t.cloud)) s := by
  have hnamed : ∀ k, IsBastionKind k → "" ∉ tagged k input.tags s.cloud := by
    intro k _ hmem
    obtain ⟨L, hL, -⟩ := mem_tagged.1 ((h.shrinks.tagged k _).subset hmem)
    exact hids.nonempty k _ hL rfl
  -- what is found now was there at the start
  have hfound : ∀ k, IsBastionKind k → ∀ id ∈ tagged k input.tags s.cloud,
      OfBastion input.tags c k id :=
    fun k hk id hid => ⟨hk, (h.shrinks.tagged k _).subset hid⟩
  have hspares : wp (deleteBastion input status)
      (fun _ t => Spares (OfBastion input.tags c) s.cloud t.cloud) s :=
    (cleanupClosedOn_spares (OfBastion input.tags c)).wp_deleteBastion
      (points_idOrFind (wp_findServerByTags _)
        (fun hne => ⟨trivial, by rw [hstatus.server hne]; simp⟩) (hfound _ trivial))
      (points_idOrFind (wp_findPublicIPByTags _)
        (fun hne => ⟨trivial, by rw [hstatus.publicIP hne]; simp⟩) (hfound _ trivial))
      (points_idOrFind (wp_findSecurityGroupByTags _)
        (fun hne => ⟨trivial, by rw [hstatus.securityGroup hne]; simp⟩)
        (hfound _ trivial))
  have hcleans := SDKClient.wp_deleteBastion (hstatus.current.shrinks h.shrinks) hnamed
  refine (hcleans.and hspares).imp ?_
  rintro r t ⟨⟨hshrinks, hgone⟩, hspares⟩
  exact ⟨⟨h.shrinks.trans hshrinks, h.spares.trans hspares⟩, fun hr => hgone () hr⟩

/-- The cloud after an attempt; of the session only what it says about the requests counts. -/
def attemptDelete (input : BastionInput) (status : Bastion) (c : Cloud) (s : Session) : Cloud :=
  ((deleteBastion input status).after { s with cloud := c }).cloud

/-- However the attempts before it ended, an attempt that goes through leaves no bastion resource
behind, and none of the attempts has deleted anything else. -/
theorem bastion_deleted_in_attempts (input : BastionInput) (status : Bastion) (c₀ : Cloud)
    (hids : DistinctIDs c₀) (hstatus : BastionRecorded status input.tags c₀)
    (attempts : List Session) (s t : Session)
    (hs : s.cloud = Runs.run (attemptDelete input status) c₀ attempts)
    (hrun : deleteBastion input status s = (.ok (), t)) :
    BastionGone input.tags t.cloud ∧ ∀ k, ∀ x ∈ labelled k c₀,
      ¬ (IsBastionKind k ∧ labelsContainTags x.2 input.tags = true) → x ∈ labelled k t.cloud := by
  have hway : Sparing input.tags c₀ s.cloud := by
    rw [hs]
    refine Runs.run_inv (.refl _ c₀) fun c a hc => ?_
    have hwp : wp (deleteBastion input status) (fun r t => Sparing input.tags c₀ t.cloud ∧
        (r = .ok () → BastionGone input.tags t.cloud)) { a with cloud :=
          c } := Sparing.wp_deleteBastion hc hids hstatus
    exact (wp_iff.1 hwp).1
  obtain ⟨hend, hgone⟩ := (hway.wp_deleteBastion hids hstatus).of_run hrun
  refine ⟨hgone rfl, fun k x hx hother => hend.spares.labelled hx ?_⟩
  rintro ⟨hk, hmem⟩
  obtain ⟨L, hL, hmatch⟩ := mem_tagged.1 hmem
  -- an ID names one resource
  have hsame : x = (x.1, L) := List.inj_on_of_nodup_map (hids.nodup k) hx hL rfl
  exact hother ⟨hk, by rw [hsame]; exact hmatch⟩

abbrev sampleBastionInput : BastionInput := { tags := StringMap.ofList [("role", "bastion")] }

/-- A bastion, beside a server of somebody else. -/
def sampleBastionCloud : Cloud where
  ids := .unary
  servers :=
    [{ id := "s1", name := "bastion", labels := sampleBastionInput.tags },
    { id := "s2", name := "node", labels := ∅ }]
  publicIPs := [{ id := "p1", labels := sampleBastionInput.tags }]
  securityGroups :=
    [{ id := "g1", name := "bastion-ssh", labels := sampleBastionInput.tags,
       rules := [⟨"r1", { direction := "ingress" }⟩] }]

/-- An attempt in which the deletion of the server takes effect and then times out. -/
abbrev sampleTimeout : Session where
  cloud := sampleBastionCloud
  outcomes := List.replicate 4 .answered ++ [.failedAfter .timeout]

/-- Only the server was recorded and only the server has gone; the next attempt takes the rest
away. -/
theorem bastion_deleted_in_attempts_resumed :
    let c := Runs.run (attemptDelete sampleBastionInput { serverID := "s1" }) sampleBastionCloud
      [sampleTimeout]
    tagged .server sampleBastionInput.tags c = [] ∧
      tagged .publicIP sampleBastionInput.tags c = ["p1"] ∧
      BastionGone sampleBastionInput.tags
        ((deleteBastion sampleBastionInput { serverID := "s1" }).after { cloud := c }).cloud := by
  refine ⟨by decide +kernel, by decide +kernel, ?_⟩
  refine (bastion_deleted_in_attempts sampleBastionInput { serverID := "s1" } sampleBastionCloud
    ⟨?_, ?_⟩ ⟨?_, ?_, ?_⟩
    [sampleTimeout] _ _ rfl (Prod.ext ?_ rfl)).1
  · intro k
    cases k <;> decide +kernel
  · intro k
    cases k <;> decide +kernel
  · decide +kernel
  · decide +kernel
  · decide +kernel
  · decide +kernel

end Capstk
