import Mathlib.Data.Finset.Card
import WorkloadGovernor.Assignments

namespace WorkloadGovernor
variable {Address : Type}

/-- How many of the issues, each counted once, have a sentinel for the pair. -/
def sentinelCount (env : Env Address) (issueIds : List UInt32) (pair : Address × Symbol) : Nat :=
  (issueIds.toFinset.filter fun issueId => isAssigned env pair.1 pair.2 issueId = true).card

/-- The issues show more sentinels than the stored counter counts. -/
def UnderCounted (env : Env Address) (issueIds : List UInt32) (pair : Address × Symbol) : Prop :=
  (getOrgAssignmentCount env pair.1 pair.2).toNat < sentinelCount env issueIds pair

instance (env : Env Address) (issueIds : List UInt32) (pair : Address × Symbol) :
    Decidable (UnderCounted env issueIds pair) := Nat.decLt _ _

/-- The report names every under-counted pair, and no other. -/
def ReportsUnderCounts (env : Env Address) (pairs : List (Address × Symbol)) (issueIds : List UInt32) : Prop :=
  checkConsistency env pairs issueIds = pairs.filter fun pair => UnderCounted env issueIds pair

section Report
variable {env : Env Address} {pairs : List (Address × Symbol)} {issueIds : List UInt32} {pair : Address × Symbol}

theorem sentinelCount_pos : 0 < sentinelCount env issueIds pair ↔
    ∃ issueId ∈ issueIds, isAssigned env pair.1 pair.2 issueId = true := by
  rw [sentinelCount, Finset.card_pos, Finset.filter_nonempty_iff]
  simp only [List.mem_toFinset]

/-- The inner loop stops at the first sentinel, so only a counter of 0 is looked behind. -/
theorem reported_iff : (env.getOrgAssignmentCount pair.1 pair.2 == 0 &&
      issueIds.any fun issueId => env.hasAssignment pair.2 issueId pair.1) = true ↔
    getOrgAssignmentCount env pair.1 pair.2 = 0 ∧ UnderCounted env issueIds pair := by
  rw [Bool.and_eq_true, beq_iff_eq, List.any_eq_true]
  refine and_congr_right fun zero => ?_
  have none_counted : getOrgAssignmentCount env pair.1 pair.2 = 0 := zero
  rw [UnderCounted, none_counted, UInt32.toNat_zero, sentinelCount_pos]
  rfl

theorem checkConsistency_eq_filter (env : Env Address) (pairs : List (Address × Symbol)) (issueIds : List UInt32) :
    checkConsistency env pairs issueIds = pairs.filter fun pair =>
      getOrgAssignmentCount env pair.1 pair.2 = 0 ∧ UnderCounted env issueIds pair := by
  refine List.filter_congr fun pair _ => ?_
  rw [Bool.eq_iff_iff, reported_iff, decide_eq_true_iff]

/-- In any storage whatsoever the report names, in the order of the input, the pairs whose
counter reads 0 next to a sentinel. That covers all under-counted pairs exactly if the
counter of each of them has got down to 0. -/
theorem check_consistency_reports (env : Env Address) (pairs : List (Address × Symbol)) (issueIds : List UInt32) :
    (checkConsistency env pairs issueIds = pairs.filter fun pair =>
      getOrgAssignmentCount env pair.1 pair.2 = 0 ∧ UnderCounted env issueIds pair) ∧
    (∀ pair, pair ∈ checkConsistency env pairs issueIds → UnderCounted env issueIds pair) ∧
    (ReportsUnderCounts env pairs issueIds ↔ ∀ pair ∈ pairs, UnderCounted env issueIds pair →
      getOrgAssignmentCount env pair.1 pair.2 = 0) := by
  have report := checkConsistency_eq_filter env pairs issueIds
  refine ⟨report, ?_, ?_⟩
  · intro pair member
    rw [report, List.mem_filter, decide_eq_true_iff] at member
    exact member.2.2
  · rw [ReportsUnderCounts, report]
    constructor
    · intro same pair listed under
      have member : pair ∈ pairs.filter fun pair => UnderCounted env issueIds pair :=
        List.mem_filter.mpr ⟨listed, decide_eq_true under⟩
      rw [← same, List.mem_filter, decide_eq_true_iff] at member
      exact member.2.1
    · intro zero
      refine List.filter_congr fun pair listed => ?_
      rw [Bool.eq_iff_iff, decide_eq_true_iff, decide_eq_true_iff]
      exact and_iff_right_of_imp (zero pair listed)

/-- A migration that has left two assignments with a counter of 1. -/
def offByOne : Env Nat :=
  let env := Env.genesis (.release Nat)
  ((env.setAssignment sampleOrg 1 7).setAssignment sampleOrg 2 7).setOrgAssignmentCount 7 sampleOrg 1

theorem off_by_one_not_reported : ¬ ReportsUnderCounts offByOne [(7, sampleOrg)] [1, 2] := by
  unfold ReportsUnderCounts
  decide

end Report

end WorkloadGovernor
