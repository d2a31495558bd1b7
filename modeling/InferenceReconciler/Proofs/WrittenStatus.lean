import InferenceReconciler.Proofs.PassEffects

/-!
# Written statuses

What a pass writes into the status of its service is the status it projected, and it writes
that one only if it says anything that the status before did not. Nothing else that a pass
does touches the status.
-/

namespace InferenceReconciler

variable {client : ClusterClient} {now : Timestamp} {policy : Policy} {service : ServiceObject}
  {next : ServiceStatus}

theorem writeStatus_mem_writeStatusPass {projected : ProjectedStatus} :
    Effect.writeStatus next ∈ (writeStatusPass client policy service projected).effects ↔
      next = projected.status ∧ statusChanged service.status next = true := by
  rw [← Pass.mem_writes_iff _ rfl, writes_writeStatusPass]
  by_cases hc : statusChanged service.status projected.status = true
  · rw [if_pos hc, List.mem_singleton, Effect.writeStatus.injEq]
    exact ⟨fun h => ⟨h, h ▸ hc⟩, And.left⟩
  · rw [if_neg hc]
    exact ⟨fun h => absurd h List.not_mem_nil, fun ⟨h, hchanged⟩ => absurd (h ▸ hchanged) hc⟩

theorem writeStatus_mem_of_applyPass {o : Observation} {plan : Plan}
    (h : Effect.writeStatus next ∈ (applyPass client now policy service o plan).effects) :
    Effect.writeStatus next ∈
      (writeStatusPass client policy service (o.project now service)).effects := by
  by_cases hempty : plan.isEmpty = true
  · rw [applyPass_of_isEmpty hempty] at h
    exact h
  · have hsome : plan.isEmpty = false := Bool.eq_false_iff.2 hempty
    cases happly : client.apply plan with
    | error f =>
      rw [applyPass_of_refused hsome happly] at h
      simp at h
    | ok =>
      rw [applyPass_of_applied hsome happly] at h
      simpa using h

/-- A status that a pass writes is the projected one, and it is new. -/
theorem changed_of_mem_reconcile
    (h : Effect.writeStatus next ∈ (reconcile client now policy service).effects) :
    ∃ snapshot, Snapshot.ofAnswers client.answers = .ok snapshot ∧
      next = ((observe service snapshot policy).project now service).status ∧
      statusChanged service.status next = true := by
  cases course_reconcile client now policy service with
  | leftAlone ended =>
    rw [ended] at h
    cases h
  | unread f unread ended =>
    rw [ended] at h
    simp [Pass.ended] at h
  | undecided snapshot f answered undecided ended =>
    rw [ended] at h
    simp [Pass.ended] at h
  | decided snapshot plan answered planned carried =>
    rw [carried, Pass.effects_after, List.mem_append] at h
    have hwritten := writeStatus_mem_of_applyPass (h.resolve_left (by simp))
    exact ⟨snapshot, answered, writeStatus_mem_writeStatusPass.1 hwritten⟩

end InferenceReconciler
