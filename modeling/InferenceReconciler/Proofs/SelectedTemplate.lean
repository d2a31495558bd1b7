import InferenceReconciler.Proofs.TemplateRanking

/-!
# Selection is ranking

Of the candidates, those that satisfy the overrides, are ready and run on the GPUs of the cluster
can be selected, and only those of the namespace where there are any. The one that ranks strictly
before all others is selected, and two that share the best rank leave it to the user. What else
can happen is said by what there is among the candidates, so their order does not matter.
-/

namespace InferenceReconciler

namespace LifecycleStatus

variable {s : LifecycleStatus}

/-- Neither ready nor given up. -/
def Underway (s : LifecycleStatus) : Prop := s = .degraded ∨ s = .progressing ∨ s = .pending

theorem Underway.rank_le (h : s.Underway) : s.rank ≤ pending.rank := by
  rcases h with rfl | rfl | rfl <;> decide

theorem eq_ready_of_rank_le (h : s.rank ≤ ready.rank) : s = .ready := by
  revert h
  cases s <;> decide

theorem failed_or_notAvailable (hready : s ≠ .ready) (hunderway : ¬ s.Underway) :
    s = .failed ∨ s = .notAvailable := by
  unfold Underway at hunderway
  cases s <;> simp_all

end LifecycleStatus

theorem foldl_min_le_iff {l : List ℕ} {a n : ℕ} :
    l.foldl min a ≤ n ↔ a ≤ n ∨ ∃ x ∈ l, x ≤ n := by
  induction l generalizing a with
  | nil => simp
  | cons x l ih =>
    rw [List.foldl_cons, ih, min_le_iff]
    simp only [List.mem_cons, exists_eq_or_imp, or_assoc]

section

variable {l l' : List TemplateRecord} {t : TemplateRecord}

def bestHealth (l : List TemplateRecord) : ℕ :=
  (l.map fun t => t.status.status.rank).foldl min LifecycleStatus.failed.rank

theorem bestHealth_le_iff {n : ℕ} :
    bestHealth l ≤ n ↔
      LifecycleStatus.failed.rank ≤ n ∨ ∃ t ∈ l, t.status.status.rank ≤ n := by
  unfold bestHealth
  rw [foldl_min_le_iff]
  simp only [List.mem_map, exists_exists_and_eq_and]

theorem bestHealth_eq (ht : t ∈ l)
    (hbest : ∀ u ∈ l, t.status.status.rank ≤ u.status.status.rank) :
    bestHealth l = t.status.status.rank := by
  apply le_antisymm
  · exact bestHealth_le_iff.2 (Or.inr ⟨t, ht, le_rfl⟩)
  · rcases bestHealth_le_iff.1 (le_refl (bestHealth l)) with hfailed | ⟨u, hu, hle⟩
    · exact le_trans (by cases t.status.status <;> decide) hfailed
    · exact (hbest u hu).trans hle

theorem bestHealth_perm (h : l.Perm l') : bestHealth l' = bestHealth l := by
  apply eq_of_forall_ge_iff
  intro n
  simp only [bestHealth_le_iff, h.mem_iff]

theorem selectByHealth_eq (l : List TemplateRecord) :
    selectByHealth l =
      if bestHealth l = LifecycleStatus.ready.rank then
        bestOf (l.filter TemplateRecord.isReady)
      else if bestHealth l = LifecycleStatus.failed.rank then
        .failed (.provided Reason.templateSelectionFailed
          s!"all {l.length} candidate templates failed")
      else if bestHealth l = LifecycleStatus.notAvailable.rank then
        .failed (.provided Reason.templateSelectionFailed
          s!"all {l.length} candidate templates are not available")
      else .notReady l.length := rfl

theorem selectByHealth_of_ready (ht : t ∈ l) (h : t.status.status = .ready) :
    selectByHealth l = bestOf (l.filter TemplateRecord.isReady) := by
  have hbest : bestHealth l = LifecycleStatus.ready.rank := by
    rw [← h]
    exact bestHealth_eq ht fun u _ => by rw [h]; exact Nat.zero_le _
  rw [selectByHealth_eq, if_pos hbest]

theorem selectByHealth_of_underway (hnone : ∀ u ∈ l, u.status.status ≠ .ready) (ht : t ∈ l)
    (h : t.status.status.Underway) : selectByHealth l = .notReady l.length := by
  have hhigh : bestHealth l ≤ LifecycleStatus.pending.rank :=
    bestHealth_le_iff.2 (Or.inr ⟨t, ht, h.rank_le⟩)
  have hlow : ¬ bestHealth l ≤ LifecycleStatus.ready.rank := by
    intro hle
    rcases bestHealth_le_iff.1 hle with hfailed | ⟨u, hu, hle⟩
    · cases hfailed
    · exact hnone u hu (LifecycleStatus.eq_ready_of_rank_le hle)
  simp only [LifecycleStatus.rank] at hhigh hlow
  have hne : bestHealth l ≠ LifecycleStatus.ready.rank ∧
      bestHealth l ≠ LifecycleStatus.failed.rank ∧
        bestHealth l ≠ LifecycleStatus.notAvailable.rank := by
    simp only [LifecycleStatus.rank]
    omega
  rw [selectByHealth_eq, if_neg hne.1, if_neg hne.2.1, if_neg hne.2.2]

theorem selectByHealth_of_failed (h : ∀ u ∈ l, u.status.status = .failed) :
    selectByHealth l = .failed (.provided Reason.templateSelectionFailed
      s!"all {l.length} candidate templates failed") := by
  have hbest : bestHealth l = LifecycleStatus.failed.rank := by
    apply le_antisymm (bestHealth_le_iff.2 (Or.inl le_rfl))
    rcases bestHealth_le_iff.1 (le_refl (bestHealth l)) with hle | ⟨u, hu, hle⟩
    · exact hle
    · rwa [h u hu] at hle
  rw [selectByHealth_eq, if_neg (by rw [hbest]; decide), if_pos hbest]

theorem selectByHealth_of_notAvailable
    (hgone : ∀ u ∈ l, u.status.status = .failed ∨ u.status.status = .notAvailable)
    (ht : t ∈ l) (h : t.status.status = .notAvailable) :
    selectByHealth l = .failed (.provided Reason.templateSelectionFailed
      s!"all {l.length} candidate templates are not available") := by
  have hbest : bestHealth l = LifecycleStatus.notAvailable.rank := by
    rw [← h]
    refine bestHealth_eq ht fun u hu => ?_
    rcases hgone u hu with hu | hu <;>
      simp only [h, hu, LifecycleStatus.rank, le_refl, Nat.reduceLeDiff]
  rw [selectByHealth_eq, if_neg (by rw [hbest]; decide), if_neg (by rw [hbest]; decide),
    if_pos hbest]

theorem selectByHealth_perm (hunique : NamesUnique l) (h : l.Perm l') :
    selectByHealth l' = selectByHealth l := by
  rw [selectByHealth_eq, selectByHealth_eq, bestHealth_perm h, h.length_eq,
    bestOf_perm (hunique.sublist List.filter_sublist) (h.filter TemplateRecord.isReady)]

end

section

variable (candidates : List TemplateRecord) (overrides : Option TemplateOverrides)
  (gpus : List String)

/-- Without knowledge of the cluster's GPUs, or bound to none, a template can run. -/
def RunsAmong (t : TemplateRecord) : Prop :=
  gpus ≠ [] → ∀ model, t.spec.gpuModel? = some model → GpuModel.canonical model ∈ gpus

def FitsOverrides (t : TemplateRecord) : Prop :=
  ∀ o, overrides = some o → satisfies t.spec o = true

/-- A candidate that could be selected if it were ready. -/
structure Available (t : TemplateRecord) : Prop where
  candidate : t ∈ candidates
  fits : FitsOverrides overrides t
  runs : RunsAmong gpus t

structure Eligible (t : TemplateRecord) : Prop extends Available candidates overrides gpus t where
  ready : t.status.status = .ready

/-- An eligible candidate of the namespace, or of the cluster where the namespace has none. -/
structure Kept (t : TemplateRecord) : Prop extends Eligible candidates overrides gpus t where
  preferred : t.scope = .namespaced ∨
    ∀ u, Eligible candidates overrides gpus u → u.scope ≠ .namespaced

def availableAmong : List TemplateRecord :=
  availableOn gpus (candidates.filter fun t => overrides.all fun o => satisfies t.spec o)

/-- None of the available candidates is ready, but one may become so. -/
structure NoneReadyYet : Prop where
  noneReady : ∀ t, Available candidates overrides gpus t → t.status.status ≠ .ready
  underway : ∃ t, Available candidates overrides gpus t ∧ t.status.status.Underway

/-- Why no template can be expected from the candidates. -/
inductive Refused : Problem → Prop
  | noneFound (hnone : candidates = []) :
      Refused (.provided Reason.templateNotFound "no templates found for the model")
  | noneFits (hsome : candidates ≠ []) (hnone : ∀ t ∈ candidates, ¬ FitsOverrides overrides t) :
      Refused (.validation Reason.validationFailed
        s!"none of the {candidates.length} templates for the model satisfies the overrides")
  | noneRuns (hsome : ∃ t ∈ candidates, FitsOverrides overrides t)
      (hnone : ∀ t ∈ candidates, FitsOverrides overrides t → ¬ RunsAmong gpus t) :
      Refused (.provided Reason.templateSelectionFailed
        ("no template targets a GPU present in the cluster (" ++ ", ".intercalate gpus ++ ")"))
  | allFailed (n : ℕ) (hn : (availableAmong candidates overrides gpus).length = n)
      (hsome : ∃ t, Available candidates overrides gpus t)
      (hall : ∀ t, Available candidates overrides gpus t → t.status.status = .failed) :
      Refused (.provided Reason.templateSelectionFailed
        s!"all {n} candidate templates failed")
  | noneAvailable (n : ℕ) (hn : (availableAmong candidates overrides gpus).length = n)
      (hsome : ∃ t, Available candidates overrides gpus t ∧ t.status.status = .notAvailable)
      (hall : ∀ t, Available candidates overrides gpus t →
        t.status.status = .failed ∨ t.status.status = .notAvailable) :
      Refused (.provided Reason.templateSelectionFailed
        s!"all {n} candidate templates are not available")

end

section

variable {candidates candidates' : List TemplateRecord} {overrides : Option TemplateOverrides}
  {gpus : List String} {t : TemplateRecord} {p : Problem}

theorem fitsOverrides_iff :
    FitsOverrides overrides t ↔ (overrides.all fun o => satisfies t.spec o) = true := by
  cases overrides <;> simp [FitsOverrides]

theorem mem_availableAmong_iff :
    t ∈ availableAmong candidates overrides gpus ↔ Available candidates overrides gpus t := by
  have hruns : runsOn gpus t = true ↔
      ∀ model, t.spec.gpuModel? = some model → GpuModel.canonical model ∈ gpus := by
    unfold runsOn
    cases t.spec.gpuModel? <;> simp
  unfold availableAmong availableOn
  split
  · rename_i hempty
    have hnil := List.isEmpty_iff.1 hempty
    rw [List.mem_filter, ← fitsOverrides_iff]
    exact ⟨fun h => ⟨h.1, h.2, fun hne => absurd hnil hne⟩, fun h => ⟨h.candidate, h.fits⟩⟩
  · rename_i hempty
    have hne : gpus ≠ [] := fun h => hempty (List.isEmpty_iff.2 h)
    rw [List.mem_filter, List.mem_filter, ← fitsOverrides_iff, hruns]
    exact ⟨fun h => ⟨h.1.1, h.1.2, fun _ => h.2⟩, fun h => ⟨⟨h.candidate, h.fits⟩, h.runs hne⟩⟩

theorem selectTemplate_of_fits (hmem : t ∈ candidates) (hfits : FitsOverrides overrides t) :
    selectTemplate candidates overrides gpus =
      if (availableAmong candidates overrides gpus).isEmpty then
        .failed (.provided Reason.templateSelectionFailed
          ("no template targets a GPU present in the cluster (" ++ ", ".intercalate gpus ++ ")"))
      else selectByHealth (availableAmong candidates overrides gpus) := by
  have hcompatible :
      t ∈ candidates.filter fun t => overrides.all fun o => satisfies t.spec o :=
    List.mem_filter.2 ⟨hmem, fitsOverrides_iff.1 hfits⟩
  unfold selectTemplate
  dsimp only
  rw [if_neg fun hempty => List.ne_nil_of_mem hmem (List.isEmpty_iff.1 hempty),
    if_neg fun hempty => List.ne_nil_of_mem hcompatible (List.isEmpty_iff.1 hempty)]
  rfl

theorem selectTemplate_of_available (h : Available candidates overrides gpus t) :
    selectTemplate candidates overrides gpus =
      selectByHealth (availableAmong candidates overrides gpus) := by
  rw [selectTemplate_of_fits h.candidate h.fits, if_neg]
  exact fun hempty =>
    List.ne_nil_of_mem (mem_availableAmong_iff.2 h) (List.isEmpty_iff.1 hempty)

theorem selectTemplate_of_refused (h : Refused candidates overrides gpus p) :
    selectTemplate candidates overrides gpus = .failed p := by
  cases h with
  | noneFound hnone => rw [hnone]; rfl
  | noneFits hsome hnone =>
    have hcompatible :
        (candidates.filter fun t => overrides.all fun o => satisfies t.spec o) = [] := by
      rw [List.filter_eq_nil_iff]
      exact fun t ht hfits => hnone t ht (fitsOverrides_iff.2 hfits)
    unfold selectTemplate
    dsimp only
    rw [if_neg fun hempty => hsome (List.isEmpty_iff.1 hempty), hcompatible]
    rfl
  | noneRuns hsome hnone =>
    obtain ⟨t, ht, hfits⟩ := hsome
    rw [selectTemplate_of_fits ht hfits, if_pos]
    rw [List.isEmpty_iff, List.eq_nil_iff_forall_not_mem]
    intro u hu
    have havailable := mem_availableAmong_iff.1 hu
    exact hnone u havailable.candidate havailable.fits havailable.runs
  | allFailed n hn hsome hall =>
    obtain ⟨t, ht⟩ := hsome
    rw [selectTemplate_of_available ht, ← hn]
    exact selectByHealth_of_failed fun u hu => hall u (mem_availableAmong_iff.1 hu)
  | noneAvailable n hn hsome hall =>
    obtain ⟨t, ht, hstatus⟩ := hsome
    rw [selectTemplate_of_available ht, ← hn]
    exact selectByHealth_of_notAvailable (fun u hu => hall u (mem_availableAmong_iff.1 hu))
      (mem_availableAmong_iff.2 ht) hstatus

theorem selectTemplate_of_noneReadyYet (h : NoneReadyYet candidates overrides gpus) :
    selectTemplate candidates overrides gpus =
      .notReady (availableAmong candidates overrides gpus).length := by
  obtain ⟨t, ht, hunderway⟩ := h.underway
  rw [selectTemplate_of_available ht]
  exact selectByHealth_of_underway (fun u hu => h.noneReady u (mem_availableAmong_iff.1 hu))
    (mem_availableAmong_iff.2 ht) hunderway

theorem selectTemplate_of_eligible (h : Eligible candidates overrides gpus t) :
    selectTemplate candidates overrides gpus =
      bestOf ((availableAmong candidates overrides gpus).filter TemplateRecord.isReady) := by
  rw [selectTemplate_of_available h.toAvailable]
  exact selectByHealth_of_ready (mem_availableAmong_iff.2 h.toAvailable) h.ready

theorem mem_kept_iff :
    t ∈ preferNamespaced
        ((availableAmong candidates overrides gpus).filter TemplateRecord.isReady) ↔
      Kept candidates overrides gpus t := by
  have heligible : ∀ u,
      u ∈ (availableAmong candidates overrides gpus).filter TemplateRecord.isReady ↔
        Eligible candidates overrides gpus u := by
    intro u
    rw [List.mem_filter, mem_availableAmong_iff]
    exact ⟨fun h => ⟨h.1, of_decide_eq_true h.2⟩, fun h => ⟨h.toAvailable, decide_eq_true h.ready⟩⟩
  rw [mem_preferNamespaced_iff, heligible]
  simp only [heligible]
  exact ⟨fun h => ⟨h.1, h.2⟩, fun h => ⟨h.toEligible, h.preferred⟩⟩

theorem availableAmong_sublist (candidates : List TemplateRecord)
    (overrides : Option TemplateOverrides) (gpus : List String) :
    (availableAmong candidates overrides gpus).Sublist candidates := by
  unfold availableAmong availableOn
  split
  · exact List.filter_sublist
  · exact List.filter_sublist.trans List.filter_sublist

theorem availableAmong_perm (h : candidates.Perm candidates') :
    (availableAmong candidates overrides gpus).Perm (availableAmong candidates' overrides gpus) := by
  unfold availableAmong availableOn
  split
  · exact h.filter _
  · exact (h.filter _).filter _

theorem selectTemplate_cases_of_eligible (hunique : NamesUnique candidates)
    (h : Eligible candidates overrides gpus t) :
    (∃ u, selectTemplate candidates overrides gpus = .selected u ∧
        StrictlyBest (Kept candidates overrides gpus) u) ∨
      ∃ p, selectTemplate candidates overrides gpus = .failed p ∧
        p.reason = Reason.templateSelectionAmbiguous ∧
          BestShared (Kept candidates overrides gpus) := by
  have hkept : (· ∈ preferNamespaced
      ((availableAmong candidates overrides gpus).filter TemplateRecord.isReady)) =
        Kept candidates overrides gpus := funext fun u => propext mem_kept_iff
  have hnodup := (hunique.nodup.sublist (availableAmong_sublist candidates overrides gpus)).filter
    TemplateRecord.isReady
  have hready : t ∈ (availableAmong candidates overrides gpus).filter TemplateRecord.isReady :=
    List.mem_filter.2 ⟨mem_availableAmong_iff.2 h.toAvailable, decide_eq_true h.ready⟩
  rw [selectTemplate_of_eligible h, ← hkept]
  exact bestOf_cases hnodup (List.ne_nil_of_mem hready)

/-- There is an eligible candidate, or one may become ready, or none can be expected. -/
theorem eligible_or_noneReadyYet_or_refused (candidates : List TemplateRecord)
    (overrides : Option TemplateOverrides) (gpus : List String) :
    (∃ t, Eligible candidates overrides gpus t) ∨ NoneReadyYet candidates overrides gpus ∨
      ∃ p, Refused candidates overrides gpus p := by
  by_cases hfound : candidates = []
  · exact Or.inr (Or.inr ⟨_, .noneFound hfound⟩)
  by_cases hfits : ∃ t ∈ candidates, FitsOverrides overrides t
  swap
  · exact Or.inr (Or.inr ⟨_, .noneFits hfound fun t ht h => hfits ⟨t, ht, h⟩⟩)
  by_cases havailable : ∃ t, Available candidates overrides gpus t
  swap
  · exact Or.inr (Or.inr ⟨_, .noneRuns hfits fun t ht h hruns => havailable ⟨t, ht, h, hruns⟩⟩)
  by_cases hready : ∃ t, Available candidates overrides gpus t ∧ t.status.status = .ready
  · obtain ⟨t, ht, hstatus⟩ := hready
    exact Or.inl ⟨t, ht, hstatus⟩
  by_cases hunderway : ∃ t, Available candidates overrides gpus t ∧ t.status.status.Underway
  · exact Or.inr (Or.inl ⟨fun t ht hstatus => hready ⟨t, ht, hstatus⟩, hunderway⟩)
  have hgone : ∀ t, Available candidates overrides gpus t →
      t.status.status = .failed ∨ t.status.status = .notAvailable := by
    intro t ht
    have hnotReady : t.status.status ≠ .ready := fun h => hready ⟨t, ht, h⟩
    have hnotUnderway : ¬ t.status.status.Underway := fun h => hunderway ⟨t, ht, h⟩
    exact LifecycleStatus.failed_or_notAvailable hnotReady hnotUnderway
  by_cases hnotAvailable :
      ∃ t, Available candidates overrides gpus t ∧ t.status.status = .notAvailable
  · exact Or.inr (Or.inr ⟨_, .noneAvailable _ rfl hnotAvailable hgone⟩)
  · exact Or.inr (Or.inr ⟨_, .allFailed _ rfl havailable fun t ht =>
      (hgone t ht).resolve_right fun h => hnotAvailable ⟨t, ht, h⟩⟩)

theorem Refused.reason_ne (h : Refused candidates overrides gpus p) :
    p.reason ≠ Reason.templateSelectionAmbiguous := by
  cases h <;> (simp only [Problem.provided, Problem.validation]; decide)

/-- The outcome is that of the one best template, of the shared best rank, of the templates under
way or of the refusal, by what there is among the candidates. -/
theorem selectTemplate_cases (hunique : NamesUnique candidates) :
    (∃ u, selectTemplate candidates overrides gpus = .selected u ∧
        StrictlyBest (Kept candidates overrides gpus) u) ∨
      (∃ p, selectTemplate candidates overrides gpus = .failed p ∧
        p.reason = Reason.templateSelectionAmbiguous ∧
          BestShared (Kept candidates overrides gpus)) ∨
      (selectTemplate candidates overrides gpus =
          .notReady (availableAmong candidates overrides gpus).length ∧
        NoneReadyYet candidates overrides gpus) ∨
      ∃ p, selectTemplate candidates overrides gpus = .failed p ∧
        Refused candidates overrides gpus p := by
  rcases eligible_or_noneReadyYet_or_refused candidates overrides gpus with
    ⟨t, ht⟩ | hwait | ⟨p, hp⟩
  · rcases selectTemplate_cases_of_eligible hunique ht with hbest | hshared
    · exact Or.inl hbest
    · exact Or.inr (Or.inl hshared)
  · exact Or.inr (Or.inr (Or.inl ⟨selectTemplate_of_noneReadyYet hwait, hwait⟩))
  · exact Or.inr (Or.inr (Or.inr ⟨p, selectTemplate_of_refused hp, hp⟩))

theorem selectTemplate_eq_selected_iff (hunique : NamesUnique candidates) :
    selectTemplate candidates overrides gpus = .selected t ↔
      StrictlyBest (Kept candidates overrides gpus) t := by
  constructor
  · intro h
    rcases selectTemplate_cases hunique with
      ⟨u, heq, hbest⟩ | ⟨p, heq, -, -⟩ | ⟨heq, -⟩ | ⟨p, heq, -⟩ <;> cases h.symm.trans heq
    exact hbest
  · intro ht
    rcases selectTemplate_cases_of_eligible hunique ht.1.toEligible with
      ⟨u, heq, hu⟩ | ⟨p, -, -, hshared⟩
    · rw [heq, ht.unique hu]
    · exact absurd hshared ht.not_bestShared

theorem selectTemplate_ambiguous_iff (hunique : NamesUnique candidates) :
    (∃ p, selectTemplate candidates overrides gpus = .failed p ∧
        p.reason = Reason.templateSelectionAmbiguous) ↔
      BestShared (Kept candidates overrides gpus) := by
  constructor
  · rintro ⟨p, h, hreason⟩
    rcases selectTemplate_cases hunique with
      ⟨u, heq, -⟩ | ⟨q, -, -, hshared⟩ | ⟨heq, -⟩ | ⟨q, heq, hrefused⟩
    · cases h.symm.trans heq
    · exact hshared
    · cases h.symm.trans heq
    · cases h.symm.trans heq
      exact absurd hreason hrefused.reason_ne
  · intro hshared
    obtain ⟨a, -, -, ha, -⟩ := id hshared
    rcases selectTemplate_cases_of_eligible hunique ha.toEligible with
      ⟨u, -, hu⟩ | ⟨p, heq, hreason, -⟩
    · exact absurd hshared hu.not_bestShared
    · exact ⟨p, heq, hreason⟩

theorem selectTemplate_eq_notReady_iff (hunique : NamesUnique candidates) {n : ℕ} :
    selectTemplate candidates overrides gpus = .notReady n ↔
      n = (availableAmong candidates overrides gpus).length ∧
        NoneReadyYet candidates overrides gpus := by
  constructor
  · intro h
    rcases selectTemplate_cases hunique with
      ⟨u, heq, -⟩ | ⟨p, heq, -, -⟩ | ⟨heq, hwait⟩ | ⟨p, heq, -⟩ <;> cases h.symm.trans heq
    exact ⟨rfl, hwait⟩
  · rintro ⟨rfl, hwait⟩
    exact selectTemplate_of_noneReadyYet hwait

theorem selectTemplate_refused_iff (hunique : NamesUnique candidates) :
    selectTemplate candidates overrides gpus = .failed p ∧
        p.reason ≠ Reason.templateSelectionAmbiguous ↔
      Refused candidates overrides gpus p := by
  constructor
  · rintro ⟨h, hreason⟩
    rcases selectTemplate_cases hunique with
      ⟨u, heq, -⟩ | ⟨q, heq, hambiguous, -⟩ | ⟨heq, -⟩ | ⟨q, heq, hrefused⟩ <;>
        cases h.symm.trans heq
    · exact absurd hambiguous hreason
    · exact hrefused
  · exact fun h => ⟨selectTemplate_of_refused h, h.reason_ne⟩

theorem selectTemplate_perm (hunique : NamesUnique candidates)
    (h : candidates.Perm candidates') :
    selectTemplate candidates' overrides gpus = selectTemplate candidates overrides gpus := by
  have hcompatible := h.filter fun t => overrides.all fun o => satisfies t.spec o
  have havailable : (availableAmong candidates overrides gpus).Perm
      (availableAmong candidates' overrides gpus) := availableAmong_perm h
  have hhealth := selectByHealth_perm
    (hunique.sublist (availableAmong_sublist candidates overrides gpus)) havailable
  unfold availableAmong at havailable hhealth
  unfold selectTemplate
  dsimp only
  rw [hhealth, h.isEmpty_eq, hcompatible.isEmpty_eq, havailable.isEmpty_eq, h.length_eq]

end

def readyTemplate (name metric : String) (scope : ResourceScope) : TemplateRecord :=
  { (default : TemplateRecord) with
    name := name
    scope := scope
    spec := { TemplateSpec.empty with metric := some metric }
    status := { TemplateStatus.initial with status := .ready } }

def clusterAndOwn : List TemplateRecord :=
  [readyTemplate "fast" "latency" .cluster, readyTemplate "own" "throughput" .namespaced]

end InferenceReconciler
