import InferenceReconciler.Proofs.SettledTemplate
import Mathlib.Data.Prod.Lex
import Mathlib.Data.String.Basic

/-!
# The order of templates

Ranks are ordered by their places, and templates of one scope by rank and name, so a sorted list
of them does not depend on where it came from. Of the ready templates, those of the namespace
where there are any, the one that ranks strictly before all others is the best one; else two of
them share the best rank.
-/

namespace InferenceReconciler

theorem NamesUnique.nodup {l : List TemplateRecord} (h : NamesUnique l) : l.Nodup :=
  List.Nodup.of_map _ h

theorem NamesUnique.sublist {l l' : List TemplateRecord} (h : NamesUnique l)
    (hsub : l'.Sublist l) : NamesUnique l' :=
  List.Nodup.sublist (hsub.map _) h

/-- The four places, the first that differs decides. -/
def TemplateRank.key (r : TemplateRank) : ℕ ×ₗ ℕ ×ₗ ℕ ×ₗ ℕ :=
  toLex (r.profileType, toLex (r.gpu, toLex (r.metric, r.precision)))

theorem TemplateRank.compare_eq (a b : TemplateRank) :
    a.compare b = Ord.compare a.key b.key := by
  simp [TemplateRank.compare, key, Prod.Lex.compare_def, compareLex, compareOn]

theorem TemplateRank.compare_eq_eq_iff {a b : TemplateRank} :
    a.compare b = .eq ↔ a.key = b.key := by
  rw [compare_eq, compare_eq_iff_eq]

namespace TemplateRecord

def key (t : TemplateRecord) : (ℕ ×ₗ ℕ ×ₗ ℕ ×ₗ ℕ) ×ₗ String := toLex (t.rank.key, t.name)

theorem noWorse_iff {a b : TemplateRecord} : a.noWorse b = true ↔ a.key ≤ b.key := by
  have hcompare : (a.rank.compare b.rank).then (Ord.compare a.name b.name) =
      Ord.compare a.key b.key := by
    rw [TemplateRank.compare_eq]
    simp [key, Prod.Lex.compare_def, compareLex, compareOn]
  unfold noWorse
  rw [hcompare]
  exact Ordering.isLE_iff_ne_gt.trans compare_le_iff_le

theorem rank_key_le {a b : TemplateRecord} (h : a.key ≤ b.key) : a.rank.key ≤ b.rank.key := by
  rcases Prod.Lex.le_iff.1 h with hlt | heq
  · exact hlt.le
  · exact heq.1.le

theorem pairwise_mergeSort (l : List TemplateRecord) :
    (l.mergeSort noWorse).Pairwise fun a b => a.key ≤ b.key := by
  have hsorted := @List.pairwise_mergeSort _ noWorse
    (fun a b c hab hbc => noWorse_iff.2 ((noWorse_iff.1 hab).trans (noWorse_iff.1 hbc)))
    (fun a b => by
      rw [Bool.or_eq_true, noWorse_iff, noWorse_iff]
      exact le_total a.key b.key) l
  exact hsorted.imp noWorse_iff.1

end TemplateRecord

/-- The one of the set that ranks strictly before all others. -/
def StrictlyBest (s : TemplateRecord → Prop) (t : TemplateRecord) : Prop :=
  s t ∧ ∀ u, s u → u ≠ t → t.rank.key < u.rank.key

/-- Two of the set share its best rank. -/
def BestShared (s : TemplateRecord → Prop) : Prop :=
  ∃ a b, a ≠ b ∧ s a ∧ s b ∧ a.rank.key = b.rank.key ∧ ∀ u, s u → a.rank.key ≤ u.rank.key

section

variable {s : TemplateRecord → Prop} {t u : TemplateRecord}

theorem StrictlyBest.unique (ht : StrictlyBest s t) (hu : StrictlyBest s u) : t = u := by
  by_contra hne
  exact lt_asymm (ht.2 u hu.1 (Ne.symm hne)) (hu.2 t ht.1 hne)

theorem StrictlyBest.not_bestShared (ht : StrictlyBest s t) : ¬ BestShared s := by
  rintro ⟨a, b, hne, ha, hb, hsame, hleast⟩
  by_cases hat : a = t
  · have hlt := ht.2 b hb (hat ▸ hne.symm)
    rw [← hsame, hat] at hlt
    exact lt_irrefl _ hlt
  · exact absurd (hleast t ht.1) (not_le.2 (ht.2 a ha hat))

end

section

variable {l l' candidates : List TemplateRecord} {t : TemplateRecord}

theorem mem_preferNamespaced_iff :
    t ∈ preferNamespaced l ↔
      t ∈ l ∧ (t.scope = .namespaced ∨ ∀ u ∈ l, u.scope ≠ .namespaced) := by
  unfold preferNamespaced
  split
  · rename_i hany
    obtain ⟨u, hu, hscope⟩ := List.any_eq_true.1 hany
    have hsome : ¬ ∀ u ∈ l, u.scope ≠ .namespaced :=
      fun hnone => hnone u hu (of_decide_eq_true hscope)
    simp [hsome]
  · rename_i hany
    have hnone : ∀ u ∈ l, u.scope ≠ .namespaced := by simpa using hany
    simp only [iff_self_and]
    exact fun _ => Or.inr hnone

theorem scope_eq_of_mem_preferNamespaced {a b : TemplateRecord} (ha : a ∈ preferNamespaced l)
    (hb : b ∈ preferNamespaced l) : a.scope = b.scope := by
  obtain ⟨hal, hascope⟩ := mem_preferNamespaced_iff.1 ha
  obtain ⟨hbl, hbscope⟩ := mem_preferNamespaced_iff.1 hb
  have hcluster : ∀ {c : ResourceScope}, c ≠ .namespaced → c = .cluster := by
    intro c hc
    cases c with
    | namespaced => exact absurd rfl hc
    | cluster => rfl
  rcases hascope with hscope | hnone
  · rcases hbscope with hscope' | hnone
    · rw [hscope, hscope']
    · exact absurd hscope (hnone a hal)
  · rw [hcluster (hnone a hal), hcluster (hnone b hbl)]

theorem preferNamespaced_sublist (l : List TemplateRecord) : (preferNamespaced l).Sublist l := by
  unfold preferNamespaced
  split
  · exact List.filter_sublist
  · exact List.Sublist.refl l

theorem preferNamespaced_perm (h : l.Perm l') :
    (preferNamespaced l).Perm (preferNamespaced l') := by
  unfold preferNamespaced
  rw [h.any_eq]
  split
  · exact h.filter _
  · exact h

theorem eq_of_key_eq (hunique : NamesUnique l) {a b : TemplateRecord}
    (ha : a ∈ preferNamespaced l) (hb : b ∈ preferNamespaced l) (h : a.key = b.key) : a = b := by
  have hname : a.name = b.name := congrArg (fun k => (ofLex k).2) h
  have hpair : (a.scope, a.name) = (b.scope, b.name) := by
    rw [scope_eq_of_mem_preferNamespaced ha hb, hname]
  exact List.inj_on_of_nodup_map hunique (mem_preferNamespaced ha) (mem_preferNamespaced hb) hpair

theorem bestOf_perm (hunique : NamesUnique l) (h : l.Perm l') : bestOf l' = bestOf l := by
  have hperm := preferNamespaced_perm h
  have hsorted : (preferNamespaced l').mergeSort TemplateRecord.noWorse =
      (preferNamespaced l).mergeSort TemplateRecord.noWorse := by
    refine List.Perm.eq_of_pairwise ?_ (TemplateRecord.pairwise_mergeSort _)
      (TemplateRecord.pairwise_mergeSort _) ?_
    · intro a b ha hb hab hba
      exact eq_of_key_eq hunique (hperm.mem_iff.2 (List.mem_mergeSort.1 ha))
        (List.mem_mergeSort.1 hb) (le_antisymm hab hba)
    · exact (List.mergeSort_perm _ _).trans (hperm.symm.trans (List.mergeSort_perm _ _).symm)
  unfold bestOf
  rw [hsorted]

theorem preferNamespaced_ne_nil (h : l ≠ []) : preferNamespaced l ≠ [] := by
  unfold preferNamespaced
  split
  · rename_i hany
    obtain ⟨t, ht, hscope⟩ := List.any_eq_true.1 hany
    exact List.ne_nil_of_mem (List.mem_filter.2 ⟨ht, hscope⟩)
  · exact h

section

variable {first second u : TemplateRecord} {rest : List TemplateRecord}

theorem rank_le_of_sorted (hsorted : (first :: rest).Pairwise fun a b => a.key ≤ b.key)
    (hu : u ∈ first :: rest) : first.rank.key ≤ u.rank.key := by
  rcases List.mem_cons.1 hu with rfl | hu
  · exact le_rfl
  · exact TemplateRecord.rank_key_le ((List.pairwise_cons.1 hsorted).1 u hu)

theorem bestShared_of_sorted
    (hsorted : (first :: second :: rest).Pairwise fun a b => a.key ≤ b.key)
    (hne : first ≠ second) (hsame : first.rank.key = second.rank.key) :
    BestShared (· ∈ first :: second :: rest) :=
  ⟨first, second, hne, List.mem_cons_self, List.mem_cons_of_mem _ List.mem_cons_self, hsame,
    fun _ hu => rank_le_of_sorted hsorted hu⟩

/-- Behind the first nothing ranks before the second, so these two settle which is the best. -/
theorem strictlyBest_of_sorted
    (hsorted : (first :: second :: rest).Pairwise fun a b => a.key ≤ b.key)
    (hother : first.rank.key ≠ second.rank.key) :
    StrictlyBest (· ∈ first :: second :: rest) first := by
  refine ⟨List.mem_cons_self, fun u hu hne => ?_⟩
  have hlt : first.rank.key < second.rank.key :=
    lt_of_le_of_ne (rank_le_of_sorted hsorted (List.mem_cons_of_mem _ List.mem_cons_self)) hother
  have hle : second.rank.key ≤ u.rank.key :=
    rank_le_of_sorted (List.pairwise_cons.1 hsorted).2 (List.mem_of_ne_of_mem hne hu)
  exact hlt.trans_le hle

end

/-- Of some ready templates the strictly best is selected, or else the best rank is shared. -/
theorem bestOf_cases (hnodup : l.Nodup) (hne : l ≠ []) :
    (∃ t, bestOf l = .selected t ∧ StrictlyBest (· ∈ preferNamespaced l) t) ∨
      ∃ p, bestOf l = .failed p ∧ p.reason = Reason.templateSelectionAmbiguous ∧
        BestShared (· ∈ preferNamespaced l) := by
  have hsorted := TemplateRecord.pairwise_mergeSort (preferNamespaced l)
  have hperm := List.mergeSort_perm (preferNamespaced l) TemplateRecord.noWorse
  have hdistinct := hperm.nodup_iff.2 (hnodup.sublist (preferNamespaced_sublist l))
  have hmem : (· ∈ preferNamespaced l) =
      (· ∈ (preferNamespaced l).mergeSort TemplateRecord.noWorse) :=
    funext fun u => propext hperm.mem_iff.symm
  unfold bestOf
  rw [hmem]
  cases hranked : (preferNamespaced l).mergeSort TemplateRecord.noWorse with
  | nil =>
    rw [hranked] at hperm
    exact absurd hperm.nil_eq.symm (preferNamespaced_ne_nil hne)
  | cons first rest =>
    rw [hranked] at hsorted hdistinct
    cases rest with
    | nil =>
      refine Or.inl ⟨first, rfl, List.mem_cons_self, fun u hu hother => ?_⟩
      exact absurd (List.mem_singleton.1 hu) hother
    | cons second rest =>
      have hne : first ≠ second := fun heq =>
        (List.nodup_cons.1 hdistinct).1 (heq ▸ List.mem_cons_self)
      dsimp only
      by_cases hsame : first.rank.key = second.rank.key
      · rw [if_pos (TemplateRank.compare_eq_eq_iff.2 hsame)]
        exact Or.inr ⟨_, rfl, rfl, bestShared_of_sorted hsorted hne hsame⟩
      · rw [if_neg fun h => hsame (TemplateRank.compare_eq_eq_iff.1 h)]
        exact Or.inl ⟨first, rfl, strictlyBest_of_sorted hsorted hsame⟩

end

end InferenceReconciler
