import InferenceReconciler.StatusProjection

/-!
# Conditions by type

Setting a condition and removing one each touch the conditions of one type only, and there
they act as if no others were present. So reports of different components do not interfere:
each leaves its own mark, and making all of them a second time changes nothing, not even a
time of transition.
-/

namespace InferenceReconciler

def conditionsOfType (type : String) (l : List Condition) : List Condition :=
  l.filter fun c => c.type = type

@[simp] theorem conditionsOfType_nil (type : String) : conditionsOfType type [] = [] := rfl

theorem conditionsOfType_cons (type : String) (c : Condition) (l : List Condition) :
    conditionsOfType type (c :: l) =
      if c.type = type then c :: conditionsOfType type l else conditionsOfType type l := by
  simp only [conditionsOfType, List.filter_cons, decide_eq_true_eq]

theorem type_of_mem_conditionsOfType {type : String} {c : Condition} {l : List Condition}
    (h : c ∈ conditionsOfType type l) : c.type = type := by
  simpa using (List.mem_filter.1 h).2

theorem conditionsOfType_idem (type : String) (l : List Condition) :
    conditionsOfType type (conditionsOfType type l) = conditionsOfType type l := by
  simp [conditionsOfType]

theorem length_conditionsOfType_le_one {l : List Condition} (h : (l.map (·.type)).Nodup)
    (type : String) : (conditionsOfType type l).length ≤ 1 := by
  induction l with
  | nil => simp
  | cons c rest ih =>
    rw [List.map_cons, List.nodup_cons] at h
    rw [conditionsOfType_cons]
    split
    · rename_i hc
      have hrest : conditionsOfType type rest = [] := by
        apply List.filter_eq_nil_iff.2
        intro d hd hdt
        exact h.1 (List.mem_map.2 ⟨d, hd, (of_decide_eq_true hdt).trans hc.symm⟩)
      simp [hrest]
    · exact ih h.2

namespace Condition

theorem succeeding_succeeding {old new again : Condition} (h : again.sameState new = true) :
    (old.succeeding new).succeeding again = old.succeeding new := by
  obtain ⟨t, s, r, m, time⟩ := new
  obtain ⟨t', s', r', m', time'⟩ := again
  simp only [sameState, Bool.and_eq_true, decide_eq_true_eq] at h
  obtain ⟨⟨⟨rfl, rfl⟩, rfl⟩, rfl⟩ := h
  by_cases hs : old.status = s' <;> simp [succeeding, hs]

end Condition

theorem conditionsOfType_setCondition_of_ne {new : Condition} {type : String}
    (h : new.type ≠ type) (l : List Condition) :
    conditionsOfType type (setCondition new l) = conditionsOfType type l := by
  induction l with
  | nil => simp [setCondition, conditionsOfType_cons, h]
  | cons old rest ih =>
    by_cases ho : old.type = new.type
    · have hne : old.type ≠ type := by rw [ho]; exact h
      simp [setCondition, conditionsOfType_cons, ho, h]
    · simp only [setCondition, if_neg ho, conditionsOfType_cons, ih]

theorem conditionsOfType_setCondition_self (new : Condition) (l : List Condition) :
    conditionsOfType new.type (setCondition new l) =
      setCondition new (conditionsOfType new.type l) := by
  induction l with
  | nil => simp [setCondition, conditionsOfType_cons]
  | cons old rest ih =>
    by_cases ho : old.type = new.type
    · simp [setCondition, conditionsOfType_cons, ho]
    · simp only [setCondition, if_neg ho, conditionsOfType_cons, ih]

theorem setCondition_setCondition {new again : Condition} (h : again.sameState new = true)
    (l : List Condition) :
    setCondition again (setCondition new l) = setCondition new l := by
  have ht : again.type = new.type := by
    simp only [Condition.sameState, Bool.and_eq_true, decide_eq_true_eq] at h
    exact h.1.1.1
  have hself : new.succeeding again = new := by
    simp only [Condition.sameState, Bool.and_eq_true, decide_eq_true_eq] at h
    obtain ⟨⟨⟨h1, h2⟩, h3⟩, h4⟩ := h
    cases new
    cases again
    simp_all [Condition.succeeding]
  induction l with
  | nil => simp [setCondition, ht, hself]
  | cons old rest ih =>
    by_cases ho : old.type = new.type
    · simp [setCondition, ho, ht, Condition.succeeding_succeeding h]
    · simp only [setCondition, if_neg ho, ht, ih]

theorem setCondition_eq_self_iff (new : Condition) (l : List Condition) :
    setCondition new l = l ↔
      setCondition new (conditionsOfType new.type l) = conditionsOfType new.type l := by
  induction l with
  | nil => simp
  | cons old rest ih =>
    by_cases ho : old.type = new.type
    · simp [setCondition, conditionsOfType_cons, ho]
    · simp only [setCondition, if_neg ho, conditionsOfType_cons, List.cons.injEq, true_and, ih]

theorem conditionsOfType_removeCondition_of_ne {removed type : String} (h : removed ≠ type)
    (l : List Condition) :
    conditionsOfType type (removeCondition removed l) = conditionsOfType type l := by
  unfold conditionsOfType removeCondition
  rw [List.filter_filter]
  apply List.filter_congr
  intro c _
  by_cases hc : c.type = type
  · simp [hc, h.symm]
  · simp [hc]

@[simp] theorem conditionsOfType_removeCondition_self (type : String) (l : List Condition) :
    conditionsOfType type (removeCondition type l) = [] := by
  simp [conditionsOfType, removeCondition, List.filter_filter]

theorem removeCondition_eq_self_iff (type : String) (l : List Condition) :
    removeCondition type l = l ↔ conditionsOfType type l = [] := by
  simp [removeCondition, conditionsOfType, List.filter_eq_self, List.filter_eq_nil_iff]

theorem removeCondition_conditionsOfType (type : String) (l : List Condition) :
    removeCondition type (conditionsOfType type l) = [] := by
  simp [conditionsOfType, removeCondition, List.filter_filter]

namespace Report

theorem eq_silent_of_component? {r : Report} (h : r.component? = none) : r = .silent := by
  cases r with
  | silent => rfl
  | notApplicable c => cases h
  | health h' => cases h

theorem conditionsOfType_applyConditions_of_type_ne {r : Report} {type : String}
    (h : ∀ c, r.component? = some c → c.conditionType ≠ type) (now : Timestamp)
    (l : List Condition) :
    conditionsOfType type (r.applyConditions now l) = conditionsOfType type l := by
  cases r with
  | silent => rfl
  | notApplicable d => exact conditionsOfType_removeCondition_of_ne (h d rfl) l
  | health d => exact conditionsOfType_setCondition_of_ne (h d.component rfl) l

theorem conditionsOfType_applyConditions_of_ne {r : Report} {c : Component}
    (h : r.component? ≠ some c) (now : Timestamp) (l : List Condition) :
    conditionsOfType c.conditionType (r.applyConditions now l) =
      conditionsOfType c.conditionType l := by
  apply conditionsOfType_applyConditions_of_type_ne
  intro d hd ht
  exact h (hd.trans (congrArg some (Component.conditionType_injective ht)))

theorem conditionsOfType_applyConditions_self {r : Report} {c : Component}
    (h : r.component? = some c) (now : Timestamp) (l : List Condition) :
    conditionsOfType c.conditionType (r.applyConditions now l) =
      r.applyConditions now (conditionsOfType c.conditionType l) := by
  cases r with
  | silent => cases h
  | notApplicable d =>
    cases h
    simp only [applyConditions, conditionsOfType_removeCondition_self,
      removeCondition_conditionsOfType]
  | health d =>
    cases h
    exact conditionsOfType_setCondition_self (d.condition now) l

/-- The conditions already say what the report says, so reporting again at any time changes
nothing. -/
def Settled (r : Report) (l : List Condition) : Prop := ∀ now, r.applyConditions now l = l

theorem settled_applyConditions (r : Report) (now : Timestamp) (l : List Condition) :
    r.Settled (r.applyConditions now l) := by
  intro later
  cases r with
  | silent => rfl
  | notApplicable c => simp [applyConditions, removeCondition]
  | health h =>
    apply setCondition_setCondition
    simp [Condition.sameState, ComponentHealth.condition]

/-- Whether a report is settled shows in the conditions of its own type. -/
theorem settled_iff_conditionsOfType {r : Report} {c : Component} (h : r.component? = some c)
    (l : List Condition) : r.Settled l ↔ r.Settled (conditionsOfType c.conditionType l) := by
  cases r with
  | silent => cases h
  | notApplicable d =>
    cases h
    simp only [Settled, applyConditions, removeCondition_eq_self_iff, conditionsOfType_idem]
  | health d =>
    cases h
    exact forall_congr' fun now => setCondition_eq_self_iff (d.condition now) l

end Report

/-- No component is reported on twice. A report that says nothing is on no component. -/
def ReportedOnce (rs : List Report) : Prop :=
  rs.Pairwise fun r r' => ∀ c, r.component? = some c → r'.component? ≠ some c

def applyReports (now : Timestamp) (rs : List Report) (l : List Condition) : List Condition :=
  rs.foldl (fun l r => r.applyConditions now l) l

@[simp] theorem applyReports_nil (now : Timestamp) (l : List Condition) :
    applyReports now [] l = l := rfl

theorem applyReports_cons (now : Timestamp) (r : Report) (rs : List Report)
    (l : List Condition) :
    applyReports now (r :: rs) l = applyReports now rs (r.applyConditions now l) := rfl

section

variable {rs : List Report} (now : Timestamp) (l : List Condition)

theorem conditionsOfType_applyReports_of_type_ne {type : String}
    (h : ∀ r ∈ rs, ∀ c, r.component? = some c → c.conditionType ≠ type) :
    conditionsOfType type (applyReports now rs l) = conditionsOfType type l := by
  induction rs generalizing l with
  | nil => rfl
  | cons r rest ih =>
    rw [applyReports_cons, ih _ fun q hq => h q (List.mem_cons_of_mem r hq),
      Report.conditionsOfType_applyConditions_of_type_ne (h r List.mem_cons_self)]

theorem conditionsOfType_applyReports_of_not_mem {c : Component}
    (h : ∀ r ∈ rs, r.component? ≠ some c) :
    conditionsOfType c.conditionType (applyReports now rs l) =
      conditionsOfType c.conditionType l := by
  apply conditionsOfType_applyReports_of_type_ne
  intro r hr d hd ht
  exact h r hr (hd.trans (congrArg some (Component.conditionType_injective ht)))

/-- Among reports of different components, the conditions of a component are those its own
report makes of them. -/
theorem conditionsOfType_applyReports_of_mem {r : Report} {c : Component} (hr : r ∈ rs)
    (hc : r.component? = some c) (hd : ReportedOnce rs) :
    conditionsOfType c.conditionType (applyReports now rs l) =
      r.applyConditions now (conditionsOfType c.conditionType l) := by
  induction rs generalizing l with
  | nil => cases hr
  | cons q rest ih =>
    unfold ReportedOnce at hd ih
    rw [List.pairwise_cons] at hd
    rw [applyReports_cons]
    rcases List.mem_cons.1 hr with rfl | hmem
    · rw [conditionsOfType_applyReports_of_not_mem now _ fun q' hq' => hd.1 q' hq' c hc,
        Report.conditionsOfType_applyConditions_self hc]
    · have hne : q.component? ≠ some c := fun heq => hd.1 r hmem c heq hc
      rw [ih _ hmem hd.2, Report.conditionsOfType_applyConditions_of_ne hne]

theorem applyReports_of_settled (h : ∀ r ∈ rs, r.Settled l) : applyReports now rs l = l := by
  induction rs with
  | nil => rfl
  | cons r rest ih =>
    rw [applyReports_cons, h r List.mem_cons_self now]
    exact ih fun q hq => h q (List.mem_cons_of_mem r hq)

theorem applyReports_applyReports (later : Timestamp) (hd : ReportedOnce rs) :
    applyReports later rs (applyReports now rs l) = applyReports now rs l := by
  apply applyReports_of_settled
  intro r hr
  cases hc : r.component? with
  | none =>
    rw [Report.eq_silent_of_component? hc]
    exact fun _ => rfl
  | some c =>
    rw [Report.settled_iff_conditionsOfType hc,
      conditionsOfType_applyReports_of_mem now l hr hc hd]
    exact Report.settled_applyConditions r now _

end

end InferenceReconciler
