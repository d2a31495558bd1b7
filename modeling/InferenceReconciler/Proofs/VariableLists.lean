import InferenceReconciler.ConfigLayers
import InferenceReconciler.ServingEnvironment
import Mathlib.Data.List.Nodup

/-!
# Lists of variables

What a list of variables says is, for each name, the value that stands last. Layers of variables are
put together in two ways: laid over each other in the order in which the names first appear, and
collected in the order of the names. Both say what the layers say one after the other.
-/

namespace InferenceReconciler

theorem nodup_eraseDups {α : Type} [BEq α] [LawfulBEq α] : ∀ l : List α, l.eraseDups.Nodup
  | [] => .nil
  | a :: rest => by
    rw [List.eraseDups_cons]
    refine List.nodup_cons.2 ⟨fun ha => ?_, nodup_eraseDups _⟩
    have hkept := (List.mem_filter.1 (List.mem_eraseDups.1 ha)).2
    simp at hkept
termination_by l => l.length
decreasing_by exact Nat.lt_succ_of_le (List.length_filter_le _ _)

theorem eraseDups_of_nodup {α : Type} [BEq α] [LawfulBEq α] {l : List α} (h : l.Nodup) :
    l.eraseDups = l := by
  induction l with
  | nil => rfl
  | cons a rest ih =>
    obtain ⟨ha, hrest⟩ := List.nodup_cons.1 h
    have hkept : (rest.filter fun b => !b == a) = rest := by
      rw [List.filter_eq_self]
      intro b hb
      have hne : b ≠ a := fun hba => ha (hba ▸ hb)
      simp [hne]
    rw [List.eraseDups_cons, hkept, ih hrest]

theorem filter_eraseDups {α : Type} [BEq α] [LawfulBEq α] (p : α → Bool) :
    ∀ l : List α, l.eraseDups.filter p = (l.filter p).eraseDups
  | [] => rfl
  | a :: rest => by
    rw [List.eraseDups_cons, List.filter_cons, List.filter_cons, filter_eraseDups p,
      List.filter_filter]
    by_cases ha : p a = true
    · rw [if_pos ha, if_pos ha, List.eraseDups_cons, List.filter_filter]
      simp only [Bool.and_comm]
    · -- What is no repetition of `a` is all that the filter may keep anyway.
      have hsame : ∀ b ∈ rest, (p b && !b == a) = p b := by
        intro b _
        by_cases hb : b = a
        · simp [hb, ha]
        · simp [hb]
      rw [if_neg ha, if_neg ha, List.filter_congr hsame]
termination_by l => l.length
decreasing_by exact Nat.lt_succ_of_le (List.length_filter_le _ _)

def variableNames (env : List EnvVar) : List String := env.map (·.name)

theorem nodup_variableNames_nil : (variableNames []).Nodup := List.nodup_nil

/-- The value that a list gives to a name, the last one that it has for it. -/
def lastValue? (name : String) (env : List EnvVar) : Option String :=
  (env.findRev? fun v => v.name == name).map (·.value)

@[simp] theorem lastValue?_nil (name : String) : lastValue? name [] = none := rfl

theorem lastValue?_cons (name : String) (v : EnvVar) (rest : List EnvVar) :
    lastValue? name (v :: rest) =
      (lastValue? name rest <|> if v.name = name then some v.value else none) := by
  unfold lastValue?
  rw [List.findRev?]
  cases rest.findRev? fun v => v.name == name with
  | some last => rfl
  | none => by_cases h : v.name = name <;> simp [h]

theorem lastValue?_append (name : String) (env env' : List EnvVar) :
    lastValue? name (env ++ env') = (lastValue? name env' <|> lastValue? name env) := by
  induction env with
  | nil =>
    rw [List.nil_append, lastValue?_nil]
    cases lastValue? name env' <;> rfl
  | cons v rest ih =>
    rw [List.cons_append, lastValue?_cons, lastValue?_cons, ih]
    cases lastValue? name env' <;> rfl

theorem lastValue?_eq_none_iff {name : String} {env : List EnvVar} :
    lastValue? name env = none ↔ name ∉ variableNames env := by
  induction env with
  | nil => exact iff_of_true rfl List.not_mem_nil
  | cons v rest ih =>
    rw [lastValue?_cons]
    change _ ↔ name ∉ v.name :: variableNames rest
    rw [List.mem_cons, not_or, ← ih]
    by_cases hv : v.name = name
    · rw [if_pos hv]
      refine iff_of_false ?_ fun h => h.1 hv.symm
      cases lastValue? name rest <;> exact Option.some_ne_none _
    · rw [if_neg hv]
      cases lastValue? name rest with
      | none => exact iff_of_true rfl ⟨Ne.symm hv, rfl⟩
      | some value => exact iff_of_false (Option.some_ne_none _) fun h => Option.some_ne_none _ h.2

theorem isSome_lastValue?_iff {name : String} {env : List EnvVar} :
    (lastValue? name env).isSome = true ↔ name ∈ variableNames env := by
  rw [Option.isSome_iff_ne_none, Ne, lastValue?_eq_none_iff, not_not]

theorem lastValue?_of_mem {env : List EnvVar} (h : (variableNames env).Nodup) {v : EnvVar}
    (hv : v ∈ env) : lastValue? v.name env = some v.value := by
  induction env with
  | nil => cases hv
  | cons first rest ih =>
    obtain ⟨hfirst, hrest⟩ := List.nodup_cons.1 h
    rw [lastValue?_cons]
    rcases List.mem_cons.1 hv with rfl | hmem
    · rw [lastValue?_eq_none_iff.2 hfirst, if_pos rfl]
      rfl
    · rw [ih hrest hmem]
      rfl

theorem eq_of_lastValue?_eq {env env' : List EnvVar} (h : (variableNames env).Nodup)
    (hnames : variableNames env = variableNames env')
    (hvalues : ∀ name, lastValue? name env = lastValue? name env') : env = env' := by
  apply List.ext_getElem
  · simpa [variableNames] using congrArg List.length hnames
  · intro i hi hi'
    have hname : env[i].name = env'[i].name := by
      have hget := congrArg (·[i]?) hnames
      simpa [variableNames, hi, hi'] using hget
    have hvalue : some env[i].value = some env'[i].value := by
      rw [← lastValue?_of_mem h (List.getElem_mem hi),
        ← lastValue?_of_mem (hnames ▸ h) (List.getElem_mem hi'), hvalues, hname]
    generalize env[i] = v at hname hvalue ⊢
    generalize env'[i] = v' at hname hvalue ⊢
    obtain ⟨name, value⟩ := v
    cases hname
    cases hvalue
    rfl

theorem variableNames_setVariable (v : EnvVar) (env : List EnvVar) :
    variableNames (setVariable v env) =
      if v.name ∈ variableNames env then variableNames env
      else variableNames env ++ [v.name] := by
  induction env with
  | nil => rfl
  | cons old rest ih =>
    have hnames : variableNames (old :: rest) = old.name :: variableNames rest := rfl
    rw [setVariable, hnames]
    by_cases hold : old.name = v.name
    · rw [if_pos hold, if_pos (hold ▸ List.mem_cons_self)]
      rfl
    · rw [if_neg hold]
      change old.name :: variableNames (setVariable v rest) = _
      rw [ih]
      by_cases hmem : v.name ∈ variableNames rest
      · rw [if_pos hmem, if_pos (List.mem_cons_of_mem _ hmem)]
      · rw [if_neg hmem, if_neg (by simp [hmem, Ne.symm hold]), List.cons_append]

theorem nodup_setVariable {env : List EnvVar} (h : (variableNames env).Nodup) (v : EnvVar) :
    (variableNames (setVariable v env)).Nodup := by
  rw [variableNames_setVariable]
  split
  · exact h
  · rename_i hnew
    exact List.nodup_append.2 ⟨h, List.nodup_singleton _, by
      rintro a ha b hb rfl
      exact hnew (List.mem_singleton.1 hb ▸ ha)⟩

theorem lastValue?_setVariable {env : List EnvVar} (h : (variableNames env).Nodup) (v : EnvVar)
    (name : String) :
    lastValue? name (setVariable v env) =
      if v.name = name then some v.value else lastValue? name env := by
  induction env with
  | nil => exact lastValue?_cons name v []
  | cons old rest ih =>
    obtain ⟨hold, hrest⟩ := List.nodup_cons.1 h
    rw [setVariable]
    by_cases hset : old.name = v.name
    · have hnone : lastValue? old.name rest = none := lastValue?_eq_none_iff.2 hold
      rw [if_pos hset, lastValue?_cons, lastValue?_cons]
      by_cases hname : v.name = name
      · rw [if_pos hname, if_pos (hset.trans hname), ← hname, ← hset, hnone]
        rfl
      · rw [if_neg hname, if_neg fun h => hname (hset.symm.trans h),
          if_neg fun h => hname (hset.symm.trans h)]
    · rw [if_neg hset, lastValue?_cons, lastValue?_cons, ih hrest]
      by_cases hname : v.name = name
      · rw [if_pos hname, if_pos hname]
        rfl
      · rw [if_neg hname, if_neg hname]

theorem variableNames_overlayEnv (base top : List EnvVar) :
    variableNames (overlayEnv base top) = variableNames base ++
      ((variableNames top).filter fun name => name ∉ variableNames base).eraseDups := by
  induction top generalizing base with
  | nil => exact (List.append_nil _).symm
  | cons v rest ih =>
    have hnames : variableNames (v :: rest) = v.name :: variableNames rest := rfl
    change variableNames (overlayEnv (setVariable v base) rest) = _
    rw [ih, variableNames_setVariable, hnames]
    by_cases hmem : v.name ∈ variableNames base
    · rw [if_pos hmem, List.filter_cons_of_neg (by simpa using hmem)]
    · rw [if_neg hmem, List.filter_cons_of_pos (by simpa using hmem), List.eraseDups_cons,
        List.append_assoc, List.singleton_append, List.filter_filter]
      congr 3
      apply List.filter_congr
      intro name _
      by_cases hname : name = v.name
      · simp [hname]
      · simp [hname]

theorem nodup_overlayEnv {base : List EnvVar} (h : (variableNames base).Nodup)
    (top : List EnvVar) : (variableNames (overlayEnv base top)).Nodup := by
  induction top generalizing base with
  | nil => exact h
  | cons v rest ih => exact ih (nodup_setVariable h v)

theorem lastValue?_overlayEnv {base : List EnvVar} (h : (variableNames base).Nodup)
    (top : List EnvVar) (name : String) :
    lastValue? name (overlayEnv base top) = (lastValue? name top <|> lastValue? name base) := by
  induction top generalizing base with
  | nil =>
    rw [overlayEnv_nil, lastValue?_nil]
    cases lastValue? name base <;> rfl
  | cons v rest ih =>
    change lastValue? name (overlayEnv (setVariable v base) rest) = _
    rw [ih (nodup_setVariable h v), lastValue?_setVariable h, lastValue?_cons]
    cases lastValue? name rest with
    | some value => rfl
    | none => by_cases hv : v.name = name <;> simp [hv]

theorem overlayEnv_append (base env env' : List EnvVar) :
    overlayEnv base (env ++ env') = overlayEnv (overlayEnv base env) env' :=
  List.foldl_append

/-- The variables of a list, each name once and where it first appears. -/
def settledEnv (env : List EnvVar) : List EnvVar := overlayEnv [] env

theorem variableNames_settledEnv (env : List EnvVar) :
    variableNames (settledEnv env) = (variableNames env).eraseDups := by
  have hall : ((variableNames env).filter fun name => name ∉ variableNames []) =
      variableNames env := by
    rw [List.filter_eq_self]
    intro name _
    exact decide_eq_true List.not_mem_nil
  unfold settledEnv
  rw [variableNames_overlayEnv, hall]
  rfl

theorem nodup_settledEnv (env : List EnvVar) : (variableNames (settledEnv env)).Nodup :=
  nodup_overlayEnv nodup_variableNames_nil env

theorem lastValue?_settledEnv (env : List EnvVar) (name : String) :
    lastValue? name (settledEnv env) = lastValue? name env := by
  unfold settledEnv
  rw [lastValue?_overlayEnv nodup_variableNames_nil, lastValue?_nil]
  cases lastValue? name env <;> rfl

theorem settledEnv_of_nodup {env : List EnvVar} (h : (variableNames env).Nodup) :
    settledEnv env = env := by
  apply eq_of_lastValue?_eq (nodup_settledEnv env)
  · rw [variableNames_settledEnv, eraseDups_of_nodup h]
  · exact lastValue?_settledEnv env

/-- It makes no difference whether the upper variables are settled before they are laid over. -/
theorem overlayEnv_settledEnv {base : List EnvVar} (h : (variableNames base).Nodup)
    (top : List EnvVar) : overlayEnv base (settledEnv top) = overlayEnv base top := by
  apply eq_of_lastValue?_eq (nodup_overlayEnv h _)
  · rw [variableNames_overlayEnv, variableNames_overlayEnv, variableNames_settledEnv,
      filter_eraseDups, eraseDups_of_nodup (nodup_eraseDups _)]
  · intro name
    rw [lastValue?_overlayEnv h, lastValue?_overlayEnv h, lastValue?_settledEnv]

theorem overlayEnv_settledEnv_self (env : List EnvVar) :
    overlayEnv (settledEnv env) env = settledEnv env := by
  apply eq_of_lastValue?_eq (nodup_overlayEnv (nodup_settledEnv env) env)
  · have hnone : ((variableNames env).filter fun name =>
        name ∉ variableNames (settledEnv env)) = [] := by
      rw [List.filter_eq_nil_iff]
      intro name hname
      rw [variableNames_settledEnv, decide_eq_true_eq, not_not]
      exact List.mem_eraseDups.2 hname
    rw [variableNames_overlayEnv, hnone]
    exact List.append_nil _
  · intro name
    rw [lastValue?_overlayEnv (nodup_settledEnv env), lastValue?_settledEnv]
    cases lastValue? name env <;> rfl

theorem variableNames_mergeEnv (layers : List (List EnvVar)) :
    (variableNames (mergeEnv layers)).Pairwise (· < ·) := by
  unfold variableNames mergeEnv
  rw [List.map_map, List.pairwise_map]
  exact (Dict.ofList _).increasing

theorem lastValue?_map_entry (name : String) (entries : List (String × String)) :
    lastValue? name (entries.map fun e => ⟨e.1, e.2⟩) =
      (entries.findRev? fun e => e.1 == name).map (·.2) := by
  unfold lastValue?
  rw [List.findRev?_eq_find?_reverse, List.findRev?_eq_find?_reverse, ← List.map_reverse,
    List.find?_map, Option.map_map]
  rfl

theorem lastValue?_flatMap_id (name : String) (layers : List (List EnvVar)) :
    lastValue? name (layers.flatMap id) = layers.reverse.findSome? (lastValue? name) := by
  induction layers with
  | nil => rfl
  | cons layer rest ih =>
    rw [List.flatMap_cons, lastValue?_append, ih, List.reverse_cons, List.findSome?_append,
      List.findSome?_singleton]
    cases rest.reverse.findSome? (lastValue? name) <;> rfl

/-- The last layer that has a name gives it its value. -/
theorem lastValue?_mergeEnv (name : String) (layers : List (List EnvVar)) :
    lastValue? name (mergeEnv layers) = layers.reverse.findSome? (lastValue? name) := by
  have hentries : (layers.flatMap id) =
      ((layers.flatMap id).map fun v => (v.name, v.value)).map fun e => ⟨e.1, e.2⟩ := by
    rw [List.map_map]
    exact (List.map_id' _).symm
  unfold mergeEnv
  rw [lastValue?_map_entry, ← Dict.find?_eq_findRev?, Dict.find?_ofList, ← lastValue?_map_entry,
    ← hentries, lastValue?_flatMap_id]

end InferenceReconciler
