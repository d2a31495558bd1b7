import InferenceReconciler.Proofs.PlanContents

/-!
# Digests in names

What stands behind the last dash of a derived name is the whole digest of what the object is
made from. So objects of one name are made from the same, unless the digest, which is cut to a
few digits, fails to tell them apart.
-/

namespace InferenceReconciler

theorem eq_of_append_dash_eq {a b x y : List Char} (hx : '-' ∉ x) (hy : '-' ∉ y)
    (h : a ++ '-' :: x = b ++ '-' :: y) : x = y := by
  have hbehind : ∀ (l z : List Char), '-' ∉ z →
      (l ++ '-' :: z).reverse.takeWhile (· ≠ '-') = z.reverse := by
    intro l z hz
    have hletters : ∀ c ∈ z.reverse, (decide (c ≠ '-')) = true := by
      intro c hc
      exact decide_eq_true fun hdash => hz (hdash ▸ List.mem_reverse.1 hc)
    rw [List.reverse_append, List.reverse_cons, List.append_assoc,
      List.takeWhile_append_of_pos hletters, List.singleton_append,
      List.takeWhile_cons_of_neg (by decide), List.append_nil]
  have hreverse : x.reverse = y.reverse := by
    rw [← hbehind a x hx, h, hbehind b y hy]
  exact List.reverse_inj.1 hreverse

/-- Different inputs that the digest does not tell apart. -/
structure DigestsCollide (length : Nat) (u v : List Json) : Prop where
  different : u ≠ v
  digest : hashValues u length = hashValues v length

theorem dash_not_mem_hexDigest (message : List UInt8) : '-' ∉ Sha256.hexDigest message := by
  have hdigit : ∀ k < 16, Nat.digitChar k ≠ '-' := by decide
  intro h
  obtain ⟨w, -, hw⟩ := List.mem_flatMap.1 h
  obtain ⟨i, -, hi⟩ := List.mem_map.1 hw
  exact hdigit _ (Nat.mod_lt _ (by decide)) hi

theorem dash_not_mem_hashValues (values : List Json) (length : Nat) :
    '-' ∉ (hashValues values length).toList := by
  unfold hashValues shortHash
  rw [String.toList_ofList]
  exact fun h => dash_not_mem_hexDigest _ (List.mem_of_mem_take h)

/-- The name is the digest, or it ends in a dash and the digest. -/
def EndsInDigest (name : String) (hashed : List Json) (length : Nat) : Prop :=
  ∃ stem, '-' :: name.toList = stem ++ '-' :: (hashValues hashed length).toList

namespace EndsInDigest

variable {name : String} {u v : List Json} {m n : Nat}

theorem hashValues_eq (h : EndsInDigest name u m) (h' : EndsInDigest name v n) :
    hashValues u m = hashValues v n := by
  obtain ⟨stem, hstem⟩ := h
  obtain ⟨stem', hstem'⟩ := h'
  apply String.toList_inj.1
  exact eq_of_append_dash_eq (dash_not_mem_hashValues u m) (dash_not_mem_hashValues v n)
    (hstem.symm.trans hstem')

theorem length_eq (h : EndsInDigest name u m) (h' : EndsInDigest name v n) (hm : m ≤ 64)
    (hn : n ≤ 64) : m = n := by
  have hlength := congrArg String.length (hashValues_eq h h')
  unfold hashValues at hlength
  rw [length_shortHash, length_shortHash] at hlength
  omega

theorem eq_or_collide (h : EndsInDigest name u n) (h' : EndsInDigest name v n) :
    u = v ∨ DigestsCollide n u v := by
  by_cases huv : u = v
  · exact Or.inl huv
  · exact Or.inr ⟨huv, hashValues_eq h h'⟩

theorem of_intercalate (segments : List String) :
    EndsInDigest ("-".intercalate (segments ++ [hashValues u n])) u n := by
  by_cases hnil : segments = []
  · subst hnil
    exact ⟨[], by simp⟩
  · refine ⟨'-' :: ("-".intercalate segments).toList, ?_⟩
    rw [String.intercalate_append_of_ne_nil hnil (List.cons_ne_nil _ _)]
    simp

theorem append_left (h : EndsInDigest name u n) (before : String) :
    EndsInDigest (before ++ "-" ++ name) u n := by
  obtain ⟨stem, hstem⟩ := h
  refine ⟨'-' :: (before.toList ++ stem), ?_⟩
  have hdash : "-".toList = ['-'] := rfl
  rw [String.toList_append, String.toList_append, hdash, List.append_assoc,
    List.singleton_append, hstem, List.cons_append, List.append_assoc]

end EndsInDigest

theorem endsInDigest_derivedNameWith {options : NameOptions} {hashed : List Json}
    (hh : hashed ≠ []) (hl : options.hashLength ≠ 0) (parts : List String) :
    EndsInDigest (derivedNameWith options parts hashed) hashed options.hashLength := by
  have hhash : (if hashed.isEmpty || options.hashLength == 0 then none
      else some (hashValues hashed options.hashLength)) =
        some (hashValues hashed options.hashLength) := by
    rw [if_neg (by simp [hh, hl])]
  unfold derivedNameWith
  dsimp only
  rw [hhash]
  exact .of_intercalate _

theorem endsInDigest_derivedName {hashed : List Json} (hh : hashed ≠ []) (parts : List String) :
    EndsInDigest (derivedName parts hashed) hashed 8 := by
  have hlength : NameOptions.standard.hashLength ≠ 0 := by decide
  exact endsInDigest_derivedNameWith hh hlength parts

theorem endsInDigest_autoModelName {image name : String} (h : autoModelName image = .ok name) :
    EndsInDigest name [.str image] 4 := by
  obtain ⟨r, -, rfl⟩ := exists_of_map_eq_ok h
  have hlength : (NameOptions.withHashLength 4).hashLength ≠ 0 := by decide
  exact endsInDigest_derivedNameWith (List.cons_ne_nil _ _) hlength _

theorem endsInDigest_customModelName {m : CustomModel} {name : String}
    (h : customModelName m = .ok name) : EndsInDigest name m.hashed 8 := by
  obtain ⟨r, -, rfl⟩ := exists_of_map_eq_ok h
  exact endsInDigest_derivedName (List.cons_ne_nil _ _) _

theorem endsInDigest_derivedTemplateName {o : TemplateOverrides} (h : o.isEmpty = false)
    (base : String) : EndsInDigest (derivedTemplateName base (some o)) [Wire.write o] 8 := by
  have hsuffix : EndsInDigest (overrideSuffix o) [Wire.write o] 8 := .of_intercalate _
  unfold derivedTemplateName
  simp only [Option.filter_some, h, Bool.not_false, if_true]
  split
  · exact endsInDigest_derivedName (List.cons_ne_nil _ _) _
  · split
    · exact hsuffix
    · exact hsuffix.append_left _

end InferenceReconciler
