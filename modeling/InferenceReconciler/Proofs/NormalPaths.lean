import InferenceReconciler.Proofs.LegalNames
import InferenceReconciler.Proofs.PathSegments
import InferenceReconciler.Proofs.TemplateGrammar

/-!
# Normal paths

A normalized path is a slash, or a slash before each of its segments, which are labels of domains.
Such a path within the limit is its own normal form. Where no template is set, the path of a service
is made of its namespace and its identifier, and it belongs to no other service.
-/

namespace InferenceReconciler

/-- A segment of a path in normal form: small letters, digits and dashes, no more than sixty-three
and at least one, with no dash at either end. -/
def IsRouteSegment (s : String) : Prop :=
  isDomainLabel s.toList = true ∧ s.length ≤ 63

instance (s : String) : Decidable (IsRouteSegment s) :=
  inferInstanceAs (Decidable (_ ∧ _))

/-- A path in normal form is the root, or its segments with a slash before each. -/
def IsRoutePath (path : String) : Prop :=
  ∃ segments : List String, (∀ s ∈ segments, IsRouteSegment s) ∧ path = routeOf segments

theorem toList_routeOf {segments : List String} (h : segments ≠ []) :
    (routeOf segments).toList = slashedLetters segments := by
  induction segments with
  | nil => exact absurd rfl h
  | cons s rest ih =>
    cases rest with
    | nil => simp [routeOf, slashedLetters]
    | cons next others =>
      have hrest := ih (List.cons_ne_nil _ _)
      have hsplit : routeOf (s :: next :: others) = "/" ++ s ++ routeOf (next :: others) := by
        unfold routeOf
        rw [String.intercalate_cons_cons]
        simp only [String.append_assoc]
      rw [hsplit, String.toList_append, hrest, String.toList_append]
      rfl

theorem isBlank_of_isNameLetter {c : Char} (h : isNameLetter c = true) : isBlank c = false := by
  simp only [isNameLetter, Bool.or_eq_true, Bool.and_eq_true, decide_eq_true_eq, Char.le_def,
    UInt32.le_iff_toNat_le, Char.reduceVal, UInt32.reduceToNat] at h
  change _ ≤ c.toNat ∧ c.toNat ≤ _ ∨ _ ≤ c.toNat ∧ c.toNat ≤ _ at h
  simp only [isBlank, Bool.or_eq_false_iff, Bool.and_eq_false_iff, decide_eq_false_iff_not,
    beq_eq_false_iff_ne]
  omega

namespace IsRouteSegment

variable {s : String}

theorem letters (h : IsRouteSegment s) : NameLetters s.toList := .of_isDomainLabel h.1

theorem no_slash (h : IsRouteSegment s) : '/' ∉ s.toList := by
  intro hmem
  have hallowed := (isDomainLabel_iff.1 h.1).1 _ hmem
  exact absurd hallowed (by decide)

theorem no_dot (h : IsRouteSegment s) : '.' ∉ s.toList := by
  intro hmem
  have hallowed := (isDomainLabel_iff.1 h.1).1 _ hmem
  exact absurd hallowed (by decide)

theorem no_blank (h : IsRouteSegment s) : ∀ c ∈ s.toList, isBlank c = false := by
  intro c hc
  rcases (isDomainLabel_iff.1 h.1).1 c hc with hletter | hdash
  · exact isBlank_of_isNameLetter hletter
  · cases of_decide_eq_true hdash
    decide

theorem utf8Size_eq (h : IsRouteSegment s) : ∀ c ∈ s.toList, c.utf8Size = 1 := by
  intro c hc
  rcases (isDomainLabel_iff.1 h.1).1 c hc with hletter | hdash
  · have hsmall : c.val.toNat < 128 := (small_of_isNameLetter hletter).1
    rw [Char.utf8Size_eq_one_iff, UInt32.le_iff_toNat_le]
    exact Nat.le_of_lt_succ hsmall
  · cases of_decide_eq_true hdash
    rfl

theorem ne_empty (h : IsRouteSegment s) : s ≠ "" := by
  rintro rfl
  exact absurd h.1 (by decide)

theorem dnsLabel_eq (h : IsRouteSegment s) : dnsLabel s = s := by
  apply String.toList_inj.1
  rw [toList_dnsLabel, h.letters.lowercase_eq, h.letters.dnsLabelLetters_eq]
  exact h.letters.keptBase_of_le h.no_dot h.2

theorem trimmedLabel_eq (h : IsRouteSegment s) : dnsLabel (trimBlanks s) = s := by
  rw [trimBlanks, dropAround_of_forall_eq_false isBlank h.no_blank, String.ofList_toList,
    h.dnsLabel_eq]

theorem segmentLabel_eq (h : IsRouteSegment s) : segmentLabel s.toList = s := by
  rw [segmentLabel, String.ofList_toList, h.trimmedLabel_eq]

end IsRouteSegment

theorem isRouteSegment_dnsLabel {text : String} (h : dnsLabel text ≠ "") :
    IsRouteSegment (dnsLabel text) := by
  refine ⟨isDomainLabel_dnsLabel h, ?_⟩
  rw [← String.length_toList, toList_dnsLabel]
  exact length_dnsLabelLetters_le _

theorem isRouteSegment_of_mem_pathSegments {l : List Char} {s : String}
    (h : s ∈ pathSegments l) : IsRouteSegment s := by
  rw [pathSegments_eq] at h
  obtain ⟨hmem, hne⟩ := List.mem_filter.1 h
  obtain ⟨piece, -, rfl⟩ := List.mem_map.1 hmem
  have hlabel : segmentLabel piece ≠ "" := by simpa using hne
  exact isRouteSegment_dnsLabel hlabel

section

variable {segments : List String}

theorem splitAll_routeOf (h : ∀ s ∈ segments, IsRouteSegment s) (hne : segments ≠ []) :
    splitAll '/' (routeOf segments).toList = [] :: segments.map String.toList := by
  have hslash : ∀ text ∈ segments.map String.toList, '/' ∉ text := by
    intro text htext
    obtain ⟨s, hs, rfl⟩ := List.mem_map.1 htext
    exact (h s hs).no_slash
  rw [toList_routeOf hne, slashedLetters, ← List.flatMap_map, splitAll_flatMap hslash]

theorem filter_of_isRouteSegment (h : ∀ s ∈ segments, IsRouteSegment s) :
    segments.filter (fun s => !s.isEmpty) = segments := by
  rw [List.filter_eq_self]
  intro s hs
  simpa using (h s hs).ne_empty

theorem pathSegments_routeOf (h : ∀ s ∈ segments, IsRouteSegment s) :
    pathSegments (routeOf segments).toList = segments := by
  by_cases hne : segments = []
  · rw [hne]
    exact (pathSegments_cons_slash []).trans pathSegments_nil
  · have hlabels : (segments.map String.toList).map segmentLabel = segments := by
      rw [List.map_map]
      exact (List.map_congr_left fun s hs => (h s hs).segmentLabel_eq).trans (List.map_id _)
    rw [pathSegments_eq, splitAll_routeOf h hne, List.map_cons, hlabels, segmentLabel_nil,
      List.filter_cons_of_neg (by decide), filter_of_isRouteSegment h]

theorem routeOf_injective {segments' : List String} (h : ∀ s ∈ segments, IsRouteSegment s)
    (h' : ∀ s ∈ segments', IsRouteSegment s) (heq : routeOf segments = routeOf segments') :
    segments = segments' := by
  rw [← pathSegments_routeOf h, heq, pathSegments_routeOf h']

theorem byteLength_of_one_byte {l : List Char} (h : ∀ c ∈ l, c.utf8Size = 1) :
    PathTemplate.byteLength l = l.length := by
  induction l with
  | nil => rfl
  | cons c rest ih =>
    rw [PathTemplate.byteLength, ih fun d hd => h d (List.mem_cons_of_mem _ hd),
      h c List.mem_cons_self, List.length_cons, Nat.add_comm]

theorem utf8ByteSize_routeOf (h : ∀ s ∈ segments, IsRouteSegment s) (hne : segments ≠ []) :
    (routeOf segments).utf8ByteSize = (slashedLetters segments).length := by
  rw [← PathTemplate.byteLength_toList, toList_routeOf hne]
  apply byteLength_of_one_byte
  intro c hc
  obtain ⟨s, hs, hmem⟩ := List.mem_flatMap.1 hc
  rcases List.mem_cons.1 hmem with rfl | hletter
  · rfl
  · exact (h s hs).utf8Size_eq c hletter

end

theorem routePath_eq (service : ServiceObject) (template : Option String) (limit : Nat) :
    routePath service template limit =
      (renderPath ((trimmed? template).getD defaultPathTemplate) service).bind
        fun raw => normalizePath raw limit := rfl

theorem utf8ByteSize_routeOf_pathSegments_le {raw : String} {limit : Nat} (hlimit : 1 ≤ limit)
    (h : PathTemplate.byteLength (checkedLetters raw) ≤ limit) :
    (routeOf (pathSegments raw.toList)).utf8ByteSize ≤ limit := by
  by_cases hne : pathSegments raw.toList = []
  · rw [hne]
    exact hlimit
  · rw [utf8ByteSize_routeOf (fun _ => isRouteSegment_of_mem_pathSegments) hne]
    rw [← pathSegments_checkedLetters] at hne ⊢
    rcases checkedLetters_cases raw with hnil | ⟨rest, hrest⟩
    · exact absurd (hnil ▸ pathSegments_nil) hne
    · rw [hrest, pathSegments_cons_slash]
      exact Nat.le_trans (length_slashedLetters_pathSegments_le rest) (hrest ▸ h)

theorem byteLength_checkedLetters_le {path : String} {rest : List Char}
    (h : path.toList = '/' :: rest) :
    PathTemplate.byteLength (checkedLetters path) ≤ path.utf8ByteSize := by
  have hhead : (dropAround isBlank path.toList).head? = some '/' := by
    rw [h, dropAround_cons_of_neg isBlank slash_not_blank, List.head?_cons]
  have hrooted : rootedLetters path = dropAround isBlank path.toList := if_pos hhead
  rw [← PathTemplate.byteLength_toList, checkedLetters, hrooted]
  exact PathTemplate.byteLength_le_of_sublist
    ((dropTrailing_sublist _ _).trans (dropAround_sublist isBlank _))

theorem normalizePath_routeOf {segments : List String} {limit : Nat}
    (h : ∀ s ∈ segments, IsRouteSegment s) (hlimit : (routeOf segments).utf8ByteSize ≤ limit) :
    normalizePath (routeOf segments) limit = .ok (routeOf segments) := by
  have hletters : (routeOf segments).toList = '/' :: ("/".intercalate segments).toList := by
    rw [routeOf, String.toList_append]
    rfl
  have hfilled : ¬isBlankText (routeOf segments) = true := by
    rw [isBlankText_iff, hletters]
    exact fun hall => absurd (hall '/' List.mem_cons_self) (by decide)
  have hfits := Nat.le_trans (byteLength_checkedLetters_le hletters) hlimit
  rw [normalizePath_eq, if_neg hfilled, if_neg (Nat.not_lt.2 hfits), pathSegments_routeOf h]

namespace IsRouteSegment

variable {s : String}

theorem isBlankText_eq_false (h : IsRouteSegment s) : isBlankText s = false := by
  obtain ⟨-, ⟨c, rest, hcons, hc⟩, -⟩ := isDomainLabel_iff.1 h.1
  have hblank : ¬isBlankText s = true := by
    rw [isBlankText_iff, hcons]
    exact fun hall => Bool.false_ne_true ((isBlank_of_isNameLetter hc).symm.trans
      (hall c List.mem_cons_self))
  exact Bool.eq_false_iff.2 hblank

theorem requireFilled_eq (h : IsRouteSegment s) (field : String) :
    PathField.requireFilled field (some s) = .ok s := by
  have hfilled : filledIn? (some s) = some s := by
    unfold filledIn?
    rw [Option.filter_some, h.isBlankText_eq_false]
    rfl
  unfold PathField.requireFilled
  rw [hfilled]

end IsRouteSegment

/-- The namespace and the identifier of a service, where both are segments and the path of the two
is within the limit. -/
structure HasDefaultPath (service : ServiceObject) (limit : Nat) (ns uid : String) : Prop where
  namespace_eq : service.metadata.namespace = some ns
  uid_eq : service.metadata.uid = some uid
  isSegment_namespace : IsRouteSegment ns
  isSegment_uid : IsRouteSegment uid
  fits : ("/" ++ ns ++ "/" ++ uid).utf8ByteSize ≤ limit

theorem routeOf_pair (a b : String) : routeOf [a, b] = "/" ++ a ++ "/" ++ b := by
  unfold routeOf
  rw [String.intercalate_cons_cons, String.intercalate_singleton]
  simp only [String.append_assoc]

section

variable {service : ServiceObject} {limit : Nat} {ns uid : String}

theorem renderPath_default (h : HasDefaultPath service limit ns uid) :
    renderPath defaultPathTemplate service = .ok (routeOf [ns, uid]) := by
  have hslash : PathTemplate.Piece.Gives service (.literal ['/']) "/" := .literal (by decide)
  have hnamespace : PathTemplate.Piece.Gives service (.placeholder ".metadata.namespace".toList)
      (PathTemplate.fieldText .ofNamespace ns) := by
    refine .placeholder (by decide) (List.mem_singleton.2 rfl) ?_
    rw [PathField.value, h.namespace_eq, h.isSegment_namespace.requireFilled_eq]
  have huid : PathTemplate.Piece.Gives service (.placeholder ".metadata.uid".toList)
      (PathTemplate.fieldText .uid uid) := by
    refine .placeholder (by decide) (List.mem_singleton.2 rfl) ?_
    rw [PathField.value, h.uid_eq, h.isSegment_uid.requireFilled_eq]
  have hrender := PathTemplate.renderFrom_of_pieces
    (.cons hslash (.cons hnamespace (.cons hslash (.cons huid .nil))))
  have htexts : String.join ["/", PathTemplate.fieldText .ofNamespace ns, "/",
      PathTemplate.fieldText .uid uid] = routeOf [ns, uid] := by
    have hns : PathTemplate.fieldText .ofNamespace ns = ns := h.isSegment_namespace.trimmedLabel_eq
    have huid : PathTemplate.fieldText .uid uid = uid := h.isSegment_uid.trimmedLabel_eq
    rw [hns, huid, routeOf_pair]
    simp only [String.join_cons, String.join_nil, String.append_empty, String.append_assoc]
  rw [← htexts]
  exact hrender

theorem routePath_default (h : HasDefaultPath service limit ns uid) {template : Option String}
    (hblank : ∀ t ∈ template, isBlankText t = true) :
    routePath service template limit = .ok ("/" ++ ns ++ "/" ++ uid) := by
  have hsegments : ∀ s ∈ [ns, uid], IsRouteSegment s := by
    simp [h.isSegment_namespace, h.isSegment_uid]
  rw [routePath_eq, trimmed?_eq_none hblank, Option.getD_none, renderPath_default h,
    ← routeOf_pair]
  exact normalizePath_routeOf hsegments (routeOf_pair ns uid ▸ h.fits)

end

/-- Every path that is normalized is in normal form and within the limit, and stays what it is when
it is normalized again, as does every path in normal form that is within the limit. Where no
template is set, two services of which the namespaces or the identifiers differ have different
paths. -/
theorem normalized_paths_settled {limit : Nat} (hlimit : 1 ≤ limit) :
    (∀ raw path, normalizePath raw limit = .ok path →
        IsRoutePath path ∧ path.utf8ByteSize ≤ limit ∧ normalizePath path limit = .ok path) ∧
      (∀ path, IsRoutePath path → path.utf8ByteSize ≤ limit →
        normalizePath path limit = .ok path) ∧
      (∀ service template ns uid, (∀ t ∈ template, isBlankText t = true) →
        HasDefaultPath service limit ns uid →
          routePath service template limit = .ok ("/" ++ ns ++ "/" ++ uid)) ∧
      ∀ service service' template template' ns ns' uid uid',
        (∀ t ∈ template, isBlankText t = true) → (∀ t ∈ template', isBlankText t = true) →
        HasDefaultPath service limit ns uid → HasDefaultPath service' limit ns' uid' →
        (ns, uid) ≠ (ns', uid') →
          routePath service template limit ≠ routePath service' template' limit := by
  refine ⟨?_, ?_, fun service template ns uid hblank h => routePath_default h hblank, ?_⟩
  · intro raw path h
    obtain ⟨rfl, hfits⟩ := eq_routeOf_of_normalizePath h
    have hsegments := fun s => isRouteSegment_of_mem_pathSegments (l := raw.toList) (s := s)
    have hsize := utf8ByteSize_routeOf_pathSegments_le hlimit hfits
    exact ⟨⟨_, hsegments, rfl⟩, hsize, normalizePath_routeOf hsegments hsize⟩
  · rintro path ⟨segments, hsegments, rfl⟩ hsize
    exact normalizePath_routeOf hsegments hsize
  · intro service service' template template' ns ns' uid uid' hblank hblank' h h' hne heq
    rw [routePath_default h hblank, routePath_default h' hblank'] at heq
    have hroutes : routeOf [ns, uid] = routeOf [ns', uid'] := by
      rw [routeOf_pair, routeOf_pair]
      exact Except.ok.inj heq
    have hlists : [ns, uid] = [ns', uid'] := routeOf_injective
      (by simp [h.isSegment_namespace, h.isSegment_uid])
      (by simp [h'.isSegment_namespace, h'.isSegment_uid]) hroutes
    cases hlists
    exact hne rfl

def placedService (ns uid : String) : ServiceObject where
  metadata := { Metadata.empty with «namespace» := some ns, uid := some uid }
  spec := default
  status := none

/-- Two services of one namespace have paths of their own, and a path with a letter that becomes two
is in normal form once it is normalized. -/
theorem same_namespace_apart :
    normalizePath "//Team A//_/İ_2/ " 30 = .ok "/team-a/i--2" ∧
      IsRoutePath "/team-a/i--2" ∧
      normalizePath "/team-a/i--2" 30 = .ok "/team-a/i--2" ∧
      routePath (placedService "ml" "7f0c") (some " ") 30 = .ok "/ml/7f0c" ∧
      routePath (placedService "ml" "7f0c") (some " ") 30 ≠
        routePath (placedService "ml" "7f0d") none 30 := by
  have hmixed : normalizePath "//Team A//_/İ_2/ " 30 = .ok "/team-a/i--2" := rfl
  have hdefault : ∀ uid, IsRouteSegment uid → ("/ml/" ++ uid).utf8ByteSize ≤ 30 →
      HasDefaultPath (placedService "ml" uid) 30 "ml" uid :=
    fun uid huid hfits => ⟨rfl, rfl, by decide, huid, hfits⟩
  have hblank : ∀ t ∈ some " ", isBlankText t = true := by decide
  obtain ⟨hsettled, hfixed, hpath, hapart⟩ := @normalized_paths_settled 30 (by decide)
  have hform := (hsettled _ _ hmixed).1
  exact ⟨hmixed, hform, hfixed _ hform (by decide),
    hpath _ _ _ _ hblank (hdefault "7f0c" (by decide) (by decide)),
    hapart _ _ _ _ _ _ _ _ hblank nofun (hdefault "7f0c" (by decide) (by decide))
      (hdefault "7f0d" (by decide) (by decide)) (by decide)⟩

end InferenceReconciler
