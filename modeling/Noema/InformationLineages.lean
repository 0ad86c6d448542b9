import Noema.InformationSteps

/-!
# What the engine resolves

In a governed state `_resolve` meets no cycle, and adds the policies of all objects that a
lineage reaches through bound ones; it finds a conflict exactly if one of them is not
bound.
-/
namespace Noema

namespace InformationGovernance

variable {ids : InformationIds} (p : InformationGovernance ids)

/-- The binding and the lineage of an object, which match. -/
structure BoundTo (informationId : String) (binding : PolicyBinding)
    (lineage : InformationLineage) : Prop where
  binding_eq : p.binding informationId = some binding
  lineage_eq : p.lineage informationId = some lineage
  matching : binding.lineageId = lineage.lineageId

/-- An object is bound. -/
def Bound (informationId : String) : Prop := ∃ binding lineage, p.BoundTo informationId binding lineage

/-- A bound object names another one as a source. -/
def DerivedFrom (informationId sourceId : String) : Prop :=
  ∃ binding lineage, p.BoundTo informationId binding lineage ∧
    sourceId ∈ lineage.sourceInformationIds

/-- An object is another one, or derived from it. -/
def Reaches : String → String → Prop := Relation.ReflTransGen p.DerivedFrom

/-- A policy is bound to an object or to one it is derived from. -/
def Carries (informationId policyId : String) : Prop :=
  ∃ sourceId binding lineage, p.Reaches informationId sourceId ∧
    p.BoundTo sourceId binding lineage ∧ policyId ∈ binding.policyIds

variable {p} {x y : String} {binding : PolicyBinding} {lineage : InformationLineage}

theorem BoundTo.unique {binding' : PolicyBinding} {lineage' : InformationLineage}
    (h : p.BoundTo x binding lineage) (h' : p.BoundTo x binding' lineage') :
    binding' = binding ∧ lineage' = lineage :=
  ⟨Option.some.inj (h'.binding_eq.symm.trans h.binding_eq),
    Option.some.inj (h'.lineage_eq.symm.trans h.lineage_eq)⟩

/-- A lineage ends at an object that is not bound. -/
theorem reaches_of_unbound (h : ¬ p.Bound x) : p.Reaches x y ↔ y = x := by
  refine ⟨fun hreach => ?_, fun heq => heq ▸ Relation.ReflTransGen.refl⟩
  rcases Relation.ReflTransGen.cases_head_iff.mp hreach with heq | ⟨z, ⟨binding, lineage, hbound, -⟩, -⟩
  · exact heq.symm
  · exact absurd ⟨binding, lineage, hbound⟩ h

/-- The lineage of a bound object goes on at its sources. -/
theorem reaches_of_bound (h : p.BoundTo x binding lineage) :
    p.Reaches x y ↔ y = x ∨ ∃ sourceId ∈ lineage.sourceInformationIds, p.Reaches sourceId y := by
  refine Relation.ReflTransGen.cases_head_iff.trans (or_congr eq_comm ⟨?_, ?_⟩)
  · rintro ⟨z, ⟨binding', lineage', hbound, hmem⟩, hreach⟩
    obtain ⟨-, rfl⟩ := h.unique hbound
    exact ⟨z, hmem, hreach⟩
  · rintro ⟨z, hmem, hreach⟩
    exact ⟨z, ⟨binding, lineage, h, hmem⟩, hreach⟩

theorem carries_of_unbound {policyId : String} (h : ¬ p.Bound x) : ¬ p.Carries x policyId := by
  rintro ⟨y, binding, lineage, hreach, hbound, -⟩
  rw [reaches_of_unbound h] at hreach
  exact h ⟨binding, lineage, hreach ▸ hbound⟩

theorem carries_of_bound {policyId : String} (h : p.BoundTo x binding lineage) :
    p.Carries x policyId ↔ policyId ∈ binding.policyIds ∨
      ∃ sourceId ∈ lineage.sourceInformationIds, p.Carries sourceId policyId := by
  constructor
  · rintro ⟨y, binding', lineage', hreach, hbound, hpolicy⟩
    rcases (reaches_of_bound h).mp hreach with rfl | ⟨z, hz, hreach⟩
    · obtain ⟨rfl, -⟩ := h.unique hbound
      exact .inl hpolicy
    · exact .inr ⟨z, hz, y, binding', lineage', hreach, hbound, hpolicy⟩
  · rintro (hpolicy | ⟨z, hz, y, binding', lineage', hreach, hbound, hpolicy⟩)
    · exact ⟨x, binding, lineage, .refl, h, hpolicy⟩
    · exact ⟨y, binding', lineage', (reaches_of_bound h).mpr (.inr ⟨z, hz, hreach⟩), hbound,
        hpolicy⟩

/-- What the resolution of an object must be. -/
structure Resolves (p : InformationGovernance ids) (x : String) (r : Resolution) : Prop where
  policyIds : ∀ policyId, policyId ∈ r.policyIds ↔ p.Carries x policyId
  conflicts : r.conflicts = [] ↔ ∀ y, p.Reaches x y → p.Bound y
  kind : ∀ conflict ∈ r.conflicts, conflict = restrictedConflict .incompleteLineage
  sourceIds : ∀ y ∈ r.sourceIds, p.Reaches x y

theorem foldl_append {r : String → Resolution} (zs : List String) : ∀ s : Resolution,
    (zs.map r).foldl Resolution.append s =
      ⟨s.policyIds ++ zs.flatMap fun z => (r z).policyIds,
        s.sourceIds ++ zs.flatMap fun z => (r z).sourceIds,
        s.conflicts ++ zs.flatMap fun z => (r z).conflicts⟩ := by
  induction zs with
  | nil => intro s; simp
  | cons z zs ih =>
    intro s
    rw [List.map_cons, List.foldl_cons, ih]
    simp [Resolution.append]

theorem resolves_incomplete (h : ¬ p.Bound x) : p.Resolves x (.incomplete x) where
  policyIds policyId := by
    simp only [Resolution.incomplete, List.not_mem_nil, false_iff]
    exact carries_of_unbound h
  conflicts := by
    refine iff_of_false (List.cons_ne_nil _ _) fun hall => ?_
    exact h (hall x .refl)
  kind conflict hmem := List.mem_singleton.mp hmem
  sourceIds y hy := List.mem_singleton.mp hy ▸ .refl

/-- The resolution of a bound object is put together from those of its sources. -/
theorem resolves_sources {r : String → Resolution} (h : p.BoundTo x binding lineage)
    (hr : ∀ sourceId ∈ lineage.sourceInformationIds, p.Resolves sourceId (r sourceId)) :
    p.Resolves x
      ((lineage.sourceInformationIds.map r).foldl Resolution.append ⟨binding.policyIds, [], []⟩) := by
  rw [foldl_append, List.nil_append, List.nil_append]
  refine ⟨fun policyId => ?_, ?_, fun conflict hmem => ?_, fun y hy => ?_⟩
  · rw [carries_of_bound h, List.mem_append, List.mem_flatMap]
    exact or_congr Iff.rfl (exists_congr fun z => and_congr_right fun hz =>
      (hr z hz).policyIds policyId)
  · rw [List.flatMap_eq_nil_iff]
    constructor
    · intro hall y hreach
      rcases (reaches_of_bound h).mp hreach with rfl | ⟨z, hz, hreach⟩
      · exact ⟨binding, lineage, h⟩
      · exact (hr z hz).conflicts.mp (hall z hz) y hreach
    · intro hall z hz
      exact (hr z hz).conflicts.mpr fun y hreach =>
        hall y ((reaches_of_bound h).mpr (.inr ⟨z, hz, hreach⟩))
  · obtain ⟨z, hz, hmem⟩ := List.mem_flatMap.mp hmem
    exact (hr z hz).kind conflict hmem
  · obtain ⟨z, hz, hy⟩ := List.mem_flatMap.mp hy
    exact (reaches_of_bound h).mpr (.inr ⟨z, hz, (hr z hz).sourceIds y hy⟩)

/-- An object without sources. -/
theorem resolves_root (h : p.BoundTo x binding lineage) (hroot : lineage.sourceInformationIds = []) :
    p.Resolves x ⟨binding.policyIds, [x], []⟩ where
  policyIds policyId := by
    rw [carries_of_bound h, hroot]
    simp
  conflicts := by
    refine iff_of_true rfl fun y hreach => ?_
    rw [reaches_of_bound h, hroot] at hreach
    simp only [List.not_mem_nil, false_and, exists_false, or_false] at hreach
    exact hreach ▸ ⟨binding, lineage, h⟩
  kind conflict hmem := by cases hmem
  sourceIds y hy := List.mem_singleton.mp hy ▸ .refl

variable {b : InformationBuiltins} {q : InformationGovernance b.informationIds}

/-- **A walk down the ranks resolves every object**: no object below one that is visited is
visited again. -/
theorem resolves_of_ranks {n : Nat} {rank : String → Nat}
    (hrank : GrownGraph.Ranks q.sources n rank) : ∀ depth visiting x, rank x < depth →
      (∀ visited ∈ visiting, rank x < rank visited) → q.Resolves x (q.resolve depth visiting x) := by
  intro depth
  induction depth with
  | zero =>
    intro visiting x hdepth
    exact absurd hdepth (Nat.not_lt_zero _)
  | succ depth ih =>
    intro visiting x hdepth hvisiting
    have hnew : x ∉ visiting := fun hmem => Nat.lt_irrefl _ (hvisiting x hmem)
    rw [resolve, if_neg hnew]
    cases hbinding : q.binding x with
    | none =>
      refine resolves_incomplete ?_
      rintro ⟨binding, lineage, hbound⟩
      rw [hbound.binding_eq] at hbinding
      cases hbinding
    | some binding =>
      cases hlineage : q.lineage x with
      | none =>
        refine resolves_incomplete ?_
        rintro ⟨binding, lineage, hbound⟩
        rw [hbound.lineage_eq] at hlineage
        cases hlineage
      | some lineage =>
        dsimp only
        by_cases hmatch : binding.lineageId = lineage.lineageId
        · have hbound : q.BoundTo x binding lineage := ⟨hbinding, hlineage, hmatch⟩
          rw [if_neg (not_not.mpr hmatch)]
          split_ifs with hroot
          · exact resolves_root hbound hroot
          · refine resolves_sources hbound fun sourceId hsource => ?_
            have hsources : q.sources x = some lineage.sourceInformationIds := by
              rw [sources, hlineage]
              rfl
            have hbelow := (hrank.2 x _ hsources sourceId hsource).2
            refine ih _ _ (by omega) fun visited hvisited => ?_
            rcases List.mem_cons.mp hvisited with rfl | hvisited
            · exact hbelow
            · exact hbelow.trans (hvisiting visited hvisited)
        · rw [if_pos hmatch]
          refine resolves_incomplete ?_
          rintro ⟨binding', lineage', hbound⟩
          rw [hbound.binding_eq] at hbinding
          rw [hbound.lineage_eq] at hlineage
          cases hbinding
          cases hlineage
          exact hmatch hbound.matching

/-- **In a governed state every object is resolved.** -/
theorem Governed.resolves (h : q.Governed) (x : String) :
    q.Resolves x (q.resolve (q.lineages.rows.length + 1) [] x) := by
  obtain ⟨rank, hrank⟩ := h.ranked
  refine resolves_of_ranks hrank _ _ _ (Nat.lt_succ_of_le (hrank.1 x)) ?_
  intro visited hvisited
  cases hvisited

end InformationGovernance

end Noema
