import Noema.SalienceResolver
import Noema.Lib.UnitInterval

/-!
# Inhibition only lowers attention

The order and the repetition of the signals play no part in their resolution, and one more
inhibitory signal raises no disposition: it blocks signals, or makes them weaker.
-/
namespace Noema

theorem round12_mono {a b : ℚ} (h : a ≤ b) : round12 a ≤ round12 b := by
  unfold round12
  have hscaled : a * 10 ^ 12 ≤ b * 10 ^ 12 := mul_le_mul_of_nonneg_right h (by norm_num)
  refine div_le_div_of_nonneg_right ?_ (by norm_num)
  exact_mod_cast Binary64.nearestEven_mono hscaled

/-! ## Dispositions -/

/-- `SUPPRESS/DEFER < REMEMBER < WAKE < REFLEX_PROPOSAL`. -/
def SalienceDisposition.rank : SalienceDisposition → Nat
  | suppress => 0
  | defer => 0
  | remember => 1
  | wake => 2
  | reflexProposal => 3

theorem SalienceDisposition.rank_le (disposition : SalienceDisposition) : disposition.rank ≤ 3 := by
  cases disposition <;> decide

theorem foldl_max_le {l : List ℚ} {first bound : ℚ} :
    l.foldl max first ≤ bound ↔ first ≤ bound ∧ ∀ a ∈ l, a ≤ bound := by
  induction l generalizing first with
  | nil => simp
  | cons a l ih => rw [List.foldl_cons, ih, max_le_iff, List.forall_mem_cons, and_assoc]

theorem maxOrZero_le {l : List ℚ} {bound : ℚ} (hbound : 0 ≤ bound) :
    maxOrZero l ≤ bound ↔ ∀ a ∈ l, a ≤ bound := by
  cases l with
  | nil => simpa [maxOrZero] using hbound
  | cons first rest => rw [maxOrZero, foldl_max_le, List.forall_mem_cons]

theorem le_maxOrZero {l : List ℚ} {a : ℚ} (h : a ∈ l) : a ≤ maxOrZero l := by
  cases l with
  | nil => cases h
  | cons first rest =>
    obtain ⟨hfirst, hrest⟩ := foldl_max_le.mp (le_refl (rest.foldl max first))
    rcases List.mem_cons.mp h with rfl | h
    · exact hfirst
    · exact hrest a h

namespace SalienceResolver

variable {r : SalienceResolver}

/-- **Fewer requests, a lower score and less urgency raise no disposition.** -/
theorem unopposedDisposition_mono {requested requested' : List SalienceDisposition}
    {score score' maxUrgency maxUrgency' : ℚ} (hrequested : ∀ d ∈ requested', d ∈ requested)
    (hscore : score' ≤ score) (hurgency : maxUrgency' ≤ maxUrgency) :
    (r.unopposedDisposition requested' score' maxUrgency').1.rank ≤
      (r.unopposedDisposition requested score maxUrgency).1.rank := by
  unfold unopposedDisposition
  by_cases hreflex : .reflexProposal ∈ requested ∧ r.wakeThreshold ≤ score
  · rw [if_pos hreflex]
    exact SalienceDisposition.rank_le _
  · have hreflex' : ¬ (.reflexProposal ∈ requested' ∧ r.wakeThreshold ≤ score') :=
      fun h => hreflex ⟨hrequested _ h.1, h.2.trans hscore⟩
    rw [if_neg hreflex, if_neg hreflex']
    by_cases hwake : .wake ∈ requested ∧
        (r.wakeThreshold ≤ score ∨ r.urgencyThreshold ≤ maxUrgency)
    · rw [if_pos hwake]
      split_ifs <;> decide
    · have hwake' : ¬ (.wake ∈ requested' ∧
          (r.wakeThreshold ≤ score' ∨ r.urgencyThreshold ≤ maxUrgency')) := fun h =>
        hwake ⟨hrequested _ h.1, h.2.imp (le_trans · hscore) (le_trans · hurgency)⟩
      rw [if_neg hwake, if_neg hwake']
      by_cases hremember : r.rememberThreshold ≤ score
      · rw [if_pos hremember]
        split_ifs <;> decide
      · rw [if_neg hremember, if_neg fun h => hremember (h.trans hscore)]

/-! ## One subject with more inhibitors -/

theorem factor_inUnit (modulator : Signal) :
    InUnit (1 - modulator.strength * modulator.confidence * modulator.salience) := by
  have hstrength : InUnit modulator.strength := by
    unfold Signal.strength
    split
    · rename_i strength hpos hle _
      exact ⟨hpos.le, hle⟩
    · exact ⟨le_rfl, zero_le_one⟩
  exact ((hstrength.mul modulator.confidence_unit).mul modulator.salience_unit).one_sub

theorem attenuation_inUnit (modulators : List Signal) : InUnit (attenuation modulators) :=
  inUnit_prod (by simpa using fun modulator _ => factor_inUnit modulator)

theorem attenuation_anti {modulators modulators' : List Signal}
    (h : modulators.Subperm modulators') : attenuation modulators' ≤ attenuation modulators := by
  obtain ⟨kept, hperm, hsub⟩ := h
  exact prod_le_of_subperm ⟨kept.map _, hperm.map _, hsub.map _⟩
    (by simpa using fun modulator _ => factor_inUnit modulator)

theorem contribution_inUnit (signal : Signal) : InUnit (r.contribution signal) := by
  have hscale := r.expectedValueScale_pos
  have hvalue : 0 ≤ signal.expectedValue / (signal.expectedValue + r.expectedValueScale) :=
    div_nonneg signal.expectedValue_nonneg (by linarith [signal.expectedValue_nonneg])
  have hsalience := signal.salience_unit.1
  have hurgency := signal.urgency_unit.1
  refine ⟨le_min zero_le_one (mul_nonneg signal.confidence_unit.1 ?_), min_le_left _ _⟩
  positivity

variable {subject : String} {signals inhibitors inhibitors' : List Signal}

theorem modulatorsOf_subperm (h : inhibitors.Subperm inhibitors') (signal : Signal) :
    (modulatorsOf subject inhibitors signal).Subperm (modulatorsOf subject inhibitors' signal) :=
  h.filter _

theorem effective_sublist (h : inhibitors.Subperm inhibitors') :
    (effective subject signals inhibitors').Sublist (effective subject signals inhibitors) := by
  refine List.monotone_filter_right signals fun signal hfree => ?_
  simp only [blocked, Bool.not_eq_true', List.any_eq_false] at hfree ⊢
  exact fun inhibitor hmem => hfree inhibitor (h.subset hmem)

theorem effective_ne_nil (h : inhibitors.Subperm inhibitors')
    (hsome : effective subject signals inhibitors' ≠ []) :
    effective subject signals inhibitors ≠ [] := by
  intro hnil
  have hsub : (effective subject signals inhibitors').Sublist
      (effective subject signals inhibitors) := effective_sublist h
  rw [hnil] at hsub
  exact hsome (List.sublist_nil.mp hsub)

/-- If all signals are blocked, something blocks them. -/
theorem acting_hard_ne_nil (hne : signals ≠ [])
    (h : effective subject signals inhibitors = []) : acting subject signals inhibitors true ≠ [] := by
  obtain ⟨signal, hsignal⟩ := List.exists_mem_of_ne_nil _ hne
  have hblocked := List.filter_eq_nil_iff.mp h signal hsignal
  simp only [blocked, Bool.not_eq_true', Bool.not_eq_false, List.any_eq_true,
    Bool.and_eq_true] at hblocked
  obtain ⟨inhibitor, hmem, hacts, hhard⟩ := hblocked
  refine List.ne_nil_of_mem ((List.mem_insertionSort _).mpr (List.mem_filter.mpr ⟨hmem, ?_⟩))
  exact decide_eq_true ⟨hhard, List.any_eq_true.mpr ⟨signal, hsignal, hacts⟩⟩

/-- The disposition of a subject that has signals. -/
theorem dispositionOf_eq (hne : signals ≠ []) : (r.dispositionOf subject signals inhibitors).1 =
    if effective subject signals inhibitors = [] then .suppress
    else (r.unopposedDisposition
      ((effective subject signals inhibitors).map fun signal => signal.suggestedDisposition)
      (r.score subject signals inhibitors) (maxUrgency subject signals inhibitors)).1 := by
  unfold dispositionOf
  dsimp only
  by_cases heffective : effective subject signals inhibitors = []
  · rw [if_pos heffective, if_pos ⟨acting_hard_ne_nil hne heffective, heffective⟩]
  · rw [if_neg heffective, if_neg fun h => heffective h.2]

theorem score_anti (h : inhibitors.Subperm inhibitors')
    (hsome : effective subject signals inhibitors' ≠ []) :
    r.score subject signals inhibitors' ≤ r.score subject signals inhibitors := by
  have hsub : (effective subject signals inhibitors').Sublist
      (effective subject signals inhibitors) := effective_sublist h
  have hsome' := effective_ne_nil h hsome
  unfold score
  rw [if_neg hsome, if_neg hsome']
  refine round12_mono (sub_le_sub_left (prod_le_of_sublist hsub (fun signal => ?_) ?_ ?_) 1)
  · refine sub_le_sub_left ?_ 1
    exact mul_le_mul_of_nonneg_left (attenuation_anti (modulatorsOf_subperm h signal))
      (contribution_inUnit signal).1
  · exact fun signal => ((contribution_inUnit signal).mul (attenuation_inUnit _)).one_sub
  · exact fun signal => ((contribution_inUnit signal).mul (attenuation_inUnit _)).one_sub

theorem maxUrgency_anti (h : inhibitors.Subperm inhibitors') :
    maxUrgency subject signals inhibitors' ≤ maxUrgency subject signals inhibitors := by
  unfold maxUrgency
  have hnonneg : ∀ signal ∈ effective subject signals inhibitors, 0 ≤
      signal.urgency * attenuation (modulatorsOf subject inhibitors signal) := fun signal _ =>
    mul_nonneg signal.urgency_unit.1 (attenuation_inUnit _).1
  have hzero : 0 ≤ maxOrZero ((effective subject signals inhibitors).map fun signal =>
      signal.urgency * attenuation (modulatorsOf subject inhibitors signal)) := by
    cases heffective : effective subject signals inhibitors with
    | nil => exact le_rfl
    | cons signal rest =>
      refine (hnonneg signal (heffective ▸ List.mem_cons_self)).trans (le_maxOrZero ?_)
      exact List.mem_map_of_mem List.mem_cons_self
  rw [maxOrZero_le hzero]
  intro urgency hurgency
  obtain ⟨signal, hsignal, rfl⟩ := List.mem_map.mp hurgency
  have hattenuation : attenuation (modulatorsOf subject inhibitors' signal) ≤
      attenuation (modulatorsOf subject inhibitors signal) :=
    attenuation_anti (modulatorsOf_subperm h signal)
  have hle := mul_le_mul_of_nonneg_left hattenuation signal.urgency_unit.1
  exact hle.trans (le_maxOrZero (List.mem_map_of_mem ((effective_sublist h).subset hsignal)))

/-- **More inhibitors raise the disposition of no subject.** -/
theorem dispositionOf_anti (hne : signals ≠ []) (h : inhibitors.Subperm inhibitors') :
    (r.dispositionOf subject signals inhibitors').1.rank ≤
      (r.dispositionOf subject signals inhibitors).1.rank := by
  rw [dispositionOf_eq hne, dispositionOf_eq hne]
  by_cases hsome : effective subject signals inhibitors' = []
  · rw [if_pos hsome]
    exact Nat.zero_le _
  · rw [if_neg hsome, if_neg (effective_ne_nil h hsome)]
    refine unopposedDisposition_mono (fun disposition hmem => ?_) (score_anti h hsome)
      (maxUrgency_anti h)
    obtain ⟨signal, hsignal, rfl⟩ := List.mem_map.mp hmem
    exact List.mem_map_of_mem ((effective_sublist h).subset hsignal)

/-! ## Signals at their instants -/

theorem modulatorsOf_atInstants (signal : Signal) :
    modulatorsOf subject (inhibitors.map Signal.atInstants) signal.atInstants =
      (modulatorsOf subject inhibitors signal).map Signal.atInstants :=
  List.filter_map

theorem effective_atInstants :
    effective subject (signals.map Signal.atInstants) (inhibitors.map Signal.atInstants) =
      (effective subject signals inhibitors).map Signal.atInstants := by
  unfold effective
  rw [List.filter_map]
  refine congrArg _ (List.filter_congr fun signal _ => ?_)
  simp only [blocked, Function.comp_apply, List.any_map]
  rfl

theorem acting_atInstants (hard : Bool) :
    acting subject (signals.map Signal.atInstants) (inhibitors.map Signal.atInstants) hard =
      (acting subject signals inhibitors hard).map Signal.atInstants := by
  unfold acting
  rw [List.filter_map, ← List.map_insertionSort (fun a b : Signal => a.signalId ≤ b.signalId) _
    Signal.atInstants _ fun a _ b _ => Iff.rfl]
  refine congrArg _ (congrArg _ (List.filter_congr fun signal _ => ?_))
  simp only [Function.comp_apply, List.any_map]
  rfl

theorem attenuation_atInstants (modulators : List Signal) :
    attenuation (modulators.map Signal.atInstants) = attenuation modulators := by
  unfold attenuation
  rw [List.map_map]
  rfl

theorem score_atInstants :
    r.score subject (signals.map Signal.atInstants) (inhibitors.map Signal.atInstants) =
      r.score subject signals inhibitors := by
  have hfactors : ∀ scored : List Signal, ((scored.map Signal.atInstants).map fun signal =>
      1 - r.modulatedContribution signal
        (modulatorsOf subject (inhibitors.map Signal.atInstants) signal)) =
      scored.map fun signal =>
        1 - r.modulatedContribution signal (modulatorsOf subject inhibitors signal) := by
    intro scored
    rw [List.map_map]
    refine List.map_congr_left fun signal _ => ?_
    show 1 - r.contribution signal * attenuation _ = 1 - r.contribution signal * attenuation _
    rw [modulatorsOf_atInstants, attenuation_atInstants]
  unfold score
  rw [effective_atInstants]
  dsimp only
  by_cases heffective : effective subject signals inhibitors = []
  · rw [if_pos heffective, if_pos (List.map_eq_nil_iff.mpr heffective), hfactors]
  · rw [if_neg heffective, if_neg (mt List.map_eq_nil_iff.mp heffective), hfactors]

theorem maxUrgency_atInstants :
    maxUrgency subject (signals.map Signal.atInstants) (inhibitors.map Signal.atInstants) =
      maxUrgency subject signals inhibitors := by
  unfold maxUrgency
  rw [effective_atInstants, List.map_map]
  refine congrArg _ (List.map_congr_left fun signal _ => ?_)
  show signal.urgency * attenuation _ = signal.urgency * attenuation _
  rw [modulatorsOf_atInstants, attenuation_atInstants]

theorem dispositionOf_atInstants :
    r.dispositionOf subject (signals.map Signal.atInstants) (inhibitors.map Signal.atInstants) =
      r.dispositionOf subject signals inhibitors := by
  unfold dispositionOf
  simp only [acting_atInstants, effective_atInstants, score_atInstants, maxUrgency_atInstants,
    List.length_map, List.map_map, ne_eq, List.map_eq_nil_iff]
  rfl

theorem resolveSubject_atInstants (ids : SalienceIdentity → String) :
    r.resolveSubject subject (signals.map Signal.atInstants) (inhibitors.map Signal.atInstants) ids =
      r.resolveSubject subject signals inhibitors ids := by
  unfold resolveSubject
  simp only [acting_atInstants, dispositionOf_atInstants, score_atInstants, List.map_map,
    ← List.map_append, List.flatMap_map]
  rfl

/-- **A resolution looks at the instants of times only.** -/
theorem resolveActive_atInstants (ids : SalienceIdentity → String) (active : List Signal) :
    r.resolveActive ids (active.map Signal.atInstants) = r.resolveActive ids active := by
  unfold resolveActive
  simp only [List.filter_map, List.map_map]
  refine congrArg _ (List.map_congr_left fun subject _ => ?_)
  exact resolveSubject_atInstants ids

/-! ## Active signals -/

variable {ids : SalienceIdentity → String} {at' : Datetime} {signals' active active' : List Signal}

/-- Signals that are active at a time and have one id are equal. -/
def Consistent (at' : Datetime) (signals : List Signal) : Prop :=
  ∀ a ∈ signals, ∀ b ∈ signals, a.activeAt at' = true → b.activeAt at' = true →
    a.signalId = b.signalId → a.atInstants = b.atInstants

/-- What has been collected of the signals so far. -/
structure Collected (at' : Datetime) (seen : List Signal) (t : KeyedTable Signal.signalId) :
    Prop where
  kept : ∀ signal ∈ seen, signal.activeAt at' = true →
    ∃ row, t.find signal.signalId = some row ∧ row.atInstants = signal.atInstants
  known : ∀ row ∈ t.rows, ∃ signal ∈ seen, signal.activeAt at' = true ∧
    signal.atInstants = row.atInstants

theorem signalId_of_atInstants {a b : Signal} (h : a.atInstants = b.atInstants) :
    a.signalId = b.signalId := by
  show a.atInstants.signalId = b.atInstants.signalId
  rw [h]

theorem Collected.collect {seen : List Signal} {t t' : KeyedTable Signal.signalId}
    {signal : Signal} (h : Collected at' seen t) (hcollect : SalienceResolver.collect at' t signal = .ok t') :
    Collected at' (seen ++ [signal]) t' := by
  unfold SalienceResolver.collect at hcollect
  split_ifs at hcollect with hactive
  · obtain ⟨_, hfree, hput⟩ := bind_eq_ok hcollect
    cases hput
    have hfree := refuse_ok hfree
    refine ⟨fun other hother hother' => ?_, fun row hrow => ?_⟩
    · rw [KeyedTable.find_put]
      split_ifs with hid
      · refine ⟨signal, rfl, ?_⟩
        rcases List.mem_append.mp hother with hold | hnew
        · obtain ⟨previous, hprevious, hsame⟩ := h.kept other hold hother'
          rw [← hid] at hprevious
          rw [← hsame]
          by_contra hne
          exact hfree ⟨previous, hprevious, fun heq => hne heq.symm⟩
        · rw [List.mem_singleton.mp hnew]
      · rcases List.mem_append.mp hother with hold | hnew
        · exact h.kept other hold hother'
        · exact absurd (congrArg Signal.signalId (List.mem_singleton.mp hnew)).symm hid
    · rcases KeyedTable.mem_put.mp hrow with rfl | ⟨hold, -⟩
      · exact ⟨row, List.mem_append_right _ List.mem_cons_self, hactive, rfl⟩
      · obtain ⟨other, hother, hother', hsame⟩ := h.known row hold
        exact ⟨other, List.mem_append_left _ hother, hother', hsame⟩
  · cases hcollect
    refine ⟨fun other hother hother' => ?_, fun row hrow => ?_⟩
    · rcases List.mem_append.mp hother with hold | hnew
      · exact h.kept other hold hother'
      · rw [List.mem_singleton.mp hnew] at hother'
        exact absurd hother' hactive
    · obtain ⟨other, hother, hother', hsame⟩ := h.known row hrow
      exact ⟨other, List.mem_append_left _ hother, hother', hsame⟩

theorem collected_of_run {t : KeyedTable Signal.signalId}
    (h : Folding.run (SalienceResolver.collect at') .empty signals = .ok t) :
    Collected at' signals t := by
  refine Folding.run_induction ⟨?_, ?_⟩ (fun _ _ _ _ _ ih hstep => ih.collect hstep) h
  · intro signal hsignal
    cases hsignal
  · intro row hrow
    cases hrow

theorem Collected.consistent {t : KeyedTable Signal.signalId} (h : Collected at' signals t) :
    Consistent at' signals := by
  intro a ha b hb hactive hactive' hid
  obtain ⟨row, hrow, hsame⟩ := h.kept a ha hactive
  obtain ⟨row', hrow', hsame'⟩ := h.kept b hb hactive'
  rw [hid, hrow'] at hrow
  rw [← hsame, ← hsame', Option.some.inj hrow]

/-- **Consistent signals are collected.** -/
theorem run_of_consistent (h : Consistent at' signals) :
    ∃ t, Folding.run (SalienceResolver.collect at') .empty signals = .ok t := by
  induction signals using List.reverseRecOn with
  | nil => exact ⟨_, rfl⟩
  | append_singleton seen signal ih =>
    obtain ⟨t, ht⟩ := ih fun a ha b hb =>
      h a (List.mem_append_left _ ha) b (List.mem_append_left _ hb)
    simp only [Folding.run_snoc]
    rw [exists_comm]
    refine ⟨t, ?_⟩
    unfold SalienceResolver.collect
    by_cases hactive : signal.activeAt at' = true
    · rw [if_pos hactive]
      refine ⟨_, ht, bind_of_ok (refuse_of ?_) _⟩
      rintro ⟨previous, hprevious, hne⟩
      obtain ⟨other, hother, hother', hsame⟩ :=
        (collected_of_run ht).known previous (KeyedTable.mem_of_find hprevious)
      have hid : other.signalId = signal.signalId :=
        (signalId_of_atInstants hsame).trans (KeyedTable.find_key hprevious)
      have heq := h other (List.mem_append_left _ hother) signal
        (List.mem_append_right _ List.mem_cons_self) hother' hactive hid
      exact hne (hsame.symm.trans heq)
    · rw [if_neg hactive]
      exact ⟨t, ht, rfl⟩

/-- The active signals at their instants, one for each id, in the order of their keys. -/
structure ActiveAt (at' : Datetime) (signals active : List Signal) : Prop where
  mem_iff : ∀ x, x ∈ active ↔ ∃ signal ∈ signals, signal.activeAt at' = true ∧
    signal.atInstants = x
  sorted : active.Pairwise fun a b => key a ≤ key b
  distinct : (active.map Signal.signalId).Nodup

theorem Collected.activeAt {t : KeyedTable Signal.signalId} (h : Collected at' signals t) :
    ActiveAt at' signals
      ((t.rows.insertionSort fun a b => key a ≤ key b).map Signal.atInstants) where
  mem_iff x := by
    rw [List.mem_map]
    constructor
    · rintro ⟨row, hrow, rfl⟩
      exact h.known row ((List.mem_insertionSort _).mp hrow)
    · rintro ⟨signal, hsignal, hactive, rfl⟩
      obtain ⟨row, hrow, hsame⟩ := h.kept signal hsignal hactive
      exact ⟨row, (List.mem_insertionSort _).mpr (KeyedTable.mem_of_find hrow), hsame⟩
  sorted := List.pairwise_map.mpr (List.pairwise_insertionSort _ _)
  distinct := by
    rw [List.map_map]
    exact ((List.perm_insertionSort _ _).map _).nodup_iff.mpr t.unique

/-- Two lists of active signals give a test the same signals in the same order if they hold the
same ones that pass it. -/
theorem ActiveAt.filter_congr (h : ActiveAt at' signals active) (h' : ActiveAt at' signals' active')
    {test : Signal → Bool} (hsame : ∀ x, test x = true → (x ∈ active ↔ x ∈ active')) :
    active.filter test = active'.filter test := by
  have hnodup := (List.Nodup.of_map _ h.distinct).filter test
  have hnodup' := (List.Nodup.of_map _ h'.distinct).filter test
  have hperm : (active.filter test).Perm (active'.filter test) := by
    refine (List.perm_ext_iff_of_nodup hnodup hnodup').mpr fun x => ?_
    rw [List.mem_filter, List.mem_filter]
    exact and_congr_left (hsame x)
  refine hperm.eq_of_pairwise (fun a b ha hb hab hba => ?_)
    (h.sorted.sublist List.filter_sublist) (h'.sorted.sublist List.filter_sublist)
  have hkeys : a.signalId = b.signalId := congrArg (fun k => (ofLex (ofLex k).2).2) (le_antisymm hab hba)
  exact List.inj_on_of_nodup_map h'.distinct (List.mem_of_mem_filter (hperm.mem_iff.mp ha))
    (List.mem_of_mem_filter hb) hkeys

/-- What a resolution returns. -/
theorem resolve_ok {decisions : List SalienceDecision}
    (h : r.resolve ids signals at' = .ok decisions) :
    ∃ active, ActiveAt at' signals active ∧ decisions = r.resolveActive ids active := by
  obtain ⟨t, ht, h⟩ := bind_eq_ok h
  cases h
  exact ⟨_, (collected_of_run ht).activeAt, (resolveActive_atInstants ids _).symm⟩

/-- **Signals are resolved exactly if they are consistent.** -/
theorem resolve_isOk :
    (∃ decisions, r.resolve ids signals at' = .ok decisions) ↔ Consistent at' signals := by
  constructor
  · rintro ⟨decisions, h⟩
    obtain ⟨t, ht, -⟩ := bind_eq_ok h
    exact (collected_of_run ht).consistent
  · intro h
    obtain ⟨t, ht⟩ := run_of_consistent h
    exact ⟨_, bind_of_ok ht _⟩

/-- **The order and the repetition of the signals play no part.** -/
theorem resolve_congr (hsame : ∀ signal, signal ∈ signals ↔ signal ∈ signals') :
    (r.resolve ids signals at').toOption = (r.resolve ids signals' at').toOption := by
  have hconsistent : Consistent at' signals ↔ Consistent at' signals' := by
    simp only [Consistent, hsame]
  cases h : r.resolve ids signals at' with
  | ok decisions =>
    obtain ⟨decisions', h'⟩ := resolve_isOk.mpr (hconsistent.mp (resolve_isOk.mp ⟨decisions, h⟩))
    obtain ⟨active, hactive, rfl⟩ := resolve_ok h
    obtain ⟨active', hactive', rfl⟩ := resolve_ok h'
    have heq : active.filter (fun _ => true) = active'.filter fun _ => true :=
      hactive.filter_congr hactive' fun x _ => by
        simp only [hactive.mem_iff, hactive'.mem_iff, hsame]
    rw [List.filter_true, List.filter_true] at heq
    rw [h', heq]
  | error error =>
    cases h' : r.resolve ids signals' at' with
    | ok decisions' =>
      obtain ⟨decisions, hok⟩ := resolve_isOk.mpr
        (hconsistent.mpr (resolve_isOk.mp ⟨decisions', h'⟩))
      rw [h] at hok
      cases hok
    | error error' => rfl

/-! ## One more inhibitor -/

/-- A subject is no higher in one decision than in another. -/
def NoHigher (decision decision' : SalienceDecision) : Prop :=
  decision'.subject = decision.subject ∧ decision'.disposition.rank ≤ decision.disposition.rank

theorem resolveActive_anti (hbudget : r.wakeBudget = none)
    (hexcitatory : active.filter Signal.excitatory = active'.filter Signal.excitatory)
    (hinhibitors : (active.filter fun signal => !signal.excitatory).Subperm
      (active'.filter fun signal => !signal.excitatory)) :
    List.Forall₂ NoHigher (r.resolveActive ids active) (r.resolveActive ids active') := by
  have hresolve : ∀ active, r.resolveActive ids active =
      (sortedIds ((active.filter Signal.excitatory).map Signal.subject)).map fun subject =>
        r.resolveSubject subject
          ((active.filter Signal.excitatory).filter fun signal => signal.subject = subject)
          (active.filter fun signal => !signal.excitatory) ids := by
    intro active
    unfold resolveActive applyWakeBudget
    rw [hbudget]
  rw [hresolve, hresolve, ← hexcitatory, List.forall₂_map_left_iff, List.forall₂_map_right_iff,
    List.forall₂_same]
  intro subject hsubject
  refine ⟨rfl, dispositionOf_anti ?_ hinhibitors⟩
  obtain ⟨signal, hsignal, rfl⟩ := List.mem_map.mp (mem_sortedIds.mp hsubject)
  exact List.ne_nil_of_mem (List.mem_filter.mpr ⟨hsignal, decide_eq_true rfl⟩)

/-- **Resolutions are free of order, and inhibition is monotone.** -/
theorem resolution_monotone (r : SalienceResolver) (ids : SalienceIdentity → String)
    (at' : Datetime) (signals signals' : List Signal) :
    ((∀ signal, signal ∈ signals ↔ signal ∈ signals') →
      (r.resolve ids signals at').toOption = (r.resolve ids signals' at').toOption) ∧
    ∀ inhibitor : Signal, r.wakeBudget = none → inhibitor.excitatory = false →
      (∀ signal, signal ∈ signals' ↔ signal = inhibitor ∨ signal ∈ signals) →
      ∀ decisions decisions', r.resolve ids signals at' = .ok decisions →
        r.resolve ids signals' at' = .ok decisions' → List.Forall₂ NoHigher decisions decisions' := by
  refine ⟨resolve_congr, fun inhibitor hbudget hinhibitor hadded decisions decisions' h h' => ?_⟩
  obtain ⟨active, hactive, rfl⟩ := resolve_ok h
  obtain ⟨active', hactive', rfl⟩ := resolve_ok h'
  have hsub : ∀ x ∈ active, x ∈ active' := by
    intro x hx
    obtain ⟨signal, hsignal, hnow, hsame⟩ := (hactive.mem_iff x).mp hx
    exact (hactive'.mem_iff x).mpr ⟨signal, (hadded signal).mpr (.inr hsignal), hnow, hsame⟩
  refine resolveActive_anti hbudget (hactive.filter_congr hactive' fun x hx => ⟨hsub x, ?_⟩) ?_
  · intro hmem
    obtain ⟨signal, hsignal, hnow, rfl⟩ := (hactive'.mem_iff x).mp hmem
    rcases (hadded signal).mp hsignal with rfl | hold
    · exact absurd (hinhibitor.symm.trans hx) Bool.false_ne_true
    · exact (hactive.mem_iff _).mpr ⟨signal, hold, hnow, rfl⟩
  · refine ((List.Nodup.of_map _ hactive.distinct).filter _).subperm fun x hx => ?_
    obtain ⟨hmem, htest⟩ := List.mem_filter.mp hx
    exact List.mem_filter.mpr ⟨hsub x hmem, htest⟩

/-! ## A doorbell and a quiet hour -/

/-- The default thresholds. -/
def watchful : SalienceResolver where
  wakeThreshold := 3 / 4
  rememberThreshold := 7 / 20
  urgencyThreshold := 9 / 10
  expectedValueScale := 1
  wakeBudget := none
  wakeThreshold_unit := by norm_num
  rememberThreshold_unit := by norm_num
  urgencyThreshold_unit := by norm_num
  expectedValueScale_pos := by norm_num

/-- Someone is at the door. -/
def doorbell : Signal where
  signalId := "signal:doorbell"
  kind := "door.rung"
  subject := "door"
  confidence := 1
  salience := 1
  urgency := 1
  expectedValue := 0
  validFrom := .utc 0
  validUntil := .utc 60
  evidenceEventIds := ["rung"]
  ruleRef := "door@1"
  evaluationEpochId := "epoch"
  precedence := 0
  role := .excitatory
  suggestedDisposition := .wake
  valid := by decide
  confidence_unit := InUnit.one
  salience_unit := InUnit.one
  urgency_unit := InUnit.one
  expectedValue_nonneg := le_rfl

/-- Nothing at the door counts now. -/
def quietHour : Signal :=
  { doorbell with
    signalId := "signal:quiet", kind := "house.quiet", subject := "*", precedence := 1
    role := .inhibitory ["door.*"] (by decide) .hard }

theorem resolution_monotone_quiet : ∃ decisions decisions',
    watchful.resolve (fun _ => "") [doorbell] (.utc 30) = .ok decisions ∧
    watchful.resolve (fun _ => "") [doorbell, quietHour] (.utc 30) = .ok decisions' ∧
    decisions.map (fun decision => decision.disposition) = [.wake] ∧
    decisions'.map (fun decision => decision.disposition) = [.suppress] ∧
    List.Forall₂ NoHigher decisions decisions' := by
  have hring : (watchful.resolve (fun _ => "") [doorbell] (.utc 30)).toOption.map
      (List.map fun decision => decision.disposition) = some [.wake] := by
    decide +kernel
  have hquiet : (watchful.resolve (fun _ => "") [doorbell, quietHour] (.utc 30)).toOption.map
      (List.map fun decision => decision.disposition) = some [.suppress] := by
    decide +kernel
  obtain ⟨decisions, h, hwake⟩ := Option.map_eq_some_iff.mp hring
  obtain ⟨decisions', h', hsuppress⟩ := Option.map_eq_some_iff.mp hquiet
  rw [toOption_eq_some] at h h'
  refine ⟨decisions, decisions', h, h', hwake, hsuppress, ?_⟩
  refine (resolution_monotone watchful _ _ [doorbell] [doorbell, quietHour]).2 quietHour rfl rfl
    (fun signal => ?_) decisions decisions' h h'
  simp only [List.mem_cons, List.not_mem_nil, or_false]
  exact or_comm

end SalienceResolver

end Noema
