import Noema.Lib.Redelivery
import Noema.ReconsiderationSafety
import Noema.WorkSafety

/-!
# Redelivered and kept events

The work, the intent, the endogenous and the reconsideration projection keep the events they
have applied and skip one that comes again.  So a log that is delivered at least once is
projected as if it came once, and the events that a projection keeps are all that it is made
of (`Compacted`).  The projections that another one is built on see exactly the events that it
keeps (`reconsideration_parts`).
-/
namespace Noema

open Redelivery Folding

/-- What can be said of a log that was accepted, and of the events that were kept of it: they
lead to the same result, they are some of its events, in the order of their sequences, and
delivering events again changes nothing. -/
structure Compacted {S E : Type} (rebuild : List E → Except PyError S)
    (place : E → Option Nat) (log kept : List E) (p : S) : Prop where
  replayed : rebuild kept = .ok p
  events : kept.Sublist log
  ascending : kept.Pairwise fun d e => ∀ m ∈ place d, ∀ n ∈ place e, m < n
  redelivered : ∀ delivered, Redelivered log delivered → rebuild delivered = .ok p

theorem compacted_of {S E K : Type} [DecidableEq K] {key : E → K}
    {step : S → E → Except PyError S} {kept : S → KeyedTable key} {Same : E → E → Prop}
    {place : E → Option Nat} {last : S → Nat} {s p : S} {log : List E}
    (hr : Remembers step kept Same place last) (hstart : (kept s).rows = [])
    (hrefl : ∀ e ∈ log, Same e e) (h : run step s log = .ok p) :
    Compacted (run step s) place log (kept p).rows p where
  replayed := (hr.run_kept hstart h).1
  events := (hr.run_kept hstart h).2
  ascending := hr.kept_pairwise hstart h
  redelivered := fun _ hdelivered => (hr.run_redelivered hdelivered hrefl).mpr h

/-- How the projections answer an event whose id is known. -/
theorem known_answer {S : Type} {same : Bool} {p q : S} {error : PyError} :
    ((if same = true then .ok (p, false) else .error error : Except PyError (S × Bool)) >>=
      fun (p, _) => pure p) = .ok q ↔ same = true ∧ q = p := by
  cases same with
  | false =>
    constructor
    · intro h
      cases h
    · intro h
      cases h.1
  | true =>
    constructor
    · intro h
      cases h
      exact ⟨rfl, rfl⟩
    · rintro ⟨-, rfl⟩
      rfl

/-! ## Intent -/

namespace StrategicProjection

theorem remembers (b : IntentBuiltins) :
    Remembers (step b) (fun p => p.events) (fun d e => b.sameEvent d e = true) Event.sequence
      (fun p => p.lastSequence) where
  known {p p' d e} h := by
    unfold step apply
    rw [h]
    exact known_answer
  fresh {p p' e} h hstep := by
    rcases step_recorded hstep with ⟨hknown, -⟩ | ⟨-, q, sequence, hq, -, -, rfl⟩
    · rw [h] at hknown
      cases hknown
    · exact congrArg (KeyedTable.put · e) hq.events
  placed {p p' e} h hstep := by
    rcases step_recorded hstep with
      ⟨hknown, -⟩ | ⟨-, q, sequence, -, hsequence, hlater, rfl⟩
    · rw [h] at hknown
      cases hknown
    · exact ⟨sequence, hsequence, hlater, rfl⟩

/-- **An intent log may be delivered more than once**, and its kept events stand for it. -/
theorem intent_compacted {b : IntentBuiltins} {log : List Event} {p : StrategicProjection}
    (hrefl : ∀ event ∈ log, b.sameEvent event event = true) (h : rebuild b log = .ok p) :
    Compacted (rebuild b) Event.sequence log p.events.rows p :=
  compacted_of (remembers b) rfl hrefl h

theorem paper_compacted : ∃ p, rebuild plainIntent [paperRecorded] = .ok p ∧
    Compacted (rebuild plainIntent) Event.sequence [paperRecorded] p.events.rows p := by
  obtain ⟨p, hp⟩ := ok_of_isOk
    (show (rebuild plainIntent [paperRecorded]).isOk = true by decide +kernel)
  refine ⟨p, hp, intent_compacted (fun event hevent => ?_) hp⟩
  obtain rfl := List.mem_singleton.mp hevent
  decide

end StrategicProjection

/-! ## Endogenous cognition -/

namespace EndogenousProjection

variable {b : EndogenousBuiltins} {p q : EndogenousProjection} {event : Event}

theorem Transition.frame (h : Transition b p event q) :
    q.events = p.events ∧ q.strategy = p.strategy := by
  cases h <;> exact ⟨rfl, rfl⟩

/-- A new event is shown to the intent projection and is kept. -/
theorem step_fresh (hfresh : p.event event.id = none) (h : step b p event = .ok q) :
    ∃ sequence, event.sequence = some sequence ∧ p.lastSequence < sequence ∧
      p.strategy.step b.toIntentBuiltins event = .ok q.strategy ∧
      q.events = p.events.put event ∧ q.lastSequence = sequence := by
  rcases step_cases h with ⟨hknown, -⟩ | ⟨-, applied, strategy, sequence, hsequence, hlater,
    happlied, hstrategy, rfl⟩
  · rw [hfresh] at hknown
    cases hknown
  · exact ⟨sequence, hsequence, hlater, hstrategy,
      congrArg (KeyedTable.put · event) happlied.frame.1, rfl⟩

theorem remembers (b : EndogenousBuiltins) :
    Remembers (step b) (fun p => p.events) (fun d e => b.sameEvent d e = true) Event.sequence
      (fun p => p.lastSequence) where
  known {p p' d e} h := by
    have hfind : p.event e.id = some d := h
    unfold step apply
    rw [hfind]
    exact known_answer
  fresh {p p' e} h hstep := by
    obtain ⟨-, -, -, -, hevents, -⟩ := step_fresh h hstep
    exact hevents
  placed {p p' e} h hstep := by
    obtain ⟨sequence, hsequence, hlater, -, -, hlast⟩ := step_fresh h hstep
    exact ⟨sequence, hsequence, hlater, hlast⟩

/-- **The same for an endogenous log.** -/
theorem endogenous_compacted {log : List Event}
    (hrefl : ∀ event ∈ log, b.sameEvent event event = true) (h : rebuild b log = .ok p) :
    Compacted (rebuild b) Event.sequence log p.events.rows p :=
  compacted_of (remembers b) rfl hrefl h

/-- The intent projection inside has seen the events that are kept, and nothing else. -/
theorem rebuild_strategy {log : List Event} (h : rebuild b log = .ok p) :
    StrategicProjection.rebuild b.toIntentBuiltins p.events.rows = .ok p.strategy := by
  refine run_induction (I := fun _ p =>
    StrategicProjection.rebuild b.toIntentBuiltins p.events.rows = .ok p.strategy) rfl ?_ h
  intro log event p q _ ih hstep
  cases hfind : p.event event.id with
  | some known =>
    obtain ⟨-, rfl⟩ := ((remembers b).known hfind).mp hstep
    exact ih
  | none =>
    obtain ⟨-, -, -, hstrategy, -, -⟩ := step_fresh hfind hstep
    rw [(remembers b).rows_of_fresh hfind hstep]
    exact run_snoc.mpr ⟨p.strategy, ih, hstrategy⟩

theorem policy_compacted : ∃ p, rebuild plainEndogenous [freePolicyRecorded] = .ok p ∧
    Compacted (rebuild plainEndogenous) Event.sequence [freePolicyRecorded] p.events.rows p := by
  obtain ⟨p, hp⟩ := ok_of_isOk
    (show (rebuild plainEndogenous [freePolicyRecorded]).isOk = true by decide +kernel)
  refine ⟨p, hp, endogenous_compacted (fun event hevent => ?_) hp⟩
  obtain rfl := List.mem_singleton.mp hevent
  decide

end EndogenousProjection

/-! ## Reconsideration -/

namespace ReconsiderationProjection

variable {b : ReconsiderationBuiltins} {p q : ReconsiderationProjection b.informationIds}
  {event : Event}

theorem Transition.frame (h : p.Transition event q) :
    q.events = p.events ∧ q.endogenous = p.endogenous ∧ q.information = p.information := by
  cases h <;> exact ⟨rfl, rfl, rfl⟩

/-- A new event is shown to the projections inside and is kept. -/
theorem step_fresh (hfresh : p.events.find event.id = none) (h : step b p event = .ok q) :
    ∃ sequence, event.sequence = some sequence ∧ p.lastSequence < sequence ∧
      p.endogenous.step b.toEndogenousBuiltins event = .ok q.endogenous ∧
      p.information.step b.toInformationBuiltins event = .ok q.information ∧
      q.events = p.events.put event ∧ q.lastSequence = sequence := by
  obtain ⟨⟨_, handled⟩, happly, h⟩ := bind_eq_ok h
  cases h
  unfold apply at happly
  rw [hfresh] at happly
  cases hsequence : event.sequence with
  | none =>
    rw [hsequence] at happly
    cases happly
  | some sequence =>
    rw [hsequence] at happly
    simp only [bind_ok_iff] at happly
    obtain ⟨_, hlater, ⟨applied, _⟩, happlied, endogenous, hendogenous, information,
      hinformation, ⟨mandates, _⟩, -, happly⟩ := happly
    cases happly
    obtain ⟨hevents, hold, hknown⟩ := (applyEvent_transition happlied).frame
    rw [hold] at hendogenous
    rw [hknown] at hinformation
    exact ⟨sequence, rfl, not_le.mp (refuse_ok hlater), hendogenous, hinformation,
      congrArg (KeyedTable.put · event) hevents, rfl⟩

theorem remembers (b : ReconsiderationBuiltins) :
    Remembers (step b) (fun p => p.events) (fun d e => b.sameEvent d e = true) Event.sequence
      (fun p => p.lastSequence) where
  known {p p' d e} h := by
    unfold step apply
    rw [h]
    exact known_answer
  fresh {p p' e} h hstep := by
    obtain ⟨-, -, -, -, -, hevents, -⟩ := step_fresh h hstep
    exact hevents
  placed {p p' e} h hstep := by
    obtain ⟨sequence, hsequence, hlater, -, -, -, hlast⟩ := step_fresh h hstep
    exact ⟨sequence, hsequence, hlater, hlast⟩

/-- The projections inside have seen the events that are kept, and nothing else. -/
theorem rebuild_inside {log : List Event} (h : rebuild b log = .ok p) :
    p.endogenous.events = p.events ∧
    EndogenousProjection.rebuild b.toEndogenousBuiltins p.events.rows = .ok p.endogenous ∧
    InformationGovernance.rebuild b.toInformationBuiltins p.events.rows = .ok p.information := by
  refine run_induction (I := fun _ p => p.endogenous.events = p.events ∧
    EndogenousProjection.rebuild b.toEndogenousBuiltins p.events.rows = .ok p.endogenous ∧
    InformationGovernance.rebuild b.toInformationBuiltins p.events.rows = .ok p.information)
    ⟨rfl, rfl, rfl⟩ ?_ h
  rintro log event p q - ⟨hsame, hendogenous, hinformation⟩ hstep
  cases hfind : p.events.find event.id with
  | some known =>
    obtain ⟨-, rfl⟩ := ((remembers b).known hfind).mp hstep
    exact ⟨hsame, hendogenous, hinformation⟩
  | none =>
    obtain ⟨sequence, -, -, hinner, hgoverned, hevents, -⟩ := step_fresh hfind hstep
    -- Both tables hold the same events, so the event is new inside as well.
    have hnew : p.endogenous.event event.id = none := by
      unfold EndogenousProjection.event
      rw [hsame, hfind]
    obtain ⟨-, -, -, -, hkept, -⟩ := EndogenousProjection.step_fresh hnew hinner
    rw [(remembers b).rows_of_fresh hfind hstep]
    exact ⟨by rw [hkept, hsame, hevents], run_snoc.mpr ⟨p.endogenous, hendogenous, hinner⟩,
      run_snoc.mpr ⟨p.information, hinformation, hgoverned⟩⟩

/-- An event that no projection of the log handles. -/
def noted : Event := eventAt 1 "note.taken" "note" "ada" .empty

theorem noted_accepted : ∃ p, rebuild plainReconsideration [noted] = .ok p :=
  ok_of_isOk (by decide +kernel)

end ReconsiderationProjection

/-! ## Work -/

namespace WorkProjection

variable {ids : WorkIds} {floats : FloatProduct} {p q : WorkProjection} {log : List WorkEvent}

theorem Recorded.events {event : WorkEvent} {sequence : Nat}
    (h : Recorded ids floats p event sequence q) : q.events = p.events := by
  cases h <;> rfl

theorem applyAll_run (p : WorkProjection) (log : List WorkEvent) :
    p.applyAll ids floats log = run (fun p event => p.apply ids floats event) p log := by
  induction log generalizing p with
  | nil => rfl
  | cons event log ih =>
    rw [applyAll, run]
    cases h : p.apply ids floats event with
    | ok q => exact ih q
    | error refusal => rfl

theorem remembers (ids : WorkIds) (floats : FloatProduct) :
    Remembers (fun (p : WorkProjection) event => p.apply ids floats event) (fun p => p.events)
      (· = ·) WorkEvent.sequence (fun p => p.lastSequence) where
  known {p p' d e} h := by
    rw [apply_ok, h]
    constructor
    · rintro (⟨hsame, rfl⟩ | ⟨hnone, -⟩)
      · exact ⟨Option.some.inj hsame, rfl⟩
      · cases hnone
    · rintro ⟨rfl, rfl⟩
      exact .inl ⟨rfl, rfl⟩
  fresh {p p' e} h hstep := by
    rcases apply_ok.mp hstep with ⟨hknown, -⟩ | ⟨-, sequence, q, -, -, hrecorded, rfl⟩
    · rw [h] at hknown
      cases hknown
    · exact congrArg (KeyedTable.put · e) hrecorded.events
  placed {p p' e} h hstep := by
    rcases apply_ok.mp hstep with ⟨hknown, -⟩ | ⟨-, sequence, q, hsequence, hlater, -, rfl⟩
    · rw [h] at hknown
      cases hknown
    · exact ⟨sequence, hsequence, hlater, rfl⟩

/-- **The same for a work log**, whose events are compared as a whole. -/
theorem work_compacted (h : rebuild ids floats log = .ok p) :
    Compacted (rebuild ids floats) WorkEvent.sequence log p.events.rows p := by
  have hrun : rebuild ids floats =
      run (fun (p : WorkProjection) event => p.apply ids floats event) empty :=
    funext fun log => applyAll_run empty log
  rw [hrun] at h ⊢
  exact compacted_of (remembers ids floats) rfl (fun _ _ => rfl) h

theorem review_compacted : Compacted (rebuild reviewIds exactProduct) WorkEvent.sequence
    reviewHistory (rebuilt reviewIds exactProduct reviewHistory).events.rows
    (rebuilt reviewIds exactProduct reviewHistory) :=
  work_compacted reviewHistory_accepted

end WorkProjection

end Noema
