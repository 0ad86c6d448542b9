import Noema.CheckpointSafety
import Noema.ShadowEpochs

/-!
# Restarting the shadow worker

A restart rebuilds the registry and restores the epoch of the checkpoint (`Restartable`).
It can do so after every run in which each registration that others store is readable and
under a new ref, and nobody else stores what only the workers do (`restartable_of_run`): the
registry then has every rule of an epoch at the sequence at which the epoch saw it.

One more registration under a used ref, which a running worker's handler rejects without
further effect, stops every later start (`duplicate_registration_stops`).
-/
namespace Noema

open Machine

variable {b : ShadowBuiltins}

/-! ## What the log says of epochs and rulesets -/

/-- An epoch of this id was opened and is stored. -/
def Announced (events : List Event) (opened : List EvaluationEpoch) (epochId : String) : Prop :=
  (∃ event ∈ events, startsEpoch epochId event = true) ∧ ∃ epoch ∈ opened, epoch.epochId = epochId

variable (b) in
/-- The ruleset is stored. -/
def Materialized (events : List Event) (ruleset : RulesetSnapshot) : Prop :=
  ∃ event ∈ events, materializes (ruleset.snapshotId b) event = true

variable (b) in
/-- An epoch as it was opened: its rules were registered up to its cursor. -/
structure Opened (events : List Event) (epoch : EvaluationEpoch) : Prop where
  genuine : epoch.epochId = EvaluationEpoch.idOf b
    (EvaluationEpoch.identity b epoch.ruleset epoch.startedAt epoch.eventLogCursor)
  dated : b.parseDatetime (.str (b.isoformat epoch.startedAt)) = .ok (some epoch.startedAt)
  pinned : ∀ rule ∈ epoch.ruleset.rules, ∃ entry ∈ registrationsOf b.toRuleBuiltins events,
    entry.sequence ≤ epoch.eventLogCursor ∧ entry.rule = rule

variable (b) in
/-- An epoch event is that of an epoch opened after its ruleset was stored, or names no
epoch that a worker could open. -/
def EpochEvent (events : List Event) (opened : List EvaluationEpoch) (event : Event) : Prop :=
  event.type = evaluationEpochStarted →
    (∃ epoch ∈ opened, event.payload = epoch.toDict b ∧ Materialized b events epoch.ruleset) ∨
      ∀ identity, startsEpoch (EvaluationEpoch.idOf b identity) event = false

variable (b) in
/-- A ruleset event is that of a ruleset, or names none. -/
def RulesetEvent (event : Event) : Prop :=
  event.type = rulesetMaterialized →
    (∃ ruleset : RulesetSnapshot, event.payload = (ruleset.content b).toDict ∧
      event.subject = some (ruleset.snapshotId b)) ∨
      ∀ ruleset : RulesetSnapshot, event.subject ≠ some (ruleset.snapshotId b)

variable (b) in
/-- Under the ids of rulesets and epochs there are their events. -/
structure OwnIds (event : Event) : Prop where
  ruleset : ∀ ruleset : RulesetSnapshot, event.id = rulesetEventId b (ruleset.content b) →
    materializes (ruleset.snapshotId b) event = true
  epoch : ∀ epochId, event.id = EvaluationEpoch.eventId b epochId → startsEpoch epochId event = true

namespace ShadowSystem

/-- A worker has this consumer id. -/
def Consumes (s : ShadowSystem) (consumerId : String) : Prop :=
  ∃ w ∈ s.workers, w.consumerId = consumerId

variable (b) in
/-- A checkpoint of a worker names an epoch that is stored, and under the id of a worker's
checkpoint there is none of another consumer. -/
structure CheckpointEvent (s : ShadowSystem) (event : Event) : Prop where
  named : ∀ checkpoint,
    ConsumerCheckpoint.fromEvent b.toCheckpointBuiltins event = .ok checkpoint →
    s.Consumes checkpoint.consumerId →
    ∀ epochId ∈ checkpoint.epochId, Announced s.log.events s.opened epochId
  own : ∀ checkpoint,
    ConsumerCheckpoint.fromEvent b.toCheckpointBuiltins event = .ok checkpoint →
    ∀ content, s.Consumes content.consumerId →
      event.id = "consumer-checkpoint:" ++ b.checkpointDigest content →
      checkpoint.consumerId = content.consumerId

variable (b) in
/-- What a worker relies on where it is. -/
def PhaseSound (s : ShadowSystem) : ShadowPhase → Prop
  | .down | .booting _ => True
  | .fresh history registry _ => history <+: s.log.events ∧
      RuleRegistry.rebuild b.toRuleBuiltins history = .ok registry
  | .materializing epoch previous =>
    epoch ∈ s.opened ∧ ∀ old ∈ previous, Announced s.log.events s.opened old.epochId
  | .announcing epoch previous =>
    epoch ∈ s.opened ∧ Materialized b s.log.events epoch.ruleset ∧
      ∀ old ∈ previous, Announced s.log.events s.opened old.epochId
  | .running epoch => Announced s.log.events s.opened epoch.epochId

variable (b) in
/-- **The log carries what a restart needs.** -/
structure Sound (s : ShadowSystem) : Prop where
  registered : WellRegistered b.toRuleBuiltins s.log.events
  opened : ∀ epoch ∈ s.opened, Opened b s.log.events epoch
  epochs : ∀ event ∈ s.log.events, EpochEvent b s.log.events s.opened event
  rulesets : ∀ event ∈ s.log.events, RulesetEvent b event
  ids : ∀ event ∈ s.log.events, OwnIds b event
  checkpoints : ∀ event ∈ s.log.events, s.CheckpointEvent b event
  phases : ∀ w ∈ s.workers, s.PhaseSound b w.phase

variable (b) in
/-- An event that the log may take. -/
structure Admissible (s : ShadowSystem) (event : Event) : Prop where
  registered : WellRegistered b.toRuleBuiltins (s.log.events ++ [event])
  epoch : EpochEvent b s.log.events s.opened event
  ruleset : RulesetEvent b event
  ids : OwnIds b event
  checkpoint : s.CheckpointEvent b event

variable {s : ShadowSystem}

theorem start_sound (workers : List (String × String)) : (start workers).Sound b where
  registered := ⟨fun _ hmem => (nomatch hmem), List.nodup_nil⟩
  opened := fun _ hmem => nomatch hmem
  epochs := fun _ hmem => nomatch hmem
  rulesets := fun _ hmem => nomatch hmem
  ids := fun _ hmem => nomatch hmem
  checkpoints := fun _ hmem => nomatch hmem
  phases := fun w hw => by
    obtain ⟨worker, -, rfl⟩ := List.mem_map.mp hw
    trivial

end ShadowSystem

section Growth

variable {events later : List Event} (h : events <+: later)
include h

theorem Announced.mono {opened opened' : List EvaluationEpoch} {epochId : String}
    (ha : Announced events opened epochId) (hopened : opened ⊆ opened') :
    Announced later opened' epochId := by
  obtain ⟨⟨event, hmem, hstarts⟩, epoch, hepoch, hid⟩ := ha
  exact ⟨⟨event, h.subset hmem, hstarts⟩, epoch, hopened hepoch, hid⟩

theorem Materialized.mono {ruleset : RulesetSnapshot} (hm : Materialized b events ruleset) :
    Materialized b later ruleset := by
  obtain ⟨event, hmem, hmaterializes⟩ := hm
  exact ⟨event, h.subset hmem, hmaterializes⟩

theorem registrationsOf_mono {rb : RuleBuiltins} {entry : RegisteredRule}
    (hentry : entry ∈ registrationsOf rb events) : entry ∈ registrationsOf rb later := by
  obtain ⟨rest, rfl⟩ := h
  rw [registrationsOf_append]
  exact List.mem_append_left _ hentry

theorem Opened.mono {epoch : EvaluationEpoch} (ho : Opened b events epoch) :
    Opened b later epoch where
  genuine := ho.genuine
  dated := ho.dated
  pinned := fun rule hrule => by
    obtain ⟨entry, hentry, hrest⟩ := ho.pinned rule hrule
    exact ⟨entry, registrationsOf_mono h hentry, hrest⟩

theorem EpochEvent.mono {opened opened' : List EvaluationEpoch} {event : Event}
    (he : EpochEvent b events opened event) (hopened : opened ⊆ opened') :
    EpochEvent b later opened' event := by
  intro htype
  rcases he htype with ⟨epoch, hepoch, hpayload, hmaterialized⟩ | hnone
  · exact Or.inl ⟨epoch, hopened hepoch, hpayload, hmaterialized.mono h⟩
  · exact Or.inr hnone

end Growth

namespace ShadowSystem

variable {s : ShadowSystem} {log' : EventLog} {event : Event}

theorem PhaseSound.mono {s' : ShadowSystem} {phase : ShadowPhase} (h : s.PhaseSound b phase)
    (hlog : s.log.events <+: s'.log.events) (hopened : s.opened ⊆ s'.opened) :
    s'.PhaseSound b phase := by
  cases phase with
  | down => trivial
  | booting => trivial
  | fresh history registry head => exact ⟨h.1.trans hlog, h.2⟩
  | materializing epoch previous =>
    exact ⟨hopened h.1, fun old hold => (h.2 old hold).mono hlog hopened⟩
  | announcing epoch previous =>
    exact ⟨hopened h.1, h.2.1.mono hlog, fun old hold => (h.2.2 old hold).mono hlog hopened⟩
  | running epoch => exact Announced.mono hlog h hopened

/-- **The log takes an admissible event.** -/
theorem Sound.grow (h : s.Sound b) (ha : s.Admissible b event)
    (hevents : log'.events = s.log.events ++ [event]) : Sound b { s with log := log' } := by
  have hprefix : s.log.events <+: log'.events := ⟨[event], hevents.symm⟩
  have hmem : ∀ other ∈ log'.events, other ∈ s.log.events ∨ other = event := fun other hother => by
    rw [hevents] at hother
    exact (List.mem_append.mp hother).imp_right List.mem_singleton.mp
  refine ⟨?_, fun epoch hepoch => (h.opened epoch hepoch).mono hprefix, ?_, ?_, ?_, ?_,
    fun w hw => (h.phases w hw).mono hprefix (List.Subset.refl _)⟩
  · show WellRegistered _ log'.events
    rw [hevents]
    exact ha.registered
  · intro other hother
    rcases hmem other hother with hold | rfl
    · exact (h.epochs other hold).mono hprefix (List.Subset.refl _)
    · exact ha.epoch.mono hprefix (List.Subset.refl _)
  · intro other hother
    rcases hmem other hother with hold | rfl
    · exact h.rulesets other hold
    · exact ha.ruleset
  · intro other hother
    rcases hmem other hother with hold | rfl
    · exact h.ids other hold
    · exact ha.ids
  · intro other hother
    have hcheckpoint : s.CheckpointEvent b other := by
      rcases hmem other hother with hold | rfl
      · exact h.checkpoints other hold
      · exact ha.checkpoint
    refine ⟨fun checkpoint hread hworker epochId hepochId => ?_, hcheckpoint.own⟩
    exact (hcheckpoint.named checkpoint hread hworker epochId hepochId).mono hprefix
      (List.Subset.refl _)

/-- An append leaves the log, or the log takes the event. -/
theorem Sound.append (event : Event) (h : s.Sound b) (gap : Nat)
    (ha : s.log.byId event.id = none → ∀ gap, s.Admissible b (s.log.nextStored event gap)) :
    Sound b { s with log := (s.log.append event (.takes gap)).1 } := by
  have happended := s.log.append_appended event (.takes gap)
  generalize s.log.append event (.takes gap) = answer at happended
  obtain ⟨log', result⟩ := answer
  cases happended with
  | refused | known => exact h
  | added hid hevents => exact h.grow (ha hid _) hevents

end ShadowSystem

/-! ## What the workers store -/

theorem rulesetMaterialized_ne : rulesetMaterialized ≠ ruleVersionRegistered ∧
    rulesetMaterialized ≠ evaluationEpochStarted ∧
    rulesetMaterialized ≠ consumerCheckpointEvent := by decide

theorem evaluationEpochStarted_ne : evaluationEpochStarted ≠ ruleVersionRegistered ∧
    evaluationEpochStarted ≠ rulesetMaterialized ∧
    evaluationEpochStarted ≠ consumerCheckpointEvent := by decide

theorem consumerCheckpointEvent_ne : consumerCheckpointEvent ≠ ruleVersionRegistered ∧
    consumerCheckpointEvent ≠ evaluationEpochStarted ∧
    consumerCheckpointEvent ≠ rulesetMaterialized := by decide

theorem startsEpoch_iff {epoch : EvaluationEpoch} {event : Event} {epochId : String}
    (htype : event.type = evaluationEpochStarted) (hpayload : event.payload = epoch.toDict b) :
    startsEpoch epochId event = true ↔ epoch.epochId = epochId := by
  simp [startsEpoch, htype, hpayload, EvaluationEpoch.toDict, Payload.get, Dict.get?_ofList,
    JSONValue.equalsText]

theorem materializes_iff {event : Event} {rulesetId : String} :
    materializes rulesetId event = true ↔
      event.type = rulesetMaterialized ∧ event.subject = some rulesetId := by
  simp [materializes]

/-- The ids of checkpoints are not those of rulesets and epochs. -/
theorem checkpointId_ne (digest other : String) :
    "consumer-checkpoint:" ++ digest ≠ "event:" ++ other := by
  intro h
  have hlists := congrArg String.toList h
  rw [String.toList_append, String.toList_append] at hlists
  have hheads : 'c' = 'e' := (List.cons.inj hlists).1
  exact absurd hheads (by decide)

theorem not_checkpoint {event : Event} (htype : event.type ≠ consumerCheckpointEvent)
    (s : ShadowSystem) : s.CheckpointEvent b event :=
  ⟨fun _ hread => absurd (ConsumerCheckpoint.fromEvent_ok hread).1 htype,
    fun _ hread => absurd (ConsumerCheckpoint.fromEvent_ok hread).1 htype⟩

namespace ShadowSystem

variable {s : ShadowSystem}

/-- A ruleset may be stored. -/
theorem Sound.ruleset_admissible (h : s.Sound b) (ruleset : RulesetSnapshot) (source : String)
    (timestamp : Datetime) (sequence : Nat) :
    s.Admissible b ((ruleset.toEvent b source timestamp).withSequence sequence) where
  registered := (wellRegistered_snoc_other rulesetMaterialized_ne.1).mpr h.registered
  epoch := fun htype => absurd htype rulesetMaterialized_ne.2.1
  ruleset := fun _ => Or.inl ⟨ruleset, rfl, rfl⟩
  ids := by
    refine ⟨fun other hid => ?_, fun epochId hid => ?_⟩
    · have hdigest : b.rulesetEventDigest (ruleset.content b) =
          b.rulesetEventDigest (other.content b) := String.append_right_inj _ |>.mp hid
      have hcontent := b.rulesetEventDigest_injective hdigest
      have hname : ruleset.snapshotId b = other.snapshotId b :=
        congrArg RulesetContent.snapshotId hcontent
      exact materializes_iff.mpr ⟨rfl, congrArg some hname⟩
    · have hdigest : b.rulesetEventDigest (ruleset.content b) = b.epochEventDigest epochId :=
        String.append_right_inj _ |>.mp hid
      exact absurd hdigest (b.eventDigests_apart _ _)
  checkpoint := not_checkpoint rulesetMaterialized_ne.2.2 s

/-- An epoch may be stored once its ruleset is. -/
theorem Sound.epoch_admissible (h : s.Sound b) {epoch : EvaluationEpoch} (hopened : epoch ∈ s.opened)
    (hmaterialized : Materialized b s.log.events epoch.ruleset) (source : String) (sequence : Nat) :
    s.Admissible b ((epoch.toEvent b source).withSequence sequence) where
  registered := (wellRegistered_snoc_other evaluationEpochStarted_ne.1).mpr h.registered
  epoch := fun _ => Or.inl ⟨epoch, hopened, rfl, hmaterialized⟩
  ruleset := fun htype => absurd htype evaluationEpochStarted_ne.2.1
  ids := by
    refine ⟨fun other hid => ?_, fun epochId hid => ?_⟩
    · have hdigest : b.epochEventDigest epoch.epochId = b.rulesetEventDigest (other.content b) :=
        String.append_right_inj _ |>.mp hid
      exact absurd hdigest.symm (b.eventDigests_apart _ _)
    · have hdigest : b.epochEventDigest epoch.epochId = b.epochEventDigest epochId :=
        String.append_right_inj _ |>.mp hid
      exact (startsEpoch_iff rfl rfl).mpr (b.epochEventDigest_injective hdigest)
  checkpoint := not_checkpoint evaluationEpochStarted_ne.2.2 s

/-- A checkpoint may be stored if the epoch it names is. -/
theorem Sound.checkpoint_admissible (h : s.Sound b) {checkpoint : ConsumerCheckpoint}
    (hepoch : ∀ epochId ∈ checkpoint.epochId, Announced s.log.events s.opened epochId)
    (source : String) (timestamp : Datetime) (causationId : Option String) {sequence : Nat} (hpos : 0 < sequence) :
    s.Admissible b ((checkpoint.toEvent b.toCheckpointBuiltins source timestamp
      causationId).withSequence sequence) where
  registered := (wellRegistered_snoc_other consumerCheckpointEvent_ne.1).mpr h.registered
  epoch := fun htype => absurd htype consumerCheckpointEvent_ne.2.1
  ruleset := fun htype => absurd htype consumerCheckpointEvent_ne.2.2
  ids := ⟨fun _ hid => absurd hid (checkpointId_ne _ _), fun _ hid => absurd hid (checkpointId_ne _ _)⟩
  checkpoint := by
    obtain ⟨stored, hstored, hcontent⟩ := checkpoint.fromEvent_toEvent (b := b.toCheckpointBuiltins)
      source timestamp causationId hpos
    refine ⟨fun read hread _ epochId hmem => ?_, fun read hread content _ hid => ?_⟩
    · obtain rfl := Except.ok.inj (hstored.symm.trans hread)
      exact hepoch epochId (congrArg CheckpointContent.epochId hcontent ▸ hmem)
    · obtain rfl := Except.ok.inj (hstored.symm.trans hread)
      rw [congrArg CheckpointContent.consumerId hcontent]
      exact b.digest_consumer _ _ (String.append_right_inj _ |>.mp hid)

variable (b) in
/-- **What others may store**: no epoch, ruleset or checkpoint that a worker could take for
one of the workers', nothing under an id that a worker derives, and no registration that the
registry refuses. -/
structure Foreign (s : ShadowSystem) (event : Event) : Prop where
  registration : event.type = ruleVersionRegistered →
    ∃ entry, registrationOf b.toRuleBuiltins event = .ok entry ∧
      entry.ref ∉ (registrationsOf b.toRuleBuiltins s.log.events).map RegisteredRule.ref
  epoch : ∀ identity, startsEpoch (EvaluationEpoch.idOf b identity) event = false
  ruleset : ∀ ruleset : RulesetSnapshot, materializes (ruleset.snapshotId b) event = false
  rulesetId : ∀ content, event.id ≠ rulesetEventId b content
  epochId : ∀ epochId, event.id ≠ EvaluationEpoch.eventId b epochId
  checkpoint : ∀ checkpoint,
    ConsumerCheckpoint.fromEvent b.toCheckpointBuiltins event = .ok checkpoint →
    checkpoint.epochId = none ∨ ¬ s.Consumes checkpoint.consumerId
  checkpointId : ∀ content, s.Consumes content.consumerId →
    event.id ≠ "consumer-checkpoint:" ++ b.checkpointDigest content

theorem Sound.foreign_admissible (h : s.Sound b) {event : Event} (hf : s.Foreign b event) :
    s.Admissible b event where
  registered := by
    by_cases htype : event.type = ruleVersionRegistered
    · obtain ⟨entry, hread, hnew⟩ := hf.registration htype
      exact (wellRegistered_snoc htype hread).mpr ⟨h.registered, hnew⟩
    · exact (wellRegistered_snoc_other htype).mpr h.registered
  epoch := fun _ => Or.inr hf.epoch
  ruleset := by
    refine fun htype => Or.inr fun ruleset hsubject => ?_
    have hnot := hf.ruleset ruleset
    rw [materializes_iff.mpr ⟨htype, hsubject⟩] at hnot
    cases hnot
  ids := ⟨fun _ hid => absurd hid (hf.rulesetId _), fun _ hid => absurd hid (hf.epochId _)⟩
  checkpoint := by
    refine ⟨fun checkpoint hread hworker epochId hepochId => ?_,
      fun _ _ content hworker hid => absurd hid (hf.checkpointId content hworker)⟩
    rcases hf.checkpoint checkpoint hread with hnone | hother
    · rw [hnone] at hepochId
      cases hepochId
    · exact absurd hworker hother

end ShadowSystem

/-! ## What the workers do -/

/-- Stored events have sequences of their own. -/
theorem EventLog.sequences_nodup (log : EventLog) : (log.events.map Event.sequence).Nodup := by
  refine List.pairwise_map.mpr (log.log.ordered.imp_of_mem fun {a c} ha hc hlt heq => ?_)
  rw [(log.sequenced a ha).1, (log.sequenced c hc).1] at heq
  exact absurd (Option.some.inj heq) (Nat.ne_of_lt hlt)

/-- An append that the store takes leaves the event there, or one of its id was. -/
theorem EventLog.stored_of_append (log : EventLog) (event : Event) (gap : Nat) :
    ∃ stored ∈ (log.append event (.takes gap)).1.events, stored = log.nextStored event gap ∨
      stored ∈ log.events ∧ stored.id = event.id := by
  simp only [EventLog.append]
  split
  · rename_i existing hfind
    obtain ⟨hmem, hid⟩ := EventLog.id_of_byId hfind
    exact ⟨existing, hmem, Or.inr ⟨hmem, hid⟩⟩
  · rename_i hnew
    exact ⟨_, (EventLog.mem_insert hnew (Nat.succ_pos _) _).mpr (Or.inl rfl), Or.inl rfl⟩

/-- What a registry rebuilt from a part of the log has, is registered in the log. -/
theorem registered_of_eligible {log : EventLog} {history : List Event} {registry : RuleRegistry}
    {cursor : Int} (hhistory : history <+: log.events)
    (hregistry : RuleRegistry.rebuild b.toRuleBuiltins history = .ok registry)
    {rule : AutonomicRule} (hrule : rule ∈ registry.eligible cursor) :
    ∃ entry ∈ registrationsOf b.toRuleBuiltins log.events,
      (entry.sequence : Int) ≤ cursor ∧ entry.rule = rule := by
  have hnodup := log.sequences_nodup.sublist (hhistory.sublist.map Event.sequence)
  obtain ⟨entry, hentry, hrest⟩ := RuleRegistry.mem_eligible.mp hrule
  rw [((RuleRegistry.rebuild_spec hnodup).1 registry hregistry).2] at hentry
  exact ⟨entry, registrationsOf_mono hhistory hentry, hrest⟩

theorem opened_of_newEpoch {log : EventLog} {history : List Event} {registry : RuleRegistry}
    {cursor : Int} {clock : ClockReading b} {epoch : EvaluationEpoch}
    (hhistory : history <+: log.events)
    (hregistry : RuleRegistry.rebuild b.toRuleBuiltins history = .ok registry)
    (h : newEpoch b registry cursor clock = .ok epoch) : Opened b log.events epoch := by
  obtain ⟨ruleset, hruleset, h⟩ := bind_eq_ok h
  cases h
  refine ⟨rfl, clock.2, fun rule hrule => ?_⟩
  have heligible := RuleRegistry.eligible_of_snapshot hruleset rule hrule
  obtain ⟨entry, hentry, hle, hsame⟩ := registered_of_eligible hhistory hregistry heligible
  exact ⟨entry, hentry, by dsimp only [EvaluationEpoch.opening]; omega, hsame⟩

theorem restoreEpoch_id {registry : RuleRegistry} {history : List Event} {epochId : String}
    {epoch : EvaluationEpoch} (h : restoreEpoch b registry history epochId = .ok epoch) :
    epoch.epochId = epochId := by
  obtain ⟨_, -, h⟩ := bind_eq_ok h
  obtain ⟨_, -, h⟩ := bind_eq_ok h
  obtain ⟨_, -, h⟩ := bind_eq_ok h
  obtain ⟨_, -, h⟩ := bind_eq_ok h
  obtain ⟨_, -, h⟩ := bind_eq_ok h
  obtain ⟨_, -, h⟩ := bind_eq_ok h
  obtain ⟨_, -, h⟩ := bind_eq_ok h
  obtain ⟨_, -, h⟩ := bind_eq_ok h
  obtain ⟨_, -, h⟩ := bind_eq_ok h
  obtain ⟨_, -, h⟩ := bind_eq_ok h
  obtain ⟨_, -, h⟩ := bind_eq_ok h
  obtain ⟨startedAt, -, h⟩ := bind_eq_ok h
  cases startedAt with
  | none => cases h
  | some startedAt =>
    cases h
    rfl

namespace ShadowSystem

variable {s : ShadowSystem} {w : ShadowWorker} {index : Nat}

theorem PhaseSound.afterError {phase : ShadowPhase} (h : s.PhaseSound b phase) :
    s.PhaseSound b phase.afterError := by
  cases phase with
  | down | booting _ | fresh _ _ _ => trivial
  | materializing epoch previous =>
    cases previous with
    | none => trivial
    | some old => exact h.2 old rfl
  | announcing epoch previous =>
    cases previous with
    | none => trivial
    | some old => exact h.2.2 old rfl
  | running epoch => exact h

/-- A worker goes on where it may, with the epochs it opened. -/
theorem Sound.goes (h : s.Sound b) (hw : s.workers[index]? = some w) {phase : ShadowPhase}
    {opened : List EvaluationEpoch} (hopened : ∀ epoch ∈ opened, Opened b s.log.events epoch)
    (hphase : PhaseSound b { s with opened := s.opened ++ opened } phase) :
    Sound b ⟨s.log, s.workers.set index { w with phase }, s.opened ++ opened⟩ := by
  have hmore : s.opened ⊆ s.opened ++ opened := List.subset_append_left _ _
  refine ⟨h.registered, fun epoch hepoch => ?_, fun event hevent => ?_, h.rulesets, h.ids, ?_, ?_⟩
  · rcases List.mem_append.mp hepoch with hold | hnew
    · exact h.opened epoch hold
    · exact hopened epoch hnew
  · exact (h.epochs event hevent).mono List.prefix_rfl hmore
  · have hconsumes : ∀ {consumerId}, Consumes ⟨s.log, s.workers.set index { w with phase },
        s.opened ++ opened⟩ consumerId → s.Consumes consumerId := by
      rintro consumerId ⟨other, hother, hconsumer⟩
      rcases List.mem_or_eq_of_mem_set hother with hold | rfl
      · exact ⟨other, hold, hconsumer⟩
      · exact ⟨w, List.mem_of_getElem? hw, hconsumer⟩
    refine fun event hevent => ⟨fun checkpoint hread hworker epochId hepochId => ?_,
      fun checkpoint hread content hworker hid => ?_⟩
    · exact ((h.checkpoints event hevent).named checkpoint hread (hconsumes hworker) epochId
        hepochId).mono List.prefix_rfl hmore
    · exact (h.checkpoints event hevent).own checkpoint hread content (hconsumes hworker) hid
  · intro other hother
    rcases List.mem_or_eq_of_mem_set hother with hold | rfl
    · exact (h.phases other hold).mono List.prefix_rfl hmore
    · exact hphase.mono List.prefix_rfl (List.Subset.refl _)

/-- The same, when nothing was opened. -/
theorem Sound.moves (h : s.Sound b) (hw : s.workers[index]? = some w) {phase : ShadowPhase}
    (hphase : s.PhaseSound b phase) :
    Sound b ⟨s.log, s.workers.set index { w with phase }, s.opened ++ []⟩ :=
  h.goes hw (fun _ hmem => nomatch hmem) (hphase.mono List.prefix_rfl (List.subset_append_left _ _))

/-- What `start` and `rotate_epoch` compute from a history. -/
theorem Sound.resumes (h : s.Sound b) (hw : s.workers[index]? = some w) {history : List Event}
    {registry : RuleRegistry} (hhistory : history <+: s.log.events)
    (hregistry : RuleRegistry.rebuild b.toRuleBuiltins history = .ok registry)
    {checkpoint : ConsumerCheckpoint} {clock : ClockReading b} {phase : ShadowPhase}
    {opened : List EvaluationEpoch}
    (hnamed : ∀ epochId ∈ checkpoint.epochId, Announced s.log.events s.opened epochId)
    (hresume : ShadowWorker.resume history registry checkpoint clock = .ok (phase, opened)) :
    Sound b ⟨s.log, s.workers.set index { w with phase }, s.opened ++ opened⟩ := by
  unfold ShadowWorker.resume at hresume
  split at hresume
  · obtain ⟨epoch, hepoch, hresume⟩ := bind_eq_ok hresume
    cases hresume
    have hopened := opened_of_newEpoch hhistory hregistry hepoch
    refine h.goes hw (fun other hother => ?_) ⟨by simp, fun _ hnone => nomatch hnone⟩
    rw [List.mem_singleton.mp hother]
    exact hopened
  · rename_i epochId hepochId
    obtain ⟨epoch, hepoch, hresume⟩ := bind_eq_ok hresume
    cases hresume
    refine h.moves hw ?_
    show Announced _ _ epoch.epochId
    rw [restoreEpoch_id hepoch]
    exact hnamed epochId hepochId

/-- A computation of `start` ends, in a phase or with an exception. -/
theorem Sound.settles (h : s.Sound b) (hw : s.workers[index]? = some w)
    {result : Except PyError (ShadowPhase × List EvaluationEpoch)}
    (hresult : ∀ phase opened, result = .ok (phase, opened) →
      Sound b ⟨s.log, s.workers.set index { w with phase }, s.opened ++ opened⟩)
    {effect : ShadowEffect} (heffect : ShadowWorker.settled s.log result = effect) :
    Sound b ⟨effect.log, s.workers.set index { w with phase := effect.phase },
      s.opened ++ effect.opened⟩ := by
  subst heffect
  cases result with
  | ok answer => exact hresult answer.1 answer.2 rfl
  | error error => exact h.moves hw trivial

theorem Sound.loads (h : s.Sound b) (hw : s.workers[index]? = some w) {head : Nat}
    {clock : ClockReading b} {phase : ShadowPhase} {opened : List EvaluationEpoch}
    (hload : w.load s.log head clock = .ok (phase, opened)) :
    Sound b ⟨s.log, s.workers.set index { w with phase }, s.opened ++ opened⟩ := by
  obtain ⟨registry, hregistry, hload⟩ := bind_eq_ok hload
  obtain ⟨checkpoints, hcheckpoints, hload⟩ := bind_eq_ok hload
  split at hload
  · cases hload
    exact h.moves hw ⟨List.prefix_rfl, hregistry⟩
  · rename_i checkpoint hget
    obtain ⟨hmem, hconsumer⟩ :=
      (((ConsumerCheckpointProjection.rebuild_spec _).1 _ hcheckpoints).2.known _ _ hget)
    obtain ⟨event, hevent, hread⟩ := mem_checkpointsOf.mp hmem
    exact h.resumes hw List.prefix_rfl hregistry ((h.checkpoints event hevent).named checkpoint hread
      ⟨w, List.mem_of_getElem? hw, hconsumer.symm⟩) hload


/-- Storing a ruleset leaves it materialized, also if there was an event under its id. -/
theorem Sound.materialized (h : s.Sound b) (ruleset : RulesetSnapshot) (source : String)
    (timestamp : Datetime) (gap : Nat) :
    Materialized b (s.log.append (ruleset.toEvent b source timestamp) (.takes gap)).1.events
      ruleset := by
  obtain ⟨stored, hmem, rfl | ⟨hold, hid⟩⟩ :=
    s.log.stored_of_append (ruleset.toEvent b source timestamp) gap
  · exact ⟨_, hmem, materializes_iff.mpr ⟨rfl, rfl⟩⟩
  · exact ⟨stored, hmem, (h.ids stored hold).ruleset ruleset hid⟩

/-- Storing an epoch leaves it announced. -/
theorem Sound.announced (h : s.Sound b) {epoch : EvaluationEpoch} (hopened : epoch ∈ s.opened)
    (source : String) (gap : Nat) :
    Announced (s.log.append (epoch.toEvent b source) (.takes gap)).1.events s.opened
      epoch.epochId := by
  refine ⟨?_, epoch, hopened, rfl⟩
  obtain ⟨stored, hmem, rfl | ⟨hold, hid⟩⟩ := s.log.stored_of_append (epoch.toEvent b source) gap
  · exact ⟨_, hmem, (startsEpoch_iff rfl rfl).mpr rfl⟩
  · exact ⟨stored, hmem, (h.ids stored hold).epoch epoch.epochId hid⟩

theorem append_extends (log : EventLog) (event : Event) (gap : Nat) :
    log.events <+: (log.append event (.takes gap)).1.events := by
  have happended := log.append_appended event (.takes gap)
  generalize log.append event (.takes gap) = answer at happended ⊢
  obtain ⟨log', result⟩ := answer
  cases happended with
  | refused => exact List.prefix_rfl
  | known => exact List.prefix_rfl
  | added hid hevents => exact ⟨_, hevents.symm⟩

/-- The event of a worker's checkpoint may be stored. -/
theorem Sound.checkpointEvent_admissible (h : s.Sound b) {completed observed : Int}
    {epochId : Option String} {timestamp : Datetime} {causationId : Option String} {event : Event}
    (hevent : w.checkpointEvent b completed observed epochId timestamp causationId = .ok event)
    (hepoch : ∀ id ∈ epochId, Announced s.log.events s.opened id) (gap : Nat) :
    s.Admissible b (s.log.nextStored event gap) := by
  obtain ⟨checkpoint, hcheckpoint, hevent⟩ := bind_eq_ok hevent
  cases hevent
  obtain ⟨_, rfl⟩ := checkedBy_ok hcheckpoint
  exact h.checkpoint_admissible hepoch _ _ _ (Nat.succ_pos _)

/-- The id of a worker's checkpoint. -/
theorem checkpointEvent_id {completed observed : Int} {epochId : Option String}
    {timestamp : Datetime} {causationId : Option String} {event : Event}
    (hevent : w.checkpointEvent b completed observed epochId timestamp causationId = .ok event) :
    ∃ content : CheckpointContent, content.consumerId = w.consumerId ∧
      event.id = "consumer-checkpoint:" ++ b.checkpointDigest content := by
  obtain ⟨checkpoint, hcheckpoint, hevent⟩ := bind_eq_ok hevent
  cases hevent
  obtain ⟨_, rfl⟩ := checkedBy_ok hcheckpoint
  exact ⟨_, rfl, rfl⟩

/-- What an append returns is stored, under the id of the event. -/
theorem stored_of_ok {log : EventLog} {event stored : Event} {gap : Nat}
    (h : (log.append event (.takes gap)).2 = .ok stored) :
    stored ∈ (log.append event (.takes gap)).1.events ∧ stored.id = event.id := by
  have happended := log.append_appended event (.takes gap)
  generalize log.append event (.takes gap) = answer at happended h
  obtain ⟨log', result⟩ := answer
  cases happended with
  | refused => cases h
  | known hknown =>
    obtain rfl := Except.ok.inj h
    exact EventLog.id_of_byId hknown
  | added hid hevents =>
    obtain rfl := Except.ok.inj h
    exact ⟨by rw [hevents]; simp, rfl⟩

/-- **A move of a worker.** -/
theorem Sound.move (h : s.Sound b) (hw : s.workers[index]? = some w) {m : ShadowMove b}
    {effect : ShadowEffect} (hmove : w.move s.log m = some effect) :
    Sound b ⟨effect.log, s.workers.set index { w with phase := effect.phase },
      s.opened ++ effect.opened⟩ := by
  have hphase := h.phases w (List.mem_of_getElem? hw)
  unfold ShadowWorker.move at hmove
  split at hmove
  · -- boot
    cases hmove
    exact h.moves hw trivial
  · -- load
    exact h.settles hw (fun phase opened hload => h.loads hw hload) (Option.some.inj hmove)
  · -- checkpointFirst
    rename_i timestamp gap raises clock history registry head hat
    rw [hat] at hphase
    split at hmove
    · cases hmove
      exact h.moves hw trivial
    · rename_i event hevent
      have hlater := h.append event gap fun _ gap =>
        h.checkpointEvent_admissible hevent (fun _ hnone => nomatch hnone) gap
      have hhistory := hphase.1.trans (append_extends s.log event gap)
      dsimp only at hmove
      split at hmove
      · cases hmove
        exact hlater.moves hw trivial
      · refine hlater.settles hw (fun phase opened hresume => ?_) (Option.some.inj hmove)
        obtain ⟨stored, hstored, hresume⟩ := bind_eq_ok hresume
        obtain ⟨checkpoint, hread, hresume⟩ := bind_eq_ok hresume
        obtain ⟨hmem, hid⟩ := stored_of_ok hstored
        have hcheckpoint := hlater.checkpoints stored hmem
        have hconsumes : Consumes { s with log := (s.log.append event (.takes gap)).1 } w.consumerId :=
          ⟨w, List.mem_of_getElem? hw, rfl⟩
        have hconsumer : checkpoint.consumerId = w.consumerId := by
          obtain ⟨content, hcontent, hown⟩ := checkpointEvent_id hevent
          rw [← hcontent]
          exact hcheckpoint.own checkpoint hread content (hcontent ▸ hconsumes) (hid.trans hown)
        exact hlater.resumes hw hhistory hphase.2
          (hcheckpoint.named checkpoint hread (hconsumer ▸ hconsumes)) hresume
  · -- materialize
    rename_i gap raises epoch previous hat
    cases hmove
    have hlater := h.append _ gap fun _ _ =>
      h.ruleset_admissible epoch.ruleset w.source epoch.startedAt _
    have hgrown := append_extends s.log (epoch.ruleset.toEvent b w.source epoch.startedAt) gap
    cases raises with
    | true => exact hlater.moves hw (hphase.afterError.mono hgrown (List.Subset.refl _))
    | false =>
      rw [hat] at hphase
      refine hlater.moves hw ⟨hphase.1, ?_, fun old hold => (hphase.2 old hold).mono hgrown (List.Subset.refl _)⟩
      exact h.materialized epoch.ruleset w.source epoch.startedAt gap
  · -- announce
    rename_i gap raises epoch previous hat
    cases hmove
    have hsound := hphase
    rw [hat] at hsound
    have hlater := h.append _ gap fun _ _ => h.epoch_admissible hsound.1 hsound.2.1 w.source _
    have hgrown := append_extends s.log (epoch.toEvent b w.source) gap
    cases raises with
    | true => exact hlater.moves hw (hphase.afterError.mono hgrown (List.Subset.refl _))
    | false => exact hlater.moves hw (h.announced hsound.1 w.source gap)
  · -- advance
    rename_i completed observed timestamp causationId gap epoch hat
    split at hmove
    · cases hmove
      exact h.moves hw hphase
    · rename_i event hevent
      cases hmove
      have hepoch : ∀ id ∈ some epoch.epochId, Announced s.log.events s.opened id := fun id hid => by
        rw [← Option.some.inj hid]
        rw [hat] at hphase
        exact hphase
      have hlater := h.append event gap fun _ gap =>
        h.checkpointEvent_admissible hevent hepoch gap
      exact hlater.moves hw (hphase.mono (append_extends s.log event gap) (List.Subset.refl _))
  · -- rotate
    rename_i clock previous hat
    split at hmove
    · cases hmove
      exact h.moves hw hphase
    · rename_i epoch hrotate
      cases hmove
      obtain ⟨registry, hregistry, hepoch⟩ := bind_eq_ok hrotate
      have hopened := opened_of_newEpoch List.prefix_rfl hregistry hepoch
      rw [hat] at hphase
      refine h.goes hw (fun other hother => ?_) ⟨by simp, fun old hold => ?_⟩
      · rw [List.mem_singleton.mp hother]
        exact hopened
      · rw [← Option.some.inj hold]
        exact hphase.mono List.prefix_rfl (List.subset_append_left _ _)
  · -- fail
    cases hmove
    exact h.moves hw hphase.afterError
  · -- crash
    cases hmove
    exact h.moves hw trivial
  · cases hmove

variable (b) in
/-- **An orderly step**: what others store is theirs to store. -/
def Orderly (s : ShadowSystem) : ShadowAction b → Prop
  | .worker _ _ => True
  | .outside event _ =>
    s.log.byId event.id = none → ∀ gap, s.Foreign b (s.log.nextStored event gap)

theorem Sound.step {s' : ShadowSystem} {action : ShadowAction b} (h : s.Sound b)
    (horderly : s.Orderly b action) (hstep : s.step action = some s') : s'.Sound b := by
  cases action with
  | worker index m =>
    obtain ⟨w, hw, hstep⟩ := Option.bind_eq_some_iff.mp hstep
    obtain ⟨effect, heffect, rfl⟩ := Option.map_eq_some_iff.mp hstep
    exact h.move hw heffect
  | outside event gap =>
    cases hstep
    exact h.append _ gap fun hnew gap => h.foreign_admissible (horderly hnew gap)

/-! ## The restart -/

/-- The fields of an epoch, as they are read off its payload. -/
structure EpochRead (b : ShadowBuiltins) (payload : Payload) (epoch : EvaluationEpoch) : Prop where
  rulesetId : itemText b.toBuiltins payload "ruleset_id" = .ok (epoch.ruleset.snapshotId b)
  cursor : itemInt b.toIntentBuiltins payload "event_log_cursor" = .ok (epoch.eventLogCursor : Int)
  digest : itemText b.toBuiltins payload "ruleset_digest" = .ok (epoch.ruleset.digest b)
  startedAt : itemText b.toBuiltins payload "started_at" = .ok (b.isoformat epoch.startedAt)

theorem epochRead (epoch : EvaluationEpoch) : EpochRead b (epoch.toDict b) epoch where
  rulesetId := by
    simp [itemText, Payload.item, EvaluationEpoch.toDict, Dict.get?_ofList, Builtins.str, bind,
      Except.bind]
  cursor := by
    simp [itemInt, Payload.item, EvaluationEpoch.toDict, Dict.get?_ofList, IntentBuiltins.int, bind,
      Except.bind]
  digest := by
    simp [itemText, Payload.item, EvaluationEpoch.toDict, Dict.get?_ofList, Builtins.str, bind,
      Except.bind]
  startedAt := by
    simp [itemText, Payload.item, EvaluationEpoch.toDict, Dict.get?_ofList, Builtins.str, bind,
      Except.bind]

theorem refsRead (content : RulesetContent) :
    (do (← (← content.toDict.item "rule_refs").iterate).mapM b.str) = .ok content.ruleRefs := by
  have hitem : content.toDict.item "rule_refs" = .ok (.list (content.ruleRefs.map .str)) := by
    simp [Payload.item, RulesetContent.toDict, Dict.get?_ofList]
  rw [hitem]
  show (content.ruleRefs.map JSONValue.str).mapM b.str = _
  induction content.ruleRefs with
  | nil => rfl
  | cons ref refs ih =>
    rw [List.map_cons, List.mapM_cons, ih]
    rfl

theorem lastEvent_of (message : String) {history : List Event} {test : Event → Bool}
    (h : ∃ event ∈ history, test event = true) :
    ∃ event ∈ history, test event = true ∧ lastEvent history test message = .ok event := by
  cases hfind : history.reverse.find? test with
  | none =>
    obtain ⟨event, hmem, htest⟩ := h
    exact absurd htest (List.find?_eq_none.mp hfind event (List.mem_reverse.mpr hmem))
  | some event =>
    refine ⟨event, List.mem_reverse.mp (List.mem_of_find?_eq_some hfind), List.find?_some hfind, ?_⟩
    rw [lastEvent, hfind]

/-- Lists of rules registered in one log, with the same refs. -/
theorem rules_eq_of_refs {entries : List RegisteredRule}
    (hdistinct : (entries.map RegisteredRule.ref).Nodup) :
    ∀ {rules others : List AutonomicRule},
      (∀ rule ∈ rules, ∃ entry ∈ entries, entry.rule = rule) →
      (∀ rule ∈ others, ∃ entry ∈ entries, entry.rule = rule) →
      rules.map AutonomicRule.ref = others.map AutonomicRule.ref → rules = others := by
  intro rules
  induction rules with
  | nil =>
    intro others _ _ hrefs
    exact (List.map_eq_nil_iff.mp hrefs.symm).symm
  | cons rule rules ih =>
    intro others hrules hothers hrefs
    cases others with
    | nil => cases hrefs
    | cons other others =>
      rw [List.map_cons, List.map_cons] at hrefs
      obtain ⟨href, htail⟩ := List.cons.inj hrefs
      obtain ⟨entry, hentry, rfl⟩ := hrules rule List.mem_cons_self
      obtain ⟨entry', hentry', rfl⟩ := hothers other List.mem_cons_self
      have hentries : entry = entry' := List.inj_on_of_nodup_map hdistinct hentry hentry' href
      have hrest := ih (fun rule hrule => hrules rule (List.mem_cons_of_mem _ hrule))
        (fun rule hrule => hothers rule (List.mem_cons_of_mem _ hrule)) htail
      rw [hentries, hrest]

/-- Opened epochs of one id have one ruleset. -/
theorem Sound.ruleset_eq (h : s.Sound b) {epoch other : EvaluationEpoch}
    (hepoch : epoch ∈ s.opened) (hother : other ∈ s.opened) (hid : epoch.epochId = other.epochId) :
    epoch.ruleset = other.ruleset := by
  have hopened := h.opened epoch hepoch
  have hopened' := h.opened other hother
  rw [hopened.genuine, hopened'.genuine] at hid
  have hdigest := b.epochDigest_injective (String.append_right_inj _ |>.mp hid)
  have hrefs := b.rulesetDigest_refs _ _ (congrArg EpochIdentity.rulesetDigest hdigest)
  have hrules := rules_eq_of_refs h.registered.distinct
    (fun rule hrule => (hopened.pinned rule hrule).imp fun _ hentry => ⟨hentry.1, hentry.2.2⟩)
    (fun rule hrule => (hopened'.pinned rule hrule).imp fun _ hentry => ⟨hentry.1, hentry.2.2⟩) hrefs
  cases hruleset : epoch.ruleset
  cases hruleset' : other.ruleset
  rw [hruleset, hruleset'] at hrules
  cases hrules
  rfl

/-- The log has the event of an announced epoch, and then only such events start it. -/
theorem Sound.epochEvent (h : s.Sound b) {epochId : String}
    (ha : Announced s.log.events s.opened epochId) (message : String) :
    ∃ event epoch, lastEvent s.log.events (startsEpoch epochId) message = .ok event ∧
      epoch ∈ s.opened ∧ epoch.epochId = epochId ∧ event.payload = epoch.toDict b ∧
      Materialized b s.log.events epoch.ruleset := by
  obtain ⟨hstored, named, hnamed, rfl⟩ := ha
  obtain ⟨event, hmem, hstarts, hlast⟩ := lastEvent_of message hstored
  have htype : event.type = evaluationEpochStarted := by
    simp only [startsEpoch, Bool.and_eq_true, decide_eq_true_eq] at hstarts
    exact hstarts.1
  rcases h.epochs event hmem htype with ⟨epoch, hepoch, hpayload, hmaterialized⟩ | hnone
  · exact ⟨event, epoch, hlast, hepoch, (startsEpoch_iff htype hpayload).mp hstarts, hpayload,
      hmaterialized⟩
  · rw [(h.opened named hnamed).genuine, hnone] at hstarts
    cases hstarts

/-- The log has the event of a materialized ruleset, and then only events with its refs
materialize it. -/
theorem Sound.rulesetEvent (h : s.Sound b) {ruleset : RulesetSnapshot}
    (hm : Materialized b s.log.events ruleset) (message : String) :
    ∃ event, lastEvent s.log.events (materializes (ruleset.snapshotId b)) message = .ok event ∧
      (do (← (← event.payload.item "rule_refs").iterate).mapM b.str) = .ok ruleset.ruleRefs := by
  obtain ⟨event, hmem, hmaterializes, hlast⟩ := lastEvent_of message hm
  obtain ⟨htype, hsubject⟩ := materializes_iff.mp hmaterializes
  rcases h.rulesets event hmem htype with ⟨other, hpayload, hother⟩ | hnone
  · have hname : b.rulesetName other.rules = b.rulesetName ruleset.rules :=
      String.append_right_inj _ |>.mp (Option.some.inj (hother.symm.trans hsubject))
    refine ⟨event, hlast, ?_⟩
    rw [hpayload, refsRead]
    exact congrArg Except.ok (b.rulesetName_refs _ _ hname)
  · exact absurd hsubject (hnone ruleset)

/-- **An announced epoch is restored**, with the rules it was opened with. -/
theorem Sound.restores (h : s.Sound b) {registry : RuleRegistry}
    (hregistry : RuleRegistry.rebuild b.toRuleBuiltins s.log.events = .ok registry)
    {epochId : String} (ha : Announced s.log.events s.opened epochId) :
    ∃ restored, restoreEpoch b registry s.log.events epochId = .ok restored ∧
      ∀ epoch ∈ s.opened, epoch.epochId = epochId → restored.ruleset = epoch.ruleset := by
  obtain ⟨epochEvent, epoch, hlast, hepoch, hid, hpayload, hmaterialized⟩ := h.epochEvent ha
    s!"checkpoint references an unknown evaluation epoch: {epochId}"
  obtain ⟨rulesetEvent, hlast', hrefs⟩ := h.rulesetEvent hmaterialized
    s!"evaluation epoch references an unknown ruleset: {epoch.ruleset.snapshotId b}"
  have hread := epochRead (b := b) epoch
  have hopened := h.opened epoch hepoch
  have heligible : ∀ rule ∈ epoch.ruleset.rules, rule ∈ registry.eligible epoch.eventLogCursor := by
    intro rule hrule
    obtain ⟨entry, hentry, hle, rfl⟩ := hopened.pinned rule hrule
    refine RuleRegistry.mem_eligible.mpr ⟨entry, ?_, Int.ofNat_le.mpr hle, rfl⟩
    rwa [((RuleRegistry.rebuild_spec s.log.sequences_nodup).1 registry hregistry).2]
  have hsnapshot := RuleRegistry.snapshot_refs (Int.natCast_nonneg _) heligible
  have hsame : ∀ other ∈ s.opened, other.epochId = epochId → epoch.ruleset = other.ruleset :=
    fun other hother hother' => h.ruleset_eq hepoch hother (hid.trans hother'.symm)
  refine ⟨⟨epochId, epoch.ruleset, epoch.startedAt, epoch.eventLogCursor⟩, ?_, hsame⟩
  obtain ⟨value, hitem, hrefs⟩ := bind_eq_ok hrefs
  obtain ⟨values, hiterate, hrefs⟩ := bind_eq_ok hrefs
  have hverified : ¬ (epoch.ruleset.snapshotId b ≠ epoch.ruleset.snapshotId b ∨
      epoch.ruleset.digest b ≠ epoch.ruleset.digest b) := by simp
  rw [restoreEpoch, bind_of_ok hlast, hpayload, bind_of_ok hread.rulesetId, bind_of_ok hlast',
    bind_of_ok hread.cursor, bind_of_ok hitem, bind_of_ok hiterate, bind_of_ok hrefs,
    RulesetSnapshot.ruleRefs, bind_of_ok hsnapshot, bind_of_ok hread.digest,
    bind_of_ok (refuse_of hverified), bind_of_ok hread.startedAt, bind_of_ok hopened.dated]
  rfl

variable (b) in
/-- **A restart brings back the rules of the epoch**: the registry is rebuilt, and the epoch
that a worker's checkpoint names is restored with the ruleset it was opened with. -/
def Restartable (s : ShadowSystem) : Prop :=
  ∃ registry, RuleRegistry.rebuild b.toRuleBuiltins s.log.events = .ok registry ∧
    ∀ w ∈ s.workers, ∀ checkpoints checkpoint epochId,
      ConsumerCheckpointProjection.rebuild b.toCheckpointBuiltins s.log.events = .ok checkpoints →
      checkpoints.get w.consumerId = some checkpoint → checkpoint.epochId = some epochId →
      ∃ restored, restoreEpoch b registry s.log.events epochId = .ok restored ∧
        (∃ epoch ∈ s.opened, epoch.epochId = epochId) ∧
        ∀ epoch ∈ s.opened, epoch.epochId = epochId → restored.ruleset = epoch.ruleset

theorem Sound.restartable (h : s.Sound b) : s.Restartable b := by
  obtain ⟨registry, hregistry⟩ :=
    (RuleRegistry.rebuild_spec s.log.sequences_nodup).2 h.registered
  refine ⟨registry, hregistry, ?_⟩
  intro w hw checkpoints checkpoint epochId hcheckpoints hget hepochId
  obtain ⟨hmem, hconsumer⟩ :=
    (((ConsumerCheckpointProjection.rebuild_spec _).1 _ hcheckpoints).2.known _ _ hget)
  obtain ⟨event, hevent, hread⟩ := mem_checkpointsOf.mp hmem
  have hannounced : Announced s.log.events s.opened epochId :=
    (h.checkpoints event hevent).named checkpoint hread ⟨w, hw, hconsumer.symm⟩ epochId hepochId
  obtain ⟨restored, hrestored, hsame⟩ := h.restores hregistry hannounced
  exact ⟨restored, hrestored, hannounced.2, hsame⟩

end ShadowSystem

/-- **The workers can be restarted at any point of an orderly run**, and restore the rules
that the epochs were opened with. -/
theorem restartable_of_run {workers : List (String × String)} {actions : List (ShadowAction b)}
    {s : ShadowSystem}
    (h : Run ShadowSystem.step (ShadowSystem.Orderly b) (ShadowSystem.start workers) actions s) :
    s.Restartable b :=
  (h.invariant (ShadowSystem.start_sound workers)
    fun _ _ _ hsound horderly hstep => hsound.step horderly hstep).restartable

/-! ## A run, and one that cannot be restarted -/

/-- Texts, so that they can be told apart: pairs for characters, and a mark after each. -/
def spelled (texts : List String) : List Char :=
  texts.flatMap fun text => (text.toList.flatMap fun c => ['0', c]) ++ ['1']

theorem spelled_injective : Function.Injective spelled := by
  intro texts
  induction texts with
  | nil =>
    intro others h
    cases others with
    | nil => rfl
    | cons other others => simp [spelled] at h
  | cons text texts ih =>
    intro others h
    cases others with
    | nil => simp [spelled] at h
    | cons other others =>
      simp only [spelled, List.flatMap_cons, List.append_assoc, List.singleton_append] at h
      have htext : text = other := String.toList_injective (CheckpointSystem.pairs_injective h)
      rw [htext] at h ⊢
      have hrest : spelled texts = spelled others := (List.cons.inj (List.append_cancel_left h)).2
      rw [ih hrest]

theorem ofList_spelled {texts others : List String} {c : Char}
    (h : String.ofList (c :: spelled texts) = String.ofList (c :: spelled others)) :
    texts = others := by
  have hlists := congrArg String.toList h
  rw [String.toList_ofList, String.toList_ofList] at hlists
  exact spelled_injective (List.cons.inj hlists).2

/-- The refs of rules, spelled out. -/
def refsDigest (rules : List AutonomicRule) : String :=
  .ofList ('r' :: spelled (rules.map AutonomicRule.ref))

/-- An epoch, spelled out; the cursor is the number of texts at the end. -/
def epochTexts (identity : EpochIdentity) : List String :=
  [identity.rulesetDigest, identity.startedAt] ++ List.replicate identity.eventLogCursor ""

theorem epochTexts_injective : Function.Injective epochTexts := by
  rintro ⟨digest, startedAt, cursor⟩ ⟨digest', startedAt', cursor'⟩ h
  simp only [epochTexts, List.cons_append, List.nil_append, List.cons.injEq] at h
  obtain ⟨rfl, rfl, hcursor⟩ := h
  have hlength := congrArg List.length hcursor
  rw [List.length_replicate, List.length_replicate] at hlength
  rw [hlength]

def epochText : String := "1970-01-01T00:00:00+00:00"

/-- The checkpoint builtins of the examples, with the ISO text of one moment and digests
that spell out their content. -/
def plainShadow : ShadowBuiltins where
  toCheckpointBuiltins :=
    { CheckpointSystem.plainCheckpoints with
      fromisoformat := fun text =>
        if text = epochText then .ok (0, some 0) else .error (.valueError "Invalid isoformat string") }
  floatSum := List.foldl PyFloat.plus (.finite 0)
  isoformat := fun _ => epochText
  rulesetDigest := refsDigest
  rulesetName := refsDigest
  epochDigest := fun identity => .ofList ('e' :: spelled (epochTexts identity))
  rulesetEventDigest := fun content =>
    .ofList ('r' :: spelled (content.snapshotId :: content.digest :: content.ruleRefs))
  epochEventDigest := fun epochId => .ofList ('e' :: spelled [epochId])
  rulesetDigest_refs := fun _ _ h => ofList_spelled h
  rulesetName_refs := fun _ _ h => ofList_spelled h
  epochDigest_injective := fun _ _ h => epochTexts_injective (ofList_spelled h)
  rulesetEventDigest_injective := fun content other h => by
    have htexts := ofList_spelled h
    simp only [List.cons.injEq] at htexts
    cases content
    cases other
    simp_all
  epochEventDigest_injective := fun _ _ h => (List.cons.inj (ofList_spelled h)).1
  eventDigests_apart := fun content epochId h => by
    have hlists := congrArg String.toList h
    rw [String.toList_ofList, String.toList_ofList] at hlists
    exact absurd (List.cons.inj hlists).1 (by decide)

/-- A version of a rule, as it is registered. -/
def quietRule (version : Int) : List (String × JSONValue) :=
  [("rule_id", .str "quiet"), ("version", .int version), ("purpose", .str "notice"),
   ("trigger", .str "note.taken"), ("family", .str "predicate"),
   ("spec", .obj [("all_of", .list [.obj [
      ("ref", .obj [("source", .str "event"), ("key", .str "payload.kind")]),
      ("operator", .str "equals"), ("value", .str "urgent")]])]),
   ("output", .obj [("kind", .str "urgent"), ("salience", .float (.finite 1))])]

/-- The registration of a version. -/
def registration (id : String) (version : Int) : Event where
  type := ruleVersionRegistered
  source := "author"
  payload := .ofList [("rule", .obj (quietRule version))]
  subject := none
  id := id
  timestamp := .utc 0
  correlationId := none
  causationId := none
  priority := 0
  sequence := none
  metadata := .empty
  schemaVersion := 1
  schemaVersion_pos := Nat.one_pos

def noon : ClockReading plainShadow := ⟨.utc 0, by decide +kernel⟩

/-- A worker starts, pins its rules in an epoch and goes on to its first checkpoint in it. -/
def firstEpoch : List (ShadowAction plainShadow) :=
  [.worker 0 .boot, .worker 0 (.load noon), .worker 0 (.checkpointFirst (.utc 0) 0 false noon),
   .worker 0 (.materialize 0 false), .worker 0 (.announce 0 false),
   .worker 0 (.advance 1 2 (.utc 0) none 0)]

def ShadowAction.isWorker : ShadowAction b → Bool
  | .worker _ _ => true
  | .outside _ _ => false

def shadowTeam : ShadowSystem := .start [("autonomic-shadow", "shadow")]

/-- The refs that a log registers. -/
def registeredRefs (s : ShadowSystem) : List String :=
  (registrationsOf plainShadow.toRuleBuiltins s.log.events).map RegisteredRule.ref

/-- A registration of a new ref, under an id that no worker derives, may be stored. -/
theorem registration_orderly (id : String) (gap : Nat) {s : ShadowSystem} {version : Int}
    {rule : AutonomicRule} (hrule : AutonomicRule.fromDict plainShadow.toRuleBuiltins
      (.ofList (quietRule version)) = .ok rule)
    (hnew : rule.ref ∉ registeredRefs s) (hid : id.toList.head? = some 'n') :
    s.Orderly plainShadow (.outside (registration id version) gap) := by
  intro _ gap
  have hread : ∀ sequence, registrationOf plainShadow.toRuleBuiltins
      ((registration id version).withSequence (sequence + 1)) = .ok ⟨rule, sequence + 1⟩ := by
    intro sequence
    show (do return ⟨← AutonomicRule.fromDict plainShadow.toRuleBuiltins (.ofList (quietRule version)),
      sequence + 1⟩ : Except PyError RegisteredRule) = _
    exact bind_of_ok hrule _
  have hapart : ∀ {mark text : String} {c : Char}, mark.toList.head? = some c → c ≠ 'n' →
      id ≠ mark ++ text := by
    rintro mark text c hmark hne rfl
    rw [String.toList_append, List.head?_append, hmark, Option.some_or] at hid
    exact hne (Option.some.inj hid)
  refine ⟨fun _ => ⟨_, hread _, hnew⟩, fun _ => rfl, fun _ => rfl, fun _ => hapart (c := 'e') rfl (by decide),
    fun _ => hapart (c := 'e') rfl (by decide), fun _ hcheckpoint => ?_,
    fun _ _ => hapart (c := 'c') rfl (by decide)⟩
  exact absurd (ConsumerCheckpoint.fromEvent_ok hcheckpoint).1 consumerCheckpointEvent_ne.1.symm

/-- What a registration that others store leaves. -/
def registers (s : ShadowSystem) (id : String) (version : Int) : ShadowSystem :=
  { s with log := (s.log.append (registration id version) (.takes 0)).1 }

/-- A rule is registered, a worker pins it, and its second version is registered. -/
theorem firstEpoch_restartable : ∃ s,
    Run ShadowSystem.step (ShadowSystem.Orderly plainShadow) shadowTeam
      ([.outside (registration "note-1" 1) 0] ++ firstEpoch ++
        [.outside (registration "note-2" 2) 0]) s ∧
      registeredRefs s = ["quiet@1", "quiet@2"] ∧
      s.opened.map (fun epoch => epoch.ruleset.ruleRefs) = [["quiet@1"]] ∧
      s.Restartable plainShadow := by
  have hread : ∀ version ∈ [1, 2], ((AutonomicRule.fromDict plainShadow.toRuleBuiltins
      (.ofList (quietRule version))).toOption.map AutonomicRule.ref) = some s!"quiet@{version}" := by
    decide +kernel
  have hrule : ∀ version ∈ [1, 2], ∃ rule, AutonomicRule.fromDict plainShadow.toRuleBuiltins
      (.ofList (quietRule version)) = .ok rule ∧ rule.ref = s!"quiet@{version}" := by
    intro version hmem
    obtain ⟨rule, hrule, href⟩ := Option.map_eq_some_iff.mp (hread version hmem)
    cases hdict : AutonomicRule.fromDict plainShadow.toRuleBuiltins (.ofList (quietRule version)) with
    | error error =>
      rw [hdict] at hrule
      cases hrule
    | ok read =>
      rw [hdict] at hrule
      cases hrule
      exact ⟨_, rfl, href⟩
  obtain ⟨first, hfirst, href⟩ := hrule 1 (by decide)
  obtain ⟨second, hsecond, href'⟩ := hrule 2 (by decide)
  have hworks : (exec ShadowSystem.step (fun _ action => action.isWorker = true)
      (registers shadowTeam "note-1" 1) firstEpoch).map (fun s =>
        (registeredRefs s, registeredRefs (registers s "note-2" 2),
          s.opened.map fun epoch => epoch.ruleset.ruleRefs)) =
        some (["quiet@1"], ["quiet@1", "quiet@2"], [["quiet@1"]]) := by
    decide +kernel
  obtain ⟨s, hs, hrefs⟩ := Option.map_eq_some_iff.mp hworks
  simp only [Prod.mk.injEq] at hrefs
  have hrun : Run ShadowSystem.step (ShadowSystem.Orderly plainShadow) shadowTeam
      ([.outside (registration "note-1" 1) 0] ++ firstEpoch) s := by
    refine Run.trans (.next .start (registration_orderly _ _ hfirst List.not_mem_nil rfl) rfl) ?_
    refine (Run.of_exec hs).mono fun s action hworker => ?_
    cases action with
    | worker index move => trivial
    | outside event gap => cases hworker
  have hnew : second.ref ∉ registeredRefs s := by
    rw [href', hrefs.1]
    decide +kernel
  have hall := hrun.next (registration_orderly "note-2" 0 hsecond hnew rfl) rfl
  exact ⟨_, hall, hrefs.2.1, hrefs.2.2, restartable_of_run hall⟩

/-- **A second registration under a used ref stops every later start.** -/
theorem duplicate_registration_stops :
    ¬ ∀ (actions : List (ShadowAction plainShadow)) (s : ShadowSystem),
      Run ShadowSystem.step Free shadowTeam actions s → s.Restartable plainShadow := by
  intro h
  have hrebuilt : (exec ShadowSystem.step Free shadowTeam
      ([.outside (registration "note-1" 1) 0] ++ firstEpoch ++
        [.outside (registration "note-2" 1) 0])).map (fun s =>
      (RuleRegistry.rebuild plainShadow.toRuleBuiltins s.log.events).isOk) = some false := by
    decide +kernel
  obtain ⟨s, hs, hfails⟩ := Option.map_eq_some_iff.mp hrebuilt
  obtain ⟨registry, hregistry, -⟩ := h _ s (Run.of_exec hs)
  rw [hregistry] at hfails
  cases hfails

end Noema
