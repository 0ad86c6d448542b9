import Noema.CheckpointWorkers

/-!
# When checkpoints block a restart

The log stays readable as long as no worker appends a checkpoint behind one that was stored
after the worker last looked: what was stored before, each worker's own comparison covers
(`Informed`).  Two workers of one consumer that race make the log unreadable for good.
-/
namespace Noema

namespace CheckpointSystem

section Knowledge

variable {b : CheckpointBuiltins} {log log' : EventLog} {consumerId : String}

/-- A checkpoint, or that there is none, is what a worker needs to know of a consumer's
checkpoints up to a sequence: it is not behind any of them. -/
structure Knows (b : CheckpointBuiltins) (log : EventLog) (consumerId : String) (upTo : Nat)
    (current : Option CheckpointContent) : Prop where
  reached : upTo ≤ log.latestSequence
  observed : ∀ content ∈ current, content.observedHeadSequence ≤ log.latestSequence
  covers : ∀ checkpoint ∈ checkpointsOf b log.events, checkpoint.consumerId = consumerId →
    checkpoint.seq ≤ upTo → ∃ content ∈ current, content.Follows checkpoint.toCheckpointContent

/-- The checkpoints of a log are named after their digests, and saw a head before them. -/
def Dated (b : CheckpointBuiltins) (log : EventLog) : Prop :=
  ∀ event ∈ log.events, ∀ checkpoint, ConsumerCheckpoint.fromEvent b event = .ok checkpoint →
    checkpoint.observedHeadSequence ≤ event.seq ∧
      event.id = "consumer-checkpoint:" ++ b.checkpointDigest checkpoint.toCheckpointContent

theorem seq_pos {checkpoint : ConsumerCheckpoint} (h : checkpoint ∈ checkpointsOf b log.events) :
    0 < checkpoint.seq := by
  obtain ⟨event, hmem, hread⟩ := mem_checkpointsOf.mp h
  rw [(ConsumerCheckpoint.fromEvent_ok hread).2]
  exact (log.sequenced event hmem).2

/-- Nothing is stored up to zero. -/
theorem knows_nothing (b : CheckpointBuiltins) (log : EventLog) (consumerId : String) :
    Knows b log consumerId 0 none where
  reached := Nat.zero_le _
  observed := fun _ h => (Option.not_mem_none _ h).elim
  covers := fun checkpoint hmem _ hseq => by
    have := seq_pos hmem
    omega

/-- What a worker knows of a log, it knows of a longer one. -/
theorem Knows.grow {upTo : Nat} {current : Option CheckpointContent} {event : Event}
    (h : Knows b log consumerId upTo current) (hevents : log'.events = log.events ++ [event])
    (hlatest : log'.latestSequence = event.seq) (hnew : log.latestSequence < event.seq) :
    Knows b log' consumerId upTo current where
  reached := by
    have := h.reached
    omega
  observed := fun content hcontent => by
    have := h.observed content hcontent
    omega
  covers := fun checkpoint hmem hid hseq => by
    rw [hevents] at hmem
    rcases mem_checkpointsOf_snoc.mp hmem with hmem | hread
    · exact h.covers checkpoint hmem hid hseq
    · -- The new event's sequence is above what the worker has seen.
      have := (ConsumerCheckpoint.fromEvent_ok hread).2
      have := h.reached
      omega

/-- A later checkpoint of a log that never goes back is not behind an earlier one. -/
theorem follows_of_seq (h : NeverRegresses b log.events) {earlier later : ConsumerCheckpoint}
    (hearlier : earlier ∈ checkpointsOf b log.events) (hlater : later ∈ checkpointsOf b log.events)
    (hid : earlier.consumerId = later.consumerId) (hseq : earlier.seq ≤ later.seq) :
    later.Follows earlier.toCheckpointContent := by
  have hdated : (checkpointsOf b log.events).Pairwise fun a c => a.seq < c.seq := by
    refine List.pairwise_filterMap.mpr (log.log.ordered.imp fun {e e'} hlt c hc c' hc' => ?_)
    obtain ⟨-, hseq⟩ := ConsumerCheckpoint.fromEvent_ok (toOption_eq_some.mp hc)
    obtain ⟨-, hseq'⟩ := ConsumerCheckpoint.fromEvent_ok (toOption_eq_some.mp hc')
    omega
  have hboth := hdated.and h.forward
  exact List.Pairwise.forall_of_forall_of_flip
    (R := fun a c : ConsumerCheckpoint => a.consumerId = c.consumerId → a.seq ≤ c.seq →
      c.Follows a.toCheckpointContent)
    (fun a _ _ _ => .refl _) (hboth.imp fun ⟨_, hfollows⟩ hsame _ => hfollows hsame)
    (hboth.imp fun ⟨hlt, _⟩ _ hle => absurd hle (not_le.mpr hlt)) hearlier hlater hid hseq

/-- A checkpoint of the log is known up to its own sequence. -/
theorem knows_stored (hnever : NeverRegresses b log.events) (hdated : Dated b log)
    {event : Event} (hmem : event ∈ log.events) {checkpoint : ConsumerCheckpoint}
    (hread : ConsumerCheckpoint.fromEvent b event = .ok checkpoint) :
    Knows b log checkpoint.consumerId event.seq (some checkpoint.toCheckpointContent) where
  reached := EventLog.seq_le_latest hmem
  observed := fun content hcontent => by
    obtain rfl := Option.some.inj hcontent
    have := (hdated event hmem checkpoint hread).1
    have := EventLog.seq_le_latest hmem
    omega
  covers := fun earlier hearlier hid hseq => by
    refine ⟨_, rfl, follows_of_seq hnever hearlier (mem_checkpointsOf.mpr ⟨event, hmem, hread⟩) hid ?_⟩
    rw [(ConsumerCheckpoint.fromEvent_ok hread).2]
    exact hseq

/-- What the folded log has for a consumer is known up to the head. -/
theorem knows_rebuilt (hdated : Dated b log) {p : ConsumerCheckpointProjection}
    (hp : ConsumerCheckpointProjection.rebuild b log.events = .ok p) (consumerId : String) :
    Knows b log consumerId log.latestSequence
      ((p.get consumerId).map ConsumerCheckpoint.toCheckpointContent) where
  reached := le_rfl
  observed := fun content hcontent => by
    obtain ⟨checkpoint, hget, rfl⟩ := Option.map_eq_some_iff.mp hcontent
    have htracks := ((ConsumerCheckpointProjection.rebuild_spec log.events).1 p hp).2
    obtain ⟨event, hmem, hread⟩ := mem_checkpointsOf.mp (htracks.known _ _ hget).1
    have := (hdated event hmem checkpoint hread).1
    have := EventLog.seq_le_latest hmem
    omega
  covers := fun checkpoint hmem hid _ => by
    have htracks := ((ConsumerCheckpointProjection.rebuild_spec log.events).1 p hp).2
    obtain ⟨current, hcurrent, hfollows⟩ := htracks.covers checkpoint hmem
    rw [hid] at hcurrent
    exact ⟨_, by rw [hcurrent]; rfl, hfollows⟩

/-- A checkpoint that is not behind what a worker knows is known as well. -/
theorem Knows.next {upTo : Nat} {current : Option CheckpointContent} {content : CheckpointContent}
    (h : Knows b log consumerId upTo current)
    (hfollows : ∀ known ∈ current, content.Follows known)
    (hobserved : content.observedHeadSequence ≤ log.latestSequence) :
    Knows b log consumerId upTo (some content) where
  reached := h.reached
  observed := fun other hother => by
    obtain rfl := Option.some.inj hother
    exact hobserved
  covers := fun checkpoint hmem hid hseq => by
    obtain ⟨known, hknown, hcovers⟩ := h.covers checkpoint hmem hid hseq
    exact ⟨content, rfl, (hfollows known hknown).trans hcovers⟩

/-- What a worker has at hand is enough to know the log up to where it looked. -/
structure Informed (b : CheckpointBuiltins) (log : EventLog) (consumer : Consumer)
    (worker : ConsumerState) : Prop where
  remembered : Knows b log consumer.consumerId worker.rememberedAt
    (worker.remembered.map ConsumerCheckpoint.toCheckpointContent)
  found : ∀ found ∈ worker.found, Knows b log consumer.consumerId found.2
    (found.1.map ConsumerCheckpoint.toCheckpointContent)
  foundBelow : ∀ found ∈ worker.found, ∀ known ∈ found.1, known.observedHeadSequence ≤ found.2
  pending : ∀ pending ∈ worker.pending, pending.checkpoint.consumerId = consumer.consumerId ∧
    Knows b log consumer.consumerId pending.since (some pending.checkpoint.toCheckpointContent)
  conditional : ∀ pending ∈ worker.pending, ∀ head ∈ pending.expectedHead, head = pending.since

theorem informed_fresh (b : CheckpointBuiltins) (log : EventLog) (consumer : Consumer) :
    Informed b log consumer .fresh where
  remembered := knows_nothing b log _
  found := fun _ h => (Option.not_mem_none _ h).elim
  foundBelow := fun _ h => (Option.not_mem_none _ h).elim
  pending := fun _ h => (Option.not_mem_none _ h).elim
  conditional := fun _ h => (Option.not_mem_none _ h).elim

variable {consumer : Consumer} {worker : ConsumerState}

theorem Informed.ended (h : Informed b log consumer worker) : Informed b log consumer worker.ended where
  remembered := h.remembered
  found := fun _ hfound => (Option.not_mem_none _ hfound).elim
  foundBelow := fun _ hfound => (Option.not_mem_none _ hfound).elim
  pending := fun _ hpending => (Option.not_mem_none _ hpending).elim
  conditional := fun _ hpending => (Option.not_mem_none _ hpending).elim

theorem Informed.grow {event : Event} (h : Informed b log consumer worker)
    (hevents : log'.events = log.events ++ [event]) (hlatest : log'.latestSequence = event.seq)
    (hnew : log.latestSequence < event.seq) : Informed b log' consumer worker where
  remembered := h.remembered.grow hevents hlatest hnew
  found := fun found hfound => (h.found found hfound).grow hevents hlatest hnew
  foundBelow := h.foundBelow
  pending := fun pending hpending =>
    ⟨(h.pending pending hpending).1, (h.pending pending hpending).2.grow hevents hlatest hnew⟩
  conditional := h.conditional

end Knowledge

/-! ## The checkpoints that the calls make -/

section Calls

variable {consumerId : String} {current : Option ConsumerCheckpoint} {completed observed : Int}
  {checkpoint : ConsumerCheckpoint} {epochId : Option String}

theorem create_ok {content : CheckpointContent} (h : ConsumerCheckpoint.create content = .ok checkpoint) :
    checkpoint.toCheckpointContent = content ∧ content.lastCompletedSequence ≤ content.observedHeadSequence := by
  obtain ⟨hcheck, rfl⟩ := checkedBy_ok h
  obtain ⟨_, -, hcheck⟩ := bind_eq_ok hcheck
  obtain ⟨_, -, hcheck⟩ := bind_eq_ok hcheck
  obtain ⟨_, hobserved, -⟩ := bind_eq_ok hcheck
  exact ⟨rfl, not_lt.mp (refuse_ok hobserved)⟩

/-- What a call makes of what it compares with. -/
structure Made (consumerId : String) (current : Option ConsumerCheckpoint) (bound : Int)
    (checkpoint : ConsumerCheckpoint) : Prop where
  consumer : checkpoint.consumerId = consumerId
  follows : ∀ known ∈ current, checkpoint.Follows known.toCheckpointContent
  observed : checkpoint.observedHeadSequence ≤ bound

theorem projectedCheckpoint_ok {bound : Int} (hobserved : observed ≤ bound)
    (hcurrent : ∀ known ∈ current, known.observedHeadSequence ≤ bound)
    (h : projectedCheckpoint consumerId current completed observed = .ok checkpoint) :
    Made consumerId current bound checkpoint := by
  obtain ⟨_, hlast, h⟩ := bind_eq_ok h
  cases current with
  | none =>
    obtain ⟨hcontent, -⟩ := create_ok h
    exact ⟨by rw [hcontent], fun _ hknown => (Option.not_mem_none _ hknown).elim, by
      rw [hcontent]; exact hobserved⟩
  | some known =>
    obtain ⟨hcontent, -⟩ := create_ok h
    have hlast := refuse_ok hlast
    rw [Option.any_some, decide_eq_true_eq, not_lt] at hlast
    refine ⟨by rw [hcontent], fun other hother => ?_, ?_⟩
    · obtain rfl := Option.some.inj hother
      rw [hcontent]
      exact ⟨hlast, le_max_right _ _⟩
    · rw [hcontent]
      exact max_le hobserved (hcurrent known rfl)

theorem shadowCheckpoint_ok {bound : Int} (hobserved : observed ≤ bound)
    (h : shadowCheckpoint consumerId current completed observed epochId = .ok checkpoint) :
    Made consumerId current bound checkpoint ∧ checkpoint.toCheckpointContent =
      ⟨consumerId, completed, observed, epochId⟩ := by
  cases current with
  | none =>
    obtain ⟨hcontent, -⟩ := create_ok h
    exact ⟨⟨by rw [hcontent], fun _ hknown => (Option.not_mem_none _ hknown).elim, by
      rw [hcontent]; exact hobserved⟩, hcontent⟩
  | some known =>
    obtain ⟨_, hlast, h⟩ := bind_eq_ok h
    obtain ⟨_, hhead, h⟩ := bind_eq_ok h
    obtain ⟨hcontent, -⟩ := create_ok h
    refine ⟨⟨by rw [hcontent], fun other hother => ?_, by rw [hcontent]; exact hobserved⟩, hcontent⟩
    obtain rfl := Option.some.inj hother
    rw [hcontent]
    exact ⟨not_lt.mp (refuse_ok hlast), not_lt.mp (refuse_ok hhead)⟩

theorem some_ok {x : Except PyError ConsumerCheckpoint} (h : some <$> x = .ok (some checkpoint)) :
    x = .ok checkpoint := by
  cases x with
  | error error => cases h
  | ok made =>
    cases h
    rfl

theorem completedCheckpoint_ok {latest : Nat} (hcompleted : completed ≤ latest)
    (hcurrent : ∀ known ∈ current, known.observedHeadSequence ≤ latest)
    (h : completedCheckpoint consumerId current completed latest epochId = .ok (some checkpoint)) :
    Made consumerId current latest checkpoint := by
  unfold completedCheckpoint at h
  split_ifs at h with hdone
  · cases h
  · obtain ⟨hcontent, -⟩ := create_ok (some_ok h)
    cases current with
    | none =>
      refine ⟨by rw [hcontent], fun _ hknown => (Option.not_mem_none _ hknown).elim, ?_⟩
      rw [hcontent]
      exact max_le (max_le le_rfl hcompleted) (Int.natCast_nonneg latest)
    | some known =>
      rw [Option.any_some, decide_eq_true_eq, not_le] at hdone
      refine ⟨by rw [hcontent], fun other hother => ?_, ?_⟩
      · obtain rfl := Option.some.inj hother
        rw [hcontent]
        exact ⟨hdone.le, le_max_right _ _⟩
      · rw [hcontent]
        exact max_le (max_le le_rfl hcompleted) (hcurrent known rfl)

theorem disposedCheckpoint_ok (hcurrent : ∀ known ∈ current, known.observedHeadSequence ≤ observed)
    (h : disposedCheckpoint consumerId current completed observed epochId = .ok (some checkpoint)) :
    Made consumerId current observed checkpoint := by
  unfold disposedCheckpoint at h
  split_ifs at h with hdone
  · cases h
  · obtain ⟨hcontent, -⟩ := create_ok (some_ok h)
    refine ⟨by rw [hcontent], fun known hknown => ?_, by rw [hcontent]⟩
    rw [hknown, Option.any_some, decide_eq_true_eq, not_le] at hdone
    rw [hcontent]
    exact ⟨hdone.le, hcurrent known hknown⟩

theorem last_le_observed (checkpoint : ConsumerCheckpoint) :
    checkpoint.lastCompletedSequence ≤ checkpoint.observedHeadSequence := by
  obtain ⟨_, -, hcheck⟩ := bind_eq_ok checkpoint.checked
  obtain ⟨_, -, hcheck⟩ := bind_eq_ok hcheck
  obtain ⟨_, hobserved, -⟩ := bind_eq_ok hcheck
  exact not_lt.mp (refuse_ok hobserved)

end Calls

/-! ## What a call comes to -/

section Attempts

variable {b : CheckpointBuiltins} {s : CheckpointSystem} {consumer : Consumer}
  {worker : ConsumerState} {call : CheckpointCall} {checkpoint : ConsumerCheckpoint} {since : Nat}
  {head : Option Nat}

/-- A checkpoint that a worker may append, as far as it has seen the log. -/
structure Fit (b : CheckpointBuiltins) (log : EventLog) (consumerId : String)
    (checkpoint : ConsumerCheckpoint) (since : Nat) (head : Option Nat) : Prop where
  consumer : checkpoint.consumerId = consumerId
  knows : Knows b log consumerId since (some checkpoint.toCheckpointContent)
  conditional : ∀ expected ∈ head, expected = since

theorem Made.fit {log : EventLog} {consumerId : String} {current : Option ConsumerCheckpoint}
    {bound : Int} (h : Made consumerId current bound checkpoint) (hbound : bound ≤ log.latestSequence)
    (hknows : Knows b log consumerId since (current.map ConsumerCheckpoint.toCheckpointContent))
    (hhead : ∀ expected ∈ head, expected = since) : Fit b log consumerId checkpoint since head where
  consumer := h.consumer
  knows := hknows.next (fun known hknown => by
    obtain ⟨checkpoint', hmem, rfl⟩ := Option.map_eq_some_iff.mp hknown
    exact h.follows checkpoint' hmem) (h.observed.trans hbound)
  conditional := hhead

theorem le_latest_of_stored {sequence : Nat} (h : s.stored sequence) :
    sequence ≤ s.log.latestSequence := by
  obtain ⟨event, hmem, rfl⟩ := h
  exact EventLog.seq_le_latest hmem

theorem stored_of_processes {sequence : Nat} (h : s.processes worker sequence) : s.stored sequence := by
  obtain ⟨⟨event, hmem, hseq, -⟩, -⟩ := h
  exact ⟨event, hmem, hseq⟩

theorem remembered_observed (h : Informed b s.log consumer worker) :
    ∀ known ∈ worker.remembered, known.observedHeadSequence ≤ s.log.latestSequence :=
  fun known hknown => h.remembered.observed _ (Option.map_eq_some_iff.mpr ⟨known, hknown, rfl⟩)

theorem memoryAttempt_ok (hinformed : Informed b s.log consumer worker)
    (h : s.memoryAttempt consumer.consumerId worker call = some (.ok (some checkpoint), since, head)) :
    Fit b s.log consumer.consumerId checkpoint since head := by
  cases call with
  | projected sequence observedHead =>
    dsimp only [memoryAttempt] at h
    split_ifs at h with hcall
    obtain ⟨hmade, hrest⟩ := Prod.mk.inj (Option.some.inj h)
    obtain ⟨rfl, rfl⟩ := Prod.mk.inj hrest
    have hsequence := le_latest_of_stored (stored_of_processes hcall.1)
    have hobserved : max (max (observedHead : Int) s.log.latestSequence) sequence ≤
        s.log.latestSequence := by
      have := hcall.2
      omega
    exact (projectedCheckpoint_ok hobserved (remembered_observed hinformed) (some_ok hmade)).fit
      le_rfl hinformed.remembered fun _ hexpected => (Option.not_mem_none _ hexpected).elim
  | _ => cases h

/-- What the shadow worker takes from the log it read, and not from the checkpoint it
remembers. -/
theorem shadow_fit_found {completed observed : Int} {epochId : Option String}
    {current : Option ConsumerCheckpoint}
    (hmade : shadowCheckpoint consumer.consumerId worker.remembered completed observed epochId =
      .ok checkpoint)
    (hknows : Knows b s.log consumer.consumerId since
      (current.map ConsumerCheckpoint.toCheckpointContent))
    (hfollows : ∀ known ∈ current, known.lastCompletedSequence ≤ completed ∧
      known.observedHeadSequence ≤ observed)
    (hobserved : observed ≤ s.log.latestSequence) :
    Fit b s.log consumer.consumerId checkpoint since none := by
  obtain ⟨made, hcontent⟩ := shadowCheckpoint_ok hobserved hmade
  refine Made.fit ⟨made.consumer, fun known hknown => ?_, made.observed⟩ le_rfl hknows
    fun _ hexpected => (Option.not_mem_none _ hexpected).elim
  rw [hcontent]
  exact hfollows known hknown

theorem shadowAttempt_ok (hinformed : Informed b s.log consumer worker)
    (h : s.shadowAttempt consumer.consumerId worker call = some (.ok (some checkpoint), since, head)) :
    Fit b s.log consumer.consumerId checkpoint since head := by
  cases call with
  | bootstrapped bootstrapHead =>
    dsimp only [shadowAttempt] at h
    rcases hfound : worker.found with _ | ⟨_ | known, readAt⟩
    · rw [hfound] at h
      cases h
    · rw [hfound] at h
      dsimp only at h
      split_ifs at h with hcall
      obtain ⟨hmade, hrest⟩ := Prod.mk.inj (Option.some.inj h)
      obtain ⟨rfl, rfl⟩ := Prod.mk.inj hrest
      exact shadow_fit_found (some_ok hmade) (hinformed.found _ hfound)
        (fun _ hknown => (Option.not_mem_none _ hknown).elim) (by exact_mod_cast hcall)
    · rw [hfound] at h
      cases h
  | pinned epochId =>
    dsimp only [shadowAttempt] at h
    rcases hfound : worker.found with _ | ⟨_ | known, readAt⟩
    · rw [hfound] at h
      cases h
    · rw [hfound] at h
      cases h
    · rw [hfound] at h
      dsimp only at h
      split_ifs at h with hcall
      obtain ⟨hmade, hrest⟩ := Prod.mk.inj (Option.some.inj h)
      obtain ⟨rfl, rfl⟩ := Prod.mk.inj hrest
      have hknows := hinformed.found _ hfound
      refine shadow_fit_found (some_ok hmade) hknows (fun other hother => ?_) ?_
      · obtain rfl := Option.some.inj hother
        exact ⟨le_rfl, le_max_left _ _⟩
      · exact max_le (hknows.observed _ rfl) le_rfl
  | rotated epochId =>
    dsimp only [shadowAttempt] at h
    cases hremembered : worker.remembered with
    | none =>
      rw [hremembered] at h
      cases h
    | some known =>
      rw [hremembered] at h
      obtain ⟨hmade, hrest⟩ := Prod.mk.inj (Option.some.inj h)
      obtain ⟨rfl, rfl⟩ := Prod.mk.inj hrest
      have hmade := (shadowCheckpoint_ok le_rfl (some_ok hmade)).1
      rw [← hremembered] at hmade
      exact hmade.fit le_rfl hinformed.remembered
        fun _ hexpected => (Option.not_mem_none _ hexpected).elim
  | triggered sequence observedHead epochId =>
    dsimp only [shadowAttempt] at h
    split_ifs at h with hcall
    obtain ⟨hmade, hrest⟩ := Prod.mk.inj (Option.some.inj h)
    obtain ⟨rfl, rfl⟩ := Prod.mk.inj hrest
    have hsequence := le_latest_of_stored (stored_of_processes hcall.1)
    have hobserved : ((max observedHead sequence : Nat) : Int) ≤ s.log.latestSequence := by
      have := hcall.2
      omega
    exact (shadowCheckpoint_ok hobserved (some_ok hmade)).1.fit le_rfl hinformed.remembered
      fun _ hexpected => (Option.not_mem_none _ hexpected).elim
  | _ => cases h

/-- The continuity worker compares with nothing: the head it completed up to is above every
checkpoint of the log. -/
theorem continuityAttempt_ok (hdated : Dated b s.log) {consumerId : String}
    (h : s.continuityAttempt consumerId call = some (.ok (some checkpoint), since, head)) :
    Fit b s.log consumerId checkpoint since head := by
  cases call with
  | woke epochId =>
    obtain ⟨hmade, hrest⟩ := Prod.mk.inj (Option.some.inj h)
    obtain ⟨rfl, rfl⟩ := Prod.mk.inj hrest
    obtain ⟨hcontent, -⟩ := create_ok (some_ok hmade)
    refine ⟨by rw [hcontent], ⟨le_rfl, fun content hmem => ?_, fun other hother hid hseq => ?_⟩,
      fun _ hexpected => (Option.not_mem_none _ hexpected).elim⟩
    · obtain rfl := Option.some.inj hmem
      rw [hcontent]
    · obtain ⟨event, hevent, hread⟩ := mem_checkpointsOf.mp hother
      have hobserved := (hdated event hevent other hread).1
      have hlatest := EventLog.seq_le_latest hevent
      have hlast := last_le_observed other
      refine ⟨_, rfl, ?_⟩
      rw [hcontent]
      constructor <;> dsimp only <;> omega
  | _ => cases h

theorem completedAttempt_ok (hinformed : Informed b s.log consumer worker)
    (h : s.completedAttempt consumer.consumerId worker call =
      some (.ok (some checkpoint), since, head)) :
    Fit b s.log consumer.consumerId checkpoint since head := by
  cases call with
  | completed sequence epochId =>
    dsimp only [completedAttempt] at h
    rcases hfound : worker.found with _ | ⟨current, readAt⟩
    · rw [hfound] at h
      cases h
    · rw [hfound] at h
      dsimp only at h
      split_ifs at h with hcall
      obtain ⟨hmade, hrest⟩ := Prod.mk.inj (Option.some.inj h)
      obtain ⟨rfl, rfl⟩ := Prod.mk.inj hrest
      have hknows := hinformed.found _ hfound
      have hsequence := le_latest_of_stored hcall
      exact (completedCheckpoint_ok (by exact_mod_cast hsequence) (fun known hknown =>
        hknows.observed _ (Option.map_eq_some_iff.mpr ⟨known, hknown, rfl⟩)) hmade).fit le_rfl hknows
        fun _ hexpected => (Option.not_mem_none _ hexpected).elim
  | _ => cases h

theorem attentionAttempt_ok (hinformed : Informed b s.log consumer worker)
    (h : s.attentionAttempt consumer.consumerId worker call =
      some (.ok (some checkpoint), since, head)) :
    Fit b s.log consumer.consumerId checkpoint since head := by
  cases call with
  | disposed sequence epochId =>
    dsimp only [attentionAttempt] at h
    rcases hfound : worker.found with _ | ⟨current, readAt⟩
    · rw [hfound] at h
      cases h
    · rw [hfound] at h
      dsimp only at h
      split_ifs at h with hcall
      obtain ⟨hmade, hrest⟩ := Prod.mk.inj (Option.some.inj h)
      obtain ⟨rfl, rfl⟩ := Prod.mk.inj hrest
      have hknows := hinformed.found _ hfound
      exact (disposedCheckpoint_ok (hinformed.foundBelow _ hfound) hmade).fit
        (by exact_mod_cast hknows.reached) hknows
        fun _ hexpected => (Option.some.inj hexpected).symm
  | _ => cases h

theorem attempt_ok (hdated : Dated b s.log) (hinformed : Informed b s.log consumer worker)
    (h : s.attempt consumer worker call = some (.ok (some checkpoint), since, head)) :
    Fit b s.log consumer.consumerId checkpoint since head := by
  unfold attempt at h
  cases hkind : consumer.kind <;> rw [hkind] at h
  case memory => exact memoryAttempt_ok hinformed h
  case shadow => exact shadowAttempt_ok hinformed h
  case continuity => exact continuityAttempt_ok hdated h
  case endogenous | reconsideration | discovery => exact completedAttempt_ok hinformed h
  case attention => exact attentionAttempt_ok hinformed h

end Attempts

/-! ## Runs -/

section Runs

variable (b : CheckpointBuiltins) (consumers : Nat → Consumer)

/-- What the workers and the log agree on. -/
structure Sound (s : CheckpointSystem) : Prop where
  never : NeverRegresses b s.log.events
  dated : Dated b s.log
  informed : ∀ index, Informed b s.log (consumers index) (s.workers index)

/-- The event that a worker appends. -/
def pendingEvent (index : Nat) (pending : PendingCheckpoint) : Event :=
  pending.checkpoint.toEvent b (consumers index).source pending.timestamp pending.causationId

/-- An unconditional append is not behind a checkpoint that was stored under the worker's
consumer id after the worker looked. -/
def Unraced (s : CheckpointSystem) : Label → Prop
  | .store index (.takes _) _ => ∀ pending ∈ (s.workers index).pending,
      pending.expectedHead = none → s.log.byId (pendingEvent b consumers index pending).id = none →
      ∀ stored ∈ checkpointsOf b s.log.events,
        stored.consumerId = pending.checkpoint.consumerId → pending.since < stored.seq →
        pending.checkpoint.Follows stored.toCheckpointContent
  | _ => True

variable {b consumers} {s s' : CheckpointSystem}

theorem sound_start : Sound b consumers .start where
  never := ⟨fun _ h => (List.not_mem_nil h).elim, List.Pairwise.nil⟩
  dated := fun _ h => (List.not_mem_nil h).elim
  informed := fun _ => informed_fresh b _ _

theorem Sound.withWorker (h : Sound b consumers s) {index : Nat} {worker : ConsumerState}
    (hworker : Informed b s.log (consumers index) worker) :
    Sound b consumers (s.withWorker index worker) where
  never := h.never
  dated := h.dated
  informed := fun other => by
    by_cases hother : other = index
    · subst hother
      simpa only [CheckpointSystem.withWorker, Function.update_self] using hworker
    · simpa only [CheckpointSystem.withWorker, Function.update_of_ne hother] using h.informed other

/-- The log takes one more event. -/
theorem Sound.grow (h : Sound b consumers s) {log : EventLog} {event : Event}
    (hevents : log.events = s.log.events ++ [event]) (hlatest : log.latestSequence = event.seq)
    (hnew : s.log.latestSequence < event.seq) (hnever : NeverRegresses b log.events)
    (hdated : ∀ checkpoint, ConsumerCheckpoint.fromEvent b event = .ok checkpoint →
      checkpoint.observedHeadSequence ≤ event.seq ∧
        event.id = "consumer-checkpoint:" ++ b.checkpointDigest checkpoint.toCheckpointContent) :
    Sound b consumers { s with log } where
  never := hnever
  dated := fun other hother checkpoint hread => by
    rw [hevents] at hother
    rcases List.mem_append.mp hother with hother | hother
    · exact h.dated other hother checkpoint hread
    · obtain rfl := List.mem_singleton.mp hother
      exact hdated checkpoint hread
  informed := fun index => (h.informed index).grow hevents hlatest hnew

theorem nextStored_seq (log : EventLog) (event : Event) (gap : Nat) :
    log.latestSequence < (log.nextStored event gap).seq := by
  rw [EventLog.nextStored, Event.withSequence_seq]
  omega

/-- An event that is no checkpoint changes nothing that matters. -/
theorem Sound.other (h : Sound b consumers s) {event : Event} {answer : StoreAnswer}
    (htype : event.type ≠ consumerCheckpointEvent) :
    Sound b consumers { s with log := (s.log.append event answer).1 } := by
  have happend := s.log.append_appended event answer
  generalize (s.log.append event answer).1 = log, (s.log.append event answer).2 = result at happend
  cases happend with
  | refused => exact h
  | known => exact h
  | @added log gap hid hevents hlatest =>
    refine h.grow hevents hlatest (nextStored_seq _ _ _) ?_ fun checkpoint hread => ?_
    · rw [hevents]
      have hother : (s.log.nextStored event gap).type ≠ consumerCheckpointEvent := htype
      exact (neverRegresses_snoc_other hother).mpr h.never
    · exact absurd (ConsumerCheckpoint.fromEvent_ok hread).1 htype

theorem Sound.read (h : Sound b consumers s) (index : Nat) :
    Informed b s.log (consumers index) (s.afterRead b (consumers index) (s.workers index)) := by
  obtain ⟨p, hp⟩ := ConsumerCheckpointProjection.rebuild_iff.mpr h.never
  have hknows := knows_rebuilt h.dated hp (consumers index).consumerId
  unfold afterRead
  rw [hp]
  dsimp only
  split_ifs with hkind
  · exact ⟨hknows, fun _ hfound => (Option.not_mem_none _ hfound).elim,
      fun _ hfound => (Option.not_mem_none _ hfound).elim,
      fun _ hpending => (Option.not_mem_none _ hpending).elim,
      fun _ hpending => (Option.not_mem_none _ hpending).elim⟩
  · refine ⟨(h.informed index).remembered, fun found hfound => ?_, fun found hfound known hknown => ?_,
      fun _ hpending => (Option.not_mem_none _ hpending).elim,
      fun _ hpending => (Option.not_mem_none _ hpending).elim⟩
    · obtain rfl := Option.some.inj hfound
      exact hknows
    · obtain rfl := Option.some.inj hfound
      exact hknows.observed _ (Option.map_eq_some_iff.mpr ⟨known, hknown, rfl⟩)

/-- A worker whose emit returned a stored checkpoint of its consumer. -/
theorem Sound.acknowledged (h : Sound b consumers s) (index : Nat) {event : Event}
    (hmem : event ∈ s.log.events) {content : CheckpointContent}
    (hid : event.id = "consumer-checkpoint:" ++ b.checkpointDigest content)
    (hconsumer : content.consumerId = (consumers index).consumerId) :
    Informed b s.log (consumers index)
      (acknowledged b (consumers index).kind (s.workers index) event) := by
  unfold CheckpointSystem.acknowledged
  cases hread : ConsumerCheckpoint.fromEvent b event with
  | error error => exact (h.informed index).ended
  | ok checkpoint =>
    dsimp only
    split_ifs with hkind
    · obtain ⟨hobserved, hdigest⟩ := h.dated event hmem checkpoint hread
      have hsame : checkpoint.consumerId = (consumers index).consumerId := by
        rw [← hconsumer]
        refine b.digest_consumer _ _ (String.append_right_inj _ |>.mp (hdigest.symm.trans hid))
      have hknows := hsame ▸ knows_stored h.never h.dated hmem hread
      refine ⟨hknows, fun found hfound => ?_, fun found hfound known hknown => ?_,
        fun _ hpending => (Option.not_mem_none _ hpending).elim,
        fun _ hpending => (Option.not_mem_none _ hpending).elim⟩
      · obtain ⟨_, -, rfl⟩ := Option.map_eq_some_iff.mp hfound
        exact hknows
      · obtain ⟨_, -, rfl⟩ := Option.map_eq_some_iff.mp hfound
        obtain rfl := Option.some.inj hknown
        exact hobserved
    · exact (h.informed index).ended

variable (b consumers s) in
/-- What an append of a pending checkpoint did.  A conditional one adds its event only at the
head it expects. -/
theorem emitPending_appended (index : Nat) (pending : PendingCheckpoint) (answer : StoreAnswer) :
    EventLog.Appended s.log (pendingEvent b consumers index pending)
      (s.emitPending b (consumers index).source pending answer).1
      (s.emitPending b (consumers index).source pending answer).2 := by
  unfold emitPending
  dsimp only
  cases pending.expectedHead with
  | none => exact s.log.append_appended _ _
  | some head => exact s.log.appendIfHead_appended _ _ _

theorem head_of_added {index : Nat} {pending : PendingCheckpoint} {answer : StoreAnswer}
    {head : Nat} (hhead : pending.expectedHead = some head)
    (hid : s.log.byId (pendingEvent b consumers index pending).id = none) {event : Event}
    (h : (s.emitPending b (consumers index).source pending answer).2 = .ok event) :
    s.log.latestSequence = head := by
  unfold emitPending EventLog.appendIfHead at h
  rw [hhead] at h
  dsimp only at h
  rw [if_neg (not_lt.mpr (Int.natCast_nonneg head))] at h
  by_contra hne
  rw [if_pos ⟨by rw [Option.isNone_iff_eq_none]; exact hid, by exact_mod_cast hne⟩] at h
  cases h

/-- **A checkpoint that is not behind the log's.**  Nothing stored since the worker looked is
ahead of it if its append is unraced, and nothing is if the append expects the head. -/
theorem Sound.ahead (h : Sound b consumers s) {index : Nat} {pending : PendingCheckpoint}
    (hpending : (s.workers index).pending = some pending)
    (hsince : ∀ stored ∈ checkpointsOf b s.log.events,
      stored.consumerId = pending.checkpoint.consumerId → pending.since < stored.seq →
      pending.checkpoint.Follows stored.toCheckpointContent)
    {stored : ConsumerCheckpoint} (hmem : stored ∈ checkpointsOf b s.log.events)
    (hid : stored.consumerId = pending.checkpoint.consumerId) :
    pending.checkpoint.Follows stored.toCheckpointContent := by
  obtain ⟨hconsumer, hknows⟩ := (h.informed index).pending pending hpending
  by_cases hseq : stored.seq ≤ pending.since
  · obtain ⟨content, hcontent, hfollows⟩ := hknows.covers stored hmem (hid.trans hconsumer) hseq
    rwa [← Option.some.inj hcontent] at hfollows
  · exact hsince stored hmem hid (not_le.mp hseq)

variable (b consumers s) in
/-- The checkpoint of an appended event is read back. -/
theorem nextStored_read (index : Nat) (pending : PendingCheckpoint) (gap : Nat) :
    ∃ read, ConsumerCheckpoint.fromEvent b
        (s.log.nextStored (pendingEvent b consumers index pending) gap) = .ok read ∧
      read.toCheckpointContent = pending.checkpoint.toCheckpointContent :=
  ConsumerCheckpoint.fromEvent_toEvent pending.checkpoint _ _ _ (Nat.succ_pos _)

theorem append_takes (log : EventLog) (event : Event) (gap : Nat) (hid : log.byId event.id = none) :
    ∃ gap', (log.append event (.takes gap)).1.events = log.events ++ [log.nextStored event gap'] := by
  have happend := log.append_appended event (.takes gap)
  have hok : ∃ stored, (log.append event (.takes gap)).2 = .ok stored := by
    unfold EventLog.append
    dsimp only
    split <;> exact ⟨_, rfl⟩
  obtain ⟨stored, hok⟩ := hok
  generalize hafter : log.append event (.takes gap) = after at happend hok
  obtain ⟨log', result⟩ := after
  cases happend with
  | refused => cases hok
  | known hknown =>
    rw [hid] at hknown
    cases hknown
  | @added _ gap' _ hevents => exact ⟨gap', hevents⟩

/-- A raced append makes the log unreadable. -/
theorem raced_store {index : Nat} {answer : StoreAnswer} {returned : Bool}
    (hraced : ¬ Unraced b consumers s (.store index answer returned))
    (hstep : s.step b consumers (.store index answer returned) = some s') :
    ¬ NeverRegresses b s'.log.events := by
  cases answer with
  | fails error => exact absurd trivial hraced
  | takes gap =>
    simp only [Unraced, not_forall] at hraced
    obtain ⟨pending, hpending, hhead, hid, stored, hmem, hconsumer, -, hbehind⟩ := hraced
    dsimp only [step] at hstep
    rw [Option.mem_def.mp hpending] at hstep
    obtain rfl := Option.some.inj hstep
    obtain ⟨gap', hevents⟩ := append_takes s.log (pendingEvent b consumers index pending) gap hid
    obtain ⟨read, hread, hcontent⟩ := nextStored_read b consumers s index pending gap'
    dsimp only [emitPending]
    rw [hhead]
    dsimp only
    intro hnever
    have hahead := ((neverRegresses_snoc hread).mp (hevents ▸ hnever)).2 stored hmem
    rw [hcontent] at hahead
    exact hbehind (hahead hconsumer)

/-- What an unraced append leaves. -/
theorem Sound.emitted (h : Sound b consumers s) {index : Nat} {pending : PendingCheckpoint}
    {answer : StoreAnswer} {returned : Bool} (hpending : (s.workers index).pending = some pending)
    (hraced : Unraced b consumers s (.store index answer returned)) :
    Sound b consumers { s with log := (s.emitPending b (consumers index).source pending answer).1 } ∧
      ∀ event, (s.emitPending b (consumers index).source pending answer).2 = .ok event →
        event ∈ (s.emitPending b (consumers index).source pending answer).1.events ∧
          event.id = (pendingEvent b consumers index pending).id := by
  obtain ⟨hconsumer, hknows⟩ := (h.informed index).pending pending hpending
  have hconditional := (h.informed index).conditional pending hpending
  have happend := emitPending_appended b consumers s index pending answer
  -- What may have been stored since the worker looked.
  have hsince : ∀ event, (s.emitPending b (consumers index).source pending answer).2 = .ok event →
      s.log.byId (pendingEvent b consumers index pending).id = none →
      ∀ stored ∈ checkpointsOf b s.log.events,
        stored.consumerId = pending.checkpoint.consumerId → pending.since < stored.seq →
        pending.checkpoint.Follows stored.toCheckpointContent := by
    intro event hok hid stored hmem hsame hlt
    cases hhead : pending.expectedHead with
    | some head =>
      have hlatest := head_of_added hhead hid hok
      have hlooked := hconditional head hhead
      obtain ⟨storedEvent, hstored, hread⟩ := mem_checkpointsOf.mp hmem
      have hseq := (ConsumerCheckpoint.fromEvent_ok hread).2
      have hbelow := EventLog.seq_le_latest hstored
      omega
    | none =>
      cases answer with
      | fails error =>
        dsimp only [emitPending] at hok
        rw [hhead] at hok
        cases hok
      | takes gap => exact hraced pending hpending hhead hid stored hmem hsame hlt
  generalize s.emitPending b (consumers index).source pending answer = emitted at happend hsince ⊢
  obtain ⟨log, result⟩ := emitted
  cases happend with
  | refused => exact ⟨h, fun event hok => by cases hok⟩
  | known hid =>
    refine ⟨h, fun event hok => ?_⟩
    obtain rfl := Except.ok.inj hok
    exact EventLog.id_of_byId hid
  | @added _ gap hid hevents hlatest =>
    obtain ⟨read, hread, hcontent⟩ := nextStored_read b consumers s index pending gap
    have hnew := nextStored_seq s.log (pendingEvent b consumers index pending) gap
    refine ⟨h.grow hevents hlatest hnew ?_ fun checkpoint hcheckpoint => ?_, fun event hok => ?_⟩
    · rw [hevents]
      refine (neverRegresses_snoc hread).mpr ⟨h.never, fun stored hmem hsame => ?_⟩
      rw [hcontent] at hsame ⊢
      exact h.ahead hpending (hsince _ rfl hid) hmem hsame
    · obtain rfl := Except.ok.inj (hread.symm.trans hcheckpoint)
      rw [hcontent]
      refine ⟨?_, rfl⟩
      have := hknows.observed _ rfl
      omega
    · obtain rfl := Except.ok.inj hok
      exact ⟨by rw [hevents]; exact List.mem_append_right _ (List.mem_singleton_self _), rfl⟩

/-- An unraced append keeps the log and the workers sound. -/
theorem Sound.store (h : Sound b consumers s) {index : Nat} {answer : StoreAnswer} {returned : Bool}
    (hraced : Unraced b consumers s (.store index answer returned))
    (hstep : s.step b consumers (.store index answer returned) = some s') :
    Sound b consumers s' := by
  dsimp only [step] at hstep
  cases hpending : (s.workers index).pending with
  | none =>
    rw [hpending] at hstep
    cases hstep
  | some pending =>
    obtain ⟨hsound, hstored⟩ := h.emitted hpending hraced
    have hconsumer := ((h.informed index).pending pending hpending).1
    rw [hpending] at hstep
    obtain rfl := Option.some.inj hstep
    generalize s.emitPending b (consumers index).source pending answer = emitted at hsound hstored ⊢
    obtain ⟨log, result⟩ := emitted
    have hended := hsound.withWorker (hsound.informed index).ended
    cases returned with
    | false => exact hended
    | true =>
      cases result with
      | error error => exact hended
      | ok event =>
        obtain ⟨hmem, hid⟩ := hstored event rfl
        exact hsound.withWorker (hsound.acknowledged index hmem hid hconsumer)

theorem Sound.advance (h : Sound b consumers s) {index : Nat} {call : CheckpointCall}
    {timestamp : Datetime} {causationId : Option String}
    (hstep : s.step b consumers (.advance index call timestamp causationId) = some s') :
    Sound b consumers s' := by
  dsimp only [CheckpointSystem.step] at hstep
  have hinformed := h.informed index
  cases hpending : (s.workers index).pending with
  | some pending =>
    rw [hpending] at hstep
    cases hstep
  | none =>
    rw [hpending] at hstep
    rcases hattempt : s.attempt (consumers index) (s.workers index) call with
      _ | ⟨error | _ | checkpoint, since, head⟩
    · rw [hattempt] at hstep
      cases hstep
    · rw [hattempt] at hstep
      obtain rfl := Option.some.inj hstep
      exact h.withWorker hinformed.ended
    · rw [hattempt] at hstep
      obtain rfl := Option.some.inj hstep
      exact h.withWorker hinformed.ended
    · rw [hattempt] at hstep
      obtain rfl := Option.some.inj hstep
      have hfit := attempt_ok h.dated hinformed hattempt
      refine h.withWorker ⟨hinformed.remembered, hinformed.found, hinformed.foundBelow,
        fun pending hmade => ?_, fun pending hmade => ?_⟩
      · obtain rfl := Option.some.inj hmade
        exact ⟨hfit.consumer, hfit.knows⟩
      · obtain rfl := Option.some.inj hmade
        exact hfit.conditional

theorem Sound.started (h : Sound b consumers s) {index : Nat}
    (hstep : s.step b consumers (.started index) = some s') : Sound b consumers s' := by
  dsimp only [CheckpointSystem.step] at hstep
  cases hkind : (consumers index).kind <;> rw [hkind] at hstep <;> try cases hstep
  rcases hfound : (s.workers index).found with _ | ⟨_ | checkpoint, readAt⟩ <;>
    rw [hfound] at hstep <;> try cases hstep
  exact h.withWorker ⟨(h.informed index).found _ hfound,
    fun _ hnone => (Option.not_mem_none _ hnone).elim,
    fun _ hnone => (Option.not_mem_none _ hnone).elim,
    fun _ hnone => (Option.not_mem_none _ hnone).elim,
    fun _ hnone => (Option.not_mem_none _ hnone).elim⟩

theorem Sound.step (h : Sound b consumers s) {label : Label}
    (hraced : Unraced b consumers s label) (hstep : s.step b consumers label = some s') :
    Sound b consumers s' := by
  cases label with
  | other event answer =>
    dsimp only [CheckpointSystem.step] at hstep
    split_ifs at hstep with htype
    obtain rfl := Option.some.inj hstep
    exact h.other htype
  | read index =>
    obtain rfl := Option.some.inj hstep
    exact h.withWorker (h.read index)
  | advance index call timestamp causationId => exact h.advance hstep
  | store index answer returned => exact h.store hraced hstep
  | started index => exact h.started hstep
  | fail index =>
    obtain rfl := Option.some.inj hstep
    exact h.withWorker (h.informed index).ended
  | crash index =>
    obtain rfl := Option.some.inj hstep
    exact h.withWorker (informed_fresh b _ _)

/-- A step appends one event at the most. -/
theorem step_events {label : Label} (hstep : s.step b consumers label = some s') :
    s'.log.events = s.log.events ∨ ∃ event, s'.log.events = s.log.events ++ [event] := by
  have hlog : ∀ {event log result}, EventLog.Appended s.log event log result →
      log.events = s.log.events ∨ ∃ event, log.events = s.log.events ++ [event] :=
    fun happend => by
      cases happend with
      | refused | known => exact .inl rfl
      | added _ hevents => exact .inr ⟨_, hevents⟩
  cases label with
  | other event answer =>
    dsimp only [CheckpointSystem.step] at hstep
    split_ifs at hstep with htype
    obtain rfl := Option.some.inj hstep
    exact hlog (s.log.append_appended event answer)
  | store index answer returned =>
    dsimp only [CheckpointSystem.step] at hstep
    cases hpending : (s.workers index).pending with
    | none =>
      rw [hpending] at hstep
      cases hstep
    | some pending =>
      rw [hpending] at hstep
      obtain rfl := Option.some.inj hstep
      exact hlog (emitPending_appended b consumers s index pending answer)
  | read index | fail index | crash index =>
    obtain rfl := Option.some.inj hstep
    exact .inl rfl
  | advance index call timestamp causationId =>
    dsimp only [CheckpointSystem.step] at hstep
    split at hstep <;> cases hstep <;> exact .inl rfl
  | started index =>
    dsimp only [CheckpointSystem.step] at hstep
    split at hstep <;> cases hstep
    exact .inl rfl

/-- **The log stays readable exactly in the runs without a raced append.** -/
theorem rebuild_iff_unraced {labels : List Label}
    (h : Machine.Run (CheckpointSystem.step b consumers) Machine.Free .start labels s) :
    (∃ p, ConsumerCheckpointProjection.rebuild b s.log.events = .ok p) ↔
      Machine.Run (CheckpointSystem.step b consumers) (Unraced b consumers) .start labels s := by
  have hdecides :
      Machine.Run (CheckpointSystem.step b consumers) (Unraced b consumers) .start labels s ∧
          Sound b consumers s ∨
        ¬ Machine.Run (CheckpointSystem.step b consumers) (Unraced b consumers) .start labels s ∧
          ¬ NeverRegresses b s.log.events := by
    refine h.decides sound_start
      (fun s label s' hsound hstep => ⟨fun hraced => hsound.step hraced hstep, fun hraced => ?_⟩)
      (J := fun s => ¬ NeverRegresses b s.log.events) (fun s label s' hnever hstep hlater => ?_)
    · cases label with
      | store index answer returned => exact raced_store hraced hstep
      | _ => exact absurd trivial hraced
    · rcases step_events hstep with hsame | ⟨event, hmore⟩
      · exact hnever (hsame ▸ hlater)
      · exact hnever (NeverRegresses.init (hmore ▸ hlater))
  rw [ConsumerCheckpointProjection.rebuild_iff]
  rcases hdecides with ⟨hrun, hsound⟩ | ⟨hrun, hnever⟩
  · exact iff_of_true hsound.never hrun
  · exact iff_of_false hnever hrun

end Runs

/-! ## Two projectors of one consumer -/

/-- Texts that start with pairs, up to the first that is none. -/
theorem pairs_injective {l l' r r' : List Char}
    (h : (l.flatMap fun c => ['0', c]) ++ '1' :: r = (l'.flatMap fun c => ['0', c]) ++ '1' :: r') :
    l = l' := by
  induction l generalizing l' with
  | nil =>
    cases l' with
    | nil => rfl
    | cons c l' => simp at h
  | cons c l ih =>
    cases l' with
    | nil => simp at h
    | cons c' l' =>
      simp only [List.flatMap_cons, List.cons_append, List.nil_append, List.cons.injEq,
        true_and] at h
      rw [h.1, ih h.2]

/-- A digest on which the examples run: it spells out the consumer. -/
def spelledDigest (content : CheckpointContent) : String :=
  .ofList ((content.consumerId.toList.flatMap fun c => ['0', c]) ++
    '1' :: s!"{content.lastCompletedSequence}/{content.observedHeadSequence}".toList)

/-- Conversions on which the examples run. -/
def plainCheckpoints : CheckpointBuiltins where
  toIntentBuiltins :=
    { strOf := fun _ => .error .typeError
      floatOfInt := fun value => .ok (.finite value)
      floatOfStr := fun _ => .error (.valueError "could not convert string to float")
      fromisoformat := fun _ => .error (.valueError "Invalid isoformat string")
      addSeconds := fun _ _ => .error .overflowError
      dictOfPairs := fun _ => .error (.valueError "dictionary update sequence")
      intOfStr := fun _ => .error (.valueError "invalid literal for int()")
      sameEvent := fun event event' => event.id = event'.id
      ids := ⟨fun _ => "", fun _ => "", fun _ => "", fun _ => "", fun _ => "", fun _ => "", fun _ => ""⟩
      workOrderFromDict := fun _ => .error (.valueError "work order")
      workOrderFromEvent := fun _ => .error (.valueError "work order")
      workGraphFromEvent := fun _ => .error (.valueError "work graph") }
  checkpointDigest := spelledDigest
  digest_consumer := fun content other h => by
    have hlists := congrArg String.toList h
    rw [spelledDigest, spelledDigest, String.toList_ofList, String.toList_ofList] at hlists
    exact String.toList_injective (pairs_injective hlists)

/-- Memory projectors that were all given the default consumer id. -/
def projectors (_ : Nat) : Consumer := ⟨.memory, "persistent-cognitive-memory", "memory:projector"⟩

def noted (id : String) : Event where
  type := "note.taken"
  source := "ada"
  payload := .empty
  subject := none
  id := id
  timestamp := .utc 0
  correlationId := none
  causationId := none
  priority := 0
  sequence := none
  metadata := .empty
  schemaVersion := 1
  schemaVersion_pos := Nat.one_pos

/-- A projector completes an event. -/
def completes (worker sequence : Nat) : List Label :=
  [.advance worker (.projected sequence 0) (.utc 0) none, .store worker (.takes 0) true]

/-- One projector completes two notes. -/
def projectedOnce : List Label :=
  [.other (noted "first") (.takes 0), .other (noted "second") (.takes 0), .read 0, .read 1] ++
    completes 0 1 ++ completes 0 2

/-- Another one of the consumer comes to the first of them. -/
def projectedTwice : List Label := projectedOnce ++ completes 1 1

/-- Whether a restart can read the log after a run. -/
def restarts (labels : List Label) : Option Bool :=
  (Machine.exec (step plainCheckpoints projectors) Machine.Free start labels).map fun s =>
    (ConsumerCheckpointProjection.rebuild plainCheckpoints s.log.events).isOk

theorem restarts_ok {labels : List Label} {readable : Bool} (h : restarts labels = some readable) :
    ∃ s, Machine.Run (step plainCheckpoints projectors) Machine.Free start labels s ∧
      ((∃ p, ConsumerCheckpointProjection.rebuild plainCheckpoints s.log.events = .ok p) ↔
        readable = true) := by
  obtain ⟨s, hexec, hreadable⟩ := Option.map_eq_some_iff.mp h
  refine ⟨s, Machine.Run.of_exec hexec, ?_⟩
  rw [← hreadable]
  cases ConsumerCheckpointProjection.rebuild plainCheckpoints s.log.events with
  | ok p => exact iff_of_true ⟨p, rfl⟩ rfl
  | error error => exact iff_of_false (fun ⟨p, hp⟩ => by cases hp) Bool.false_ne_true

/-- **The second projector's checkpoint is behind: no reader can restart.** -/
theorem checkpoint_regressed : ¬ ∀ (b : CheckpointBuiltins) (consumers : Nat → Consumer)
    (labels : List Label) (s : CheckpointSystem),
    Machine.Run (step b consumers) Machine.Free start labels s →
    ∃ p, ConsumerCheckpointProjection.rebuild b s.log.events = .ok p := by
  intro hall
  have hrun : restarts projectedTwice = some false := by decide +kernel
  obtain ⟨s, hs, hreadable⟩ := restarts_ok hrun
  exact Bool.false_ne_true (hreadable.mp (hall plainCheckpoints projectors projectedTwice s hs))

/-- The run up to there is unraced. -/
theorem rebuild_iff_unraced_projectedOnce :
    ∃ s, Machine.Run (step plainCheckpoints projectors)
      (Unraced plainCheckpoints projectors) start projectedOnce s := by
  have hrun : restarts projectedOnce = some true := by decide +kernel
  obtain ⟨s, hs, hreadable⟩ := restarts_ok hrun
  exact ⟨s, (rebuild_iff_unraced hs).mp (hreadable.mpr rfl)⟩

end CheckpointSystem

end Noema
