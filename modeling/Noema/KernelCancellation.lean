import Noema.KernelInvariant

/-!
# Cancelled commits

A commit that is cancelled inside the emit lock leaves a hole: its append goes on in
a thread after the lock is released, or is done and never projected or published
(`cancelled_append_leaves_hole`).  If cancellations only reach tasks that do not
hold the lock, and starts do not install under a commit or a history that lacks a
projected event, there is none: once all tasks have ended the situation is the
rebuild of the log and every event stored here has been published, and at no time
is a thread's transaction in the way of an append (`spared_run_leaves_no_hole`).

The store has no other writers here.  Then an early return of a commit is always
for a projected event (`returnSafe_of_accounted`), so nothing else is asked for.
-/
namespace Noema
open Machine Replay Kernel TaskPool

namespace Pc

/-- The task has stored the event and still has to publish it. -/
def Carries (pc : Pc) (event : Event) : Prop :=
  pc = .stored event true ∨ ∃ projected echo, pc = .publishing event projected echo

/-- The call has come to its end, and so has its thread. -/
def Ended : Pc → Prop
  | .returned _ | .raised _ | .cancelled => True
  | _ => False

instance : DecidablePred Ended := fun pc => by cases pc <;> unfold Ended <;> infer_instance

theorem Carries.critical {pc : Pc} {event : Event} (h : pc.Carries event) : pc.Critical := by
  rcases h with rfl | ⟨_, _, rfl⟩ <;> trivial

end Pc

namespace Runtime

/-- No other writer, no cancellation inside the emit lock, and starts install with care. -/
def Spared (s : Runtime) : RuntimeLabel → Prop
  | .resume i _ _ => ∀ task ∈ s.tasks[i]?, s.InstallSafe task
  | .cancel i => s.emitLock ≠ some i
  | .call _ => True
  | .remote _ _ => False

instance (s : Runtime) : (l : RuntimeLabel) → Decidable (s.Spared l)
  | .resume i _ _ => inferInstanceAs (Decidable (∀ task ∈ s.tasks[i]?, s.InstallSafe task))
  | .cancel i => inferInstanceAs (Decidable (s.emitLock ≠ some i))
  | .call _ => inferInstanceAs (Decidable True)
  | .remote _ _ => inferInstanceAs (Decidable False)

variable (cfg : Config)

/-- The event is projected and published, or a task is about to do that. -/
def Covered (s : Runtime) (event : Event) : Prop :=
  (event ∈ s.applied ∧ s.toShared.Announced cfg event) ∨
    ∃ (i : Nat) (task : Task), s.tasks[i]? = some task ∧ task.pc.Carries event

/-- **Every event of the log is accounted for**: it was there when the kernel was
created, or it was stored by a task and is covered. -/
structure Accounted (log₀ : EventLog) (s : Runtime) : Prop where
  origin : ∀ event ∈ s.log.events, event ∈ log₀.events ∨ event ∈ s.own
  initial : ∀ event ∈ log₀.events, event ∈ s.log.events
  before : ∀ b, s.before = some b → ∀ event ∈ log₀.events, event ∈ b.events
  covered : ∀ event ∈ s.own, s.started = true ∧ s.Covered cfg event
  transaction : ∀ i, s.transaction = some i →
    ∃ (task : Task) (floor : Nat), s.tasks[i]? = some task ∧ task.pc = .inserting floor

variable {cfg} {log₀ : EventLog} {s : Runtime} {i : Nat} {task : Task}

/-- The store has one writer at a time: the transaction is that of the lock's holder. -/
theorem transaction_holder (h : Inv cfg s) (ha : Accounted cfg log₀ s) {j : Nat}
    (hj : s.transaction = some j) : s.emitLock = some j ∧ ∃ (task : Task) (floor : Nat),
      s.tasks[j]? = some task ∧ task.pc = .inserting floor := by
  obtain ⟨task, floor, ht, hpc⟩ := ha.transaction j hj
  exact ⟨(h.tasks j task ht).lock.mp (by rw [hpc]; trivial), task, floor, ht, hpc⟩

/-- The version is below the sequence of an event above the whole projection. -/
theorem version_lt (h : s.toShared.Projected cfg) {event : Event} (hpos : 0 < event.seq)
    (habove : ∀ other ∈ s.applied, other.seq < event.seq) :
    s.situation.version < event.seq := by
  obtain ⟨now, hlive⟩ := h.live
  rw [hlive]
  have htaken := fun other ho => h.taken other (h.known other ho)
  have hseq := fun other ho => s.log.sequenced other (h.known other ho)
  generalize s.applied = applied at habove htaken hseq
  rcases List.eq_nil_or_concat' applied with rfl | ⟨init, last, rfl⟩
  · exact hpos
  · have hinit : Replays cfg.project (.cleared now) init :=
      Config.replays_taken fun e he => htaken e (List.mem_append_left _ he)
    obtain ⟨hlast, hpos'⟩ := hseq last (by simp)
    rw [replay_snoc hinit, Config.project_version hlast hpos' (htaken last (by simp) _)]
    exact habove last (by simp)

/-- **Early returns are safe**: what is stored and not new is projected and announced. -/
theorem returnSafe_of_accounted (h : Inv cfg s) (ha : Accounted cfg log₀ s)
    (ht : s.tasks[i]? = some task) : s.ReturnSafe task := by
  unfold ReturnSafe
  split
  · rename_i stored own hpc
    have htask := h.tasks i task ht
    have hin : task.pc.Critical := by rw [hpc]; trivial
    have hlock := htask.lock.mp hin
    have hstarted := htask.past hin.pastStart
    have hrely := htask.rely
    simp only [Shared.Local, hpc] at hrely
    obtain ⟨hstored, habove⟩ := hrely
    have hknown : own = false → stored ∈ s.applied ∧
        (stored ∈ s.startHistory ∨ s.toShared.Announced cfg stored) := by
      intro hown
      rcases ha.origin stored hstored with hinitial | hstoredHere
      · obtain ⟨b, hb, hbegan⟩ := h.projected.began hstarted
        have hmem := hbegan stored (ha.before b hb stored hinitial)
        exact ⟨hmem.1, Or.inl hmem.2⟩
      · rcases (ha.covered stored hstoredHere).2 with ⟨happ, hann⟩ | ⟨j, other, hother, hcarries⟩
        · exact ⟨happ, Or.inr hann⟩
        · -- Only the holder of the lock carries an event, and this task has not stored it.
          have hj := (h.tasks j other hother).lock.mp hcarries.critical
          obtain rfl := Option.some.inj (hlock.symm.trans hj)
          obtain rfl := Option.some.inj (ht.symm.trans hother)
          rcases hcarries with he | ⟨_, _, he⟩ <;> rw [hpc] at he <;> cases he
          cases hown
    have hnew : own = true → classify s.situation.version s.startupSequence s.pendingBrokerEchoes
        task.request.distribute stored = .newHead := by
      intro hown
      have hlt := version_lt h.projected (s.log.sequenced stored hstored).2 (habove hown)
      rw [classify, if_neg (Nat.not_le_of_lt hlt)]
    have hseq : ∀ events : List Event, stored ∈ events → stored.seq ∈ events.map Event.seq :=
      fun events hmem => List.mem_map_of_mem hmem
    cases own with
    | true => rw [hnew rfl]; trivial
    | false =>
      obtain ⟨happ, hann⟩ := hknown rfl
      split
      · exact hseq _ happ
      · refine ⟨hseq _ happ, hann.imp (hseq _) ?_⟩
        rintro ⟨projected, hp, hn⟩
        refine List.mem_map.mpr ⟨projected, hp, ?_⟩
        rw [Event.seq, Event.seq, (cfg.schemas.normalize_preserves hn).2]
      · trivial
  · trivial

/-- **A step of one task keeps every event accounted for**: what it stores it carries,
and what it carried it still does or has projected and announced. -/
theorem Accounted.move {s' : Runtime} {pc : Pc} (ha : Accounted cfg log₀ s)
    (ht : s.tasks[i]? = some task) (hset : s'.tasks = s.tasks.set i { task with pc })
    (hext : s.toShared.Extends cfg s'.toShared)
    (hlog : ∀ event ∈ s'.log.events, event ∈ s.log.events ∨ event ∈ s'.own)
    (hmono : ∀ event ∈ s.own, event ∈ s'.own)
    (hown : ∀ event ∈ s'.own, event ∈ s.own ∨ s.started = true ∧ pc.Carries event)
    (hbefore : ∀ b, s'.before = some b → s.before = some b ∨ b = s.log)
    (hcarry : ∀ event, task.pc.Carries event →
      pc.Carries event ∨ event ∈ s'.applied ∧ s'.toShared.Announced cfg event)
    (htransaction : (s'.transaction = s.transaction ∧ ∀ floor, task.pc ≠ .inserting floor) ∨
      s'.transaction = none ∨ s'.transaction = some i ∧ ∃ floor, pc = .inserting floor) :
    Accounted cfg log₀ s' := by
  have hself : s'.tasks[i]? = some { task with pc } := hset ▸ get_set_self ht
  refine ⟨fun event he => ?_, fun event he => hext.log event (ha.initial event he),
    fun b hb event he => ?_, fun event he => ?_, fun j hj => ?_⟩
  · rcases hlog event he with hold | hnew
    · exact (ha.origin event hold).imp_right (hmono event)
    · exact Or.inr hnew
  · rcases hbefore b hb with hold | rfl
    · exact ha.before b hold event he
    · exact ha.initial event he
  · rcases hown event he with hold | ⟨hstarted, hcarries⟩
    · obtain ⟨hstarted, hcovered⟩ := ha.covered event hold
      refine ⟨hext.started hstarted, ?_⟩
      rcases hcovered with ⟨happ, hann⟩ | ⟨j, other, hother, hcarries⟩
      · exact Or.inl ⟨hext.applied hstarted event happ, hext.announced event hann⟩
      · by_cases hji : j = i
        · subst hji
          obtain rfl := Option.some.inj (ht.symm.trans hother)
          rcases hcarry event hcarries with hstill | hdone
          · exact Or.inr ⟨j, _, hself, hstill⟩
          · exact Or.inl hdone
        · exact Or.inr ⟨j, other, hset ▸ get_set_ne hji hother, hcarries⟩
    · exact ⟨hext.started hstarted, Or.inr ⟨i, _, hself, hcarries⟩⟩
  · rcases htransaction with ⟨hsame, hnot⟩ | hnone | ⟨hmine, floor, rfl⟩
    · obtain ⟨other, floor, hother, hpc⟩ := ha.transaction j (hsame ▸ hj)
      have hji : j ≠ i := by
        rintro rfl
        obtain rfl := Option.some.inj (ht.symm.trans hother)
        exact hnot floor hpc
      exact ⟨other, floor, hset ▸ get_set_ne hji hother, hpc⟩
    · rw [hnone] at hj
      cases hj
    · obtain rfl := Option.some.inj (hmine.symm.trans hj)
      exact ⟨_, floor, hself, rfl⟩

/-- A step that stores nothing and leaves the transactions alone. -/
theorem Accounted.quiet {s' : Runtime} {pc : Pc} (ha : Accounted cfg log₀ s)
    (ht : s.tasks[i]? = some task) (hext : s.toShared.Extends cfg s'.toShared)
    (hset : s'.tasks = s.tasks.set i { task with pc })
    (hsame : s'.log = s.log ∧ s'.own = s.own ∧ s'.transaction = s.transaction)
    (hbefore : ∀ b, s'.before = some b → s.before = some b ∨ b = s.log)
    (hnot : ∀ floor, task.pc ≠ .inserting floor)
    (hcarry : ∀ event, task.pc.Carries event →
      pc.Carries event ∨ event ∈ s'.applied ∧ s'.toShared.Announced cfg event) :
    Accounted cfg log₀ s' := by
  obtain ⟨hlog, hown, htransaction⟩ := hsame
  exact ha.move ht hset hext (fun event he => Or.inl (hlog ▸ he)) (fun event he => hown ▸ he)
    (fun event he => Or.inl (hown ▸ he)) hbefore hcarry (Or.inl ⟨htransaction, hnot⟩)

/-- Wherever the awaiter of an append goes on, it is a step of its task alone. -/
theorem resumeStored_shape (cfg : Config) (s : Runtime) (i : Nat) (task : Task) (stored : Event) :
    ∃ pc,
    (s.resumeStored cfg i task stored).tasks = s.tasks.set i { task with pc } ∧
    (s.resumeStored cfg i task stored).log = s.log ∧
    (s.resumeStored cfg i task stored).own = s.own ∧
    (s.resumeStored cfg i task stored).transaction = s.transaction ∧
    (s.resumeStored cfg i task stored).before = s.before := by
  unfold resumeStored
  split
  · exact ⟨_, rfl, rfl, rfl, rfl, rfl⟩
  · exact ⟨_, rfl, rfl, rfl, rfl, rfl⟩
  · exact ⟨_, rfl, rfl, rfl, rfl, rfl⟩
  · exact ⟨_, rfl, rfl, rfl, rfl, rfl⟩
  · split
    · exact ⟨_, rfl, rfl, rfl, rfl, rfl⟩
    · split <;> exact ⟨_, rfl, rfl, rfl, rfl, rfl⟩

theorem stored_accounted {stored : Event} {own : Bool} (h : Inv cfg s)
    (ha : Accounted cfg log₀ s) (ht : s.tasks[i]? = some task) (hpc : task.pc = .stored stored own)
    (hext : s.toShared.Extends cfg (s.resumeStored cfg i task stored).toShared) :
    Accounted cfg log₀ (s.resumeStored cfg i task stored) := by
  have hnot : ∀ floor, task.pc ≠ .inserting floor := by simp [hpc]
  have hrely := (h.tasks i task ht).rely
  simp only [Shared.Local, hpc] at hrely
  cases own with
  | false =>
    obtain ⟨pc, htasks, hlog, hown, htransaction, hbefore⟩ :=
      resumeStored_shape cfg s i task stored
    refine ha.quiet ht hext htasks ⟨hlog, hown, htransaction⟩ (fun b hb => Or.inl (hbefore ▸ hb))
      hnot fun event hcarries => ?_
    rcases hcarries with he | ⟨_, _, he⟩ <;> rw [hpc] at he <;> cases he
  | true =>
    -- The event was stored by this task, so it is a new head.
    have hlt := version_lt h.projected (s.log.sequenced stored hrely.1).2 (hrely.2 rfl)
    have hnew : classify s.situation.version s.startupSequence s.pendingBrokerEchoes
        task.request.distribute stored = .newHead := by
      rw [classify, if_neg (Nat.not_le_of_lt hlt)]
    obtain ⟨projected, hn, happly⟩ := Config.normalize_taken (h.projected.taken stored hrely.1)
    rcases happlied : cfg.apply s.situation projected with ⟨situation, failure⟩
    obtain rfl : failure = none := by simpa [happlied] using happly s.situation
    simp only [resumeStored, hnew, hn, happlied] at hext ⊢
    refine ha.quiet ht hext rfl ⟨rfl, rfl, rfl⟩ (fun _ hb => Or.inl hb) hnot fun event hcarries => ?_
    rcases hcarries with he | ⟨_, _, he⟩ <;> rw [hpc] at he <;> cases he
    exact Or.inl (Or.inr ⟨projected, task.request.distribute, rfl⟩)

theorem insert_accounted {floor : Nat} {insert : Except PyError Nat} {s' : Runtime}
    (h : Inv cfg s) (ha : Accounted cfg log₀ s) (ht : s.tasks[i]? = some task)
    (hpc : task.pc = .inserting floor)
    (hs : s.commitRow task floor insert (fun s answer =>
      match answer with
      | .ok (stored, own) => s.goto i task (.stored stored own)
      | .error error => s.leave i task (.raised error)) = some s')
    (hext : s.toShared.Extends cfg s'.toShared) : Accounted cfg log₀ s' := by
  have hstarted := (h.tasks i task ht).past (by rw [hpc]; trivial)
  have hnone : ∀ event, ¬ task.pc.Carries event := by simp [hpc, Pc.Carries]
  obtain ⟨event, hevent, hs⟩ := Option.bind_eq_some_iff.mp hs
  obtain ⟨⟨log', answer⟩, hrow, hs⟩ := Option.bind_eq_some_iff.mp hs
  cases hs
  cases insertRow_inserted hrow with
  | known hmem hid =>
    exact ha.move ht rfl hext (fun _ he => Or.inl he) (fun _ he => he) (fun _ he => Or.inl he)
      (fun _ hb => Or.inl hb) (fun event hc => absurd hc (hnone event)) (Or.inr (Or.inl rfl))
  | refused =>
    exact ha.move ht rfl hext (fun _ he => Or.inl he) (fun _ he => he) (fun _ he => Or.inl he)
      (fun _ hb => Or.inl hb) (fun event hc => absurd hc (hnone event)) (Or.inr (Or.inl rfl))
  | @added _ sequence habove hmem =>
    refine ha.move ht rfl hext (fun other ho => ?_) (fun _ he => List.mem_append_left _ he)
      (fun other ho => ?_) (fun _ hb => Or.inl hb) (fun event hc => absurd hc (hnone event)) (Or.inr (Or.inl rfl))
    · rcases (hmem other).mp ho with rfl | hold
      · exact Or.inr (List.mem_append_right _ (List.mem_singleton.mpr rfl))
      · exact Or.inl hold
    · rcases List.mem_append.mp ho with hold | hnew
      · exact Or.inl hold
      · rw [List.mem_singleton.mp hnew]
        exact Or.inr ⟨hstarted, Or.inl rfl⟩

theorem begin_accounted (ha : Accounted cfg log₀ s)
    (ht : s.tasks[i]? = some task) (hpc : task.pc = .storing)
    (hext : s.toShared.Extends cfg (s.begin i task).toShared) :
    Accounted cfg log₀ (s.begin i task) := by
  have hnot : ∀ floor, task.pc ≠ .inserting floor := by simp [hpc]
  have hnone : ∀ event, ¬ task.pc.Carries event := by simp [hpc, Pc.Carries]
  unfold Runtime.begin at hext ⊢
  split
  · rename_i hnegative
    rw [if_pos hnegative] at hext
    exact ha.quiet ht hext rfl ⟨rfl, rfl, rfl⟩ (fun _ hb => Or.inl hb) hnot
      fun event hc => absurd hc (hnone event)
  · rename_i hhead
    rw [if_neg hhead] at hext
    split
    · rename_i j hj
      simp only [hj] at hext
      exact ha.quiet ht hext rfl ⟨rfl, rfl, rfl⟩ (fun _ hb => Or.inl hb) hnot
        fun event hc => absurd hc (hnone event)
    · rename_i hfree
      simp only [hfree] at hext
      exact ha.move ht rfl hext (fun _ he => Or.inl he) (fun _ he => he) (fun _ he => Or.inl he)
        (fun _ hb => Or.inl hb) (fun event hc => absurd hc (hnone event)) (Or.inr (Or.inr ⟨rfl, _, rfl⟩))

theorem cancel_accounted {s' : Runtime} (h : Inv cfg s) (ha : Accounted cfg log₀ s)
    (ht : s.tasks[i]? = some task) (hfree : s.emitLock ≠ some i) (hs : s.cancel i task = some s')
    (hext : s.toShared.Extends cfg s'.toShared) : Accounted cfg log₀ s' := by
  have hout : ¬ task.pc.Critical := fun hin => hfree ((h.tasks i task ht).lock.mp hin)
  have hnot : ∀ floor, task.pc ≠ .inserting floor := fun floor hpc => hout (by rw [hpc]; trivial)
  unfold Runtime.cancel at hs
  split at hs
  case h_7 | h_8 | h_9 | h_10 | h_11 | h_12 => exact absurd (by simp [*, Pc.Critical]) hout
  case h_13 | h_14 | h_15 | h_16 | h_17 => cases hs
  all_goals
    cases hs
    exact ha.quiet ht hext rfl ⟨rfl, rfl, rfl⟩ (fun _ hb => Or.inl hb) hnot
      fun _ hcarries => absurd hcarries.critical hout

theorem step_accounted {s' : Runtime} {l : RuntimeLabel} (h : Inv cfg s)
    (ha : Accounted cfg log₀ s) (hspared : s.Spared l) (hs : s.step cfg l = some s')
    (hext : s.toShared.Extends cfg s'.toShared) : Accounted cfg log₀ s' := by
  cases l with
  | call request =>
    obtain rfl := Option.some.inj hs
    refine ⟨ha.origin, ha.initial, ha.before, fun event he => ?_, fun j hj => ?_⟩
    · obtain ⟨hstarted, hcovered⟩ := ha.covered event he
      refine ⟨hstarted, hcovered.imp_right ?_⟩
      rintro ⟨j, other, hother, hcarries⟩
      exact ⟨j, other, get_append_left hother, hcarries⟩
    · obtain ⟨other, floor, hother, hpc⟩ := ha.transaction j hj
      exact ⟨other, floor, get_append_left hother, hpc⟩
  | remote event sequence => exact hspared.elim
  | cancel i =>
    obtain ⟨task, ht, hs⟩ := Option.bind_eq_some_iff.mp hs
    exact cancel_accounted h ha ht hspared hs hext
  | resume i now insert =>
    obtain ⟨task, ht, hs⟩ := Option.bind_eq_some_iff.mp hs
    obtain ⟨request, pc⟩ := task
    have hrely := (h.tasks i _ ht).rely
    -- A task that carries nothing and has no transaction open only moves.
    have hquiet : ∀ pc', (∀ event, ¬ pc.Carries event) → (∀ floor, pc ≠ .inserting floor) →
        s'.tasks = s.tasks.set i ⟨request, pc'⟩ →
        s'.log = s.log ∧ s'.own = s.own ∧ s'.transaction = s.transaction →
        (∀ b, s'.before = some b → s.before = some b ∨ b = s.log) → Accounted cfg log₀ s' := by
      intro pc' hnone hnot hset hsame hbefore
      exact ha.quiet ht hext hset hsame hbefore hnot fun event hc => absurd hc (hnone event)
    cases pc with
    | called =>
      obtain rfl := Option.some.inj hs
      unfold Runtime.call at hquiet ⊢
      by_cases hstarted : s.started = true
      · simp only [hstarted, if_true] at hquiet ⊢
        exact hquiet _ (by simp [Pc.Carries]) (by simp) rfl ⟨rfl, rfl, rfl⟩ fun _ hb => Or.inl hb
      · simp only [hstarted] at hquiet ⊢
        refine hquiet _ (by simp [Pc.Carries]) (by simp) rfl ⟨rfl, rfl, rfl⟩ fun b hb => ?_
        cases hold : s.before with
        | none =>
          simp only [hold] at hb
          exact Or.inr (Option.some.inj hb).symm
        | some b' =>
          simp only [hold] at hb
          exact Or.inl hb
    | reading | heading =>
      obtain rfl := Option.some.inj hs
      exact hquiet _ (by simp [Pc.Carries]) (by simp) rfl ⟨rfl, rfl, rfl⟩ fun _ hb => Or.inl hb
    | installing history =>
      obtain rfl := Option.some.inj hs
      have hsub := hrely.1
      have htaken := fun event he => h.projected.taken event (hsub event he)
      simp only [install, Config.rebuild_taken htaken] at hquiet ⊢
      exact hquiet _ (by simp [Pc.Carries]) (by simp) rfl ⟨rfl, rfl, rfl⟩ fun _ hb => Or.inl hb
    | headed head =>
      obtain rfl := Option.some.inj hs
      exact hquiet _ (by simp [Pc.Carries]) (by simp) rfl ⟨rfl, rfl, rfl⟩ fun _ hb => Or.inl hb
    | waiting =>
      cases hlock : s.emitLock with
      | some j => simp [resume, hlock] at hs
      | none =>
        simp only [resume, hlock, Option.some.injEq] at hs
        subst hs
        exact hquiet _ (by simp [Pc.Carries]) (by simp) rfl ⟨rfl, rfl, rfl⟩ fun _ hb => Or.inl hb
    | storing =>
      obtain rfl := Option.some.inj hs
      exact begin_accounted ha ht rfl hext
    | inserting floor => exact insert_accounted h ha ht rfl hs hext
    | stored stored own =>
      obtain rfl := Option.some.inj hs
      exact stored_accounted h ha ht rfl hext
    | rereading stored =>
      obtain rfl := Option.some.inj hs
      exact hquiet _ (by simp [Pc.Carries]) (by simp) rfl ⟨rfl, rfl, rfl⟩ fun _ hb => Or.inl hb
    | reinstalling stored history =>
      obtain rfl := Option.some.inj hs
      obtain ⟨hstored, -, hsub⟩ := hrely
      obtain ⟨projected, hn, -⟩ := Config.normalize_taken (h.projected.taken stored (hsub _ hstored))
      have htaken := fun event he => h.projected.taken event (hsub event he)
      simp only [reinstall, Config.rebuild_taken htaken, hn] at hquiet ⊢
      exact hquiet _ (by simp [Pc.Carries]) (by simp) rfl ⟨rfl, rfl, rfl⟩ fun _ hb => Or.inl hb
    | publishing stored projected echo =>
      obtain rfl := Option.some.inj hs
      have hset : (s.finishPublish i ⟨request, .publishing stored projected echo⟩ stored projected
          echo).tasks = s.tasks.set i ⟨request, .returned (some stored)⟩ := rfl
      refine ha.quiet ht hext hset ⟨rfl, rfl, rfl⟩
        (fun _ hb => Or.inl hb) (by simp) fun event hcarries => Or.inr ?_
      obtain rfl : stored = event := by
        rcases hcarries with he | ⟨_, _, he⟩ <;> cases he
        rfl
      exact ⟨hrely.1, projected, List.mem_append_right _ (List.mem_singleton.mpr rfl), hrely.2⟩
    | returned stored | raised error | cancelled => cases hs
    | detached | detachedInserting floor => exact hrely.elim

theorem create_accounted (log₀ : EventLog) (now : Datetime) :
    Accounted cfg log₀ (create log₀ now) where
  origin := fun _ he => Or.inl he
  initial := fun _ he => he
  before := fun _ hb => by cases hb
  covered := fun _ he => by cases he
  transaction := fun _ hj => by cases hj

/-- **A spared run** keeps the projection right and every event accounted for. -/
theorem spared_inv {now : Datetime} {labels : List RuntimeLabel}
    (hrun : Run (step cfg) Spared (create log₀ now) labels s)
    (hlog : ∀ event ∈ log₀.events, cfg.Takes event) (hvalid : ∀ l ∈ labels, l.Valid cfg) :
    Inv cfg s ∧ Accounted cfg log₀ s := by
  refine (hrun.restrict hvalid).invariant (I := fun s => Inv cfg s ∧ Accounted cfg log₀ s)
    ⟨create_inv hlog now, create_accounted log₀ now⟩ ?_
  rintro s l s' ⟨hinv, hacc⟩ ⟨hspared, hlabel⟩ hs
  have hguarded : s.Guarded l := by
    cases l with
    | resume i _ _ =>
      exact fun task ht => ⟨hspared task ht, returnSafe_of_accounted hinv hacc ht⟩
    | cancel i => exact hspared
    | call _ | remote _ _ => trivial
  obtain ⟨hinv', hext⟩ := step_keeps hinv hguarded hlabel hs
  exact ⟨hinv', step_accounted hinv hacc hspared hs hext⟩

/-- No hole: a started kernel has the situation of its log and has published what was
stored here, if all calls and threads have ended; and no append meets an open transaction. -/
structure NoHole (cfg : Config) (s : Runtime) : Prop where
  live : (∀ task ∈ s.tasks, task.pc.Ended) → s.started = true →
    ∃ now, cfg.rebuild now s.log.events = (s.situation, none)
  published : (∀ task ∈ s.tasks, task.pc.Ended) →
    ∀ event ∈ s.own, s.toShared.Announced cfg event
  appends : ∀ task ∈ s.tasks, task.pc = .storing → s.transaction = none

/-- **Cancellations that spare the holder of the emit lock leave no hole.** -/
theorem spared_run_leaves_no_hole {now : Datetime} {labels : List RuntimeLabel}
    (hrun : Run (step cfg) Spared (create log₀ now) labels s)
    (hlog : ∀ event ∈ log₀.events, cfg.Takes event) (hvalid : ∀ l ∈ labels, l.Valid cfg) :
    s.NoHole cfg := by
  obtain ⟨hinv, hacc⟩ := spared_inv hrun hlog hvalid
  -- Once all tasks have ended, nothing is carried any more.
  have hdone : (∀ task ∈ s.tasks, task.pc.Ended) → ∀ event ∈ s.own,
      event ∈ s.applied ∧ s.toShared.Announced cfg event := by
    intro hended event he
    rcases (hacc.covered event he).2 with hdone | ⟨j, other, hother, hcarries⟩
    · exact hdone
    · have := hended other (List.mem_of_getElem? hother)
      rcases hcarries with hpc | ⟨_, _, hpc⟩ <;> rw [hpc] at this <;> exact this.elim
  refine ⟨fun hended hstarted => ?_, fun hended event he => (hdone hended event he).2,
    fun task htask hpc => ?_⟩
  · have hall : ∀ event, event ∈ s.applied ↔ event ∈ s.log.events := by
      refine fun event => ⟨hinv.projected.known event, fun hmem => ?_⟩
      rcases hacc.origin event hmem with hinitial | hown
      · obtain ⟨b, hb, hbegan⟩ := hinv.projected.began hstarted
        exact (hbegan event (hacc.before b hb event hinitial)).1
      · exact (hdone hended event hown).1
    exact hinv.projected.rebuild_eq hall
  · obtain ⟨i, hi⟩ := List.getElem?_of_mem htask
    have hlock := (hinv.tasks i task hi).lock.mp (by rw [hpc]; trivial)
    cases htransaction : s.transaction with
    | none => rfl
    | some j =>
      obtain ⟨hholder, other, floor, hother, hinserting⟩ :=
        transaction_holder hinv hacc htransaction
      obtain rfl := Option.some.inj (hlock.symm.trans hholder)
      obtain rfl := Option.some.inj (hi.symm.trans hother)
      rw [hpc] at hinserting
      cases hinserting

/-- Two commits, and between them one that is cancelled while it waits for the lock. -/
def waitingCancelled : List RuntimeLabel :=
  [.call .start] ++ resumes 0 5 (.ok 0) ++
  [.call (.emit (named "a")), .call (.emit (named "b")), .call (.emit (named "c"))] ++
    resumes 1 2 (.ok 1) ++ resumes 2 1 (.ok 0) ++ [.cancel 2] ++ resumes 1 4 (.ok 1) ++
    resumes 3 6 (.ok 2)

theorem waitingCancelled_leaves_no_hole : ∃ s,
    Run (step plainConfig) Spared (create .empty (.utc 0)) waitingCancelled s ∧
      s.log.events.length = 2 ∧ s.NoHole plainConfig := by
  have hexec : (exec (step plainConfig) Spared (create .empty (.utc 0)) waitingCancelled).any
      (fun s => s.log.events.length = 2) = true := by decide
  obtain ⟨s, hs, hlength⟩ := (Option.any_eq_true _ _).mp hexec
  refine ⟨s, Run.of_exec hs, of_decide_eq_true hlength,
    spared_run_leaves_no_hole (Run.of_exec hs) (fun _ he => by cases he) ?_⟩
  have hcancel : (RuntimeLabel.cancel 2).Valid plainConfig := trivial
  simp only [waitingCancelled, List.forall_mem_append, List.forall_mem_cons, List.not_mem_nil,
    false_implies, implies_true, resumes_valid, start_valid, emit_valid, hcancel, and_self]

/-- The capability timeout cancels a commit while its thread is in the transaction;
another commit comes before the thread is done. -/
def appendCancelled : List RuntimeLabel :=
  [.call .start] ++ resumes 0 5 (.ok 0) ++ [.call (.emit (named "a"))] ++ resumes 1 3 (.ok 0) ++
  [.cancel 1, .call (.emit (named "b"))] ++ resumes 2 3 (.ok 0) ++ resumes 1 1 (.ok 1)

/-- The first event is in the log, not in the situation and not published; the second
commit failed on the open transaction. -/
theorem cancelled_append_leaves_hole : ∃ s,
    Run (step plainConfig) Free (create .empty (.utc 0)) appendCancelled s ∧
      (∀ l ∈ appendCancelled, l.Valid plainConfig) ∧ (∀ task ∈ s.tasks, task.pc.Ended) ∧
      ¬ s.NoHole plainConfig := by
  have hexec : (exec (step plainConfig) Free (create .empty (.utc 0)) appendCancelled).any
      (fun s => (∀ task ∈ s.tasks, task.pc.Ended) ∧ s.started ∧
        s.own.length = 1 ∧ s.published.length = 0) = true := by decide
  obtain ⟨s, hs, hfacts⟩ := (Option.any_eq_true _ _).mp hexec
  obtain ⟨hended, -, hown, hpublished⟩ := of_decide_eq_true hfacts
  have hcancel : (RuntimeLabel.cancel 1).Valid plainConfig := trivial
  refine ⟨s, Run.of_exec hs, ?_, hended, fun hnohole => ?_⟩
  · simp only [appendCancelled, List.forall_mem_append, List.forall_mem_cons, List.not_mem_nil,
      false_implies, implies_true, resumes_valid, start_valid, emit_valid, hcancel, and_self]
  · obtain ⟨event, hevent⟩ := List.length_eq_one_iff.mp hown
    obtain ⟨projected, hp, -⟩ := hnohole.published hended event (by simp [hevent])
    rw [List.length_eq_zero_iff.mp hpublished] at hp
    cases hp

end Runtime
end Noema
