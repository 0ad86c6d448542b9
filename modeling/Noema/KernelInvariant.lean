import Mathlib.Data.List.Induction
import Noema.KernelRuntime
import Noema.Lib.TaskPool

/-!
# The projection invariant of the concurrent kernel

Whatever the interleaving of starts, commits and other runtimes' appends, the
situation is the replay of the events the kernel has projected, in the order of
their sequences (`Projected`), as long as two steps are taken with care: a start
does not install its history into a started kernel that is in a commit or has
projected more than that (`InstallSafe`), and a commit takes one of its early
returns only for an event that is projected (`ReturnSafe`).  Neither is checked by
the code.  A cancellation must not reach a task that holds the emit lock.

Each step lemma also says that nothing is undone (`Extends`).
-/
namespace Noema
open Machine Replay Kernel TaskPool

/-- The event is projected without an exception, whatever the situation. -/
def Config.Takes (cfg : Config) (event : Event) : Prop := ∀ s, (cfg.project s event).2 = none

/-- The events that the label brings in are valid, whichever sequence they get. -/
def RuntimeLabel.Valid (cfg : Config) : RuntimeLabel → Prop
  | .call request => ∀ event ∈ request.event, ∀ sequence, cfg.Takes (event.withSequence sequence)
  | .remote event _ => ∀ sequence, cfg.Takes (event.withSequence sequence)
  | .resume _ _ _ | .cancel _ => True

namespace Pc

/-- The awaits inside `async with self._emit_lock`. -/
def Critical : Pc → Prop
  | .storing | .inserting _ | .stored _ _ | .rereading _ | .reinstalling _ _
  | .publishing _ _ _ => True
  | _ => False

/-- The awaits that only a started kernel reaches. -/
def PastStart : Pc → Prop
  | .waiting | .returned (some _) => True
  | pc => pc.Critical

theorem Critical.pastStart {pc : Pc} (h : pc.Critical) : pc.PastStart := by
  cases pc <;> first | exact h | cases h

end Pc

namespace Runtime

variable (cfg : Config)

/-- If the task is about to install its history, the kernel is not started yet, or no
commit is under way and the history has every projected event. -/
def InstallSafe (s : Runtime) (task : Task) : Prop :=
  match task.pc with
  | .installing history => s.started = false ∨
      s.emitLock = none ∧ ∀ event ∈ s.applied, event.seq ∈ history.events.map Event.seq
  | _ => True

/-- If the task is about to take an early return, its event is projected; an
ingested one has also been announced, by the start-up history or on the bus. -/
def ReturnSafe (s : Runtime) (task : Task) : Prop :=
  match task.pc with
  | .stored stored _ =>
    match classify s.situation.version s.startupSequence s.pendingBrokerEchoes
        task.request.distribute stored with
    | .reEmission => stored.seq ∈ s.applied.map Event.seq
    | .startupHistory => stored.seq ∈ s.applied.map Event.seq ∧
        (stored.seq ∈ s.startHistory.map Event.seq ∨ stored.seq ∈ s.published.map Event.seq)
    | _ => True
  | _ => True

instance (s : Runtime) (task : Task) : Decidable (s.InstallSafe task) := by
  unfold InstallSafe
  split <;> infer_instance

instance (s : Runtime) (task : Task) : Decidable (s.ReturnSafe task) := by
  unfold ReturnSafe
  split
  · split <;> infer_instance
  · infer_instance

/-- The steps taken with care. -/
def Guarded (s : Runtime) : RuntimeLabel → Prop
  | .resume i _ _ => ∀ task ∈ s.tasks[i]?, s.InstallSafe task ∧ s.ReturnSafe task
  | .cancel i => s.emitLock ≠ some i
  | .call _ | .remote _ _ => True

instance (s : Runtime) (l : RuntimeLabel) : Decidable (s.Guarded l) := by
  cases l <;> unfold Guarded <;> infer_instance

end Runtime

/-! ## The invariant -/

namespace Shared

/-- The projection has the events `b` of the log, from a start-up rebuild. -/
def Began (v : Shared) (b : EventLog) : Prop :=
  ∀ event ∈ b.events, event ∈ v.applied ∧ event ∈ v.startHistory

/-- The normalized event went to the bus. -/
def Announced (cfg : Config) (v : Shared) (event : Event) : Prop :=
  ∃ projected ∈ v.published, cfg.schemas.normalize event = .ok projected

/-- **The situation is the replay of the projected events in their order.** -/
structure Projected (cfg : Config) (v : Shared) : Prop where
  taken : ∀ event ∈ v.log.events, cfg.Takes event
  ordered : v.applied.Pairwise fun a b => a.seq < b.seq
  known : ∀ event ∈ v.applied, event ∈ v.log.events
  live : ∃ now, v.situation = (replay cfg.project (.cleared now) v.applied).1
  history : ∀ event ∈ v.startHistory, event ∈ v.log.events
  announced : ∀ projected ∈ v.published, ∃ event ∈ v.log.events,
    cfg.schemas.normalize event = .ok projected
  echoes : ∀ id ∈ v.pendingBrokerEchoes, v.started = true ∧
    ∃ event ∈ v.applied, event.id = id ∧ v.Announced cfg event
  beforeKnown : ∀ b, v.before = some b → ∀ event ∈ b.events, event ∈ v.log.events
  remote : ∀ event ∈ v.remote, event ∈ v.log.events
  began : v.started = true → ∃ b, v.before = some b ∧ v.Began b

/-- What no step undoes. -/
structure Extends (cfg : Config) (v v' : Shared) : Prop where
  log : ∀ event ∈ v.log.events, event ∈ v'.log.events
  history : ∀ event ∈ v.startHistory, event ∈ v'.startHistory
  announced : ∀ event, v.Announced cfg event → v'.Announced cfg event
  started : v.started = true → v'.started = true
  applied : v.started = true → ∀ event ∈ v.applied, event ∈ v'.applied
  before : ∀ b, v.before = some b → v'.before = some b
  began : ∀ b, v.before = some b → v.Began b → v'.Began b

theorem Extends.refl (cfg : Config) (v : Shared) : v.Extends cfg v :=
  ⟨fun _ h => h, fun _ h => h, fun _ h => h, id, fun _ _ h => h, fun _ h => h, fun _ _ h => h⟩

/-- What a task may rely on at the await it has reached. -/
def Local (cfg : Config) (v : Shared) (task : Task) : Prop :=
  match task.pc with
  | .reading => ∃ b, v.before = some b
  | .installing history => (∀ event ∈ history.events, event ∈ v.log.events) ∧
      ∃ b, v.before = some b ∧ ∀ event ∈ b.events, event ∈ history.events
  | .heading | .headed _ => ∃ b, v.before = some b ∧ v.Began b
  | .inserting floor => ∀ event ∈ v.applied, event.seq ≤ floor
  | .stored stored own => stored ∈ v.log.events ∧
      (own = true → ∀ event ∈ v.applied, event.seq < stored.seq)
  | .rereading stored => stored ∈ v.log.events
  | .reinstalling stored history => stored ∈ history.events ∧
      (∀ event ∈ v.applied, event ∈ history.events) ∧
      ∀ event ∈ history.events, event ∈ v.log.events
  | .publishing stored projected _ => stored ∈ v.applied ∧
      cfg.schemas.normalize stored = .ok projected
  | .returned (some stored) => stored ∈ v.applied ∧
      (task.request.distribute = false → stored ∈ v.startHistory ∨ v.Announced cfg stored)
  | .detached | .detachedInserting _ => False
  | _ => True

/-- A task does not notice a step of another one, unless it is inside the lock and
the projection changes. -/
theorem Local.mono {cfg : Config} {v v' : Shared} {task : Task} (h : v.Local cfg task)
    (hext : v.Extends cfg v') (hcritical : task.pc.Critical → v'.applied = v.applied)
    (hpast : task.pc.PastStart → v.started = true) : v'.Local cfg task := by
  obtain ⟨request, pc⟩ := task
  cases pc with
  | reading =>
    obtain ⟨b, hb⟩ := h
    exact ⟨b, hext.before b hb⟩
  | installing history =>
    obtain ⟨hlog, b, hb, hsub⟩ := h
    exact ⟨fun event he => hext.log event (hlog event he), b, hext.before b hb, hsub⟩
  | heading | headed head =>
    obtain ⟨b, hb, hbegan⟩ := h
    exact ⟨b, hext.before b hb, hext.began b hb hbegan⟩
  | inserting floor =>
    have happ : v'.applied = v.applied := hcritical trivial
    intro event he
    exact h event (happ ▸ he)
  | stored stored own =>
    have happ : v'.applied = v.applied := hcritical trivial
    refine ⟨hext.log _ h.1, fun hown event he => h.2 hown event (happ ▸ he)⟩
  | rereading stored => exact hext.log _ h
  | reinstalling stored history =>
    have happ : v'.applied = v.applied := hcritical trivial
    exact ⟨h.1, fun event he => h.2.1 event (happ ▸ he), fun event he => hext.log _ (h.2.2 event he)⟩
  | publishing stored projected echo =>
    have happ : v'.applied = v.applied := hcritical trivial
    exact ⟨happ ▸ h.1, h.2⟩
  | returned stored =>
    cases stored with
    | none => trivial
    | some stored =>
      refine ⟨hext.applied (hpast trivial) _ h.1, fun hingest => ?_⟩
      exact (h.2 hingest).imp (hext.history _) (hext.announced _)
  | detached | detachedInserting floor => exact h
  | called | waiting | storing | raised error | cancelled => trivial

end Shared

/-! ## Replaying events that are taken -/

namespace Config

variable {cfg : Config}

theorem replays_taken {s : Situation} {events : List Event}
    (h : ∀ event ∈ events, cfg.Takes event) : Replays cfg.project s events := by
  induction events using List.reverseRecOn with
  | nil => rfl
  | append_singleton events event ih =>
    have hinit := ih fun e he => h e (List.mem_append_left _ he)
    exact (replays_snoc hinit).mpr (h event (by simp) _)

theorem rebuild_taken {history : EventLog} (h : ∀ event ∈ history.events, cfg.Takes event)
    (now : Datetime) : cfg.rebuild now history.events =
      ((replay cfg.project (.cleared now) history.events).1, none) :=
  Prod.ext rfl (replays_taken h)

theorem normalize_taken {event : Event} (h : cfg.Takes event) :
    ∃ projected, cfg.schemas.normalize event = .ok projected ∧
      ∀ s, (cfg.apply s projected).2 = none := by
  cases hn : cfg.schemas.normalize event with
  | error e =>
    have := h (.cleared (.utc 0))
    simp [project, hn] at this
  | ok projected =>
    refine ⟨projected, rfl, fun s => ?_⟩
    have := h s
    rwa [project, hn] at this

/-- The version is at least the sequence of every replayed event. -/
theorem seq_le_version {now : Datetime} {events : List Event}
    (htaken : ∀ event ∈ events, cfg.Takes event)
    (hordered : events.Pairwise fun a b => a.seq < b.seq)
    (hseq : ∀ event ∈ events, event.sequence = some event.seq ∧ 0 < event.seq) :
    ∀ event ∈ events, event.seq ≤ (replay cfg.project (.cleared now) events).1.version := by
  rcases List.eq_nil_or_concat' events with rfl | ⟨init, last, rfl⟩
  · simp
  · have hinit : Replays cfg.project (.cleared now) init :=
      replays_taken fun e he => htaken e (List.mem_append_left _ he)
    obtain ⟨hlast, hpos⟩ := hseq last (by simp)
    rw [replay_snoc hinit, project_version hlast hpos (htaken last (by simp) _)]
    intro event he
    rcases List.mem_append.mp he with he | he
    · exact Nat.le_of_lt ((List.pairwise_append.mp hordered).2.2 event he last (by simp))
    · rw [List.mem_singleton.mp he]

end Config

/-- A projection with all events of the log is the rebuild of the log. -/
theorem Shared.Projected.rebuild_eq {cfg : Config} {v : Shared} (h : v.Projected cfg)
    (hall : ∀ event, event ∈ v.applied ↔ event ∈ v.log.events) :
    ∃ now, cfg.rebuild now v.log.events = (v.situation, none) := by
  obtain ⟨now, hlive⟩ := h.live
  have heq : v.applied = v.log.events := congrArg OrderedLog.entries
    (OrderedLog.ext_mem (l := ⟨v.applied, h.ordered⟩) (m := v.log.log) hall)
  refine ⟨now, ?_⟩
  rw [Config.rebuild_taken h.taken, hlive, heq]

namespace Runtime

variable (cfg : Config)

/-- What holds of a task and of the lock it may hold. -/
structure TaskInv (s : Runtime) (i : Nat) (task : Task) : Prop where
  valid : ∀ event ∈ task.request.event, ∀ sequence, cfg.Takes (event.withSequence sequence)
  lock : task.pc.Critical ↔ s.emitLock = some i
  past : task.pc.PastStart → s.started = true
  rely : s.toShared.Local cfg task

structure Inv (s : Runtime) : Prop where
  projected : s.toShared.Projected cfg
  held : ∀ i, s.emitLock = some i → i < s.tasks.length
  tasks : All (TaskInv cfg s) s.tasks

variable {cfg}

/-- The step to `s'` keeps the invariant and undoes nothing. -/
def Keeps (cfg : Config) (s s' : Runtime) : Prop :=
  Inv cfg s' ∧ s.toShared.Extends cfg s'.toShared

/-- **A step of one task keeps the invariant** if it keeps the projection right, undoes
nothing, changes the projection only inside the lock or before the kernel is started,
and leaves the lock of the others alone. -/
theorem Inv.move {s s' : Runtime} {i : Nat} {task : Task} {pc : Pc} (h : Inv cfg s)
    (ht : s.tasks[i]? = some task) (hset : s'.tasks = s.tasks.set i { task with pc })
    (hprojected : s'.toShared.Projected cfg) (hext : s.toShared.Extends cfg s'.toShared)
    (hquiet : ∀ j, j ≠ i → s.emitLock = some j → s'.applied = s.applied ∨ s.started = false)
    (hlock : ∀ j, j ≠ i → (s'.emitLock = some j ↔ s.emitLock = some j))
    (hcritical : pc.Critical ↔ s'.emitLock = some i)
    (hpast : pc.PastStart → s'.started = true)
    (hrely : s'.toShared.Local cfg { task with pc }) : Keeps cfg s s' := by
  refine ⟨⟨hprojected, ?_, ?_⟩, hext⟩
  · intro j hj
    rw [hset, List.length_set]
    by_cases hji : j = i
    · exact hji ▸ (List.getElem?_eq_some_iff.mp ht).1
    · exact h.held j ((hlock j hji).mp hj)
  · rw [hset]
    refine h.tasks.set ⟨(h.tasks i task ht).valid, hcritical, hpast, hrely⟩ ?_
    intro j other hji _ hother
    refine ⟨hother.valid, hother.lock.trans (hlock j hji).symm,
      fun hp => hext.started (hother.past hp), hother.rely.mono hext ?_ hother.past⟩
    intro hc
    rcases hquiet j hji (hother.lock.mp hc) with happ | hstart
    · exact happ
    · have := hother.past (Pc.Critical.pastStart hc)
      rw [hstart] at this
      cases this

/-! ## The steps -/

section Steps

variable {s : Runtime} {i : Nat} {task : Task}

/-- The holder of the lock steps alone. -/
theorem onlyHolder {P : Prop} (hlock : s.emitLock = some i) :
    ∀ j, j ≠ i → s.emitLock = some j → P := by
  intro j hj hother
  exact absurd (Option.some.inj (hother.symm.trans hlock)) hj

/-- A step that only moves the task, outside the lock or staying inside. -/
theorem Inv.goto {pc : Pc} (h : Inv cfg s) (ht : s.tasks[i]? = some task)
    (hcritical : pc.Critical ↔ task.pc.Critical) (hpast : pc.PastStart → s.started = true)
    (hrely : s.toShared.Local cfg { task with pc }) : Keeps cfg s (s.goto i task pc) :=
  h.move ht rfl h.projected (.refl cfg _) (fun _ _ _ => Or.inl rfl) (fun _ _ => Iff.rfl)
    (hcritical.trans (h.tasks i task ht).lock) hpast hrely

/-- A step that leaves the lock, by a return or an exception. -/
theorem Inv.leave {pc : Pc} (h : Inv cfg s) (ht : s.tasks[i]? = some task)
    (hin : task.pc.Critical) (hout : ¬ pc.Critical) (hrely : s.toShared.Local cfg { task with pc }) :
    Keeps cfg s (s.leave i task pc) := by
  have hlock := (h.tasks i task ht).lock.mp hin
  have hstarted := (h.tasks i task ht).past hin.pastStart
  refine h.move ht rfl h.projected (.refl cfg _) (fun _ _ _ => Or.inl rfl) (fun j hj => ?_)
    (iff_of_false hout (by simp [Runtime.leave])) (fun _ => hstarted) hrely
  simp only [Runtime.leave, hlock, Option.some.injEq]
  exact iff_of_false (by simp) (fun he => hj he.symm)

theorem call_keeps (h : Inv cfg s) (ht : s.tasks[i]? = some task) (hpc : task.pc = .called) :
    Keeps cfg s (s.call i task) := by
  have hout : ¬ task.pc.Critical := by rw [hpc]; exact id
  unfold Runtime.call
  by_cases hstarted : s.started = true
  · rw [if_pos hstarted]
    cases task.request <;>
      exact h.goto ht (iff_of_false id hout) (fun _ => hstarted) trivial
  · rw [if_neg hstarted]
    have hbefore : ∃ b, s.before.or (some s.log) = some b ∧
        ∀ event ∈ b.events, event ∈ s.log.events := by
      cases hb : s.before with
      | none => exact ⟨s.log, rfl, fun _ he => he⟩
      | some b => exact ⟨b, rfl, h.projected.beforeKnown b hb⟩
    obtain ⟨b, hb, hknown⟩ := hbefore
    have hold : ∀ b', s.before = some b' → s.before.or (some s.log) = some b' := by
      intro b' hb'
      rw [hb']
      rfl
    refine h.move ht rfl ?_ ?_ (fun _ _ _ => Or.inl rfl) (fun _ _ => Iff.rfl)
      ((iff_of_false id hout).trans (h.tasks i task ht).lock) (fun hp => ?_) ⟨b, hb⟩
    · refine { h.projected with
        beforeKnown := fun b' hb' => ?_
        began := fun hs => absurd hs hstarted }
      obtain rfl : b = b' := Option.some.inj (hb.symm.trans hb')
      exact hknown
    · exact { Shared.Extends.refl cfg s.toShared with before := hold }
    · cases hp

/-- A stored event whose sequence is listed is itself listed. -/
theorem mem_of_seq {events : List Event} {stored : Event}
    (hknown : ∀ event ∈ events, event ∈ s.log.events) (hstored : stored ∈ s.log.events)
    (h : stored.seq ∈ events.map Event.seq) : stored ∈ events := by
  obtain ⟨event, he, hseq⟩ := List.mem_map.mp h
  rwa [← EventLog.eq_of_seq (hknown event he) hstored hseq]

theorem install_keeps {history : EventLog} {now : Datetime} (h : Inv cfg s)
    (ht : s.tasks[i]? = some task) (hpc : task.pc = .installing history)
    (hsafe : s.InstallSafe task) : Keeps cfg s (s.install cfg i task history now) := by
  have hout : ¬ task.pc.Critical := by rw [hpc]; exact id
  have hrely := (h.tasks i task ht).rely
  simp only [Shared.Local, hpc] at hrely
  obtain ⟨hknown, b, hb, hsub⟩ := hrely
  have htaken := fun event he => h.projected.taken event (hknown event he)
  simp only [install, Config.rebuild_taken htaken]
  simp only [InstallSafe, hpc] at hsafe
  have hbegan : ∀ event ∈ b.events, event ∈ history.events ∧
      event ∈ s.startHistory ++ history.events :=
    fun event he => ⟨hsub event he, List.mem_append_right _ (hsub event he)⟩
  have hmono : s.started = true → ∀ event ∈ s.applied, event ∈ history.events := by
    intro hstarted event he
    rcases hsafe with hnot | ⟨-, hall⟩
    · exact absurd (hstarted.symm.trans hnot) (by simp)
    · exact mem_of_seq hknown (h.projected.known event he) (hall event he)
  have hquiet : ∀ j, j ≠ i → s.emitLock = some j → history.events = s.applied ∨
      s.started = false := by
    intro j _ hlock
    rcases hsafe with hnot | ⟨hfree, -⟩
    · exact Or.inr hnot
    · exact absurd (hfree.symm.trans hlock) (by simp)
  refine h.move ht rfl ?_ ?_ hquiet (fun _ _ => Iff.rfl)
    ((iff_of_false id hout).trans (h.tasks i task ht).lock) (fun hp => by cases hp) ⟨b, hb, hbegan⟩
  · exact {
      taken := h.projected.taken
      ordered := history.log.ordered
      known := hknown
      live := ⟨now, rfl⟩
      history := fun event he => (List.mem_append.mp he).elim (h.projected.history event)
        (hknown event)
      announced := h.projected.announced
      echoes := fun id hid => by
        obtain ⟨hs, event, he, hsame, hann⟩ := h.projected.echoes id hid
        exact ⟨hs, event, hmono hs event he, hsame, hann⟩
      beforeKnown := h.projected.beforeKnown
      remote := h.projected.remote
      began := fun _ => ⟨b, hb, hbegan⟩ }
  · refine {
      log := fun _ he => he
      history := fun _ he => List.mem_append_left _ he
      announced := fun _ ha => ha
      started := id
      applied := hmono
      before := fun _ hb => hb
      began := fun b' hb' _ => ?_ }
    obtain rfl : b = b' := Option.some.inj (hb.symm.trans hb')
    exact hbegan

theorem finishStart_keeps {head : Nat} (h : Inv cfg s) (ht : s.tasks[i]? = some task)
    (hpc : task.pc = .headed head) : Keeps cfg s (s.finishStart i task head) := by
  have hout : ¬ task.pc.Critical := by rw [hpc]; exact id
  have hrely := (h.tasks i task ht).rely
  simp only [Shared.Local, hpc] at hrely
  have hnext : ∀ pc, ¬ pc.Critical → Shared.Local cfg { s.toShared with started := true }
      { task with pc } → Keeps cfg s { s.goto i task pc with startupSequence := head, started := true } := by
    intro pc hpc' hlocal
    refine h.move ht rfl ?_ ?_ (fun _ _ _ => Or.inl rfl) (fun _ _ => Iff.rfl)
      ((iff_of_false hpc' hout).trans (h.tasks i task ht).lock) (fun _ => rfl) hlocal
    · exact { h.projected with
        began := fun _ => hrely
        echoes := fun id hid => ⟨rfl, (h.projected.echoes id hid).2⟩ }
    · exact { Shared.Extends.refl cfg s.toShared with
        started := fun _ => rfl
        began := fun _ _ hb => hb }
  unfold finishStart
  cases task.request <;> exact hnext _ id trivial

theorem lock_keeps (h : Inv cfg s) (ht : s.tasks[i]? = some task) (hpc : task.pc = .waiting)
    (hfree : s.emitLock = none) :
    Keeps cfg s { s.goto i task .storing with emitLock := some i } := by
  have hpast : s.started = true := (h.tasks i task ht).past (by rw [hpc]; trivial)
  refine h.move ht rfl h.projected (.refl cfg _) (fun _ _ _ => Or.inl rfl) (fun j hj => ?_)
    (iff_of_true trivial rfl) (fun _ => hpast) trivial
  simp only [hfree, Option.some.injEq]
  exact iff_of_false (fun he => hj he.symm) (by simp)

theorem begin_keeps (h : Inv cfg s) (ht : s.tasks[i]? = some task) (hpc : task.pc = .storing) :
    Keeps cfg s (s.begin i task) := by
  have hin : task.pc.Critical := by rw [hpc]; trivial
  have hpast := (h.tasks i task ht).past hin.pastStart
  unfold Runtime.begin
  split
  · exact h.leave ht hin id trivial
  · split
    · exact h.leave ht hin id trivial
    · refine h.move ht rfl h.projected (.refl cfg _) (fun _ _ _ => Or.inl rfl) (fun _ _ => Iff.rfl)
        ((iff_of_true trivial hin).trans (h.tasks i task ht).lock) (fun _ => hpast) ?_
      exact fun event he => EventLog.seq_le_latest (h.projected.known event he)

/-- The commit of an append: the event was there, or it is refused, or it is new
and ranks above the floor. -/
inductive Inserted (log : EventLog) (event : Event) (floor : Nat) :
    EventLog → Except PyError (Event × Bool) → Prop
  | known {existing} (h : existing ∈ log.events) (hid : existing.id = event.id) :
      Inserted log event floor log (.ok (existing, false))
  | refused {error} : Inserted log event floor log (.error error)
  | added {log' sequence} (habove : floor < sequence)
      (hmem : ∀ other, other ∈ log'.events ↔
        other = event.withSequence sequence ∨ other ∈ log.events) :
      Inserted log event floor log' (.ok (event.withSequence sequence, true))

theorem insertRow_inserted {log log' : EventLog} {event : Event} {expected : Option Int}
    {floor : Nat} {insert : Except PyError Nat} {answer : Except PyError (Event × Bool)}
    (h : insertRow log event expected floor insert = some (log', answer)) :
    Inserted log event floor log' answer := by
  have hstore : ∀ hid : log.byId event.id = none,
      insertRow.storeRow log event floor hid insert = some (log', answer) →
        Inserted log event floor log' answer := by
    intro hid hs
    cases insert with
    | error e =>
      cases hs
      exact .refused
    | ok sequence =>
      simp only [insertRow.storeRow] at hs
      split_ifs at hs with hfree
      cases hs
      exact .added hfree.1 fun other => EventLog.mem_insert hid _ hfree.2
  unfold insertRow at h
  split at h
  · rename_i existing hid
    cases h
    obtain ⟨hmem, hsame⟩ := EventLog.id_of_byId hid
    exact .known hmem hsame
  · rename_i hid
    split at h
    · split_ifs at h
      · cases h
        exact .refused
      · exact hstore hid h
    · exact hstore hid h

/-- The log grew by a valid event. -/
theorem grow {log' : EventLog} {event : Event} (remote own : List Event)
    (h : s.toShared.Projected cfg) (htaken : cfg.Takes event)
    (hmem : ∀ other, other ∈ log'.events ↔ other = event ∨ other ∈ s.log.events)
    (hremote : ∀ other ∈ remote, other = event ∨ other ∈ s.remote) :
    ({ s.toShared with log := log', remote, own } : Shared).Projected cfg ∧
      s.toShared.Extends cfg { s.toShared with log := log', remote, own } := by
  have hmono : ∀ other ∈ s.log.events, other ∈ log'.events :=
    fun other ho => (hmem other).mpr (Or.inr ho)
  refine ⟨{ h with
    taken := fun other ho => ?_
    known := fun other ho => hmono _ (h.known other ho)
    history := fun other ho => hmono _ (h.history other ho)
    announced := fun projected hp => ?_
    beforeKnown := fun b hb other ho => hmono _ (h.beforeKnown b hb other ho)
    remote := fun other ho => (hmem other).mpr ((hremote other ho).imp_right (h.remote other)) },
    { Shared.Extends.refl cfg s.toShared with
      log := hmono
      announced := fun _ ha => ha
      began := fun _ _ hb => hb }⟩
  · rcases (hmem other).mp ho with rfl | ho
    · exact htaken
    · exact h.taken other ho
  · obtain ⟨other, ho, hn⟩ := h.announced projected hp
    exact ⟨other, hmono _ ho, hn⟩

theorem insert_keeps {floor : Nat} {insert : Except PyError Nat} {s' : Runtime} (h : Inv cfg s)
    (ht : s.tasks[i]? = some task) (hpc : task.pc = .inserting floor)
    (hs : s.commitRow task floor insert (fun s answer =>
      match answer with
      | .ok (stored, own) => s.goto i task (.stored stored own)
      | .error error => s.leave i task (.raised error)) = some s') : Keeps cfg s s' := by
  have hin : task.pc.Critical := by rw [hpc]; trivial
  have htask := h.tasks i task ht
  have hpast := htask.past hin.pastStart
  have hrely := htask.rely
  simp only [Shared.Local, hpc] at hrely
  obtain ⟨event, hevent, hs⟩ := Option.bind_eq_some_iff.mp hs
  obtain ⟨⟨log', answer⟩, hrow, hs⟩ := Option.bind_eq_some_iff.mp hs
  cases hs
  cases insertRow_inserted hrow with
  | known hmem hid =>
    exact h.move ht rfl h.projected (.refl cfg _) (fun _ _ _ => Or.inl rfl) (fun _ _ => Iff.rfl)
      ((iff_of_true trivial hin).trans htask.lock) (fun _ => hpast)
      ⟨hmem, fun hown => by cases hown⟩
  | refused =>
    refine h.move ht rfl h.projected (.refl cfg _) (fun _ _ _ => Or.inl rfl) (fun j hj => ?_)
      (iff_of_false id (by simp [Runtime.leave])) (fun _ => hpast) trivial
    simp only [Runtime.leave, htask.lock.mp hin, Option.some.injEq]
    exact iff_of_false (by simp) (fun he => hj he.symm)
  | @added _ sequence habove hmem =>
    obtain ⟨hprojected, hext⟩ := grow s.remote
      (s.own ++ [event.withSequence sequence]) h.projected (htask.valid event hevent sequence) hmem
      (fun _ ho => Or.inr ho)
    refine h.move ht rfl hprojected hext (fun _ _ _ => Or.inl rfl) (fun _ _ => Iff.rfl)
      ((iff_of_true trivial hin).trans htask.lock) (fun _ => hpast)
      ⟨(hmem _).mpr (Or.inl rfl), fun _ other ho => ?_⟩
    exact Nat.lt_of_le_of_lt (hrely other ho) habove

theorem remote_keeps {event : Event} {sequence : Nat} {s' : Runtime} (h : Inv cfg s)
    (hvalid : cfg.Takes (event.withSequence sequence))
    (hs : s.remoteAppend event sequence = some s') : Keeps cfg s s' := by
  unfold remoteAppend at hs
  split at hs
  · cases hs
  · rename_i hid
    split_ifs at hs with hfree
    cases hs
    obtain ⟨hprojected, hext⟩ := grow (s.remote ++ [event.withSequence sequence]) s.own
      h.projected hvalid (fun other => EventLog.mem_insert hid hfree.1 hfree.2)
      (fun other ho => by simpa [or_comm] using ho)
    refine ⟨⟨hprojected, h.held, h.tasks.imp fun j other _ hother => ?_⟩, hext⟩
    exact ⟨hother.valid, hother.lock, hother.past,
      hother.rely.mono hext (fun _ => rfl) hother.past⟩

theorem newCall_keeps {request : Request} (h : Inv cfg s)
    (hvalid : ∀ event ∈ request.event, ∀ sequence, cfg.Takes (event.withSequence sequence)) :
    Keeps cfg s { s with tasks := s.tasks ++ [⟨request, .called⟩] } := by
  refine ⟨⟨h.projected, fun j hj => ?_, h.tasks.append ⟨hvalid, ?_, fun hp => ?_, trivial⟩
    fun j other _ hother => ⟨hother.valid, hother.lock, hother.past, hother.rely⟩⟩, .refl cfg _⟩
  · rw [List.length_append]
    exact Nat.lt_of_lt_of_le (h.held j hj) (Nat.le_add_right _ _)
  · exact iff_of_false id fun hlock => absurd (h.held _ hlock) (Nat.lt_irrefl _)
  · cases hp

/-- The events in the projection are at most at its version. -/
theorem seq_le_version (h : s.toShared.Projected cfg) :
    ∀ event ∈ s.applied, event.seq ≤ s.situation.version := by
  obtain ⟨now, hlive⟩ := h.live
  rw [hlive]
  exact Config.seq_le_version (fun event he => h.taken event (h.known event he)) h.ordered
    fun event he => s.log.sequenced event (h.known event he)

theorem announced_of_seq (h : s.toShared.Projected cfg) {stored : Event}
    (hstored : stored ∈ s.log.events) (hseq : stored.seq ∈ s.published.map Event.seq) :
    s.toShared.Announced cfg stored := by
  obtain ⟨projected, hp, hsame⟩ := List.mem_map.mp hseq
  obtain ⟨event, he, hn⟩ := h.announced projected hp
  have hkeeps := (cfg.schemas.normalize_preserves hn).2
  have heq : event.seq = stored.seq := by
    rw [← hsame, Event.seq, Event.seq, hkeeps]
  obtain rfl := EventLog.eq_of_seq he hstored heq
  exact ⟨projected, hp, hn⟩

theorem announced_mono {projected : Event} {event : Event} (h : s.toShared.Announced cfg event) :
    ∃ p ∈ s.published ++ [projected], cfg.schemas.normalize event = .ok p := by
  obtain ⟨p, hp, hn⟩ := h
  exact ⟨p, List.mem_append_left _ hp, hn⟩

theorem stored_keeps {stored : Event} {own : Bool} (h : Inv cfg s) (ht : s.tasks[i]? = some task)
    (hpc : task.pc = .stored stored own) (hsafe : s.ReturnSafe task) :
    Keeps cfg s (s.resumeStored cfg i task stored) := by
  have hin : task.pc.Critical := by rw [hpc]; trivial
  have htask := h.tasks i task ht
  have hpast := htask.past hin.pastStart
  have hrely := htask.rely
  simp only [Shared.Local, hpc] at hrely
  obtain ⟨hstored, -⟩ := hrely
  simp only [ReturnSafe, hpc] at hsafe
  simp only [resumeStored]
  cases hbranch : classify s.situation.version s.startupSequence s.pendingBrokerEchoes
      task.request.distribute stored with
  | reEmission =>
    simp only [hbranch] at hsafe ⊢
    refine h.leave ht hin id ⟨mem_of_seq h.projected.known hstored hsafe, fun hingest => ?_⟩
    -- An early return of an emit is none of an ingest.
    have hemit : task.request.distribute = true := by
      unfold classify at hbranch
      split_ifs at hbranch with _ hdistribute
      exact hdistribute
    exact absurd (hemit.symm.trans hingest) (by simp)
  | startupHistory =>
    simp only [hbranch] at hsafe ⊢
    refine h.leave ht hin id ⟨mem_of_seq h.projected.known hstored hsafe.1, fun _ => ?_⟩
    exact hsafe.2.imp (mem_of_seq h.projected.history hstored)
      (announced_of_seq h.projected hstored)
  | brokerEcho =>
    simp only
    have hecho : stored.id ∈ s.pendingBrokerEchoes := by
      unfold classify at hbranch
      split_ifs at hbranch with _ _ hmem
      exact hmem
    obtain ⟨-, event, happ, hid, hann⟩ := h.projected.echoes _ hecho
    obtain rfl := EventLog.eq_of_id (h.projected.known event happ) hstored hid
    refine h.move ht rfl ?_ ?_ (fun _ _ _ => Or.inl rfl) (fun j hj => ?_)
      (iff_of_false id (by simp [Runtime.leave])) (fun _ => hpast) ⟨happ, fun _ => Or.inr hann⟩
    · exact { h.projected with
        echoes := fun id hmem => h.projected.echoes id (List.mem_of_mem_filter hmem) }
    · exact { Shared.Extends.refl cfg s.toShared with began := fun _ _ hb => hb }
    · simp only [Runtime.leave, htask.lock.mp hin, Option.some.injEq]
      exact iff_of_false (by simp) (fun he => hj he.symm)
  | lateArrival =>
    exact h.goto ht (iff_of_true trivial hin) (fun _ => hpast) hstored
  | newHead =>
    obtain ⟨projected, hn, happly⟩ := Config.normalize_taken (h.projected.taken stored hstored)
    have hversion : s.situation.version < stored.seq := by
      unfold classify at hbranch
      split_ifs at hbranch with hle
      exact Nat.lt_of_not_le hle
    simp only [hn]
    rcases ha : cfg.apply s.situation projected with ⟨situation, failure⟩
    obtain rfl : failure = none := by simpa [ha] using happly s.situation
    simp only
    have hordered : (s.applied ++ [stored]).Pairwise fun a b => a.seq < b.seq := by
      refine List.pairwise_append.mpr ⟨h.projected.ordered, List.pairwise_singleton _ _, ?_⟩
      intro event he other ho
      rw [List.mem_singleton.mp ho]
      exact Nat.lt_of_le_of_lt (seq_le_version h.projected event he) hversion
    have hmono : ∀ event ∈ s.applied, event ∈ s.applied ++ [stored] :=
      fun event he => List.mem_append_left _ he
    refine h.move ht rfl ?_ ?_ (onlyHolder (htask.lock.mp hin)) (fun _ _ => Iff.rfl)
      ((iff_of_true trivial hin).trans htask.lock) (fun _ => hpast) ⟨by simp, hn⟩
    · obtain ⟨now, hlive⟩ := h.projected.live
      refine { h.projected with
        ordered := hordered
        known := fun event he => ?_
        live := ⟨now, ?_⟩
        echoes := fun id hid => ?_
        began := fun hs => ?_ }
      · rcases List.mem_append.mp he with he | he
        · exact h.projected.known event he
        · rw [List.mem_singleton.mp he]
          exact hstored
      · rw [replay_snoc (Config.replays_taken fun event he =>
          h.projected.taken event (h.projected.known event he)), ← hlive, Config.project, hn]
        exact (congrArg Prod.fst ha).symm
      · obtain ⟨hs, event, he, hsame, hann⟩ := h.projected.echoes id hid
        exact ⟨hs, event, hmono event he, hsame, hann⟩
      · obtain ⟨b, hb, hbegan⟩ := h.projected.began hs
        exact ⟨b, hb, fun event he => ⟨hmono event (hbegan event he).1, (hbegan event he).2⟩⟩
    · exact { Shared.Extends.refl cfg s.toShared with
        applied := fun _ => hmono
        began := fun b _ hbegan event he =>
          ⟨hmono event (hbegan event he).1, (hbegan event he).2⟩ }

theorem reinstall_keeps {stored : Event} {history : EventLog} {now : Datetime} (h : Inv cfg s)
    (ht : s.tasks[i]? = some task) (hpc : task.pc = .reinstalling stored history) :
    Keeps cfg s (s.reinstall cfg i task stored history now) := by
  have hin : task.pc.Critical := by rw [hpc]; trivial
  have htask := h.tasks i task ht
  have hpast := htask.past hin.pastStart
  have hrely := htask.rely
  simp only [Shared.Local, hpc] at hrely
  obtain ⟨hstored, hmono, hknown⟩ := hrely
  obtain ⟨projected, hn, -⟩ := Config.normalize_taken (h.projected.taken stored (hknown _ hstored))
  simp only [reinstall, Config.rebuild_taken fun event he =>
    h.projected.taken event (hknown event he), hn]
  refine h.move ht rfl ?_ ?_ (onlyHolder (htask.lock.mp hin)) (fun _ _ => Iff.rfl)
    ((iff_of_true trivial hin).trans htask.lock) (fun _ => hpast) ⟨hstored, hn⟩
  · refine { h.projected with
      ordered := history.log.ordered
      known := hknown
      live := ⟨now, rfl⟩
      echoes := fun id hid => ?_
      began := fun hs => ?_ }
    · obtain ⟨hs, event, he, hsame, hann⟩ := h.projected.echoes id hid
      exact ⟨hs, event, hmono event he, hsame, hann⟩
    · obtain ⟨b, hb, hbegan⟩ := h.projected.began hs
      exact ⟨b, hb, fun event he => ⟨hmono event (hbegan event he).1, (hbegan event he).2⟩⟩
  · exact { Shared.Extends.refl cfg s.toShared with
      applied := fun _ => hmono
      began := fun b _ hbegan event he => ⟨hmono event (hbegan event he).1, (hbegan event he).2⟩ }

theorem publish_keeps {stored projected : Event} {echo : Bool} (h : Inv cfg s)
    (ht : s.tasks[i]? = some task) (hpc : task.pc = .publishing stored projected echo) :
    Keeps cfg s (s.finishPublish i task stored projected echo) := by
  have hin : task.pc.Critical := by rw [hpc]; trivial
  have htask := h.tasks i task ht
  have hpast := htask.past hin.pastStart
  have hrely := htask.rely
  simp only [Shared.Local, hpc] at hrely
  obtain ⟨happ, hn⟩ := hrely
  have hself : ∃ p ∈ s.published ++ [projected], cfg.schemas.normalize stored = .ok p :=
    ⟨projected, by simp, hn⟩
  refine h.move ht rfl ?_ ?_ (fun _ _ _ => Or.inl rfl) (fun j hj => ?_)
    (iff_of_false id (by simp [finishPublish, Runtime.leave])) (fun _ => hpast)
    ⟨happ, fun _ => Or.inr hself⟩
  · refine { h.projected with
      announced := fun p hp => ?_
      echoes := fun id hid => ⟨hpast, ?_⟩ }
    · rcases List.mem_append.mp hp with hp | hp
      · exact h.projected.announced p hp
      · rw [List.mem_singleton.mp hp]
        exact ⟨stored, h.projected.known _ happ, hn⟩
    · have hold : id ∈ s.pendingBrokerEchoes → ∃ event ∈ s.applied, event.id = id ∧
          ∃ p ∈ s.published ++ [projected], cfg.schemas.normalize event = .ok p := by
        intro hmem
        obtain ⟨-, event, he, hsame, hann⟩ := h.projected.echoes id hmem
        exact ⟨event, he, hsame, announced_mono hann⟩
      simp only [finishPublish] at hid
      split at hid
      · rcases List.mem_cons.mp hid with rfl | hid
        · exact ⟨stored, happ, rfl, hself⟩
        · exact hold hid
      · exact hold hid
  · exact { Shared.Extends.refl cfg s.toShared with
      announced := fun _ hann => announced_mono hann
      began := fun _ _ hb => hb }
  · simp only [finishPublish, Runtime.leave, htask.lock.mp hin, Option.some.injEq]
    exact iff_of_false (by simp) (fun he => hj he.symm)

theorem cancel_keeps {s' : Runtime} (h : Inv cfg s) (ht : s.tasks[i]? = some task)
    (hfree : s.emitLock ≠ some i) (hs : s.cancel i task = some s') : Keeps cfg s s' := by
  have hout : ¬ task.pc.Critical := fun hin => hfree ((h.tasks i task ht).lock.mp hin)
  unfold Runtime.cancel at hs
  split at hs
  case h_7 | h_8 | h_9 | h_10 | h_11 | h_12 => exact absurd (by simp [*, Pc.Critical]) hout
  case h_13 | h_14 | h_15 | h_16 | h_17 => cases hs
  all_goals
    cases hs
    exact h.goto ht (iff_of_false id hout) (fun hp => by cases hp) trivial

end Steps

/-- **One step.** -/
theorem step_keeps {s s' : Runtime} {l : RuntimeLabel} (h : Inv cfg s) (hguarded : s.Guarded l)
    (hvalid : l.Valid cfg) (hs : s.step cfg l = some s') : Keeps cfg s s' := by
  cases l with
  | call request =>
    obtain rfl := Option.some.inj hs
    exact newCall_keeps h hvalid
  | remote event sequence => exact remote_keeps h (hvalid sequence) hs
  | cancel i =>
    obtain ⟨task, ht, hs⟩ := Option.bind_eq_some_iff.mp hs
    exact cancel_keeps h ht hguarded hs
  | resume i now insert =>
    obtain ⟨task, ht, hs⟩ := Option.bind_eq_some_iff.mp hs
    obtain ⟨hinstall, hreturn⟩ : s.InstallSafe task ∧ s.ReturnSafe task := hguarded task ht
    have hrely := (h.tasks i task ht).rely
    obtain ⟨request, pc⟩ := task
    cases pc with
    | called =>
      obtain rfl := Option.some.inj hs
      exact call_keeps h ht rfl
    | reading =>
      obtain rfl := Option.some.inj hs
      obtain ⟨b, hb⟩ := hrely
      exact h.goto ht Iff.rfl (fun hp => by cases hp)
        ⟨fun _ he => he, b, hb, h.projected.beforeKnown b hb⟩
    | installing history =>
      obtain rfl := Option.some.inj hs
      exact install_keeps h ht rfl hinstall
    | heading =>
      obtain rfl := Option.some.inj hs
      exact h.goto ht Iff.rfl (fun hp => by cases hp) hrely
    | headed head =>
      obtain rfl := Option.some.inj hs
      exact finishStart_keeps h ht rfl
    | waiting =>
      cases hlock : s.emitLock with
      | some j => simp [resume, hlock] at hs
      | none =>
        simp only [resume, hlock, Option.some.injEq] at hs
        subst hs
        exact lock_keeps h ht rfl hlock
    | storing =>
      obtain rfl := Option.some.inj hs
      exact begin_keeps h ht rfl
    | inserting floor => exact insert_keeps h ht rfl hs
    | stored stored own =>
      obtain rfl := Option.some.inj hs
      exact stored_keeps h ht rfl hreturn
    | rereading stored =>
      obtain rfl := Option.some.inj hs
      exact h.goto ht Iff.rfl (fun _ => (h.tasks i _ ht).past trivial)
        ⟨hrely, h.projected.known, fun _ he => he⟩
    | reinstalling stored history =>
      obtain rfl := Option.some.inj hs
      exact reinstall_keeps h ht rfl
    | publishing stored projected echo =>
      obtain rfl := Option.some.inj hs
      exact publish_keeps h ht rfl
    | returned stored | raised error | cancelled => cases hs
    | detached | detachedInserting floor => exact hrely.elim

theorem create_inv {log : EventLog} (h : ∀ event ∈ log.events, cfg.Takes event) (now : Datetime) :
    Inv cfg (create log now) where
  projected := {
    taken := h
    ordered := .nil
    known := fun _ he => by cases he
    live := ⟨now, rfl⟩
    history := fun _ he => by cases he
    announced := fun _ he => by cases he
    echoes := fun _ he => by cases he
    beforeKnown := fun _ hb => by cases hb
    remote := fun _ he => by cases he
    began := fun hs => by cases hs }
  held := fun _ hj => by cases hj
  tasks := fun _ _ ht => by cases ht

/-- **A guarded run.** -/
theorem run_inv {log : EventLog} {now : Datetime} {labels : List RuntimeLabel} {s : Runtime}
    (h : Run (step cfg) Guarded (create log now) labels s)
    (hlog : ∀ event ∈ log.events, cfg.Takes event) (hvalid : ∀ l ∈ labels, l.Valid cfg) :
    Inv cfg s :=
  (h.restrict hvalid).invariant (create_inv hlog now)
    fun _ _ _ hinv hok hs => (step_keeps hinv hok.1 hok.2 hs).1

/-! ## Labels of concrete runs -/

/-- Let task `i` run through `n` awaits. -/
def resumes (i n : Nat) (insert : Except PyError Nat) : List RuntimeLabel :=
  List.replicate n (.resume i (.utc 9) insert)

theorem resumes_valid (cfg : Config) (i n : Nat) (insert : Except PyError Nat) :
    (∀ l ∈ resumes i n insert, l.Valid cfg) ↔ True := by
  refine iff_true_intro fun l hl => ?_
  rw [List.eq_of_mem_replicate hl]
  trivial

/-- The fact that `name` is so. -/
def named (name : String) : Event := factEvent name [("key", .str name)]

theorem start_valid (cfg : Config) : (RuntimeLabel.call .start).Valid cfg := fun _ he => by cases he

theorem named_taken (name : String) (sequence : Nat) :
    plainConfig.Takes ((named name).withSequence sequence) := fun _ => rfl

theorem remote_valid (name : String) (sequence : Nat) :
    (RuntimeLabel.remote (named name) sequence).Valid plainConfig := named_taken name

theorem ingest_valid (name : String) :
    (RuntimeLabel.call (.ingest (named name))).Valid plainConfig :=
  fun _ he => Option.some.inj he ▸ named_taken name

theorem emit_valid (name : String) :
    (RuntimeLabel.call (.emit (named name))).Valid plainConfig :=
  fun _ he => Option.some.inj he ▸ named_taken name

end Runtime
end Noema
