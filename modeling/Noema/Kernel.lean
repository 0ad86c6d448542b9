import Noema.EventStore
import Noema.Lib.Machine
import Noema.Situation

/-!
# The kernel, one call after another

`NoemaKernel._commit` appends an event to the store, normalizes it, projects it
into the situation and publishes it, in this order and without a way back.  This
module runs the calls of one kernel in sequence; the store may outlive the kernel,
so a later kernel can be created over it.

An event that the log keeps is one that `start(replay=True)` has to project again.
If every event that a call adds is one that the projection takes, the situation is
the rebuild of the log after every call (`Consistent`), calls that raise leave the
log alone, and a later start succeeds (`guarded_run`).  The first event that is
not, breaks all three at once.
-/
namespace Noema
open Machine

/-- The five ways a commit goes on after the append. -/
inductive CommitBranch
  | reEmission
  | brokerEcho
  | startupHistory
  | lateArrival
  | newHead
deriving DecidableEq, Repr

/-- How `_commit` decides: by the sequence against the projected version, the
pending broker echoes and the head read at start. -/
def classify (version startupSequence : Nat) (pendingBrokerEchoes : List String)
    (distribute : Bool) (stored : Event) : CommitBranch :=
  if stored.seq ≤ version then
    if distribute then .reEmission
    else if stored.id ∈ pendingBrokerEchoes then .brokerEcho
    else if stored.seq ≤ startupSequence then .startupHistory
    else .lateArrival
  else .newHead

/-- A kernel and the log of its store; `published` lists what went to the bus. -/
structure Kernel where
  log : EventLog
  situation : Situation
  startupSequence : Nat
  pendingBrokerEchoes : List String
  started : Bool
  stopped : Bool
  published : List Event

/-- The public operations.  `now` is the clock reading a rebuild makes, `answer`
what the store does with the append, and `create` makes a new kernel over the
same store. -/
inductive KernelCall
  | create (now : Datetime)
  | start (now : Datetime)
  | emit (event : Event) (answer : StoreAnswer) (now : Datetime)
  | emitIfHead (event : Event) (expectedHeadSequence : Int) (answer : StoreAnswer) (now : Datetime)
  | ingest (event : Event) (answer : StoreAnswer) (now : Datetime)
  | stop

namespace Kernel

variable (cfg : Config)

/-- A kernel that was just created over a store. -/
def create (log : EventLog) (now : Datetime) : Kernel :=
  { log, situation := .cleared now, startupSequence := 0, pendingBrokerEchoes := [],
    started := false, stopped := false, published := [] }

/-- `_rebuild_situation`. -/
def rebuildSituation (k : Kernel) (now : Datetime) : Kernel × Option PyError :=
  let rebuilt := cfg.rebuild now k.log.events
  ({ k with situation := rebuilt.1 }, rebuilt.2)

/-- `start(replay=True)`. -/
def start (k : Kernel) (now : Datetime) : Kernel × Option PyError :=
  if k.stopped then (k, some (.runtimeError "kernel has already been stopped"))
  else if k.started then (k, none)
  else
    match k.rebuildSituation cfg now with
    | (k, some error) => (k, some error)
    | (k, none) => ({ k with startupSequence := k.log.latestSequence, started := true }, none)

/-- Normalize and publish, as the end of the late branch does. -/
def normalizePublish (k : Kernel) (stored : Event) : Kernel × Except PyError Event :=
  match cfg.schemas.normalize stored with
  | .error error => (k, .error error)
  | .ok projected => ({ k with published := k.published ++ [projected] }, .ok stored)

/-- Normalize, project and publish: the way of a new event. -/
def projectPublish (k : Kernel) (distribute : Bool) (stored : Event) :
    Kernel × Except PyError Event :=
  match cfg.schemas.normalize stored with
  | .error error => (k, .error error)
  | .ok projected =>
    match cfg.apply k.situation projected with
    | (situation, some error) => ({ k with situation }, .error error)
    | (situation, none) =>
      ({ k with
          situation
          published := k.published ++ [projected]
          pendingBrokerEchoes :=
            if distribute then stored.id :: k.pendingBrokerEchoes else k.pendingBrokerEchoes },
        .ok stored)

/-- `_commit` after the append. -/
def finishCommit (k : Kernel) (distribute : Bool) (stored : Event) (now : Datetime) :
    Kernel × Except PyError Event :=
  match classify k.situation.version k.startupSequence k.pendingBrokerEchoes distribute stored with
  | .reEmission | .startupHistory => (k, .ok stored)
  | .brokerEcho =>
    ({ k with pendingBrokerEchoes := k.pendingBrokerEchoes.filter fun id => id ≠ stored.id },
      .ok stored)
  | .lateArrival =>
    match k.rebuildSituation cfg now with
    | (k, some error) => (k, .error error)
    | (k, none) => k.normalizePublish cfg stored
  | .newHead => k.projectPublish cfg distribute stored

/-- The append a commit makes. -/
def storeEvent (log : EventLog) (event : Event) (expectedHeadSequence : Option Int)
    (answer : StoreAnswer) : EventLog × Except PyError Event :=
  match expectedHeadSequence with
  | none => log.append event answer
  | some expected => log.appendIfHead event expected answer

/-- `_commit`. -/
def commit (k : Kernel) (event : Event) (distribute : Bool) (expectedHeadSequence : Option Int)
    (answer : StoreAnswer) (now : Datetime) : Kernel × Except PyError Event :=
  match k.start cfg now with
  | (k, some error) => (k, .error error)
  | (k, none) =>
    match storeEvent k.log event expectedHeadSequence answer with
    | (log, .error error) => ({ k with log }, .error error)
    | (log, .ok stored) => finishCommit cfg { k with log } distribute stored now

/-- The exception of a commit, if it raised. -/
def raised : Except PyError Event → Option PyError
  | .ok _ => none
  | .error error => some error

/-- One call, and the exception it raises if it does. -/
def perform (k : Kernel) : KernelCall → Kernel × Option PyError
  | .create now => (create k.log now, none)
  | .start now => k.start cfg now
  | .emit event answer now =>
    let committed := k.commit cfg event true none answer now
    (committed.1, raised committed.2)
  | .emitIfHead event expected answer now =>
    let committed := k.commit cfg event true (some expected) answer now
    (committed.1, raised committed.2)
  | .ingest event answer now =>
    let committed := k.commit cfg event false none answer now
    (committed.1, raised committed.2)
  | .stop => ({ k with stopped := true, started := false }, none)

/-! ## What a call adds to the log -/

/-- The event an append adds to the log, if it adds one. -/
def addsEvent (log : EventLog) (event : Event) (expectedHeadSequence : Option Int)
    (answer : StoreAnswer) : Option Event :=
  match log.byId event.id, (storeEvent log event expectedHeadSequence answer).2 with
  | none, .ok stored => some stored
  | _, _ => none

/-- The event a call adds to the log, if it adds one. -/
def adds (k : Kernel) : KernelCall → Option Event
  | .emit event answer _ | .ingest event answer _ =>
    if k.stopped then none else addsEvent k.log event none answer
  | .emitIfHead event expected answer _ =>
    if k.stopped then none else addsEvent k.log event (some expected) answer
  | .create _ | .start _ | .stop => none

/-- The event that the call adds, if any, normalizes, and the built-in handler and
the registered projectors take it in the situation the log stands for. -/
def Accepts (k : Kernel) (call : KernelCall) : Prop :=
  ∀ stored, k.adds call = some stored →
    ∀ now, (cfg.project (cfg.rebuild now k.log.events).1 stored).2 = none

/-- If the call raises, the log is as before. -/
def Atomic (k : Kernel) (call : KernelCall) : Prop :=
  (k.perform cfg call).2 ≠ none → (k.perform cfg call).1.log.events = k.log.events

/-- The log can be replayed, and the live situation is its rebuild. -/
structure Consistent (k : Kernel) : Prop where
  /-- A later `start(replay=True)` over the store succeeds. -/
  restarts : ∀ now now', ((create k.log now).start cfg now').2 = none
  live : k.started = true → ∃ now, k.situation = (cfg.rebuild now k.log.events).1

variable {cfg}

theorem start_create (log : EventLog) (now now' : Datetime) :
    ((create log now).start cfg now').2 = (cfg.rebuild now' log.events).2 := by
  show (match (create log now).rebuildSituation cfg now' with
    | (k, some error) => (k, some error)
    | (k, none) => ({ k with startupSequence := k.log.latestSequence, started := true },
        (none : Option PyError))).2 = _
  split <;> simp_all [rebuildSituation, create]

theorem Consistent.rebuilds {k : Kernel} (h : Consistent cfg k) : cfg.Rebuilds k.log.events :=
  fun now => (start_create k.log now now).symm.trans (h.restarts now now)

theorem Consistent.mk' {k : Kernel} (hlog : cfg.Rebuilds k.log.events)
    (live : k.started = true → ∃ now, k.situation = (cfg.rebuild now k.log.events).1) :
    Consistent cfg k :=
  ⟨fun now now' => (start_create k.log now now').trans (hlog now'), live⟩

/-- The rebuilt version is the head of the log. -/
theorem rebuild_version {log : EventLog} (h : cfg.Rebuilds log.events) (now : Datetime) :
    (cfg.rebuild now log.events).1.version = log.latestSequence := by
  rcases List.eq_nil_or_concat' log.events with hnil | ⟨init, last, hsnoc⟩
  · simp only [Config.rebuild, hnil, EventLog.latestSequence, OrderedLog.latest,
      show log.log.entries = [] from hnil]
    rfl
  · have hmem : last ∈ log.events := by simp [hsnoc]
    obtain ⟨hseq, hpos⟩ := log.sequenced last hmem
    have hinit : Replay.Replays cfg.project (.cleared now) init :=
      Replay.replays_of_append (hsnoc ▸ h now)
    have hlast := h now
    rw [Config.rebuild, hsnoc, Replay.replay_snoc hinit] at hlast ⊢
    rw [Config.project_version hseq hpos hlast, EventLog.latestSequence, OrderedLog.latest,
      show log.log.entries = init ++ [last] from hsnoc, List.getLast?_concat]
    rfl

/-- A stored event of a log that rebuilds is one that normalizes. -/
theorem normalize_of_rebuilds {history : List Event} (h : cfg.Rebuilds history) {stored : Event}
    (hmem : stored ∈ history) : ∃ projected, cfg.schemas.normalize stored = .ok projected := by
  obtain ⟨before, after, rfl⟩ := List.append_of_mem hmem
  have hthere : cfg.Rebuilds (before ++ [stored]) := by
    intro now
    have hall : Replay.Replays cfg.project (.cleared now) ((before ++ [stored]) ++ after) := by
      rw [List.append_assoc]
      exact h now
    exact Replay.replays_of_append hall
  have hproject := hthere (.utc 0)
  rw [Config.rebuild,
    Replay.replay_snoc (Replay.replays_of_append (hthere (.utc 0)))] at hproject
  unfold Config.project at hproject
  cases hn : cfg.schemas.normalize stored with
  | error e => simp [hn] at hproject
  | ok projected => exact ⟨projected, rfl⟩

/-- A start in a consistent state, unless the kernel was stopped. -/
theorem Consistent.start {k : Kernel} (h : Consistent cfg k) (hstopped : k.stopped = false)
    (now : Datetime) :
    (k.start cfg now).2 = none ∧ (k.start cfg now).1.log = k.log ∧
      (k.start cfg now).1.started = true ∧
      ∃ now', (k.start cfg now).1.situation = (cfg.rebuild now' k.log.events).1 := by
  unfold Kernel.start
  rw [if_neg (by simp [hstopped])]
  by_cases hstarted : k.started = true
  · rw [if_pos hstarted]
    exact ⟨rfl, rfl, hstarted, h.live hstarted⟩
  · rw [if_neg hstarted]
    simp only [rebuildSituation, h.rebuilds now]
    exact ⟨trivial, trivial, trivial, now, rfl⟩

/-- A known event: nothing is stored again, and no branch raises. -/
theorem finishCommit_known {k : Kernel} (hlog : cfg.Rebuilds k.log.events)
    (hlive : ∃ now, k.situation = (cfg.rebuild now k.log.events).1) {stored : Event}
    (hmem : stored ∈ k.log.events) (distribute : Bool) (now : Datetime) :
    raised (finishCommit cfg k distribute stored now).2 = none ∧
      (finishCommit cfg k distribute stored now).1.log = k.log ∧
      ∃ now', (finishCommit cfg k distribute stored now).1.situation =
        (cfg.rebuild now' k.log.events).1 := by
  unfold finishCommit
  split
  · exact ⟨rfl, rfl, hlive⟩
  · exact ⟨rfl, rfl, hlive⟩
  · exact ⟨rfl, rfl, hlive⟩
  · obtain ⟨projected, hn⟩ := normalize_of_rebuilds hlog hmem
    simp only [rebuildSituation, hlog now, normalizePublish, hn]
    exact ⟨rfl, trivial, now, rfl⟩
  · -- The version is the head of the log, so a known event is never a new head.
    rename_i hnew
    exfalso
    obtain ⟨now', hsituation⟩ := hlive
    have hle := EventLog.seq_le_latest hmem
    rw [← rebuild_version hlog now', ← hsituation] at hle
    rw [classify, if_pos hle] at hnew
    split_ifs at hnew

variable (cfg) in
/-- A new event is normalized, projected and published. -/
theorem finishCommit_added {k : Kernel} {stored : Event}
    (hnew : k.situation.version < stored.seq) (distribute : Bool) (now : Datetime) :
    raised (finishCommit cfg k distribute stored now).2 = (cfg.project k.situation stored).2 ∧
      (finishCommit cfg k distribute stored now).1.log = k.log ∧
      ((cfg.project k.situation stored).2 = none →
        (finishCommit cfg k distribute stored now).1.situation =
          (cfg.project k.situation stored).1) := by
  have hbranch : classify k.situation.version k.startupSequence k.pendingBrokerEchoes distribute
      stored = .newHead := by rw [classify, if_neg (by omega)]
  simp only [finishCommit, hbranch, projectPublish, Config.project]
  cases hn : cfg.schemas.normalize stored with
  | error e => exact ⟨rfl, rfl, fun h => by cases h⟩
  | ok projected =>
    rcases ha : cfg.apply k.situation projected with ⟨situation, failure⟩
    cases failure with
    | none =>
      simp only [ha]
      exact ⟨rfl, trivial, fun _ => trivial⟩
    | some error =>
      simp only [ha]
      exact ⟨rfl, trivial, fun h => by cases h⟩

theorem storeEvent_appended (log : EventLog) (event : Event) (expected : Option Int)
    (answer : StoreAnswer) :
    EventLog.Appended log event (storeEvent log event expected answer).1
      (storeEvent log event expected answer).2 := by
  cases expected with
  | none => exact log.append_appended event answer
  | some head => exact log.appendIfHead_appended event head answer

/-- **A commit in a consistent state** keeps the log and does not lose consistency,
or it adds one event; then it raises exactly if the projection does. -/
theorem commit_spec {k : Kernel} (h : Consistent cfg k) (hstopped : k.stopped = false)
    (event : Event) (distribute : Bool) (expected : Option Int) (answer : StoreAnswer)
    (now : Datetime) :
    let committed := k.commit cfg event distribute expected answer now
    (addsEvent k.log event expected answer = none ∧
      committed.1.log = k.log ∧ Consistent cfg committed.1) ∨
    ∃ stored, addsEvent k.log event expected answer = some stored ∧
      committed.1.log.events = k.log.events ++ [stored] ∧
      (∀ now', (cfg.project (cfg.rebuild now' k.log.events).1 stored).2 = raised committed.2) ∧
      (raised committed.2 = none → Consistent cfg committed.1) := by
  obtain ⟨hok, hlog, hstarted, now', hlive⟩ := h.start hstopped now
  rcases hk : k.start cfg now with ⟨k₁, failure⟩
  simp only [hk] at hok hlog hstarted hlive
  subst hok
  have hstore := storeEvent_appended k.log event expected answer
  simp only [commit, hk, hlog]
  rcases hs : storeEvent k.log event expected answer with ⟨log', result⟩
  rw [hs] at hstore
  cases hstore with
  | refused =>
    refine Or.inl ⟨?_, rfl, Consistent.mk' h.rebuilds fun _ => ⟨now', hlive⟩⟩
    cases hid : k.log.byId event.id <;> simp [addsEvent, hs, hid]
  | known hid =>
    obtain ⟨hmem, -⟩ := EventLog.id_of_byId hid
    obtain ⟨-, hlog₁, hlive₁⟩ := finishCommit_known (k := { k₁ with log := k.log })
      h.rebuilds ⟨now', hlive⟩ hmem distribute now
    refine Or.inl ⟨by simp [addsEvent, hid], hlog₁, Consistent.mk' ?_ fun _ => ?_⟩
    · rw [hlog₁]
      exact h.rebuilds
    · rw [hlog₁]
      exact hlive₁
  | @added _ gap hid hevents hlatest =>
    refine Or.inr ⟨k.log.nextStored event gap, by simp [addsEvent, hid, hs], ?_⟩
    have hversion : k₁.situation.version < (k.log.nextStored event gap).seq := by
      rw [hlive, rebuild_version h.rebuilds now', EventLog.nextStored, Event.withSequence_seq]
      omega
    obtain ⟨hraise, hlog₁, hdone⟩ := finishCommit_added cfg (k := { k₁ with log := log' }) hversion
      distribute now
    have hproject : ∀ d, (cfg.project (cfg.rebuild d k.log.events).1
        (k.log.nextStored event gap)).2 =
          (cfg.project k₁.situation (k.log.nextStored event gap)).2 := by
      intro d
      rw [hlive]
      exact Config.project_rebuild d now' k.log.events _
    refine ⟨by rw [hlog₁]; exact hevents, fun d => (hproject d).trans hraise.symm, fun hnone => ?_⟩
    have hgood := hraise.symm.trans hnone
    have hsnoc : ∀ d, cfg.rebuild d (k.log.events ++ [k.log.nextStored event gap]) =
        cfg.project (cfg.rebuild d k.log.events).1 (k.log.nextStored event gap) :=
      fun d => Replay.replay_snoc (h.rebuilds d)
    refine Consistent.mk' ?_ fun _ => ⟨now', ?_⟩
    · intro d
      rw [hlog₁, hevents, hsnoc]
      exact (hproject d).trans hgood
    · rw [hdone hgood, hlog₁, hevents, hsnoc, hlive]

/-- What the three committing calls have in common. -/
theorem commit_call {k : Kernel} (h : Consistent cfg k) (event : Event) (distribute : Bool)
    (expected : Option Int) (answer : StoreAnswer) (now : Datetime) :
    let committed := k.commit cfg event distribute expected answer now
    let accepted := ∀ stored,
      (if k.stopped then none else addsEvent k.log event expected answer) = some stored →
        ∀ now', (cfg.project (cfg.rebuild now' k.log.events).1 stored).2 = none
    (accepted → Consistent cfg committed.1) ∧
      ((raised committed.2 ≠ none → committed.1.log.events = k.log.events) ↔ accepted) := by
  intro committed accepted
  by_cases hstopped : k.stopped = true
  · have hrefused : committed = (k, .error (.runtimeError "kernel has already been stopped")) := by
      simp only [committed, commit, Kernel.start, hstopped, if_true]
    rw [hrefused]
    exact ⟨fun _ => h, fun _ stored hadds => by simp [hstopped] at hadds, fun _ _ => rfl⟩
  · rw [Bool.not_eq_true] at hstopped
    rcases commit_spec h hstopped event distribute expected answer now with
      ⟨hadds, hlog, hcons⟩ | ⟨stored, hadds, hevents, hproject, hcons⟩
    · refine ⟨fun _ => hcons, fun _ stored hstored => ?_, fun _ _ => congrArg EventLog.events hlog⟩
      simp [hstopped, hadds] at hstored
    · have haccepted : accepted ↔ raised committed.2 = none := by
        constructor
        · intro hacc
          exact (hproject now).symm.trans (hacc stored (by simp [hstopped, hadds]) now)
        · intro hnone other hother now'
          obtain rfl : stored = other := by simpa [hstopped, hadds] using hother
          exact (hproject now').trans hnone
      refine ⟨fun hacc => hcons (haccepted.mp hacc), fun hatomic => haccepted.mpr ?_,
        fun hacc hraise => absurd (haccepted.mp hacc) hraise⟩
      -- A log with one event more is not the old one.
      by_contra hraise
      have hsame := hatomic hraise
      rw [hevents] at hsame
      simp at hsame

/-- **One call in a consistent state.** -/
theorem perform_spec {k : Kernel} (h : Consistent cfg k) (call : KernelCall) :
    (Accepts cfg k call → Consistent cfg (k.perform cfg call).1) ∧
      (Atomic cfg k call ↔ Accepts cfg k call) := by
  have haddsNone : k.adds call = none → Accepts cfg k call := by
    intro hnone stored hstored
    rw [hnone] at hstored
    cases hstored
  cases call with
  | create now =>
    exact ⟨fun _ => Consistent.mk' h.rebuilds fun hstarted => absurd hstarted Bool.false_ne_true,
      fun _ => haddsNone rfl, fun _ _ => rfl⟩
  | start now =>
    by_cases hstopped : k.stopped = true
    · have hrefused : k.perform cfg (.start now) =
          (k, some (.runtimeError "kernel has already been stopped")) := by
        simp only [perform, Kernel.start, hstopped, if_true]
      refine ⟨fun _ => by rw [hrefused]; exact h, fun _ => haddsNone rfl, fun _ _ => ?_⟩
      rw [hrefused]
    · obtain ⟨-, hlog, -, now', hlive⟩ := h.start (by simpa using hstopped) now
      refine ⟨fun _ => Consistent.mk' ?_ fun _ => ⟨now', ?_⟩, fun _ => haddsNone rfl, fun _ _ => ?_⟩
      · rw [perform, hlog]
        exact h.rebuilds
      · rw [perform, hlog]
        exact hlive
      · rw [perform, hlog]
  | emit event answer now => exact commit_call h event true none answer now
  | emitIfHead event expected answer now => exact commit_call h event true (some expected) answer now
  | ingest event answer now => exact commit_call h event false none answer now
  | stop =>
    exact ⟨fun _ => Consistent.mk' h.rebuilds fun hstarted => absurd hstarted Bool.false_ne_true,
      fun _ => haddsNone rfl, fun _ _ => rfl⟩

variable (cfg) in
/-- The calls of a kernel, and of the kernels created after it, as a machine. -/
def next (k : Kernel) (call : KernelCall) : Option Kernel := some (k.perform cfg call).1

/-- **Commits are atomic as long as every event added is one the projection takes.**
On every run whose calls add only such events, the log replays, the live situation
is its rebuild, and the next call is atomic exactly if it is again of that kind. -/
theorem guarded_run {now : Datetime} {calls : List KernelCall} {k : Kernel}
    (h : Run (next cfg) (Accepts cfg) (create .empty now) calls k) :
    Consistent cfg k ∧ ∀ call, Atomic cfg k call ↔ Accepts cfg k call := by
  have hcons : Consistent cfg k := by
    refine h.invariant (Consistent.mk' (fun _ => rfl) fun hstarted => absurd hstarted Bool.false_ne_true) ?_
    intro k call k' hk haccepts hnext
    obtain rfl := Option.some.inj hnext
    exact (perform_spec hk call).1 haccepts
  exact ⟨hcons, fun call => (perform_spec hcons call).2⟩

/-! ## Two runs -/

/-- No registered schema and no projector; no conversion is needed below. -/
def plainConfig : Config where
  builtins :=
    { strOf := fun _ => .error .typeError
      floatOfInt := fun _ => .error .overflowError
      floatOfStr := fun _ => .error (.valueError "could not convert string to float")
      fromisoformat := fun _ => .error (.valueError "Invalid isoformat string")
      addSeconds := fun _ _ => .error .overflowError
      dictOfPairs := fun _ => .error .typeError }
  projectors := []
  schemas := ⟨fun _ => none, fun _ _ => none, fun _ _ => none⟩

/-- A `fact.observed` event with the given payload. -/
def factEvent (id : String) (fields : List (String × JSONValue)) : Event where
  type := "fact.observed"
  source := "sensor"
  payload := .ofList fields
  subject := none
  id := id
  timestamp := .utc 0
  correlationId := none
  causationId := none
  priority := 0
  sequence := none
  metadata := .empty
  schemaVersion := 1
  schemaVersion_pos := by decide

/-- A fact is emitted twice, then a kernel is created over the log and started. -/
theorem repeated_fact_consistent :
    let fact := factEvent "e-1" [("key", .str "door"), ("value", .str "open")]
    ∃ k, Run (next plainConfig) (Accepts plainConfig) (create .empty (.utc 0))
        [.emit fact (.takes 0) (.utc 1), .emit fact (.takes 0) (.utc 2), .create (.utc 3),
          .start (.utc 4)] k ∧
      k.log.events.length = 1 ∧ Consistent plainConfig k := by
  intro fact
  have hfirst : Accepts plainConfig (create .empty (.utc 0)) (.emit fact (.takes 0) (.utc 1)) := by
    rintro stored ⟨⟩ now
    rfl
  have hagain : Accepts plainConfig
      ((create .empty (.utc 0)).perform plainConfig (.emit fact (.takes 0) (.utc 1))).1
      (.emit fact (.takes 0) (.utc 2)) := by
    rintro stored ⟨⟩
  have hrun : Run (next plainConfig) (Accepts plainConfig) (create .empty (.utc 0)) _ _ :=
    (((Run.start.next hfirst rfl).next hagain rfl).next (l := .create (.utc 3))
      (by rintro stored ⟨⟩) rfl).next (l := .start (.utc 4)) (by rintro stored ⟨⟩) rfl
  exact ⟨_, hrun, rfl, (guarded_run hrun).1⟩

/-- A `fact.observed` event without a key: the call raises, the event stays in the
log, and no later start gets past it. -/
theorem keyless_fact_not_atomic :
    let k := create .empty (.utc 0)
    let call := KernelCall.emit (factEvent "e-1" []) (.takes 0) (.utc 1)
    ¬ Atomic plainConfig k call ∧
      ((create (k.perform plainConfig call).1.log (.utc 2)).start plainConfig (.utc 3)).2 =
        some (.keyError "key") := by
  refine ⟨fun hatomic => ?_, rfl⟩
  have hsame := hatomic (by decide)
  exact absurd (congrArg List.length hsame) (by decide)

end Kernel
end Noema
