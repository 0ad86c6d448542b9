import Noema.EventBusDeadlock

/-!
# Saturating a bounded queue

Callers that are in line for the emit lock before any handler asks for it go first,
all of them.  Let them emit events of one type (`probe`), and let every worker go on
as far as it can after each put.  A subscription is then in one of six positions
(`Served`): its handler ignores the type, or has not seen it yet, or waits in line
behind the callers while its queue fills; an agent's workers wait in line one after
the other, then the agent's queue fills, then its handler waits, then the bus queue
fills.  A put that finds no space is the deadlock (`Served.waits`), and a handler
that may wait has space for finitely many events (`Served.capacity`).
-/
namespace Noema
open AsyncQueue Machine

/-- What a handler does with an event of a type and a source it has not seen. -/
inductive Response
  | ignores
  | emits
  | enqueues (config : AgentQueueConfig)

def Handler.response (type source : String) : Handler → Response
  | .observer => .ignores
  | .detectorEngine engineId =>
    if source = engineId ∨ "signal.".isPrefixOf type then .ignores else .emits
  | .memoryProjector => if type = consumerCheckpointEvent then .ignores else .emits
  | .agent config =>
    if config.material type = true ∧ 0 ≤ config.processedEventCache then .enqueues config
    else .ignores

namespace EventBus

/-- The events of the series. -/
def probe (type source : String) (number : Nat) : Event :=
  { type, source, payload := .empty, subject := none, id := String.ofList (List.replicate number 'e')
    timestamp := .utc 0, correlationId := none, causationId := none, priority := 0
    sequence := none, metadata := .empty, schemaVersion := 1, schemaVersion_pos := Nat.one_pos }

theorem probe_id_ne {type source : String} {a b : Nat} (h : a ≠ b) :
    (probe type source a).id ≠ (probe type source b).id := by
  intro heq
  have hlist := congrArg (fun id => id.toList.length) heq
  simp only [probe, String.toList_ofList, List.length_replicate] at hlist
  exact h hlist

/-- Steps of one subscription, its handler and its agent's workers. -/
structure Local (index : Nat) (s s' : EventBus) : Prop where
  log : s'.log = s.log
  line : ∃ line, s'.emitLock = s.emitLock ++ line
  pc : ∀ task, task ≠ .subscription index → (∀ number, task ≠ .worker index number) →
    s'.pc task = s.pc task
  channel : ∀ other, other ≠ index → s'.channel other = s.channel other

namespace Local

variable {index : Nat} {s s' s'' : EventBus}

theorem refl (s : EventBus) : Local index s s :=
  ⟨rfl, ⟨[], by simp⟩, fun _ _ _ => rfl, fun _ _ => rfl⟩

theorem trans (h : Local index s s') (k : Local index s' s'') : Local index s s'' := by
  obtain ⟨line, hline⟩ := h.line
  obtain ⟨line', hline'⟩ := k.line
  refine ⟨k.log.trans h.log, ⟨line ++ line', by rw [hline', hline, List.append_assoc]⟩, ?_, ?_⟩
  · exact fun task hs hw => (k.pc task hs hw).trans (h.pc task hs hw)
  · exact fun other hne => (k.channel other hne).trans (h.channel other hne)

theorem goto {pc : BusPc} : Local index s (s.goto (.subscription index) pc) :=
  ⟨rfl, ⟨[], by simp [EventBus.goto]⟩, fun _ hs _ => Function.update_of_ne hs _ _, fun _ _ => rfl⟩

theorem gotoWorker {number : Nat} {pc : BusPc} :
    Local index s (s.goto (.worker index number) pc) :=
  ⟨rfl, ⟨[], by simp [EventBus.goto]⟩, fun _ _ hw => Function.update_of_ne (hw number) _ _,
    fun _ _ => rfl⟩

theorem setChannel {channel : Channel} : Local index s (s.setChannel index channel) :=
  ⟨rfl, ⟨[], by simp [EventBus.setChannel]⟩, fun _ _ _ => rfl,
    fun _ hne => Function.update_of_ne hne _ _⟩

theorem request {handled : Option Event} {output : Event} :
    Local index s (s.request (.subscription index) handled output) :=
  ⟨rfl, ⟨[_], rfl⟩, fun _ hs _ => goto_pc_of_ne hs, fun _ _ => rfl⟩

theorem requestWorker {number : Nat} {handled : Option Event} {output : Event} :
    Local index s (s.request (.worker index number) handled output) :=
  ⟨rfl, ⟨[_], rfl⟩, fun _ _ hw => goto_pc_of_ne (hw number), fun _ _ => rfl⟩

/-- Who is in line stays in line. -/
theorem mem_tail (h : Local index s s') {task : TaskId} (hmem : task ∈ s.emitLock.tail) :
    task ∈ s'.emitLock.tail := by
  obtain ⟨line, hline⟩ := h.line
  rw [hline]
  cases hlock : s.emitLock with
  | nil => rw [hlock] at hmem; cases hmem
  | cons first rest =>
    rw [hlock] at hmem
    exact List.mem_append_left _ hmem

end Local

variable (cfg : BusConfig) (type source : String)

/-- Where a subscription is after `count` probes. -/
inductive Served (s : EventBus) (index count : Nat) : Prop
  | ignoring (hresponse : (cfg.handler index).response type source = .ignores)
      (hpc : s.pc (.subscription index) = .idle) (hqueue : (s.channel index).queue = [])
  | fresh (hresponse : (cfg.handler index).response type source = .emits) (hcount : count = 0)
      (hpc : s.pc (.subscription index) = .idle) (hqueue : (s.channel index).queue = [])
      (hseen : (s.channel index).seen = []) (hcompleted : (s.channel index).completed = none)
  | inLine (hresponse : (cfg.handler index).response type source = .emits)
      (hline : .subscription index ∈ s.emitLock.tail)
      (hcount : count = (s.channel index).queue.length + 1)
      (hfits : ((s.channel index).queue.length : Int) ≤ cfg.queueSize)
  | serving (config : AgentQueueConfig) (hagent : cfg.handler index = .agent config)
      (hresponse : (cfg.handler index).response type source = .enqueues config)
      (hseen : ∀ id ∈ (s.channel index).seen, ∃ n < count, id = (probe type source n).id)
      (hpc : s.pc (.subscription index) = .idle) (hqueue : (s.channel index).queue = [])
      (hagentQueue : (s.channel index).agentQueue = []) (hcount : count ≤ config.workers)
      (hbusy : ∀ number < count, .worker index number ∈ s.emitLock.tail)
      (hidle : ∀ number, count ≤ number → s.pc (.worker index number) = .idle)
  | filling (config : AgentQueueConfig) (hagent : cfg.handler index = .agent config)
      (hresponse : (cfg.handler index).response type source = .enqueues config)
      (hseen : ∀ id ∈ (s.channel index).seen, ∃ n < count, id = (probe type source n).id)
      (hpc : s.pc (.subscription index) = .idle) (hqueue : (s.channel index).queue = [])
      (hcount : count = config.workers + (s.channel index).agentQueue.length)
      (hfits : 0 < config.queueSize →
        ((s.channel index).agentQueue.length : Int) ≤ config.queueSize)
      (hbusy : ∀ number < config.workers, .worker index number ∈ s.emitLock.tail)
  | blocked (config : AgentQueueConfig) (event : Event) (hagent : cfg.handler index = .agent config)
      (hresponse : (cfg.handler index).response type source = .enqueues config)
      (hpc : s.pc (.subscription index) = .enqueueing event)
      (hfull : Full config.queueSize (s.channel index).agentQueue)
      (hcount : (count : Int) ≤
        config.workers + config.queueSize + 1 + (s.channel index).queue.length)
      (hfits : ((s.channel index).queue.length : Int) ≤ cfg.queueSize)
      (hbusy : ∀ number < config.workers, .worker index number ∈ s.emitLock.tail)

variable {cfg type source} {s s' : EventBus} {index count : Nat}

namespace Served

/-- What the rest of the bus does leaves a subscription where it is. -/
theorem frame (h : Served cfg type source s index count)
    (hpc : s'.pc (.subscription index) = s.pc (.subscription index))
    (hworkers : ∀ number, s'.pc (.worker index number) = s.pc (.worker index number))
    (hchannel : s'.channel index = s.channel index)
    (hline : ∀ task, (∀ number, task ≠ .caller number) → task ∈ s.emitLock.tail →
      task ∈ s'.emitLock.tail) : Served cfg type source s' index count := by
  have hsub : TaskId.subscription index ∈ s.emitLock.tail →
      TaskId.subscription index ∈ s'.emitLock.tail := hline _ (by simp)
  have hwork : ∀ number, TaskId.worker index number ∈ s.emitLock.tail →
      TaskId.worker index number ∈ s'.emitLock.tail := fun number => hline _ (by simp)
  cases h with
  | ignoring hresponse hidle hqueue =>
    exact .ignoring hresponse (hpc.trans hidle) (hchannel ▸ hqueue)
  | fresh hresponse hcount hidle hqueue hseen hcompleted =>
    exact .fresh hresponse hcount (hpc.trans hidle) (hchannel ▸ hqueue) (hchannel ▸ hseen)
      (hchannel ▸ hcompleted)
  | inLine hresponse hmem hcount hfits =>
    exact .inLine hresponse (hsub hmem) (hchannel ▸ hcount) (hchannel ▸ hfits)
  | serving config hagent hresponse hseen hidle hqueue hagentQueue hcount hbusy hfree =>
    exact .serving config hagent hresponse (hchannel ▸ hseen) (hpc.trans hidle) (hchannel ▸ hqueue)
      (hchannel ▸ hagentQueue) hcount (fun number hn => hwork number (hbusy number hn))
      (fun number hn => (hworkers number).trans (hfree number hn))
  | filling config hagent hresponse hseen hidle hqueue hcount hfits hbusy =>
    exact .filling config hagent hresponse (hchannel ▸ hseen) (hpc.trans hidle) (hchannel ▸ hqueue)
      (hchannel ▸ hcount) (hchannel ▸ hfits) (fun number hn => hwork number (hbusy number hn))
  | blocked config event hagent hresponse henqueueing hfull hcount hfits hbusy =>
    exact .blocked config event hagent hresponse (hpc.trans henqueueing) (hchannel ▸ hfull)
      (hchannel ▸ hcount) (hchannel ▸ hfits) (fun number hn => hwork number (hbusy number hn))

/-- **A subscription whose queue is full waits for the lock.** -/
theorem waits (h : Served cfg type source s index count)
    (hfull : Full cfg.queueSize (s.channel index).queue) :
    WaitsForEmit cfg s (.subscription index) := by
  have hnonempty : (s.channel index).queue ≠ [] := by
    intro hqueue
    exact not_full_nil _ (hqueue ▸ hfull)
  cases h with
  | ignoring _ _ hqueue => exact absurd hqueue hnonempty
  | fresh _ _ _ hqueue => exact absurd hqueue hnonempty
  | inLine _ hline => exact .lock hline
  | serving _ _ _ _ _ hqueue => exact absurd hqueue hnonempty
  | filling _ _ _ _ _ hqueue => exact absurd hqueue hnonempty
  | blocked config event hagent _ hpc hagentFull _ _ hbusy =>
    exact .queue hpc hagent hagentFull fun number hn => .lock (hbusy number hn)

end Served

/-! ## One put -/

/-- The event as it comes to the subscriptions. -/
def IsProbe (type source : String) (number : Nat) (event : Event) : Prop :=
  event.type = type ∧ event.source = source ∧ event.id = (probe type source number).id

/-- Only the subscription's own task moves, and nobody gets in line. -/
structure Alone (index : Nat) (s s' : EventBus) : Prop extends Local index s s' where
  lock : s'.emitLock = s.emitLock
  workers : ∀ number, s'.pc (.worker index number) = s.pc (.worker index number)

theorem Alone.goto {pc : BusPc} : Alone index s (s.goto (.subscription index) pc) :=
  ⟨.goto, rfl, fun _ => goto_pc_of_ne (by rintro ⟨⟩)⟩

theorem Alone.setChannel {channel : Channel} : Alone index s (s.setChannel index channel) :=
  ⟨.setChannel, rfl, fun _ => rfl⟩

theorem Alone.trans {s'' : EventBus} (h : Alone index s s') (k : Alone index s' s'') :
    Alone index s s'' :=
  ⟨h.toLocal.trans k.toLocal, k.lock.trans h.lock,
    fun number => (k.workers number).trans (h.workers number)⟩

/-- An idle subscription takes the one event of its queue. -/
theorem take_event {event : Event} (hpc : s.pc (.subscription index) = .idle)
    (hqueue : (s.channel index).queue = [event]) :
    ∃ s', s.step cfg (.get (.subscription index)) = some s' ∧ Alone index s s' ∧
      s'.pc (.subscription index) = .delivered event ∧
      s'.channel index = { s.channel index with queue := [] } := by
  refine ⟨(s.setChannel index { s.channel index with queue := [] }).goto _ (.delivered event),
    ?_, Alone.setChannel.trans .goto, goto_pc_self, setChannel_channel_self⟩
  simp only [step, get, hpc, hqueue]

theorem react_ignores (s : EventBus) (index : Nat) {event : Event} {handler : Handler}
    (hresponse : handler.response event.type event.source = .ignores) :
    Alone index s (s.react index event handler) ∧
      (s.react index event handler).pc (.subscription index) = .idle ∧
      ((s.react index event handler).channel index).queue = (s.channel index).queue := by
  have hstay : Alone index s (s.goto (.subscription index) .idle) ∧
      (s.goto (.subscription index) .idle).pc (.subscription index) = .idle ∧
      ((s.goto (.subscription index) .idle).channel index).queue = (s.channel index).queue :=
    ⟨.goto, goto_pc_self, rfl⟩
  cases handler with
  | observer => exact hstay
  | detectorEngine engineId =>
    dsimp only [Handler.response] at hresponse
    split at hresponse
    · rename_i hskip
      rw [react, if_pos hskip]
      exact hstay
    · cases hresponse
  | memoryProjector =>
    dsimp only [Handler.response] at hresponse
    split at hresponse
    · rename_i hcheckpoint
      dsimp only [react]
      rw [if_pos (Or.inl hcheckpoint)]
      split
      · exact hstay
      · exact ⟨Alone.setChannel.trans .goto, goto_pc_self, by simp⟩
    · cases hresponse
  | agent config =>
    dsimp only [Handler.response] at hresponse
    split at hresponse
    · cases hresponse
    · rename_i hnot
      dsimp only [react]
      split
      · exact hstay
      · rename_i hnew
        have hmaterial : config.material event.type = true :=
          Bool.of_not_eq_false fun h => hnew (Or.inl h)
        have hcache : config.processedEventCache < 0 := by
          by_contra hcache
          exact hnot ⟨hmaterial, by omega⟩
        rw [remember, if_pos hcache]
        exact ⟨Alone.setChannel.trans .goto, goto_pc_self, by simp⟩

theorem react_emits (s : EventBus) (index : Nat) {event : Event} {handler : Handler}
    (hresponse : handler.response event.type event.source = .emits)
    (hseen : (s.channel index).seen = []) (hcompleted : (s.channel index).completed = none) :
    Alone index s (s.react index event handler) ∧
      (s.react index event handler).pc (.subscription index) = .handling event none ∧
      ((s.react index event handler).channel index).queue = (s.channel index).queue := by
  cases handler with
  | observer => cases hresponse
  | detectorEngine engineId =>
    dsimp only [Handler.response] at hresponse
    split at hresponse
    · cases hresponse
    · rename_i hskip
      rw [react, if_neg hskip]
      exact ⟨.goto, goto_pc_self, rfl⟩
  | memoryProjector =>
    dsimp only [Handler.response] at hresponse
    split at hresponse
    · cases hresponse
    · rename_i hcheckpoint
      dsimp only [react]
      rw [hseen, hcompleted, if_neg (by simp), if_neg (by simpa using hcheckpoint)]
      exact ⟨Alone.setChannel.trans .goto, goto_pc_self, by simp⟩
  | agent config =>
    dsimp only [Handler.response] at hresponse
    split at hresponse <;> cases hresponse

theorem react_enqueues {event : Event} {handler : Handler} {config : AgentQueueConfig}
    (hagent : handler = .agent config)
    (hresponse : handler.response event.type event.source = .enqueues config)
    (hnew : event.id ∉ (s.channel index).seen) :
    Alone index s (s.react index event handler) ∧
      (s.react index event handler).pc (.subscription index) = .enqueueing event ∧
      ∃ seen, (s.react index event handler).channel index = { s.channel index with seen } ∧
        ∀ id ∈ seen, id = event.id ∨ id ∈ (s.channel index).seen := by
  subst hagent
  dsimp only [Handler.response] at hresponse
  split at hresponse
  · rename_i hmaterial
    have hskip : ¬ (config.material event.type = false ∨ event.id ∈ (s.channel index).seen) := by
      rintro (hfalse | hold)
      · rw [hmaterial.1] at hfalse
        cases hfalse
      · exact hnew hold
    have hcache : ¬ config.processedEventCache < 0 := by omega
    dsimp only [react]
    rw [if_neg hskip, remember, if_neg hcache]
    refine ⟨Alone.setChannel.trans .goto, goto_pc_self, _, setChannel_channel_self, ?_⟩
    intro id hid
    simpa using List.mem_of_mem_take hid
  · cases hresponse

/-- The handler of an idle subscription runs on the one event of its queue. -/
theorem deliver (cfg : BusConfig) {event : Event} (hpc : s.pc (.subscription index) = .idle)
    (hqueue : (s.channel index).queue = [event]) :
    ∃ s', Alone index s s' ∧ s'.channel index = { s.channel index with queue := [] } ∧
      Reaches (step cfg) s (s'.react index event (cfg.handler index)) := by
  obtain ⟨s', hget, halone, hdelivered, hchannel⟩ := take_event hpc hqueue
  refine ⟨s', halone, hchannel, (Reaches.single hget).trans (.single (l := .begin index) ?_)⟩
  simp only [step, begin, hdelivered]

/-- A handler or a worker emits and gets in line behind the callers. -/
theorem emit_request (cfg : BusConfig) {task : TaskId} {event : Event} {last : Option Event}
    (output : Event)
    (hpc : s.pc task = .handling event last) (hline : s.emitLock ≠ []) :
    s.step cfg (.emit task output) = some (s.request task (some event) output) ∧
      task ∈ (s.request task (some event) output).emitLock.tail := by
  refine ⟨by simp only [step, emit, hpc], ?_⟩
  obtain ⟨first, rest, hlock⟩ := List.exists_cons_of_ne_nil hline
  simp [request, hlock]

/-- An agent's handler runs up to its put. -/
theorem deliver_enqueues {event : Event} {config : AgentQueueConfig}
    (hagent : cfg.handler index = .agent config)
    (hresponse : (cfg.handler index).response type source = .enqueues config)
    (hseen : ∀ id ∈ (s.channel index).seen, ∃ n < count, id = (probe type source n).id)
    (hprobe : IsProbe type source count event) (hpc : s.pc (.subscription index) = .idle)
    (hqueue : (s.channel index).queue = [event]) :
    ∃ s', Reaches (step cfg) s s' ∧ Alone index s s' ∧
      s'.pc (.subscription index) = .enqueueing event ∧ (s'.channel index).queue = [] ∧
      (s'.channel index).agentQueue = (s.channel index).agentQueue ∧
      ∀ id ∈ (s'.channel index).seen, ∃ n < count + 1, id = (probe type source n).id := by
  obtain ⟨htype, hsource, hid⟩ := hprobe
  obtain ⟨s₁, halone, hchannel, hreach⟩ := deliver cfg hpc hqueue
  have hnew : event.id ∉ (s₁.channel index).seen := by
    rw [hchannel, hid]
    intro hmem
    obtain ⟨n, hn, heq⟩ := hseen _ hmem
    exact probe_id_ne (by omega) heq
  rw [← htype, ← hsource] at hresponse
  obtain ⟨halone', hpc', seen, hchannel', hseen'⟩ := react_enqueues hagent hresponse hnew
  refine ⟨_, hreach, halone.trans halone', hpc', ?_, ?_, fun id hmem => ?_⟩
  · rw [hchannel', hchannel]
  · rw [hchannel', hchannel]
  · rw [hchannel'] at hmem
    rcases hseen' id hmem with rfl | hold
    · exact ⟨count, by omega, hid⟩
    · rw [hchannel] at hold
      obtain ⟨n, hn, heq⟩ := hseen id hold
      exact ⟨n, by omega, heq⟩

/-- The put of an agent's handler finds space. -/
theorem put_stores {event : Event} {config : AgentQueueConfig}
    (hagent : cfg.handler index = .agent config)
    (hpc : s.pc (.subscription index) = .enqueueing event)
    (hroom : ¬ Full config.queueSize (s.channel index).agentQueue) :
    ∃ s', Reaches (step cfg) s s' ∧ Alone index s s' ∧
      s'.pc (.subscription index) = .idle ∧
      s'.channel index =
        { s.channel index with agentQueue := putPriority Event.priority event (s.channel index).agentQueue } := by
  refine ⟨(s.setChannel index { s.channel index with
      agentQueue := putPriority Event.priority event (s.channel index).agentQueue }).goto _ .idle,
    .single (l := .put index) ?_, Alone.setChannel.trans .goto, goto_pc_self,
    setChannel_channel_self⟩
  simp only [step, put, hpc, hagent, if_neg hroom]

/-- An idle worker of an agent takes the one trigger of its queue and gets in line. -/
theorem worker_in_line (number : Nat) {event : Event} {config : AgentQueueConfig}
    (hagent : cfg.handler index = .agent config) (hnumber : number < config.workers)
    (hpc : s.pc (.worker index number) = .idle)
    (hqueue : (s.channel index).agentQueue = [event]) (hline : s.emitLock ≠ []) :
    ∃ s', Reaches (step cfg) s s' ∧ Local index s s' ∧
      s'.channel index = { s.channel index with agentQueue := [] } ∧
      .worker index number ∈ s'.emitLock.tail ∧
      ∀ task, task ≠ .worker index number → s'.pc task = s.pc task := by
  let s₁ := (s.setChannel index { s.channel index with agentQueue := [] }).goto
    (.worker index number) (.handling event none)
  have hget : s.step cfg (.get (.worker index number)) = some s₁ := by
    simp only [step, get, hpc, hagent, hqueue, if_pos hnumber]
    rfl
  obtain ⟨hemit, hmem⟩ := emit_request cfg event (goto_pc_self : s₁.pc _ = _) hline
  refine ⟨_, (Reaches.single hget).trans (.single hemit),
    (Local.setChannel.trans .gotoWorker).trans .requestWorker, setChannel_channel_self, hmem, ?_⟩
  intro task hne
  exact (goto_pc_of_ne hne).trans (goto_pc_of_ne hne)

/-- **A put that finds space is taken on** as far as the workers can. -/
theorem Served.accept {s₀ : EventBus} {event : Event} (hsize : 0 < cfg.queueSize)
    (h : Served cfg type source s₀ index count) (hprobe : IsProbe type source count event)
    (hroom : ¬ Full cfg.queueSize (s₀.channel index).queue) (hline : s.emitLock ≠ [])
    (hlock : s.emitLock = s₀.emitLock)
    (hpc : s.pc (.subscription index) = s₀.pc (.subscription index))
    (hworkers : ∀ number, s.pc (.worker index number) = s₀.pc (.worker index number))
    (hchannel : s.channel index =
      { s₀.channel index with queue := (s₀.channel index).queue ++ [event] }) :
    ∃ s', Reaches (step cfg) s s' ∧ Local index s s' ∧
      Served cfg type source s' index (count + 1) := by
  have hspace : (s.channel index).queue.length = (s₀.channel index).queue.length + 1 ∧
      (((s₀.channel index).queue.length + 1 : Nat) : Int) ≤ cfg.queueSize := by
    refine ⟨by rw [hchannel]; simp, ?_⟩
    by_contra hlong
    exact hroom ⟨hsize, by omega⟩
  have hone : (s₀.channel index).queue = [] → (s.channel index).queue = [event] := by
    intro hempty
    rw [hchannel]
    simp [hempty]
  have hbusyMono : ∀ {s' : EventBus} {number : Nat}, Local index s s' →
      .worker index number ∈ s₀.emitLock.tail → .worker index number ∈ s'.emitLock.tail :=
    fun hlocal hmem => hlocal.mem_tail (hlock ▸ hmem)
  cases h with
  | ignoring hresponse hidle hqueue =>
    obtain ⟨s₁, halone, hchannel₁, hreach⟩ := deliver cfg (hpc.trans hidle) (hone hqueue)
    have hresponse' := hresponse
    rw [← hprobe.1, ← hprobe.2.1] at hresponse'
    obtain ⟨halone', hpc', hqueue'⟩ := react_ignores s₁ index hresponse'
    refine ⟨_, hreach, halone.toLocal.trans halone'.toLocal, .ignoring hresponse hpc' ?_⟩
    rw [hqueue', hchannel₁]
  | fresh hresponse hcount hidle hqueue hseen hcompleted =>
    obtain ⟨s₁, halone, hchannel₁, hreach⟩ := deliver cfg (hpc.trans hidle) (hone hqueue)
    have hresponse' := hresponse
    rw [← hprobe.1, ← hprobe.2.1] at hresponse'
    obtain ⟨halone', hpc', hqueue'⟩ := react_emits s₁ index hresponse'
      (by rw [hchannel₁, hchannel]; exact hseen) (by rw [hchannel₁, hchannel]; exact hcompleted)
    obtain ⟨hemit, hmem⟩ := emit_request cfg event hpc'
      (by rw [halone'.lock, halone.lock]; exact hline)
    have hempty : ((s₁.react index event (cfg.handler index)).channel index).queue = [] := by
      rw [hqueue', hchannel₁]
    refine ⟨_, hreach.trans (.single hemit),
      (halone.toLocal.trans halone'.toLocal).trans .request, .inLine hresponse hmem ?_ ?_⟩
    · rw [hcount]
      exact congrArg (fun queue : List Event => queue.length + 1) hempty.symm
    · refine (congrArg (fun queue : List Event => (queue.length : Int)) hempty).trans_le ?_
      simpa using hsize.le
  | inLine hresponse hmem hcount hfits =>
    refine ⟨s, .refl s, .refl s, .inLine hresponse (hlock ▸ hmem) ?_ ?_⟩
    · omega
    · omega
  | serving config hagent hresponse hseen hidle hqueue hagentQueue hcount hbusy hfree =>
    obtain ⟨s₁, hreach₁, halone₁, hpc₁, hqueue₁, hagentQueue₁, hseen₁⟩ :=
      deliver_enqueues hagent hresponse (by rw [hchannel]; exact hseen) hprobe (hpc.trans hidle)
        (hone hqueue)
    have hempty : (s₁.channel index).agentQueue = [] := by
      rw [hagentQueue₁, hchannel]
      exact hagentQueue
    obtain ⟨s₂, hreach₂, halone₂, hpc₂, hchannel₂⟩ := put_stores hagent hpc₁
      (hempty ▸ not_full_nil _)
    have halone := halone₁.trans halone₂
    by_cases hlast : count = config.workers
    · -- Every worker is in line: the trigger stays on the agent's queue.
      refine ⟨s₂, hreach₁.trans hreach₂, halone.toLocal,
        .filling config hagent hresponse ?_ hpc₂ ?_ ?_ ?_ ?_⟩
      · rw [hchannel₂]
        exact hseen₁
      · rw [hchannel₂]
        exact hqueue₁
      · rw [hchannel₂, hempty, hlast]
        rfl
      · intro hpos
        rw [hchannel₂, hempty, putPriority_length, List.length_nil]
        omega
      · exact fun number hn => hbusyMono halone.toLocal (hbusy number (hlast ▸ hn))
    · obtain ⟨s₃, hreach₃, hlocal₃, hchannel₃, hmem₃, hothers⟩ :=
        worker_in_line count hagent (by omega)
          (by rw [halone.workers, hworkers]; exact hfree count le_rfl)
          (show (s₂.channel index).agentQueue = [event] by rw [hchannel₂, hempty]; rfl)
          (by rw [halone.lock]; exact hline)
      refine ⟨s₃, (hreach₁.trans hreach₂).trans hreach₃, halone.toLocal.trans hlocal₃,
        .serving config hagent hresponse ?_ ?_ ?_ ?_ (by omega) ?_ ?_⟩
      · rw [hchannel₃, hchannel₂]
        exact hseen₁
      · exact (hothers _ (by rintro ⟨⟩)).trans hpc₂
      · rw [hchannel₃, hchannel₂]
        exact hqueue₁
      · rw [hchannel₃]
      · intro number hn
        by_cases heq : number = count
        · exact heq ▸ hmem₃
        · exact hbusyMono (halone.toLocal.trans hlocal₃) (hbusy number (by omega))
      · intro number hn
        have hne : TaskId.worker index number ≠ .worker index count := by
          rintro ⟨⟩
          omega
        rw [hothers _ hne, halone.workers, hworkers]
        exact hfree number (by omega)
  | filling config hagent hresponse hseen hidle hqueue hcount hfits hbusy =>
    obtain ⟨s₁, hreach₁, halone₁, hpc₁, hqueue₁, hagentQueue₁, hseen₁⟩ :=
      deliver_enqueues hagent hresponse (by rw [hchannel]; exact hseen) hprobe (hpc.trans hidle)
        (hone hqueue)
    have hsame : (s₁.channel index).agentQueue = (s₀.channel index).agentQueue := by
      rw [hagentQueue₁, hchannel]
    by_cases hfull : Full config.queueSize (s₁.channel index).agentQueue
    · refine ⟨s₁, hreach₁, halone₁.toLocal, .blocked config event hagent hresponse hpc₁ hfull ?_ ?_
        fun number hn => hbusyMono halone₁.toLocal (hbusy number hn)⟩
      · have := hfits hfull.1
        rw [hqueue₁, List.length_nil]
        omega
      · rw [hqueue₁, List.length_nil]
        omega
    · obtain ⟨s₂, hreach₂, halone₂, hpc₂, hchannel₂⟩ := put_stores hagent hpc₁ hfull
      refine ⟨s₂, hreach₁.trans hreach₂, (halone₁.trans halone₂).toLocal,
        .filling config hagent hresponse ?_ hpc₂ ?_ ?_ ?_
        fun number hn => hbusyMono (halone₁.trans halone₂).toLocal (hbusy number hn)⟩
      · rw [hchannel₂]
        exact hseen₁
      · rw [hchannel₂]
        exact hqueue₁
      · rw [hchannel₂, putPriority_length, hsame]
        omega
      · intro hpos
        rw [hchannel₂, putPriority_length]
        by_contra hlong
        exact hfull ⟨hpos, by omega⟩
  | blocked config pending hagent hresponse henqueueing hfull hcount hfits hbusy =>
    refine ⟨s, .refl s, .refl s, .blocked config pending hagent hresponse (hpc.trans henqueueing) ?_
      ?_ ?_ fun number hn => hlock ▸ hbusy number hn⟩
    · rw [hchannel]
      exact hfull
    · omega
    · omega

/-! ## One emit after the other -/

/-- The callers from `first` to `last` are in line, with nobody else before them. -/
structure InLine (type source : String) (s : EventBus) (first last : Nat) : Prop where
  line : ∃ rest, s.emitLock = (List.range' first (last - first)).map .caller ++ rest
  waiting : ∀ number, first < number → number < last →
    s.pc (.caller number) = .emitting none (probe type source number)

/-- The caller's event is not stored yet. -/
def Unstored (type source : String) (s : EventBus) (number : Nat) : Prop :=
  ∀ event ∈ s.log.events, ∃ n < number, event.id = (probe type source n).id

/-- All subscriptions have been served by the callers before `number`, which is next. -/
structure Stage (cfg : BusConfig) (type source : String) (s : EventBus) (number last : Nat) :
    Prop extends InLine type source s number last where
  next : s.pc (.caller number) = .emitting none (probe type source number)
  unstored : Unstored type source s number
  served : ∀ index, cfg.matching index type = true → Served cfg type source s index number

/-- The caller publishes: `rest` are the subscriptions it has not served yet. -/
structure Publishing (cfg : BusConfig) (type source : String) (s : EventBus) (number last : Nat)
    (event : Event) (rest : List Nat) : Prop extends InLine type source s number last where
  pc : ∃ stored, s.pc (.caller number) = .publishing none stored event rest
  isProbe : IsProbe type source number event
  unstored : Unstored type source s (number + 1)
  nodup : rest.Nodup
  matching : ∀ index ∈ rest, cfg.matching index type = true
  served : ∀ index, cfg.matching index type = true → index ∉ rest →
    Served cfg type source s index (number + 1)
  unserved : ∀ index ∈ rest, Served cfg type source s index number

/-- A deadlock can be reached from here. -/
def Doomed (cfg : BusConfig) (s : EventBus) : Prop :=
  ∃ t, Reaches (step cfg) s t ∧ Deadlocked cfg t

theorem Doomed.of_reaches (h : Reaches (step cfg) s s') (k : Doomed cfg s') : Doomed cfg s := by
  obtain ⟨t, hreach, hdead⟩ := k
  exact ⟨t, h.trans hreach, hdead⟩

variable {number last : Nat}

theorem InLine.lock (h : InLine type source s number last) (hlast : number < last) :
    ∃ rest, s.emitLock =
      .caller number :: (List.range' (number + 1) (last - (number + 1))).map .caller ++ rest := by
  obtain ⟨rest, hlock⟩ := h.line
  refine ⟨rest, ?_⟩
  rw [hlock, show last - number = last - (number + 1) + 1 by omega, List.range'_succ]
  simp

/-- The caller whose turn it is stores its event. -/
theorem Stage.commit (h : Stage cfg type source s number last) (hlast : number < last) :
    ∃ s' event, Reaches (step cfg) s s' ∧
      Publishing cfg type source s' number last event (cfg.recipients event) := by
  obtain ⟨rest, hlock⟩ := h.lock hlast
  have hnew : s.log.byId (probe type source number).id = none := by
    refine List.find?_eq_none.mpr fun event hmem => ?_
    obtain ⟨n, hn, heq⟩ := h.unstored event hmem
    rw [decide_eq_true_iff, heq]
    exact probe_id_ne (by omega)
  let stored := s.log.nextStored (probe type source number) 0
  obtain ⟨log, happend, hevents⟩ : ∃ log, s.log.append (probe type source number) (.takes 0) =
      (log, .ok stored) ∧ ∀ event ∈ log.events, event = stored ∨ event ∈ s.log.events := by
    dsimp only [EventLog.append]
    split
    · rename_i existing hknown
      rw [hnew] at hknown
      cases hknown
    · exact ⟨_, rfl, fun event hmem => (EventLog.mem_insert ..).mp hmem⟩
  refine ⟨{ s with log }.goto (.caller number)
      (.publishing none stored stored (cfg.recipients stored)), stored,
    .single (l := .commit (.caller number) (.takes 0) (some (.ok stored))) ?_, ?_⟩
  · simp only [step, EventBus.commit, hlock, List.cons_append, List.head?_cons, h.next, happend,
      if_true, and_self]
  · have hmatching : ∀ index, index ∈ cfg.recipients stored ↔ cfg.matching index type = true := by
      intro index
      refine ⟨fun hmem => (List.mem_filter.mp hmem).2, fun hmatch => ?_⟩
      refine List.mem_filter.mpr ⟨?_, hmatch⟩
      unfold BusConfig.matching at hmatch
      split at hmatch
      · rename_i subscriber hsub
        exact List.mem_range.mpr (List.getElem?_eq_some_iff.mp hsub).1
      · cases hmatch
    have hframe : ∀ index, Served cfg type source s index number → Served cfg type source
        ({ s with log }.goto (.caller number)
          (.publishing none stored stored (cfg.recipients stored))) index number :=
      fun index hserved => hserved.frame (goto_pc_of_ne (by rintro ⟨⟩))
        (fun _ => goto_pc_of_ne (by rintro ⟨⟩)) rfl (fun _ _ hmem => hmem)
    refine ⟨⟨h.line, fun other hlt hother => ?_⟩, ⟨stored, goto_pc_self⟩, ⟨rfl, rfl, rfl⟩, ?_,
      (List.nodup_range).filter _, ?_, ?_, ?_⟩
    · refine (goto_pc_of_ne ?_).trans (h.waiting other hlt hother)
      rintro ⟨⟩
      omega
    · intro event hmem
      rcases hevents event hmem with rfl | hold
      · exact ⟨number, by omega, rfl⟩
      · obtain ⟨n, hn, heq⟩ := h.unstored event hold
        exact ⟨n, by omega, heq⟩
    · exact fun index hmem => (hmatching index).mp hmem
    · exact fun index hmatch hnot => absurd ((hmatching index).mpr hmatch) hnot
    · exact fun index hmem => hframe index (h.served index ((hmatching index).mp hmem))

/-- **A publish ends or is the deadlock**: by induction on the subscriptions it still
has to serve. -/
theorem Publishing.advance (hsize : 0 < cfg.queueSize) {rest : List Nat} {event : Event}
    (h : Publishing cfg type source s number last event rest) (hlast : number + 1 < last) :
    Doomed cfg s ∨ ∃ s', Reaches (step cfg) s s' ∧
      Stage cfg type source s' (number + 1) last := by
  induction rest generalizing s with
  | nil =>
    obtain ⟨stored, hpc⟩ := h.pc
    obtain ⟨tail, hlock⟩ := h.lock (by omega)
    refine Or.inr ⟨s.release.emitted (.caller number) none stored,
      .single (l := .publish (.caller number)) (by simp only [step, publish, hpc]), ?_⟩
    have hrelease : (s.release.emitted (.caller number) none stored).emitLock =
        (List.range' (number + 1) (last - (number + 1))).map .caller ++ tail := by
      change s.emitLock.tail = _
      rw [hlock]
      rfl
    have hothers : ∀ task, task ≠ .caller number →
        (s.release.emitted (.caller number) none stored).pc task = s.pc task :=
      fun task hne => goto_pc_of_ne hne
    refine ⟨⟨⟨tail, hrelease⟩, fun other hlt hother => ?_⟩, ?_, h.unstored, fun index hmatch => ?_⟩
    · rw [hothers _ (by rintro ⟨⟩; omega)]
      exact h.waiting other (by omega) hother
    · rw [hothers _ (by simp)]
      exact h.waiting (number + 1) (by omega) hlast
    · refine (h.served index hmatch (by simp)).frame (hothers _ (by rintro ⟨⟩))
        (fun _ => hothers _ (by rintro ⟨⟩)) rfl fun task hne hmem => ?_
      -- Another caller is first in line now, so who waited still does.
      rw [hlock, List.cons_append, List.tail_cons] at hmem
      rw [hrelease]
      rw [show last - (number + 1) = last - (number + 2) + 1 by omega, List.range'_succ] at hmem ⊢
      rcases List.mem_cons.mp hmem with rfl | hmem
      · exact absurd rfl (hne (number + 1))
      · exact hmem
  | cons index rest ih =>
    obtain ⟨stored, hpc⟩ := h.pc
    obtain ⟨tail, hlock⟩ := h.lock (by omega)
    have hserved := h.unserved index List.mem_cons_self
    by_cases hfull : Full cfg.queueSize (s.channel index).queue
    · refine Or.inl ⟨s, .refl s, .caller number, none, stored, event, index, rest, ?_, hpc, hfull,
        hserved.waits hfull⟩
      rw [hlock]
      rfl
    · let s₁ := (s.setChannel index { s.channel index with
        queue := (s.channel index).queue ++ [event] }).goto (.caller number)
          (.publishing none stored event rest)
      have hput : s.step cfg (.publish (.caller number)) = some s₁ := by
        simp only [step, publish, hpc, if_neg hfull]
        rfl
      have hothers : ∀ task, task ≠ .caller number → s₁.pc task = s.pc task :=
        fun task hne => goto_pc_of_ne hne
      obtain ⟨s₂, hreach, hlocal, hserved₂⟩ := hserved.accept (s := s₁) hsize h.isProbe hfull
        (by rw [show s₁.emitLock = s.emitLock from rfl, hlock]; simp) rfl
        (hothers _ (by rintro ⟨⟩)) (fun _ => hothers _ (by rintro ⟨⟩)) setChannel_channel_self
      have hcaller : ∀ other, s₂.pc (.caller other) = s₁.pc (.caller other) :=
        fun other => hlocal.pc _ (by rintro ⟨⟩) (by rintro _ ⟨⟩)
      have hframe : ∀ {other count : Nat}, other ≠ index →
          Served cfg type source s other count → Served cfg type source s₂ other count := by
        intro other count hne hold
        refine hold.frame ?_ (fun worker => ?_) ?_ (fun task _ hmem => hlocal.mem_tail hmem)
        · rw [hlocal.pc _ (by rintro ⟨⟩; exact hne rfl) (by rintro _ ⟨⟩)]
          exact hothers _ (by rintro ⟨⟩)
        · rw [hlocal.pc _ (by rintro ⟨⟩) (by rintro _ ⟨⟩; exact hne rfl)]
          exact hothers _ (by rintro ⟨⟩)
        · rw [hlocal.channel other hne]
          exact setChannel_channel_of_ne hne
      have hnodup := List.nodup_cons.mp h.nodup
      have hnext : Publishing cfg type source s₂ number last event rest := by
        refine ⟨⟨?_, fun other hlt hother => ?_⟩, ⟨stored, ?_⟩, h.isProbe, ?_, hnodup.2, ?_, ?_, ?_⟩
        · obtain ⟨line, hline⟩ := hlocal.line
          obtain ⟨behind, hfront⟩ := h.line
          refine ⟨behind ++ line, ?_⟩
          rw [hline, ← List.append_assoc, ← hfront]
          rfl
        · rw [hcaller, hothers _ (by rintro ⟨⟩; omega)]
          exact h.waiting other hlt hother
        · rw [hcaller]
          exact goto_pc_self
        · rw [Unstored, hlocal.log]
          exact h.unstored
        · exact fun other hmem => h.matching other (List.mem_cons_of_mem _ hmem)
        · intro other hmatch hnot
          by_cases heq : other = index
          · exact heq ▸ hserved₂
          · refine hframe heq (h.served other hmatch ?_)
            rintro hmem
            rcases List.mem_cons.mp hmem with rfl | hmem
            · exact heq rfl
            · exact hnot hmem
        · intro other hmem
          refine hframe ?_ (h.unserved other (List.mem_cons_of_mem _ hmem))
          rintro rfl
          exact hnodup.1 hmem
      have hrun := (Reaches.single hput).trans hreach
      rcases ih hnext with hdoom | ⟨s', hreach', hstage⟩
      · exact Or.inl (hdoom.of_reaches hrun)
      · exact Or.inr ⟨s', hrun.trans hreach', hstage⟩

/-! ## All of them -/

/-- The callers get in line before anybody else does anything. -/
theorem line_up (cfg : BusConfig) (type source : String) (last : Nat) :
    ∃ s, Reaches (step cfg) (create .empty) s ∧
      s.emitLock = (List.range' 0 last).map .caller ∧
      (∀ number < last, s.pc (.caller number) = .emitting none (probe type source number)) ∧
      (∀ number, last ≤ number → s.pc (.caller number) = .created) ∧
      (∀ task, (∀ number, task ≠ .caller number) → s.pc task = .idle) ∧
      s.log = .empty ∧ ∀ index, s.channel index = ⟨[], [], [], none⟩ := by
  induction last with
  | zero =>
    refine ⟨create .empty, .refl _, rfl, by omega, fun _ _ => rfl, fun task hne => ?_, rfl,
      fun _ => rfl⟩
    cases task with
    | caller number => exact absurd rfl (hne number)
    | subscription index => rfl
    | worker index number => rfl
  | succ last ih =>
    obtain ⟨s, hreach, hlock, hwaiting, hcreated, hidle, hlog, hchannel⟩ := ih
    let s' := s.request (.caller last) none (probe type source last)
    have hcall : s.step cfg (.call last (probe type source last)) = some s' := by
      simp only [step, call, hcreated last le_rfl]
      rfl
    have hothers : ∀ task, task ≠ .caller last → s'.pc task = s.pc task :=
      fun task hne => goto_pc_of_ne hne
    refine ⟨s', hreach.trans (.single hcall), ?_, fun number hn => ?_, fun number hn => ?_,
      fun task hne => ?_, hlog, hchannel⟩
    · change s.emitLock ++ [_] = _
      rw [hlock, List.range'_1_concat, List.map_append, Nat.zero_add]
      rfl
    · by_cases heq : number = last
      · exact heq ▸ goto_pc_self
      · rw [hothers _ (by simpa using heq)]
        exact hwaiting number (by omega)
    · rw [hothers _ (by simp; omega)]
      exact hcreated number (by omega)
    · rw [hothers _ (hne last)]
      exact hidle task hne

theorem response_enqueues {handler : Handler} {config : AgentQueueConfig}
    (h : handler.response type source = .enqueues config) : handler = .agent config := by
  cases handler with
  | observer => cases h
  | detectorEngine engineId => dsimp only [Handler.response] at h; split at h <;> cases h
  | memoryProjector => dsimp only [Handler.response] at h; split at h <;> cases h
  | agent config' =>
    dsimp only [Handler.response] at h
    split at h <;> cases h
    rfl

theorem stage_zero (cfg : BusConfig) (type source : String) {last : Nat} (hlast : 0 < last) :
    ∃ s, Reaches (step cfg) (create .empty) s ∧ Stage cfg type source s 0 last := by
  obtain ⟨s, hreach, hlock, hwaiting, -, hidle, hlog, hchannel⟩ := line_up cfg type source last
  refine ⟨s, hreach, ⟨⟨[], by simp [hlock]⟩, fun number _ hn => hwaiting number hn⟩,
    hwaiting 0 hlast, fun event hmem => ?_, fun index _ => ?_⟩
  · rw [hlog] at hmem
    cases hmem
  · have hpc : s.pc (.subscription index) = .idle := hidle _ (by simp)
    cases hresponse : (cfg.handler index).response type source with
    | ignores => exact .ignoring hresponse hpc (by rw [hchannel])
    | emits => exact .fresh hresponse rfl hpc (by rw [hchannel]) (by rw [hchannel]) (by rw [hchannel])
    | enqueues config =>
      refine .serving config (response_enqueues hresponse) hresponse ?_ hpc (by rw [hchannel])
        (by rw [hchannel]) (Nat.zero_le _) (by omega) fun number _ => hidle _ (by simp)
      rw [hchannel]
      exact fun _ hmem => by cases hmem

theorem stage_or_doomed (hsize : 0 < cfg.queueSize) (type source : String) {last : Nat}
    (number : Nat) (hlast : number < last) :
    Doomed cfg (create .empty) ∨ ∃ s, Reaches (step cfg) (create .empty) s ∧
      Stage cfg type source s number last := by
  induction number with
  | zero => exact Or.inr (stage_zero cfg type source hlast)
  | succ number ih =>
    rcases ih (by omega) with hdoom | ⟨s, hreach, hstage⟩
    · exact Or.inl hdoom
    · obtain ⟨s₁, event, hreach₁, hpublishing⟩ := hstage.commit (by omega)
      have hrun := hreach.trans hreach₁
      rcases hpublishing.advance hsize hlast with hdoom | ⟨s₂, hreach₂, hstage₂⟩
      · exact Or.inl (hdoom.of_reaches hrun)
      · exact Or.inr ⟨s₂, hrun.trans hreach₂, hstage₂⟩

/-- How many events a subscription takes whose handler comes to wait. -/
def capacity (cfg : BusConfig) : Handler → Nat
  | .agent config => config.workers + config.queueSize.toNat + 1 + cfg.queueSize.toNat
  | _ => cfg.queueSize.toNat + 1

theorem Served.le_capacity (hsize : 0 < cfg.queueSize)
    (h : Served cfg type source s index count) (hwait : (cfg.handler index).MayWait type)
    (hreacts : (cfg.handler index).response type source ≠ .ignores) :
    count ≤ capacity cfg (cfg.handler index) := by
  have hfloor : cfg.queueSize.toNat + 1 ≤ capacity cfg (cfg.handler index) := by
    cases cfg.handler index <;> dsimp only [capacity] <;> omega
  cases h with
  | ignoring hresponse => exact absurd hresponse hreacts
  | fresh _ hcount => omega
  | inLine _ _ hcount hfits => omega
  | serving config hagent _ _ _ _ _ hcount =>
    rw [hagent]
    dsimp only [capacity]
    omega
  | filling config hagent _ _ _ _ hcount hfits =>
    rw [hagent] at hwait ⊢
    have := hfits hwait.2.2
    dsimp only [capacity]
    omega
  | blocked config event hagent _ _ hfull hcount hfits =>
    have := hfull.1
    rw [hagent]
    dsimp only [capacity]
    omega

/-- Some source makes a handler react that may wait on the type. -/
theorem exists_source {handler : Handler} (hwait : handler.MayWait type) :
    ∃ source, handler.response type source ≠ .ignores := by
  cases handler with
  | observer => exact absurd hwait id
  | detectorEngine engineId =>
    refine ⟨engineId ++ "+", ?_⟩
    have hsource : ¬ (engineId ++ "+" = engineId ∨ "signal.".isPrefixOf type = true) := by
      rintro (heq | hsignal)
      · simpa using congrArg String.length heq
      · rw [show "signal.".isPrefixOf type = false from hwait] at hsignal
        cases hsignal
    rw [Handler.response, if_neg hsource]
    rintro ⟨⟩
  | memoryProjector =>
    refine ⟨"", ?_⟩
    rw [Handler.response, if_neg hwait]
    rintro ⟨⟩
  | agent config =>
    refine ⟨"", ?_⟩
    rw [Handler.response, if_pos ⟨hwait.1, hwait.2.1⟩]
    rintro ⟨⟩

/-- **Every bounded bus with a handler that may wait can deadlock.** -/
theorem deadlock_reachable (index : Nat) (hsize : 0 < cfg.queueSize)
    (hmatch : cfg.matching index type = true) (hwait : (cfg.handler index).MayWait type) :
    Doomed cfg (create .empty) := by
  obtain ⟨source, hreacts⟩ := exists_source hwait
  rcases stage_or_doomed hsize type source (capacity cfg (cfg.handler index) + 1)
    (Nat.lt_succ_self _) with hdoom | ⟨s, -, hstage⟩
  · exact hdoom
  · have hcount := (hstage.served index hmatch).le_capacity hsize hwait hreacts
    omega

/-- **Emits never deadlock if and only if** the bus is unbounded or no handler ever
waits, for the emit lock or for space in a bounded queue of its own. -/
theorem never_deadlocked_iff (cfg : BusConfig) :
    (∀ log labels s, Run (step cfg) Free (create log) labels s → ¬ Deadlocked cfg s) ↔
      cfg.queueSize ≤ 0 ∨ ∀ subscriber ∈ cfg.subscribers, subscriber.Passive := by
  constructor
  · intro hnever
    by_contra hnot
    rw [not_or] at hnot
    obtain ⟨hsize, hactive⟩ := hnot
    apply hactive
    intro subscriber hmem type hpattern hwait
    obtain ⟨index, hindex⟩ := List.getElem?_of_mem hmem
    obtain ⟨s, ⟨labels, hrun⟩, hdead⟩ := deadlock_reachable index (by omega)
      (show cfg.matching index type = true by rw [BusConfig.matching, hindex]; exact hpattern)
      (by rw [BusConfig.handler, hindex]; exact hwait)
    exact hnever .empty labels s hrun hdead
  · rintro (hsize | hpassive) log labels s hrun
    · exact not_deadlocked_of_unbounded hsize
    · have hundisturbed : Undisturbed cfg s :=
        hrun.invariant (create_undisturbed log) fun _ _ _ h _ hs => step_undisturbed hpassive h hs
      exact hundisturbed.not_deadlocked

/-- A bus of one place and one memory projector. -/
def onePlace : BusConfig := ⟨1, [⟨fun _ => true, .memoryProjector⟩]⟩

/-- Three callers emit at once; the projector handles the first event while the second
fills its queue and the third waits for space. -/
def threeEmits : List BusLabel :=
  let event := probe "external.message" "caller"
  let stored number := (event number).withSequence (number + 1)
  let commit number := BusLabel.commit (.caller number) (.takes 0) (some (.ok (stored number)))
  [.call 0 (event 0), .call 1 (event 1), .call 2 (event 2),
    commit 0, .publish (.caller 0), .publish (.caller 0),
    .get (.subscription 0), .begin 0, .emit (.subscription 0) (probe "memory.recorded" "memory" 9),
    commit 1, .publish (.caller 1), .publish (.caller 1), commit 2]

/-- The caller has the first subscription left. -/
def servesFirst : BusPc → Bool
  | .publishing _ _ _ rest => decide (rest = [0])
  | _ => false

theorem threeEmits_deadlock :
    ¬ ∀ (cfg : BusConfig) (log : EventLog) (labels : List BusLabel) (s : EventBus),
      Run (step cfg) Free (create log) labels s → ¬ Deadlocked cfg s := by
  intro hnever
  have hexec : (exec (step onePlace) Free (create .empty) threeEmits).any (fun s =>
      decide (s.emitLock = [.caller 2, .subscription 0]) &&
        decide ((s.channel 0).queue.length = 1) &&
        servesFirst (s.pc (.caller 2))) = true := by decide
  obtain ⟨s, hs, hstate⟩ := (Option.any_eq_true _ _).mp hexec
  rw [Bool.and_eq_true, Bool.and_eq_true, decide_eq_true_iff, decide_eq_true_iff] at hstate
  obtain ⟨⟨hlock, hlength⟩, hpc⟩ := hstate
  refine hnever onePlace .empty threeEmits s (Run.of_exec hs) ?_
  unfold servesFirst at hpc
  split at hpc
  · rename_i handled stored projected rest hpublishing
    rw [of_decide_eq_true hpc] at hpublishing
    refine ⟨.caller 2, handled, stored, projected, 0, [], by rw [hlock]; rfl, hpublishing, ?_, ?_⟩
    · exact ⟨by decide, by rw [hlength]; decide⟩
    · exact .lock (by rw [hlock]; decide)
  · cases hpc

end EventBus
end Noema
