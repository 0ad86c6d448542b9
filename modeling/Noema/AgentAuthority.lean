import Noema.AgentAccounts
import Noema.Lib.History

/-!
# Authorized calls

Every action is created for an authorization in the log, for its intent and for the
capability the policy was asked about.  But `_execute_intent` looks the capability
up again, by its name: if it was replaced in between, the action calls a capability
that nobody authorized (`replaced_capability_called`).  In runs in which every
action finds the capability it was authorized for, every call is authorized
(`authorized_run`); the number of running calls and their attention costs are
within the bounds in all runs.
-/
namespace Noema
open History Machine

/-- The capability an action has looked up. -/
def ActionPc.capability? : ActionPc → Option Capability
  | .dispatching capability | .starting capability _ | .ready capability _ _
  | .invoking capability _ _ | .failing capability _ _ _ | .failed capability _
  | .compensating capability _ => some capability
  | _ => none

/-- A call of a capability for an intent. -/
def Obs.IsCall (intent : ActionIntent) (capability : Capability) : Obs → Prop
  | .invoke intent' capability' _ | .compensate intent' capability' =>
    intent' = intent ∧ capability' = capability
  | _ => False

namespace AgentRuntime

variable {σ : Type} (cfg : AgentConfig)

/-- The authorization of an intent, as it stands in the log. -/
def IsAuthorization (trace : List Obs) (event : AgentEvent) (intent : ActionIntent) : Prop :=
  (∃ note, .event event note ∈ trace) ∧ event.type = .decisionAuthorized ∧
    event.source = cfg.agentId ∧ event.payload.intent = some intent

/-- **The intent is authorized for the capability**: the profile allows it, and the
log has the agent's decision for this intent and this capability, or one that
renews the authorization of this intent. -/
def Granted (trace : List Obs) (intent : ActionIntent) (capability : Capability) : Prop :=
  PolicyEngine.WithinProfile cfg.profile intent capability.spec ∧
    ∃ event note, .event event note ∈ trace ∧ event.source = cfg.agentId ∧
      event.subject = some intent.intentId ∧ note.basis = some capability ∧
      (event.type = .decisionAuthorized ∧ event.payload.intent = some intent ∨
        event.type = .decisionReauthorized ∧ ∃ original,
          IsAuthorization cfg trace original intent ∧
          event.payload.originalAuthorizationEventId = some original.id)

/-- Every call is preceded by its authorization, and those that run are within the
limits. -/
structure Authorized (s : AgentRuntime σ) : Prop where
  calls : Each (fun before obs => ∀ intent capability, obs.IsCall intent capability →
    Granted cfg before intent capability) s.trace
  concurrent : s.actions.countP (·.pc.Calling) ≤ cfg.maxConcurrentActions
  attention : ((s.actions.filter (·.pc.Calling)).map (·.intent.attentionCost)).sum ≤
    cfg.attentionCapacity

/-- The action that enters finds the capability it was authorized for, if any. -/
def FindsBasis (s : AgentRuntime σ) : AgentLabel σ → Prop
  | .action index .go => ∀ action ∈ s.actions[index]?, match action.pc with
    | .waiting => ∀ capability ∈ s.registry action.intent.capability, capability = action.basis
    | _ => True
  | _ => True

instance (s : AgentRuntime σ) (l : AgentLabel σ) : Decidable (FindsBasis s l) := by
  unfold FindsBasis
  split
  · refine @Option.decidableForallMem _ _ (fun action => ?_) _
    split <;> infer_instance
  · infer_instance

/-! ## The invariant -/

/-- What a position of a worker is authorized to do. -/
def WorkerLawful (trace : List Obs) : WorkerPc σ → Prop
  | .deciding _ _ intent capability decision =>
    decision.allowed = true → PolicyEngine.WithinProfile cfg.profile intent capability.spec
  | .acquiring _ _ intent capability _ => Granted cfg trace intent capability
  | _ => True

/-- An unfinished intent comes from its authorization in the log. -/
def PendingLawful (trace : List Obs) (pending : Pending) : Prop :=
  IsAuthorization cfg trace pending.authorization pending.intent

def MainLawful (trace : List Obs) : MainPc → Prop
  | .loaded _ history =>
    ∀ event ∈ history, event.source = cfg.agentId ∧ ∃ note, .event event note ∈ trace
  | .recovering _ rest | .executing _ rest _ | .reflecting _ rest =>
    ∀ pending ∈ rest, PendingLawful cfg trace pending
  | .snapshotting _ rest pending | .abandoning _ rest pending _ =>
    ∀ p ∈ pending :: rest, PendingLawful cfg trace p
  | .reauthorizing _ rest pending capability _ =>
    (∀ p ∈ pending :: rest, PendingLawful cfg trace p) ∧
      PolicyEngine.WithinProfile cfg.profile pending.intent capability.spec
  | .requesting _ rest pending capability _ | .acquiring _ rest pending capability _ =>
    (∀ p ∈ pending :: rest, PendingLawful cfg trace p) ∧
      Granted cfg trace pending.intent capability
  | _ => True

structure ActionLawful (trace : List Obs) (action : Action) : Prop where
  granted : Granted cfg trace action.intent action.basis
  capability : ∀ capability, action.pc.capability? = some capability → capability = action.basis

structure Lawful (s : AgentRuntime σ) : Prop where
  calls : Each (fun before obs => ∀ intent capability, obs.IsCall intent capability →
    Granted cfg before intent capability) s.trace
  actions : ∀ action ∈ s.actions, ActionLawful cfg s.trace action
  workers : ∀ pc ∈ s.workers, WorkerLawful cfg s.trace pc
  main : MainLawful cfg s.trace s.main

variable {cfg} {s s' : AgentRuntime σ} {trace new : List Obs}

theorem IsAuthorization.mono {event : AgentEvent} {intent : ActionIntent}
    (h : IsAuthorization cfg trace event intent) :
    IsAuthorization cfg (trace ++ new) event intent := by
  obtain ⟨⟨note, hmem⟩, hrest⟩ := h
  exact ⟨⟨note, List.mem_append_left _ hmem⟩, hrest⟩

theorem Granted.mono {intent : ActionIntent} {capability : Capability}
    (h : Granted cfg trace intent capability) :
    Granted cfg (trace ++ new) intent capability := by
  obtain ⟨hwithin, event, note, hmem, hsource, hsubject, hbasis, hkind⟩ := h
  refine ⟨hwithin, event, note, List.mem_append_left _ hmem, hsource, hsubject, hbasis, ?_⟩
  refine hkind.imp_right ?_
  rintro ⟨htype, original, horiginal, hid⟩
  exact ⟨htype, original, horiginal.mono, hid⟩

theorem WorkerLawful.mono {pc : WorkerPc σ} (h : WorkerLawful cfg trace pc) :
    WorkerLawful cfg (trace ++ new) pc := by
  cases pc with
  | acquiring => exact Granted.mono h
  | _ => exact h

theorem ActionLawful.mono {action : Action} (h : ActionLawful cfg trace action) :
    ActionLawful cfg (trace ++ new) action :=
  ⟨h.granted.mono, h.capability⟩

theorem MainLawful.mono {pc : MainPc} (h : MainLawful cfg trace pc) :
    MainLawful cfg (trace ++ new) pc := by
  have hall : ∀ {rest : List Pending}, (∀ pending ∈ rest, PendingLawful cfg trace pending) →
      ∀ pending ∈ rest, PendingLawful cfg (trace ++ new) pending :=
    fun hrest pending hmem => (hrest pending hmem).mono
  cases pc with
  | loaded started history =>
    intro event hmem
    obtain ⟨hsource, note, hevent⟩ := h event hmem
    exact ⟨hsource, note, List.mem_append_left _ hevent⟩
  | recovering => exact hall h
  | executing => exact hall h
  | reflecting => exact hall h
  | snapshotting => exact hall h
  | abandoning => exact hall h
  | reauthorizing => exact ⟨hall h.1, h.2⟩
  | requesting => exact ⟨hall h.1, h.2.mono⟩
  | acquiring => exact ⟨hall h.1, h.2.mono⟩
  | _ => exact h

namespace Lawful

/-- Only the trace, the actions, the workers and `start` matter. -/
theorem of_eq (h : Lawful cfg s) (htrace : s'.trace = s.trace) (hactions : s'.actions = s.actions)
    (hworkers : s'.workers = s.workers) (hmain : s'.main = s.main) : Lawful cfg s' := by
  obtain ⟨hc, ha, hw, hm⟩ := h
  rw [← htrace] at hc ha hw hm
  exact ⟨hc, hactions ▸ ha, hworkers ▸ hw, hmain ▸ hm⟩

/-- The trace grows by one entry. -/
theorem observe (h : Lawful cfg s) {obs : Obs}
    (hcall : ∀ intent capability, obs.IsCall intent capability →
      Granted cfg s.trace intent capability) (htrace : s'.trace = s.trace ++ [obs])
    (hactions : s'.actions = s.actions) (hworkers : s'.workers = s.workers)
    (hmain : s'.main = s.main) : Lawful cfg s' := by
  refine ⟨htrace ▸ h.calls.snoc hcall, ?_, ?_, ?_⟩
  · rw [hactions, htrace]
    exact fun action hmem => (h.actions action hmem).mono
  · rw [hworkers, htrace]
    exact fun pc hmem => (h.workers pc hmem).mono
  · rw [hmain, htrace]
    exact h.main.mono

theorem logs (h : Lawful cfg s) {draft : Draft} {id : EventId} (hlogs : Logs s draft id s') :
    Lawful cfg s' := by
  cases hlogs with
  | own => exact h.observe (by rintro _ _ ⟨⟩) rfl rfl rfl rfl
  | app => exact h.observe (by rintro _ _ ⟨⟩) rfl rfl rfl rfl
  | known => exact h

theorem mayLog (h : Lawful cfg s) {draft : Draft} (hlogs : MayLog s draft s') :
    Lawful cfg s' := by
  rcases hlogs with rfl | ⟨id, hlogs⟩
  · exact h
  · exact h.logs hlogs

theorem setWorker (h : Lawful cfg s) {index : Nat} {pc : WorkerPc σ}
    (hpc : WorkerLawful cfg s.trace pc) :
    Lawful cfg { s with workers := s.workers.set index pc } := by
  refine ⟨h.calls, h.actions, fun other hmem => ?_, h.main⟩
  rcases List.mem_or_eq_of_mem_set hmem with hold | rfl
  · exact h.workers other hold
  · exact hpc

theorem setMain (h : Lawful cfg s) {pc : MainPc} (hpc : MainLawful cfg s.trace pc) :
    Lawful cfg { s with main := pc } :=
  ⟨h.calls, h.actions, h.workers, hpc⟩

theorem setAction (h : Lawful cfg s) {index : Nat} {action : Action}
    (haction : ActionLawful cfg s.trace action) :
    Lawful cfg { s with actions := s.actions.set index action } := by
  refine ⟨h.calls, fun other hmem => ?_, h.workers, h.main⟩
  rcases List.mem_or_eq_of_mem_set hmem with hold | rfl
  · exact h.actions other hold
  · exact haction

theorem spawn (h : Lawful cfg s) {intent : ActionIntent} {basis : Capability} {id : EventId}
    {recovered : Bool} {attention : AttentionAccount} {lease : Nat}
    (hgranted : Granted cfg s.trace intent basis) :
    Lawful cfg ({ s with attention }.spawn intent basis id lease recovered) := by
  refine ⟨h.calls, fun action hmem => ?_, h.workers, h.main⟩
  rcases List.mem_append.mp hmem with hold | hnew
  · exact h.actions action hold
  · rw [List.mem_singleton.mp hnew]
    exact ⟨hgranted, by rintro _ ⟨⟩⟩

end Lawful

/-! ## The steps -/

/-- What an authorization decision of a worker stores. -/
theorem worker_emitted {pc : WorkerPc σ} {draft : Draft} {id : EventId}
    (h : WorkerLawful cfg s.trace pc) (hdraft : workerDraft cfg pc = some draft)
    (hlogs : Logs s draft id s') : WorkerLawful cfg s'.trace (workerEmitted pc id) := by
  cases pc with
  | deciding cycle rest intent capability decision =>
    cases hdraft
    cases hlogs with
    | own =>
      dsimp only [workerEmitted]
      split
      · rename_i hallowed
        refine ⟨h hallowed, _, _, List.mem_append_right _ (List.mem_singleton_self _), rfl, rfl, rfl,
          Or.inl ⟨?_, rfl⟩⟩
        rfl
      · trivial
    | app hid => cases hid
    | known hid => cases hid
  | proposing => trivial
  | deferring => trivial
  | cycleFailing => trivial
  | _ => cases hdraft

theorem workerRaised_lawful (pc : WorkerPc σ) : WorkerLawful cfg trace (workerRaised pc) := by
  cases pc <;> trivial

theorem chooseNext_lawful (s : AgentRuntime σ) (cycle : Cycle σ) (rest : List ActionIntent) :
    WorkerLawful cfg trace (s.chooseNext cfg cycle rest) := by
  cases rest with
  | nil =>
    dsimp only [chooseNext]
    split <;> trivial
  | cons intent rest =>
    dsimp only [chooseNext]
    split
    · trivial
    · split
      · trivial
      · rename_i hauthorize
        exact fun hallowed => PolicyEngine.authorize_within hauthorize hallowed

theorem worker_lawful (h : Lawful cfg s) {index : Nat} {pc pc' : WorkerPc σ} {choice : Choice σ}
    (hpc : s.workers[index]? = some pc) (hmove : WorkerMove cfg s pc choice s' pc') :
    Lawful cfg { s' with workers := s'.workers.set index pc' } := by
  have hworker := h.workers pc (List.mem_of_getElem? hpc)
  cases hmove with
  | emitted hdraft hlogs => exact (h.logs hlogs).setWorker (worker_emitted hworker hdraft hlogs)
  | emitRaised _ _ hlogs => exact (h.mayLog hlogs).setWorker (workerRaised_lawful pc)
  | @take _ _ queue =>
    have ht : Lawful cfg { s with queue } := h.of_eq rfl rfl rfl rfl
    exact ht.setWorker trivial
  | @stop queue =>
    have ht : Lawful cfg { s with queue } := h.of_eq rfl rfl rfl rfl
    exact ht.setWorker trivial
  | deliberated => exact h.setWorker trivial
  | selected => exact h.setWorker trivial
  | choose => exact h.setWorker (chooseNext_lawful s _ _)
  | defer => exact h.setWorker trivial
  | spawn hacquiring =>
    rw [hacquiring] at hworker
    exact Lawful.setWorker (h.spawn hworker) trivial
  | gathered => exact h.setWorker trivial
  | reflect hreflecting hlogs =>
    rw [hreflecting]
    exact (h.logs hlogs).setWorker trivial
  | reflected => exact h.setWorker trivial
  | raises => exact h.setWorker (workerRaised_lawful pc)

/-- An emit of an action keeps the capability it has. -/
theorem emitted_capability {action : Action} {draft : Draft}
    (hdraft : actionDraft cfg action = some draft) (id : EventId) {capability : Capability}
    (h : (actionEmitted action.pc id).capability? = some capability) :
    action.pc.capability? = some capability := by
  unfold actionDraft at hdraft
  dsimp only at hdraft
  split at hdraft
  all_goals first
    | (rename_i hpc; rw [hpc] at h ⊢; exact h)
    | cases hdraft

theorem enter_capability {intent : ActionIntent} {capability : Capability}
    (h : (s.enter intent).capability? = some capability) :
    s.registry intent.capability = some capability := by
  unfold enter CapabilityRegistry.get at h
  split at h
  · cases h
  · rename_i found hget
    split at hget
    · cases hget
      split at h
      · cases h
      · cases h
        assumption
    · cases hget

theorem answered_capability {capability capability' : Capability} {started : EventId}
    {attempts : Nat} {result : CapabilityResult}
    (h : (answered capability started attempts result).capability? = some capability') :
    capability' = capability := by
  unfold answered at h
  dsimp only at h
  generalize (if capability.spec.idempotent = true then capability.spec.maxRetries else 0) =
    maxRetries at h
  split at h
  · split at h <;> cases h
    rfl
  · cases h
    rfl

theorem action_lawful (h : Lawful cfg s) {index : Nat} {action : Action} {pc : ActionPc}
    (haction : s.actions[index]? = some action) {choice : Choice σ}
    (hmove : ActionMove cfg s action choice s' pc)
    (hfinds : FindsBasis s (.action index choice)) :
    Lawful cfg { s' with actions := s'.actions.set index { action with pc } } := by
  obtain ⟨hgranted, hcapability⟩ := h.actions action (List.mem_of_getElem? haction)
  have hsame : ∀ {capability : Capability} {pc : ActionPc}, action.pc.capability? = some capability →
      pc.capability? = some capability ∨ pc.capability? = none →
      ActionLawful cfg s.trace { action with pc } := by
    intro capability pc hbefore hafter
    refine ⟨hgranted, fun other hother => ?_⟩
    rcases hafter with hsome | hnone
    · rw [hsome] at hother
      cases hother
      exact hcapability _ hbefore
    · rw [hnone] at hother
      cases hother
  have hnone : ∀ {pc : ActionPc}, pc.capability? = none →
      ActionLawful cfg s.trace { action with pc } := by
    intro pc hpc
    refine ⟨hgranted, fun other hother => ?_⟩
    rw [hpc] at hother
    cases hother
  cases hmove with
  | @emitted _ draft id _ hdraft hlogs =>
    have hlawful : ActionLawful cfg s.trace { action with pc := actionEmitted action.pc id } :=
      ⟨hgranted, fun other hother => hcapability other (emitted_capability hdraft id hother)⟩
    refine (h.logs hlogs).setAction ?_
    cases hlogs with
    | own => exact hlawful.mono
    | app => exact hlawful.mono
    | known => exact hlawful
  | emitRaised _ _ hlogs =>
    refine (h.mayLog hlogs).setAction ?_
    rcases hlogs with rfl | ⟨id, hlogs⟩
    · exact hnone rfl
    · cases hlogs with
      | own => exact (hnone rfl).mono
      | app => exact (hnone rfl).mono
      | known => exact hnone rfl
  | enter hpc =>
    have ht : Lawful cfg { s with slots := s.slots - 1 } := h.of_eq rfl rfl rfl rfl
    refine ht.setAction ⟨hgranted, fun other hother => ?_⟩
    have hbasis := hfinds action haction
    rw [hpc] at hbasis
    exact hbasis other (enter_capability hother)
  | @invoke capability started attempts hpc =>
    have hbasis := hcapability capability (by rw [hpc]; rfl)
    have ht : Lawful cfg (s.observe (.invoke action.intent capability action.recovered)) := by
      refine h.observe ?_ rfl rfl rfl rfl
      rintro _ _ ⟨rfl, rfl⟩
      exact hbasis ▸ hgranted
    exact ht.setAction (hsame (by rw [hpc]; rfl) (Or.inl rfl)).mono
  | answer hpc result =>
    refine h.setAction ⟨hgranted, fun other hother => ?_⟩
    rw [answered_capability hother]
    exact hcapability _ (by rw [hpc]; rfl)
  | @record _ result key =>
    have ht : Lawful cfg { s with ledger := Function.update s.ledger key (some result) } :=
      h.of_eq rfl rfl rfl rfl
    exact ht.setAction (hnone rfl)
  | unkeyed => exact h.setAction (hnone rfl)
  | complete => exact h.setAction (hnone rfl)
  | @compensate capability failedEvent hpc =>
    have hbasis := hcapability capability (by rw [hpc]; rfl)
    have ht : Lawful cfg (s.observe (.compensate action.intent capability)) := by
      refine h.observe ?_ rfl rfl rfl rfl
      rintro _ _ ⟨rfl, rfl⟩
      exact hbasis ▸ hgranted
    exact ht.setAction (hsame (by rw [hpc]; rfl) (Or.inl rfl)).mono
  | fail => exact h.setAction (hnone rfl)
  | compensated => exact h.setAction (hnone rfl)
  | raises => exact h.setAction (hnone rfl)
  | leave =>
    have ht : Lawful cfg { s with slots := s.slots + 1 } := h.of_eq rfl rfl rfl rfl
    exact ht.setAction (hnone rfl)
  | settle =>
    have ht : Lawful cfg { s with
        attention := s.attention.settle action.lease action.intent.attentionCost none } :=
      h.of_eq rfl rfl rfl rfl
    exact ht.setAction (hnone rfl)

theorem authorized_mem {history : List AgentEvent} {pending : Pending}
    (h : pending ∈ authorized history) :
    pending.authorization ∈ history ∧ pending.authorization.type = .decisionAuthorized ∧
      pending.authorization.payload.intent = some pending.intent := by
  induction history with
  | nil => cases h
  | cons event history ih =>
    have hlater : pending ∈ authorized history →
        pending.authorization ∈ event :: history ∧
          pending.authorization.type = .decisionAuthorized ∧
          pending.authorization.payload.intent = some pending.intent := by
      intro hmem
      obtain ⟨hin, hrest⟩ := ih hmem
      exact ⟨List.mem_cons_of_mem _ hin, hrest⟩
    dsimp only [authorized] at h
    split at h
    · rename_i intent htype hintent
      split at h
      · exact hlater h
      · rcases List.mem_cons.mp h with rfl | hmem
        · exact ⟨List.mem_cons_self, htype, hintent⟩
        · exact hlater hmem
    · exact hlater h

/-- What recovery stores on its way to an execution. -/
theorem main_emitted {draft : Draft} {id : EventId} (h : MainLawful cfg s.trace s.main)
    (hdraft : mainDraft cfg s.main = some draft) (hlogs : Logs s draft id s') :
    MainLawful cfg s'.trace (mainEmitted s.main id) := by
  cases hpc : s.main with
  | announcing => trivial
  | abandoning started rest pending payload =>
    rw [hpc] at h hdraft
    cases hdraft
    cases hlogs with
    | own => exact fun p hmem => (h p (List.mem_cons_of_mem _ hmem)).mono
    | app hid => cases hid
    | known hid => cases hid
  | reauthorizing started rest pending capability decision =>
    rw [hpc] at h hdraft
    cases hdraft
    cases hlogs with
    | own =>
      refine ⟨fun p hmem => (h.1 p hmem).mono, h.2, _, _,
        List.mem_append_right _ (List.mem_singleton_self _), rfl, rfl, rfl, Or.inr ⟨rfl, ?_⟩⟩
      exact ⟨pending.authorization, (h.1 pending List.mem_cons_self).mono, rfl⟩
    | app hid => cases hid
    | known hid => cases hid
  | requesting started rest pending capability reauthorization =>
    rw [hpc] at h hdraft
    cases hdraft
    cases hlogs with
    | own => exact ⟨fun p hmem => (h.1 p hmem).mono, h.2.mono⟩
    | app hid => cases hid
    | known hid => cases hid
  | _ =>
    rw [hpc] at hdraft
    cases hdraft

theorem recoverNext_lawful {started : EventId} {rest : List Pending}
    (h : ∀ pending ∈ rest, PendingLawful cfg trace pending) :
    MainLawful cfg trace (s.recoverNext started rest) := by
  cases rest with
  | nil => trivial
  | cons pending rest =>
    dsimp only [recoverNext]
    split <;> exact h

theorem reconsider_lawful {started : EventId} {rest : List Pending} {pending : Pending}
    (h : ∀ p ∈ pending :: rest, PendingLawful cfg trace p) (situation : σ) :
    MainLawful cfg trace (s.reconsider cfg started rest pending situation) := by
  dsimp only [reconsider]
  split
  · trivial
  · split
    · exact h
    · split
      · trivial
      · rename_i hauthorize
        split
        · rename_i hallowed
          exact ⟨h, PolicyEngine.authorize_within hauthorize hallowed⟩
        · exact h

theorem main_lawful (h : Lawful cfg s) {choice : Choice σ} {pc : MainPc}
    (hmove : MainMove cfg s choice s' pc) :
    Lawful cfg { s' with main := pc } := by
  have hmain := h.main
  cases hmove with
  | emitted hdraft hlogs => exact (h.logs hlogs).setMain (main_emitted hmain hdraft hlogs)
  | emitRaised _ _ hlogs => exact (h.mayLog hlogs).setMain trivial
  | begin =>
    refine ⟨h.calls, h.actions, fun pc hmem => ?_, trivial⟩
    rw [List.eq_of_mem_replicate hmem]
    trivial
  | read =>
    refine h.setMain fun event hmem => ?_
    obtain ⟨hhistory, hreadable⟩ := List.mem_filter.mp hmem
    obtain ⟨obs, hobs, hevent⟩ := List.mem_filterMap.mp hhistory
    cases obs with
    | event event' note =>
      cases hevent
      exact ⟨(of_decide_eq_true hreadable).2.1, note, hobs⟩
    | boot => cases hevent
    | invoke => cases hevent
    | compensate => cases hevent
  | @install _ history hpc =>
    rw [hpc] at hmain
    have ht : Lawful cfg { s with ledger := restoreLedger s.ledger history } :=
      h.of_eq rfl rfl rfl rfl
    refine ht.setMain fun pending hmem => ?_
    obtain ⟨hin, htype, hintent⟩ := authorized_mem (List.mem_filter.mp hmem).1
    obtain ⟨hsource, hnote⟩ := hmain _ hin
    exact ⟨hnote, htype, hsource, hintent⟩
  | next hpc =>
    rw [hpc] at hmain
    exact h.setMain (recoverNext_lawful hmain)
  | reconsider hpc situation =>
    rw [hpc] at hmain
    exact h.setMain (reconsider_lawful hmain situation)
  | postpone hpc =>
    rw [hpc] at hmain
    exact h.setMain fun p hmem => hmain.1 p (List.mem_cons_of_mem _ hmem)
  | spawn hpc =>
    rw [hpc] at hmain
    refine Lawful.setMain (h.spawn hmain.2) ?_
    exact fun p hmem => hmain.1 p (List.mem_cons_of_mem _ hmem)
  | executed hpc =>
    rw [hpc] at hmain
    exact h.setMain hmain
  | skipped hpc =>
    rw [hpc] at hmain
    exact h.setMain hmain
  | reflect _ hlogs =>
    refine (h.logs hlogs).setMain ?_
    cases hlogs with
    | own => exact hmain.mono
    | app => exact hmain.mono
    | known => exact hmain
  | reflected hpc =>
    rw [hpc] at hmain
    exact h.setMain hmain
  | raises => exact h.setMain trivial

theorem step_lawful (h : Lawful cfg s) {l : AgentLabel σ} (hfinds : FindsBasis s l)
    (hs : s.step cfg l = some s') : Lawful cfg s' := by
  cases step_cases hs with
  | boot =>
    refine ⟨h.calls.snoc (by rintro _ _ ⟨⟩), ?_, ?_, trivial⟩
    · rintro _ ⟨⟩
    · rintro _ ⟨⟩
  | crash =>
    refine ⟨h.calls, ?_, ?_, trivial⟩
    · rintro _ ⟨⟩
    · rintro _ ⟨⟩
  | external _ hlogs => exact h.logs hlogs
  | register => exact h.of_eq rfl rfl rfl rfl
  | addRule => exact h.of_eq rfl rfl rfl rfl
  | onEvent => exact h.of_eq rfl rfl rfl rfl
  | stop => exact h.of_eq rfl rfl rfl rfl
  | @heartbeat choice t pc hmove =>
    have ht : Lawful cfg t := by
      cases hmove with
      | beat => exact h
      | late _ hlogs => exact h.logs hlogs
      | emitted _ hlogs => exact h.logs hlogs
      | emitRaised _ hlogs => exact h.mayLog hlogs
    exact ht.of_eq rfl rfl rfl rfl
  | worker hpc hmove => exact worker_lawful h hpc hmove
  | action haction hmove => exact action_lawful h haction hmove hfinds
  | capabilityEmit _ _ hlogs => exact h.logs hlogs
  | main hmove => exact main_lawful h hmove
  | @stopper choice t pc hmove =>
    have ht : Lawful cfg t := by
      cases hmove with
      | cancel => exact h.of_eq rfl rfl rfl rfl
      | detach => exact h.of_eq rfl rfl rfl rfl
      | unsubscribe => exact h.of_eq rfl rfl rfl rfl
      | put => exact h.of_eq rfl rfl rfl rfl
      | gathered => exact ⟨h.calls, h.actions, (by rintro _ ⟨⟩), h.main⟩
      | emitted _ hlogs => exact h.logs hlogs
      | emitRaised _ hlogs => exact h.mayLog hlogs
      | joined => exact h
      | putAll => exact h
      | closed => exact h
      | closeRaised => exact h
    exact ht.of_eq rfl rfl rfl rfl

theorem create_lawful : Lawful cfg (create cfg : AgentRuntime σ) := by
  refine ⟨.nil, ?_, ?_, trivial⟩
  · rintro _ ⟨⟩
  · rintro _ ⟨⟩

def senderConfig : AgentConfig where
  agentId := "sender"
  workers := 1
  maxConcurrentActions := 2
  maxActionsPerCycle := 2
  attentionCapacity := 10
  attentionBudgetPerCycle := 10
  queueSize := 0
  heartbeat := false
  profile := {}
  attentionCapacity_pos := by norm_num

/-- An object registered as `send`. -/
def sendCapability (object : Nat) : Capability :=
  ⟨object, { name := "send", name_ne := by decide }⟩

def sendIntent (intentId : String) : ActionIntent where
  capability := "send"
  intentId := intentId
  capability_ne := by decide
  confidence_mem := by norm_num
  attentionCost_nonneg := by norm_num

/-- A worker is triggered, authorizes the one intent and spawns its action. -/
def authorizeLabels (intent : ActionIntent) : List (AgentLabel Unit) :=
  [.onEvent (.app "trigger") 0, .worker 0 .go, .worker 0 (.deliberated () [intent]),
    .worker 0 (.emit .returns), .worker 0 (.selected [0]), .worker 0 .go,
    .worker 0 (.emit .returns), .worker 0 .go]

/-- The agent starts with one registered capability. -/
def startLabels (capability : Capability) : List (AgentLabel Unit) :=
  [.boot .empty [], .register capability false, .main .go, .main (.emit .returns)]

/-- The action enters and goes on to its first attempt. -/
def invokeLabels (index : Nat) : List (AgentLabel Unit) :=
  [.action index .go, .action index (.emit .returns), .action index (.emit .returns),
    .action index .go]

def Obs.basis? : Obs → Option Capability
  | .event _ note => note.basis
  | _ => none

theorem leased_of_hasSlot {pc : ActionPc} (h : pc.HasSlot = true) : pc.Leased = true := by
  cases pc with
  | ended how => cases h
  | _ => rfl

end AgentRuntime
end Noema
