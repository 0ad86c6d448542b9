import Noema.AgentMoves
import Noema.Lib.TaskPool

/-!
# Slots and leases

Whatever happens, an action holds a slot of the semaphore from the time it enters
until it leaves, and its lease until it is settled; nobody else holds either
(`Accounts`).  So the calls that run are at most `max_concurrent_actions` and their
attention costs at most the capacity, and when all actions have ended the whole
capacity is available.
-/
namespace Noema
open Machine TaskPool

/-- The action is inside the semaphore. -/
def ActionPc.HasSlot : ActionPc → Bool
  | .waiting | .settling _ | .ended _ => false
  | _ => true

/-- The action's lease is not settled yet. -/
def ActionPc.Leased : ActionPc → Bool
  | .ended _ => false
  | _ => true

/-- The action's entry in the books of the account. -/
def Action.reservation (action : Action) : Nat × ℚ := (action.lease, action.intent.attentionCost)

namespace AgentRuntime

variable {σ : Type} (cfg : AgentConfig)

structure Accounts (s : AgentRuntime σ) : Prop where
  slots : s.slots + s.actions.countP (·.pc.HasSlot) = cfg.maxConcurrentActions
  balanced : s.attention.Balanced
  capacity : s.attention.capacity = cfg.attentionCapacity
  leases : s.attention.leases.Perm ((s.actions.filter (·.pc.Leased)).map Action.reservation)

variable {cfg} {s s' : AgentRuntime σ}

theorem create_accounts : Accounts cfg (create cfg : AgentRuntime σ) :=
  ⟨rfl, AttentionAccount.create_balanced cfg.attentionCapacity_pos.le, rfl, .refl _⟩

/-- An action that emits is inside the semaphore, and stays there. -/
theorem hasSlot_of_draft {action : Action} {draft : Draft}
    (h : actionDraft cfg action = some draft) (id : EventId) :
    action.pc.HasSlot = true ∧ (actionEmitted action.pc id).HasSlot = true := by
  unfold actionDraft at h
  dsimp only at h
  split at h
  all_goals first
    | (rename_i hpc; rw [hpc]; exact ⟨rfl, rfl⟩)
    | cases h

theorem enter_hasSlot (intent : ActionIntent) : (s.enter intent).HasSlot = true := by
  unfold enter
  split
  · rfl
  · split <;> rfl

theorem answered_hasSlot (capability : Capability) (started : EventId) (attempts : Nat)
    (result : CapabilityResult) :
    (answered capability started attempts result).HasSlot = true := by
  unfold answered
  dsimp only
  generalize (if capability.spec.idempotent = true then capability.spec.maxRetries else 0) =
    maxRetries
  split
  · split <;> rfl
  · rfl

theorem ActionPc.leased_of_hasSlot {pc : ActionPc} (h : pc.HasSlot = true) : pc.Leased = true := by
  cases pc <;> first | rfl | cases h

namespace Accounts

theorem of_eq (h : Accounts cfg s) (hslots : s'.slots = s.slots)
    (hattention : s'.attention = s.attention) (hactions : s'.actions = s.actions) :
    Accounts cfg s' := by
  obtain ⟨hs, hb, hc, hl⟩ := h
  rw [← hattention] at hb hc hl
  rw [← hactions] at hs hl
  exact ⟨hslots ▸ hs, hb, hc, hl⟩

theorem logs (h : Accounts cfg s) {draft : Draft} {id : EventId} (hlogs : Logs s draft id s') :
    Accounts cfg s' := by
  cases hlogs with
  | own => exact h.of_eq rfl rfl rfl
  | app => exact h.of_eq rfl rfl rfl
  | known => exact h

theorem mayLog (h : Accounts cfg s) {draft : Draft} (hlogs : MayLog s draft s') :
    Accounts cfg s' := by
  rcases hlogs with rfl | ⟨id, hlogs⟩
  · exact h
  · exact h.logs hlogs

/-- One action moves; its slot goes back or is taken, and its lease stays. -/
theorem set (h : Accounts cfg s) {index : Nat} {action : Action} {pc : ActionPc}
    (haction : s.actions[index]? = some action)
    (hslots : s'.slots + (if pc.HasSlot then 1 else 0) =
      s.slots + (if action.pc.HasSlot then 1 else 0))
    (hleased : pc.Leased = action.pc.Leased) (hattention : s'.attention = s.attention)
    (hactions : s'.actions = s.actions.set index { action with pc }) : Accounts cfg s' := by
  obtain ⟨others, hbefore, hafter⟩ := perm_set haction
  have hcount := hbefore.countP_eq (·.pc.HasSlot)
  have hcount' := (hafter { action with pc }).countP_eq (·.pc.HasSlot)
  rw [List.countP_cons] at hcount hcount'
  dsimp only at hcount hcount'
  refine ⟨?_, hattention ▸ h.balanced, hattention ▸ h.capacity, ?_⟩
  · have := h.slots
    rw [hactions, hcount']
    omega
  · rw [hattention, hactions]
    refine h.leases.trans ?_
    refine ((hbefore.filter _).map _).trans (.trans ?_ (((hafter _).filter _).map _).symm)
    rw [List.filter_cons, List.filter_cons]
    simp only [hleased]
    split
    · exact .refl _
    · exact .refl _

/-- The last step of an action settles its lease. -/
theorem settle (h : Accounts cfg s) {index : Nat} {action : Action} {how : ActionEnd}
    (haction : s.actions[index]? = some action) (hpc : action.pc = .settling how) :
    Accounts cfg { s with
      attention := s.attention.settle action.lease action.intent.attentionCost none
      actions := s.actions.set index { action with pc := .ended how } } := by
  obtain ⟨others, hbefore, hafter⟩ := perm_set haction
  have hcount := hbefore.countP_eq (·.pc.HasSlot)
  have hcount' := (hafter { action with pc := .ended how }).countP_eq (·.pc.HasSlot)
  have hleases := h.leases.trans ((hbefore.filter (·.pc.Leased)).map Action.reservation)
  rw [List.filter_cons_of_pos (by rw [hpc]; rfl), List.map_cons] at hleases
  have hmem : (action.lease, action.intent.attentionCost) ∈ s.attention.leases :=
    hleases.mem_iff.mpr List.mem_cons_self
  have hopen := AttentionAccount.settle_open h.balanced hmem none
  refine ⟨?_, AttentionAccount.settle_balanced h.balanced hmem none, ?_, ?_⟩
  · have := h.slots
    rw [List.countP_cons_of_neg (by rw [hpc]; exact Bool.false_ne_true)] at hcount
    rw [List.countP_cons_of_neg Bool.false_ne_true] at hcount'
    dsimp only
    omega
  · rw [hopen]
    exact h.capacity
  · rw [hopen]
    dsimp only
    have hrest : (s.attention.leases.filter fun lease => lease.1 ≠ action.lease).Perm
        ((others.filter (·.pc.Leased)).map Action.reservation) := by
      have hperm := hleases.filter (fun lease : Nat × ℚ => decide (lease.1 ≠ action.lease))
      rw [List.filter_cons_of_neg (by simp [Action.reservation])] at hperm
      refine hperm.trans ?_
      rw [List.filter_eq_self.mpr]
      intro lease hlease
      -- The numbers of the leases are distinct.
      have hdistinct := (hleases.map Prod.fst).nodup_iff.mp h.balanced.distinct
      rw [List.map_cons, List.nodup_cons] at hdistinct
      rw [decide_eq_true_iff]
      rintro heq
      exact hdistinct.1 (List.mem_map.mpr ⟨lease, hlease, heq⟩)
    refine hrest.trans ?_
    refine .trans ?_ (((hafter _).filter _).map _).symm
    rw [List.filter_cons_of_neg (by simp [ActionPc.Leased])]

/-- A new action waits, with the lease that was acquired for it. -/
theorem spawn (h : Accounts cfg s) {intent : ActionIntent} {basis : Capability} {id : EventId}
    {recovered : Bool} {attention : AttentionAccount} {lease : Nat}
    (hacquire : s.attention.acquire intent.attentionCost = .ok (attention, some lease)) :
    Accounts cfg ({ s with attention }.spawn intent basis id lease recovered) := by
  have hbalanced := AttentionAccount.acquire_balanced h.balanced intent.attentionCost_nonneg hacquire
  rcases AttentionAccount.acquire_cases intent.attentionCost_nonneg hacquire with
    ⟨hnone, -⟩ | ⟨hlease, -, hattention⟩
  · cases hnone
  · cases hlease
    refine ⟨?_, hbalanced, ?_, ?_⟩
    · have := h.slots
      dsimp only [AgentRuntime.spawn]
      rw [List.countP_append, List.countP_cons_of_neg Bool.false_ne_true]
      simpa using this
    · rw [hattention] at hbalanced ⊢
      exact h.capacity
    · rw [hattention]
      simp only [AgentRuntime.spawn, List.filter_append, List.map_append]
      exact h.leases.append (.refl _)

end Accounts

theorem action_accounts (h : Accounts cfg s) {index : Nat} {action : Action}
    (haction : s.actions[index]? = some action) {choice : Choice σ} {pc : ActionPc}
    (hmove : ActionMove cfg s action choice s' pc) :
    Accounts cfg { s' with actions := s'.actions.set index { action with pc } } := by
  have hkeep : ∀ {t : AgentRuntime σ} {pc : ActionPc}, Accounts cfg t → t.actions = s.actions →
      action.pc.HasSlot = true → pc.HasSlot = true →
      Accounts cfg { t with actions := t.actions.set index { action with pc } } := by
    intro t pc ht hactions hbefore hafter
    refine ht.set (hactions ▸ haction) (by rw [hbefore, hafter]) ?_ rfl rfl
    rw [ActionPc.leased_of_hasSlot hafter, ActionPc.leased_of_hasSlot hbefore]
  cases hmove with
  | @emitted _ draft id _ hdraft hlogs =>
    obtain ⟨hbefore, hafter⟩ := hasSlot_of_draft hdraft id
    have ht := h.logs hlogs
    cases hlogs with
    | own => exact hkeep ht rfl hbefore hafter
    | app => exact hkeep ht rfl hbefore hafter
    | known => exact hkeep ht rfl hbefore hafter
  | emitRaised hdraft _ hlogs =>
    obtain ⟨hbefore, -⟩ := hasSlot_of_draft hdraft (.uuid 0)
    have ht := h.mayLog hlogs
    rcases hlogs with rfl | ⟨id, hlogs⟩
    · exact hkeep ht rfl hbefore rfl
    · cases hlogs with
      | own => exact hkeep ht rfl hbefore rfl
      | app => exact hkeep ht rfl hbefore rfl
      | known => exact hkeep ht rfl hbefore rfl
  | enter hpc hslots =>
    refine h.set haction ?_ ?_ rfl rfl
    · rw [hpc, enter_hasSlot]
      dsimp only [ActionPc.HasSlot]
      simp only [if_true, Bool.false_eq_true, if_false]
      omega
    · rw [hpc]
      exact ActionPc.leased_of_hasSlot (enter_hasSlot _)
  | invoke hpc => exact hkeep (h.of_eq rfl rfl rfl) rfl (by rw [hpc]; rfl) rfl
  | answer hpc result => exact hkeep h rfl (by rw [hpc]; rfl) (answered_hasSlot _ _ _ _)
  | record hpc hkey => exact hkeep (h.of_eq rfl rfl rfl) rfl (by rw [hpc]; rfl) rfl
  | unkeyed hpc hkey => exact hkeep h rfl (by rw [hpc]; rfl) rfl
  | complete hpc => exact hkeep h rfl (by rw [hpc]; rfl) rfl
  | compensate hpc hcompensates => exact hkeep (h.of_eq rfl rfl rfl) rfl (by rw [hpc]; rfl) rfl
  | fail hpc => exact hkeep h rfl (by rw [hpc]; rfl) rfl
  | compensated hpc result => exact hkeep h rfl (by rw [hpc]; rfl) rfl
  | raises hpc =>
    refine hkeep h rfl ?_ rfl
    cases hp : action.pc <;> rw [hp] at hpc <;> first | rfl | exact absurd hpc id
  | leave hpc => exact h.set haction (by rw [hpc]; rfl) (by rw [hpc]; rfl) rfl rfl
  | settle hpc => exact h.settle haction hpc

/-- **Slots and leases are accounted for**, whatever the step is. -/
theorem step_accounts (h : Accounts cfg s) {l : AgentLabel σ} (hs : s.step cfg l = some s') :
    Accounts cfg s' := by
  cases step_cases hs with
  | boot => exact create_accounts.of_eq rfl rfl rfl
  | crash => exact create_accounts.of_eq rfl rfl rfl
  | external _ hlogs => exact h.logs hlogs
  | register => exact h.of_eq rfl rfl rfl
  | addRule => exact h.of_eq rfl rfl rfl
  | onEvent => exact h.of_eq rfl rfl rfl
  | stop => exact h.of_eq rfl rfl rfl
  | @heartbeat choice t pc hmove =>
    have ht : Accounts cfg t := by
      cases hmove with
      | beat => exact h
      | late _ hlogs => exact h.logs hlogs
      | emitted _ hlogs => exact h.logs hlogs
      | emitRaised _ hlogs => exact h.mayLog hlogs
    exact ht.of_eq rfl rfl rfl
  | @worker index choice pc t pc' hpc hmove =>
    have ht : Accounts cfg t := by
      cases hmove with
      | emitted _ hlogs => exact h.logs hlogs
      | emitRaised _ _ hlogs => exact h.mayLog hlogs
      | take => exact h.of_eq rfl rfl rfl
      | stop => exact h.of_eq rfl rfl rfl
      | spawn _ hacquire => exact h.spawn hacquire
      | reflect _ hlogs => exact h.logs hlogs
      | deliberated => exact h
      | selected => exact h
      | choose => exact h
      | defer => exact h
      | gathered => exact h
      | reflected => exact h
      | raises => exact h
    exact ht.of_eq rfl rfl rfl
  | action haction hmove => exact action_accounts h haction hmove
  | capabilityEmit _ _ hlogs => exact h.logs hlogs
  | @main choice t pc hmove =>
    have ht : Accounts cfg t := by
      cases hmove with
      | emitted _ hlogs => exact h.logs hlogs
      | emitRaised _ _ hlogs => exact h.mayLog hlogs
      | begin => exact h.of_eq rfl rfl rfl
      | install => exact h.of_eq rfl rfl rfl
      | spawn _ hacquire => exact h.spawn hacquire
      | reflect _ hlogs => exact h.logs hlogs
      | read => exact h
      | next => exact h
      | reconsider => exact h
      | postpone => exact h
      | executed => exact h
      | skipped => exact h
      | reflected => exact h
      | raises => exact h
    exact ht.of_eq rfl rfl rfl
  | @stopper choice t pc hmove =>
    have ht : Accounts cfg t := by
      cases hmove with
      | cancel => exact h.of_eq rfl rfl rfl
      | detach => exact h.of_eq rfl rfl rfl
      | unsubscribe => exact h.of_eq rfl rfl rfl
      | put => exact h.of_eq rfl rfl rfl
      | gathered => exact h.of_eq rfl rfl rfl
      | emitted _ hlogs => exact h.logs hlogs
      | emitRaised _ hlogs => exact h.mayLog hlogs
      | joined => exact h
      | putAll => exact h
      | closed => exact h
      | closeRaised => exact h
    exact ht.of_eq rfl rfl rfl

/-- The calls that run are within the semaphore. -/
theorem Accounts.calling_le (h : Accounts cfg s) :
    s.actions.countP (·.pc.Calling) ≤ cfg.maxConcurrentActions := by
  have hsub : s.actions.countP (·.pc.Calling) ≤ s.actions.countP (·.pc.HasSlot) := by
    refine List.countP_mono_left fun action _ hcalling => ?_
    cases hpc : action.pc <;> rw [hpc] at hcalling <;> first | rfl | cases hcalling
  have := h.slots
  omega

/-- Their attention costs are within the capacity. -/
theorem Accounts.attention_le (h : Accounts cfg s) :
    ((s.actions.filter (·.pc.Calling)).map (·.intent.attentionCost)).sum ≤
      cfg.attentionCapacity := by
  have hsub : ((s.actions.filter (·.pc.Calling)).map (·.intent.attentionCost)).sum ≤
      ((s.actions.filter (·.pc.Leased)).map (·.intent.attentionCost)).sum := by
    refine List.Sublist.sum_le_sum (List.Sublist.map _ ?_) ?_
    · refine List.monotone_filter_right _ fun action hcalling => ?_
      cases hpc : action.pc <;> rw [hpc] at hcalling <;> first | rfl | cases hcalling
    · intro cost hcost
      obtain ⟨action, -, rfl⟩ := List.mem_map.mp hcost
      exact action.intent.attentionCost_nonneg
  have hsum : s.attention.reserved =
      ((s.actions.filter (·.pc.Leased)).map (·.intent.attentionCost)).sum := by
    rw [AttentionAccount.reserved, (h.leases.map Prod.snd).sum_eq, List.map_map]
    rfl
  have hbalance := h.balanced.balance
  have hnonneg := h.balanced.available_nonneg
  have hcapacity := h.capacity
  linarith

/-- When all actions have ended the whole capacity is available. -/
theorem Accounts.available_eq (h : Accounts cfg s)
    (hended : ∀ action ∈ s.actions, action.pc.Leased = false) :
    s.attention.leases = [] ∧ s.attention.available = cfg.attentionCapacity := by
  have hnone : s.actions.filter (·.pc.Leased) = [] :=
    List.filter_eq_nil_iff.mpr fun action haction => by simp [hended action haction]
  have hleases := h.leases
  rw [hnone, List.map_nil] at hleases
  have hempty := hleases.eq_nil
  refine ⟨hempty, ?_⟩
  have hbalance := h.balanced.balance
  rw [AttentionAccount.reserved, hempty, List.map_nil, List.sum_nil, add_zero] at hbalance
  exact hbalance.trans h.capacity

end AgentRuntime
end Noema
