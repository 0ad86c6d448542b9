import Noema.WorkInterleaving

/-!
# The leases of matches

The matcher filters the agents by presence, capacity, capabilities, competence, independence
and information access, and `_validate_lease_grant` checks the same again on the lease.  A
lease that `assign_ready` builds for a match passes that validation in the projection of the
log that it is appended to (`matched_leases_granted`), with the decisions admitted again at
the head and whatever was granted before in the same call.
-/
namespace Noema
open Programs Programs.Program WorkProjection

variable {ids : WorkIds} {floats : FloatProduct} {log : WorkLog} {p : WorkProjection}

/-- The projection of the log grants the lease. -/
def Grants (ids : WorkIds) (floats : FloatProduct) (log : WorkLog) (lease : WorkLease) : Prop :=
  ∃ p, rebuild ids floats log.rows = .ok p ∧ p.validateLeaseGrant floats lease = .ok ()

/-- The operation appends the lease. -/
def LogOp.Leases (op : LogOp) (lease : WorkLease) : Prop :=
  ∃ source causationId, op = .emit (lease.toEvent source causationId) ∨
    ∃ head, op = .emitIfHead (lease.toEvent source causationId) head

theorem validateLeaseGrant_of_granted (hledger : Ledger p) {graph : WorkGraph} {node : WorkNode}
    {time : Datetime} {found : WorkerMatch} {lease : WorkLease}
    (h : Granted floats p graph node time found lease)
    (hinformation : p.validateInformationAccess lease node = .ok ()) :
    p.validateLeaseGrant floats lease = .ok () := by
  obtain ⟨presence, estimates, hagent⟩ := agentFit_of_granted h hinformation
  exact validateLeaseGrant_ok.mpr
    ⟨graph, node, presence, estimates, nodeReady_of_granted hledger h, hagent⟩

/-- A lease without decisions, on a node that asks for none. -/
theorem grants_ungoverned {graph : WorkGraph} {node : WorkNode} {time : Datetime}
    {found : WorkerMatch} {lease : WorkLease} (hexact : Exact ids floats p log)
    (hgranted : Granted floats p graph node time found lease)
    (hungoverned : node.governedInformationRefs = [])
    (hrefs : lease.informationAccessDecisionRefs = [] ∧
      lease.informationDisclosureDecisionRefs = []) : Grants ids floats log lease := by
  have hinformation : p.validateInformationAccess lease node = .ok () := by
    unfold validateInformationAccess
    rw [if_pos hungoverned]
    exact if_pos hrefs
  exact ⟨p, hexact.2, validateLeaseGrant_of_granted (rebuild_ledger hexact.2) hgranted hinformation⟩

/-- A lease on governed inputs, whose decisions are the last rows. -/
theorem grants_governed {source : String} {state : Coordinator.Admitting} {graph : WorkGraph}
    {node : WorkNode} {time : Datetime} {found : WorkerMatch} {lease : WorkLease}
    (hexact : Exact ids floats state.projection log)
    (hgranted : Granted floats state.projection graph node time found lease)
    (hgoverned : node.governedInformationRefs ≠ []) (hcurrent : Current source log state)
    (hcited : Cited found lease state.admitted) : Grants ids floats log lease := by
  obtain ⟨presence, estimates, hmatched⟩ := hgranted.matched
  have hinformation := hcurrent.2.valid hexact.1 hexact.2 hgoverned hgranted.agent.1
    hgranted.agent.2 hcited (hmatched.access hgoverned)
  exact ⟨_, hexact.2, validateLeaseGrant_of_granted (rebuild_ledger hexact.2) hgranted hinformation⟩

/-- The payload of an event that is appended. -/
theorem LogOp.Leases.payload {op : LogOp} {lease : WorkLease} (h : op.Leases lease) :
    ∃ event, (op = .emit event ∨ ∃ head, op = .emitIfHead event head) ∧
      event.payload = .lease lease := by
  obtain ⟨source, causationId, hop⟩ := h
  exact ⟨lease.toEvent source causationId, hop, rfl⟩

/-- **What has been checked of a lease** is what the projection asks of it. -/
theorem Checked.grants {op : LogOp} {lease : WorkLease}
    (h : Checked ids floats (Exact ids floats) Current log op) (hleases : op.Leases lease) :
    Grants ids floats log lease := by
  obtain ⟨event, hop, hpayload⟩ := hleases.payload
  cases h with
  | history => rcases hop with hop | ⟨head, hop⟩ <;> cases hop
  | graph hmade =>
    rcases hop with hop | ⟨head, hop⟩ <;> cases hop
    cases hpayload
  | decision hcursor =>
    rcases hop with hop | ⟨head, hop⟩ <;> cases hop
    cases hpayload
  | lease hsees hgranted hungoverned hrefs =>
    rcases hop with hop | ⟨head, hop⟩ <;> cases hop
    cases hpayload
    exact grants_ungoverned hsees hgranted hungoverned hrefs
  | governedLease hsees hgranted hgoverned hevident hcited =>
    obtain ⟨head, rfl⟩ : ∃ head, _ := by
      rcases hop with hop | ⟨head, hop⟩
      · cases hop
      · exact ⟨head, (LogOp.emitIfHead.inj hop).1⟩
    cases hpayload
    exact grants_governed hsees hgranted hgoverned hevident hcited
  | expiration hsees hactive hevent =>
    rcases hop with hop | ⟨head, hop⟩ <;> cases hop
    obtain ⟨_, -, hevent⟩ := bind_eq_ok hevent
    obtain ⟨_, -, hevent⟩ := bind_eq_ok hevent
    cases hevent
    cases hpayload
  | invalidation hsees hgraph hactive htrigger hevent =>
    rcases hop with hop | ⟨head, hop⟩ <;> cases hop
    obtain ⟨_, -, -, -, -, -, rfl⟩ := Coordinator.planInvalidationEvent_fields hevent
    cases hpayload

/-- The projection of the log with a plan. -/
def plannedProjection : WorkProjection :=
  rebuilt reviewIds exactProduct CoordinatorPool.plannedLog.rows

theorem plannedProjection_rebuilt : rebuild reviewIds exactProduct
    CoordinatorPool.plannedLog.rows = .ok plannedProjection :=
  rebuild_rebuilt (by decide +kernel)

end Noema
