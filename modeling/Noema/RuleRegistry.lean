import Noema.RulePayloads

/-!
# The rule registry

`RuleRegistry` folds the registrations of a log.  It raises on one that it cannot read and
on a second one under a ref, whatever that says: a log is rebuilt exactly if it is in order
(`rebuild_spec`), and then the registry has its registrations, each with the sequence of its
event.  A ruleset pins rules up to a cursor, the latest versions or those under given refs.
-/
namespace Noema

/-- `_RegisteredRule`. -/
structure RegisteredRule where
  rule : AutonomicRule
  sequence : Nat
deriving DecidableEq

def RegisteredRule.ref (entry : RegisteredRule) : String := entry.rule.ref

def ruleVersionRegistered : String := "rule.version_registered"

variable (b : RuleBuiltins)

/-- What a registration event registers. -/
def registrationOf (event : Event) : Except PyError RegisteredRule :=
  match event.payload.get "rule" with
  | .obj fields =>
    match event.sequence with
    | none | some 0 => .error (.valueError
        "rule registration must be applied from a canonical sequenced event")
    | some sequence => do return ⟨← AutonomicRule.fromDict b (.ofList fields), sequence⟩
  | _ => .error (.valueError "rule registration event requires a rule object")

/-- `RuleRegistry`: the registered rules by their refs. -/
abbrev RuleRegistry := KeyedTable RegisteredRule.ref

namespace RuleRegistry

/-- `_register_projection`. -/
def registerProjection (registry : RuleRegistry) (entry : RegisteredRule) :
    Except PyError RuleRegistry :=
  match registry.find entry.ref with
  | some current =>
    if current.rule ≠ entry.rule ∨ current.sequence ≠ entry.sequence then
      .error (.valueError s!"immutable rule version already exists at another event: {entry.ref}")
    else .ok registry
  | none => .ok (registry.put entry)

/-- `apply`, for its effect. -/
def apply (registry : RuleRegistry) (event : Event) : Except PyError RuleRegistry :=
  if event.type ≠ ruleVersionRegistered then .ok registry
  else do registerProjection registry (← registrationOf b event)

/-- `rebuild`. -/
def rebuild (events : List Event) : Except PyError RuleRegistry :=
  Folding.run (apply b) .empty events

/-- The rules of a ruleset, as its constructor checks them. -/
def pinned (rules : List AutonomicRule) : Except PyError RulesetSnapshot :=
  if hcanonical : (rules.map AutonomicRule.ref).Pairwise (· < ·) then
    if hversions : (rules.map AutonomicRule.ruleId).Nodup then .ok ⟨rules, hcanonical, hversions⟩
    else .error (.valueError "a ruleset cannot pin multiple versions of one rule")
  else .error (.valueError "ruleset rules must have unique refs in canonical order")

/-- Keep a rule unless a version at least as late is there. -/
def keepLater (latest : KeyedTable AutonomicRule.ruleId) (rule : AutonomicRule) :
    KeyedTable AutonomicRule.ruleId :=
  if (latest.find rule.ruleId).all fun current => current.version < rule.version
  then latest.put rule else latest

/-- The latest version of each rule. -/
def latestVersions (rules : List AutonomicRule) : List AutonomicRule :=
  (rules.foldl keepLater .empty).rows

/-- The order of `sorted(.., key=lambda rule: rule.ref)`. -/
def refLe (rule other : AutonomicRule) : Prop := rule.ref ≤ other.ref

instance : DecidableRel refLe := fun rule other => inferInstanceAs (Decidable (rule.ref ≤ other.ref))

/-- The rules registered up to a cursor. -/
def eligible (registry : RuleRegistry) (throughSequence : Int) : List AutonomicRule :=
  (registry.rows.filter fun entry => entry.sequence ≤ throughSequence).map RegisteredRule.rule

/-- `snapshot`. -/
def snapshot (registry : RuleRegistry) (throughSequence : Int) (refs : Option (List String)) :
    Except PyError RulesetSnapshot := do
  refuse (throughSequence < 0) "ruleset sequence cursor cannot be negative"
  let eligible := registry.eligible throughSequence
  match refs with
  | none => pinned ((latestVersions eligible).insertionSort refLe)
  | some refs => do
    let missing := sortedIds (refs.filter fun ref => ref ∉ eligible.map AutonomicRule.ref)
    refuse (missing ≠ []) ("rule versions did not exist at the requested cursor: " ++
      ", ".intercalate missing)
    pinned ((sortedIds refs).filterMap fun ref => eligible.find? fun rule => rule.ref = ref)

end RuleRegistry

/-! ## What a rebuilt registry has -/

/-- The readable registrations of a log, in its order. -/
def registrationsOf (events : List Event) : List RegisteredRule :=
  events.filterMap fun event =>
    if event.type = ruleVersionRegistered then (registrationOf b event).toOption else none

/-- Every registration event is readable, and no ref is registered twice. -/
structure WellRegistered (events : List Event) : Prop where
  readable : ∀ event ∈ events, event.type = ruleVersionRegistered →
    ∃ entry, registrationOf b event = .ok entry
  distinct : ((registrationsOf b events).map RegisteredRule.ref).Nodup

variable {b}

theorem registrationOf_ok {event : Event} {entry : RegisteredRule}
    (h : registrationOf b event = .ok entry) : event.sequence = some entry.sequence := by
  unfold registrationOf at h
  split at h
  · split at h
    · cases h
    · cases h
    · rename_i hsequence
      obtain ⟨rule, -, h⟩ := bind_eq_ok h
      cases h
      exact hsequence
  · cases h

theorem registrationsOf_append (events later : List Event) :
    registrationsOf b (events ++ later) = registrationsOf b events ++ registrationsOf b later :=
  List.filterMap_append

theorem registrationsOf_snoc_other {events : List Event} {event : Event}
    (h : event.type ≠ ruleVersionRegistered) :
    registrationsOf b (events ++ [event]) = registrationsOf b events := by
  simp [registrationsOf, h]

theorem registrationsOf_snoc (events : List Event) {event : Event} {entry : RegisteredRule}
    (htype : event.type = ruleVersionRegistered) (h : registrationOf b event = .ok entry) :
    registrationsOf b (events ++ [event]) = registrationsOf b events ++ [entry] := by
  simp [registrationsOf, htype, h, Except.toOption]

theorem mem_registrationsOf {events : List Event} {entry : RegisteredRule} :
    entry ∈ registrationsOf b events ↔
      ∃ event ∈ events, event.type = ruleVersionRegistered ∧ registrationOf b event = .ok entry := by
  simp only [registrationsOf, List.mem_filterMap]
  refine exists_congr fun event => and_congr_right fun _ => ?_
  by_cases htype : event.type = ruleVersionRegistered
  · rw [if_pos htype]
    cases registrationOf b event <;> simp [Except.toOption, htype]
  · simp [htype]

theorem WellRegistered.init {events later : List Event} (h : WellRegistered b (events ++ later)) :
    WellRegistered b events where
  readable := fun event hevent => h.readable event (List.mem_append_left _ hevent)
  distinct := by
    have hdistinct := h.distinct
    rw [registrationsOf_append, List.map_append] at hdistinct
    exact (List.nodup_append.mp hdistinct).1

theorem wellRegistered_snoc_other {events : List Event} {event : Event}
    (htype : event.type ≠ ruleVersionRegistered) :
    WellRegistered b (events ++ [event]) ↔ WellRegistered b events := by
  refine ⟨WellRegistered.init, fun h => ⟨fun other hother hregistered => ?_, ?_⟩⟩
  · rcases List.mem_append.mp hother with hold | hnew
    · exact h.readable other hold hregistered
    · exact absurd (List.mem_singleton.mp hnew ▸ hregistered) htype
  · rw [registrationsOf_snoc_other htype]
    exact h.distinct

theorem wellRegistered_snoc {events : List Event} {event : Event} {entry : RegisteredRule}
    (htype : event.type = ruleVersionRegistered) (hread : registrationOf b event = .ok entry) :
    WellRegistered b (events ++ [event]) ↔ WellRegistered b events ∧
      entry.ref ∉ (registrationsOf b events).map RegisteredRule.ref := by
  have hsnoc := registrationsOf_snoc events htype hread
  constructor
  · intro h
    refine ⟨h.init, fun hmem => ?_⟩
    have hdistinct := h.distinct
    rw [hsnoc, List.map_append] at hdistinct
    exact (List.nodup_append.mp hdistinct).2.2 _ hmem _ List.mem_cons_self rfl
  · rintro ⟨h, hnew⟩
    refine ⟨fun other hother hregistered => ?_, ?_⟩
    · rcases List.mem_append.mp hother with hold | hlast
      · exact h.readable other hold hregistered
      · exact ⟨entry, List.mem_singleton.mp hlast ▸ hread⟩
    · rw [hsnoc, List.map_append, List.map_cons, List.map_nil]
      refine List.nodup_append.mpr ⟨h.distinct, List.nodup_singleton _, ?_⟩
      rintro ref hmem other hother rfl
      rw [List.mem_singleton.mp hother] at hmem
      exact hnew hmem

namespace RuleRegistry

/-- **A log is rebuilt exactly if its registrations are in order**, each event having a
sequence of its own. -/
theorem rebuild_spec {events : List Event} (hsequences : (events.map Event.sequence).Nodup) :
    (∀ registry, rebuild b events = .ok registry →
        WellRegistered b events ∧ registry.rows = registrationsOf b events) ∧
      (WellRegistered b events → ∃ registry, rebuild b events = .ok registry) := by
  induction events using List.reverseRecOn with
  | nil =>
    refine ⟨fun registry h => ?_, fun _ => ⟨.empty, rfl⟩⟩
    obtain rfl := Except.ok.inj h
    exact ⟨⟨fun _ hmem => (nomatch hmem), List.nodup_nil⟩, rfl⟩
  | append_singleton events event ih =>
    have hsequences' := hsequences
    rw [List.map_append] at hsequences'
    obtain ⟨hold, -, hlast⟩ := List.nodup_append.mp hsequences'
    obtain ⟨haccepts, hrebuilds⟩ := ih hold
    by_cases htype : event.type = ruleVersionRegistered
    · have happly : ∀ {before entry}, registrationOf b event = .ok entry →
          apply b before event = registerProjection before entry := fun hread => by
        rw [apply, if_neg (not_not.mpr htype), bind_of_ok hread]
      constructor
      · intro registry h
        obtain ⟨before, hbefore, hlater⟩ := Folding.run_snoc.mp h
        obtain ⟨hwell, hrows⟩ := haccepts before hbefore
        obtain ⟨entry, hread⟩ : ∃ entry, registrationOf b event = .ok entry := by
          rw [apply, if_neg (not_not.mpr htype)] at hlater
          obtain ⟨entry, hread, -⟩ := bind_eq_ok hlater
          exact ⟨entry, hread⟩
        rw [happly hread, registerProjection] at hlater
        cases hfind : before.find entry.ref with
        | some current =>
          -- Both registrations would have the sequence of one event.
          exfalso
          rw [hfind] at hlater
          dsimp only at hlater
          split at hlater
          · cases hlater
          · rename_i hsame
            have hmem := KeyedTable.mem_of_find hfind
            rw [hrows] at hmem
            obtain ⟨other, hother, -, hother'⟩ := mem_registrationsOf.mp hmem
            refine hlast _ (List.mem_map_of_mem hother) _ List.mem_cons_self ?_
            rw [registrationOf_ok hother', registrationOf_ok hread]
            exact congrArg some (not_not.mp (not_or.mp hsame).2)
        | none =>
          rw [hfind] at hlater
          obtain rfl := Except.ok.inj hlater
          have hnew := KeyedTable.not_mem_keys_of_find hfind
          rw [registrationsOf_snoc _ htype hread, KeyedTable.put_rows_of_new hnew, hrows]
          rw [hrows] at hnew
          exact ⟨(wellRegistered_snoc htype hread).mpr ⟨hwell, hnew⟩, rfl⟩
      · intro h
        obtain ⟨entry, hread⟩ := h.readable event (by simp) htype
        obtain ⟨hwell, hnew⟩ := (wellRegistered_snoc htype hread).mp h
        obtain ⟨registry, hregistry⟩ := hrebuilds hwell
        have hfind : registry.find entry.ref = none := by
          cases hfind : registry.find entry.ref with
          | none => rfl
          | some current =>
            have hmem := KeyedTable.mem_of_find hfind
            rw [(haccepts registry hregistry).2] at hmem
            exact absurd (KeyedTable.find_key hfind ▸ List.mem_map_of_mem hmem) hnew
        refine ⟨registry.put entry, Folding.run_snoc.mpr ⟨registry, hregistry, ?_⟩⟩
        rw [happly hread, registerProjection, hfind]
    · have hsame : ∀ registry, apply b registry event = .ok registry := fun registry => if_pos htype
      rw [wellRegistered_snoc_other htype, registrationsOf_snoc_other htype]
      refine ⟨fun registry h => ?_, fun h => ?_⟩
      · obtain ⟨before, hbefore, happly⟩ := Folding.run_snoc.mp h
        rw [hsame] at happly
        obtain rfl := Except.ok.inj happly
        exact haccepts _ hbefore
      · obtain ⟨registry, hregistry⟩ := hrebuilds h
        exact ⟨registry, Folding.run_snoc.mpr ⟨registry, hregistry, hsame registry⟩⟩

variable {registry : RuleRegistry} {cursor : Int}

theorem mem_eligible {rule : AutonomicRule} : rule ∈ registry.eligible cursor ↔
    ∃ entry ∈ registry.rows, (entry.sequence : Int) ≤ cursor ∧ entry.rule = rule := by
  simp [eligible, and_assoc]

/-- A ref is registered once. -/
theorem eq_of_ref {rule other : AutonomicRule} (hrule : rule ∈ registry.eligible cursor)
    (hother : other ∈ registry.eligible cursor) (h : rule.ref = other.ref) : rule = other := by
  obtain ⟨entry, hentry, -, rfl⟩ := mem_eligible.mp hrule
  obtain ⟨entry', hentry', -, rfl⟩ := mem_eligible.mp hother
  rw [List.inj_on_of_nodup_map registry.unique hentry hentry' h]

theorem mem_latestVersions {rules : List AutonomicRule} {rule : AutonomicRule}
    (h : rule ∈ latestVersions rules) : rule ∈ rules := by
  have hfold : ∀ (rest : List AutonomicRule) (latest : KeyedTable AutonomicRule.ruleId),
      (∀ row ∈ latest.rows, row ∈ rules) → (∀ row ∈ rest, row ∈ rules) →
      ∀ row ∈ (rest.foldl keepLater latest).rows, row ∈ rules := by
    intro rest
    induction rest with
    | nil => exact fun latest hlatest _ => hlatest
    | cons next rest ih =>
      intro latest hlatest hrest
      refine ih _ ?_ fun row hrow => hrest row (List.mem_cons_of_mem _ hrow)
      unfold keepLater
      split
      · intro row hrow
        rcases KeyedTable.mem_put.mp hrow with rfl | ⟨hold, -⟩
        · exact hrest _ List.mem_cons_self
        · exact hlatest row hold
      · exact hlatest
  exact hfold rules .empty (fun row hrow => absurd hrow List.not_mem_nil) (fun _ hmem => hmem) rule h

/-- The latest versions are registered up to the cursor. -/
theorem eligible_of_snapshot {ruleset : RulesetSnapshot}
    (h : registry.snapshot cursor none = .ok ruleset) :
    ∀ rule ∈ ruleset.rules, rule ∈ registry.eligible cursor := by
  obtain ⟨_, -, h⟩ := bind_eq_ok h
  dsimp only [pinned] at h
  split_ifs at h
  cases h
  exact fun rule hrule => mem_latestVersions ((List.mem_insertionSort _).mp hrule)

/-- **The refs of a ruleset bring it back**, from any registry in which its rules are
registered up to the cursor. -/
theorem snapshot_refs {ruleset : RulesetSnapshot} (hcursor : 0 ≤ cursor)
    (h : ∀ rule ∈ ruleset.rules, rule ∈ registry.eligible cursor) :
    registry.snapshot cursor (some (ruleset.rules.map AutonomicRule.ref)) = .ok ruleset := by
  have hmissing : (ruleset.rules.map AutonomicRule.ref).filter
      (fun ref => ref ∉ (registry.eligible cursor).map AutonomicRule.ref) = [] := by
    refine List.filter_eq_nil_iff.mpr fun ref href hnot => ?_
    obtain ⟨rule, hrule, rfl⟩ := List.mem_map.mp href
    exact of_decide_eq_true hnot (List.mem_map_of_mem (h rule hrule))
  have hsorted : sortedIds (ruleset.rules.map AutonomicRule.ref) =
      ruleset.rules.map AutonomicRule.ref := by
    have hnodup : (ruleset.rules.map AutonomicRule.ref).Nodup :=
      ruleset.canonical.imp fun hlt => hlt.ne
    rw [sortedIds, hnodup.dedup]
    exact (ruleset.canonical.imp fun hlt => hlt.le).insertionSort_eq
  have hfound : (ruleset.rules.map AutonomicRule.ref).filterMap
      (fun ref => (registry.eligible cursor).find? fun rule => rule.ref = ref) =
      ruleset.rules := by
    rw [List.filterMap_map]
    refine (List.filterMap_congr fun rule hrule => ?_).trans List.filterMap_some
    show (registry.eligible cursor).find? (fun other => other.ref = rule.ref) = some rule
    cases hfind : (registry.eligible cursor).find? fun other => other.ref = rule.ref with
    | none =>
      have hnot := List.find?_eq_none.mp hfind rule (h rule hrule)
      exact absurd (decide_eq_true rfl) hnot
    | some other =>
      have href : other.ref = rule.ref := by simpa using List.find?_some hfind
      exact congrArg some (eq_of_ref (List.mem_of_find?_eq_some hfind) (h rule hrule) href)
  have hempty : ¬ sortedIds ((ruleset.rules.map AutonomicRule.ref).filter
      fun ref => ref ∉ (registry.eligible cursor).map AutonomicRule.ref) ≠ [] := by
    rw [hmissing]
    exact not_not.mpr rfl
  rw [snapshot, bind_of_ok (refuse_of (not_lt.mpr hcursor))]
  dsimp only
  rw [bind_of_ok (refuse_of hempty), hsorted, hfound, pinned, dif_pos ruleset.canonical,
    dif_pos ruleset.oneVersion]

end RuleRegistry

end Noema
