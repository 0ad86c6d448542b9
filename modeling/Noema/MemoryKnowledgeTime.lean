import Noema.MemoryQueries

/-!
# Knowledge time

What a query asked for a knowledge time `k` answers should not depend on what is
recorded later.  It does not, with one exception: a contradiction that was detected by
`k` is replaced by its resolution when that is recorded, and a query for `k` returns it
with the later `resolved_at` and its reason.  So the answers stay what they were if and
only if no later event resolves a contradiction that was open at `k`
(`sameAnswers_iff`).
-/
namespace Noema
namespace MemoryProjection

/-- The four queries give equal answers for the knowledge time `k`. -/
structure SameAnswers (p p' : MemoryProjection) (k : Datetime) : Prop where
  visible : ∀ validAt includeHypotheses includeStale,
    p'.visibleAssertions validAt k includeHypotheses includeStale =
      p.visibleAssertions validAt k includeHypotheses includeStale
  belief : ∀ subject predicate validAt includeStale,
    p'.belief subject predicate validAt k includeStale =
      p.belief subject predicate validAt k includeStale
  neighbors : ∀ subject predicate validAt,
    p'.temporalNeighbors subject predicate validAt k =
      p.temporalNeighbors subject predicate validAt k
  unresolved : p'.unresolvedContradictions k = p.unresolvedContradictions k

/-- The event resolves a contradiction that was detected by `k` and is open. -/
def ResolvesOpen (p : MemoryProjection) (k : Datetime) (event : MemoryEvent) : Prop :=
  event.type = .contradictionResolved ∧ ∃ contradictionId resolvedAt reason,
    event.payload = .resolution contradictionId resolvedAt reason ∧
    ∃ contradiction ∈ p.contradictions.rows, contradiction.contradictionId = contradictionId ∧
      contradiction.detectedAt.instant ≤ k.instant ∧ contradiction.resolvedAt = none

variable {canon : CanonicalIds} {p p' : MemoryProjection} {k : Datetime} {event : MemoryEvent}
  {derived : List MemoryEvent}

/-! ## Answers and what was known -/

/-- The queries see what was known. -/
theorem sameAnswers_of_asOf (h : p'.asOf k = p.asOf k) : SameAnswers p p' k where
  visible validAt includeHypotheses includeStale := by
    rw [← visibleAssertions_asOf, h, visibleAssertions_asOf]
  belief subject predicate validAt includeStale := by
    rw [← belief_asOf, h, belief_asOf]
  neighbors subject predicate validAt := by
    rw [← temporalNeighbors_asOf, h, temporalNeighbors_asOf]
  unresolved := by
    rw [← unresolvedContradictions_asOf, h, unresolvedContradictions_asOf]

/-- A record that is stored later does not change what was known. -/
theorem restrict_insertOnce {α κ : Type} {key : α → κ} [DecidableEq κ] [DecidableEq α]
    {t t' : KeyedTable key} {r : α} {known : α → Bool} (h : t.insertOnce r = some t')
    (hlater : known r = false) : t'.restrict known = t.restrict known := by
  refine KeyedTable.ext_rows ?_
  rcases KeyedTable.insertOnce_cases h with ⟨rfl, -⟩ | ⟨-, hrows⟩
  · rfl
  · rw [KeyedTable.restrict_rows, KeyedTable.restrict_rows, hrows, List.filter_append,
      List.filter_cons_of_neg (by simp [hlater]), List.filter_nil, List.append_nil]

/-- A resolution in place, of a contradiction that the test does not see before or
after. -/
theorem restrict_put {t : KeyedTable MemoryContradiction.contradictionId}
    {existing resolved : MemoryContradiction} {known : MemoryContradiction → Bool}
    (hfind : t.find resolved.contradictionId = some existing) (hold : known existing = false)
    (hnew : known resolved = false) : (t.put resolved).restrict known = t.restrict known := by
  refine KeyedTable.ext_rows ?_
  have hkey := KeyedTable.find_key hfind
  have hmem := KeyedTable.mem_of_find hfind
  rw [KeyedTable.restrict_rows, KeyedTable.restrict_rows,
    KeyedTable.put_rows (hkey ▸ List.mem_map_of_mem hmem), List.filter_map]
  have hunknown : ∀ c ∈ t.rows, c.contradictionId = resolved.contradictionId →
      known c = false := by
    intro c hc hid
    have hsame : t.find resolved.contradictionId = some c := hid ▸ KeyedTable.find_of_mem hc
    rw [hfind] at hsame
    cases hsame
    exact hold
  have hfilter : t.rows.filter (known ∘ fun c =>
      if c.contradictionId = resolved.contradictionId then resolved else c) =
      t.rows.filter known := by
    refine List.filter_congr fun c hc => ?_
    by_cases hid : c.contradictionId = resolved.contradictionId
    · rw [Function.comp_apply, if_pos hid, hnew, hunknown c hc hid]
    · rw [Function.comp_apply, if_neg hid]
  rw [hfilter]
  refine (List.map_congr_left fun c hc => ?_).trans (List.map_id _)
  obtain ⟨hc, hknown⟩ := List.mem_filter.mp hc
  refine if_neg fun hid => ?_
  rw [hunknown c hc hid] at hknown
  cases hknown

/-- **A later event that resolves nothing open leaves what was known as it was.** -/
theorem asOf_recorded (h : Recorded canon p event p')
    (hlater : event.type.isMemory = true → k.instant < event.timestamp)
    (hopen : ¬ ResolvesOpen p k event) : p'.asOf k = p.asOf k := by
  cases h with
  | nothing => rfl
  | assertion htype hread hstored hprior =>
    have hlater := hlater (by rw [htype]; rfl)
    have htime := SemanticAssertion.fromEvent_time hread
    unfold asOf
    dsimp only
    rw [restrict_insertOnce hstored (decide_eq_false (by omega))]
  | evidence htype hread hstored =>
    have hlater := hlater (by rw [htype]; rfl)
    have htime := EvidenceLink.fromEvent_time hread
    unfold asOf
    dsimp only
    rw [restrict_insertOnce hstored (decide_eq_false (by omega))]
  | supersession htype hread hprior hnew hstored =>
    have hlater := hlater (by rw [htype]; rfl)
    have htime := AssertionSupersession.fromEvent_time hread
    unfold asOf
    dsimp only
    rw [restrict_insertOnce hstored (decide_eq_false (by omega))]
  | closure htype hread hassertion hstored =>
    have hlater := hlater (by rw [htype]; rfl)
    have htime := ValidityClosure.fromEvent_time hread
    unfold asOf
    dsimp only
    rw [restrict_insertOnce hstored (decide_eq_false (by omega))]
  | detection htype hread hleft hright hstored =>
    have hlater := hlater (by rw [htype]; rfl)
    obtain ⟨htime, -⟩ := MemoryContradiction.fromDetection_time hread
    unfold asOf
    dsimp only
    rw [restrict_insertOnce hstored (decide_eq_false (by omega))]
  | @resolution contradictionId resolvedAt reason existing resolved htype hread hfind htime hresolve
      hsame =>
    have hresolved := MemoryContradiction.resolve_ok hresolve
    have hid : resolved.contradictionId = contradictionId :=
      (congrArg MemoryContradiction.contradictionId hresolved).trans
        (KeyedTable.find_key hfind : existing.contradictionId = contradictionId)
    have hfind' : p.contradictions.find resolved.contradictionId = some existing := hid ▸ hfind
    unfold asOf
    dsimp only
    cases hstate : existing.resolvedAt with
    | some at' =>
      -- a second resolution says the same as the first
      have heq := hsame (by rw [hstate]; rfl)
      rw [KeyedTable.put_self (heq ▸ hfind')]
    | none =>
      have hdetected : k.instant < existing.detectedAt.instant := by
        by_contra hknown
        exact hopen ⟨htype, contradictionId, resolvedAt, reason, hread, existing,
          KeyedTable.mem_of_find hfind, KeyedTable.find_key hfind, by omega, hstate⟩
      have hdetected' : resolved.detectedAt = existing.detectedAt := by rw [hresolved]
      rw [restrict_put hfind' (decide_eq_false (by omega))
        (decide_eq_false (by rw [hdetected']; omega))]

/-- What is resolved depends only on what was known. -/
theorem resolvesOpen_congr (h : p'.asOf k = p.asOf k) :
    ResolvesOpen p' k event ↔ ResolvesOpen p k event := by
  have hrows : ∀ c : MemoryContradiction, c.detectedAt.instant ≤ k.instant →
      (c ∈ p'.contradictions.rows ↔ c ∈ p.contradictions.rows) := by
    intro c hc
    have hrestrict := congrArg (fun q => c ∈ q.contradictions.rows) h
    simpa [asOf, List.mem_filter, hc] using hrestrict
  unfold ResolvesOpen
  constructor
  · rintro ⟨htype, id, at', reason, hread, c, hc, hid, hdetected, hopen⟩
    exact ⟨htype, id, at', reason, hread, c, (hrows c hdetected).mp hc, hid, hdetected, hopen⟩
  · rintro ⟨htype, id, at', reason, hread, c, hc, hid, hdetected, hopen⟩
    exact ⟨htype, id, at', reason, hread, c, (hrows c hdetected).mpr hc, hid, hdetected, hopen⟩

/-- The episodes play no part in what was known. -/
theorem asOf_apply (h : p.apply canon event none = .ok (p', derived))
    (hlater : event.type.isMemory = true → k.instant < event.timestamp)
    (hopen : ¬ ResolvesOpen p k event) : p'.asOf k = p.asOf k := by
  obtain ⟨episodes, -, hrecorded⟩ := apply_recorded h
  exact (asOf_recorded hrecorded hlater hopen).trans rfl

/-- A run of later events, none of which resolves a contradiction open at `k`. -/
theorem asOf_applyAll : ∀ {events : List MemoryEvent} {p : MemoryProjection},
    p.applyAll canon events = .ok p' →
    (∀ event ∈ events, event.type.isMemory = true → k.instant < event.timestamp) →
    (∀ event ∈ events, ¬ ResolvesOpen p k event) → p'.asOf k = p.asOf k := by
  intro events
  induction events with
  | nil =>
    intro p h _ _
    cases h
    rfl
  | cons event events ih =>
    intro p h hlater hopen
    obtain ⟨⟨q, derived⟩, happly, h⟩ := bind_eq_ok h
    have hstep : q.asOf k = p.asOf k :=
      asOf_apply happly (hlater event (List.mem_cons_self ..)) (hopen event (List.mem_cons_self ..))
    rw [← hstep]
    exact ih h (fun e he => hlater e (List.mem_cons_of_mem _ he))
      fun e he hresolves => hopen e (List.mem_cons_of_mem _ he)
        ((resolvesOpen_congr hstep).mp hresolves)

/-! ## What a resolution leaves behind -/

/-- Every resolution that was applied has resolved its contradiction. -/
def AppliedResolved (p : MemoryProjection) : Prop :=
  ∀ event ∈ p.applied.rows, event.type = .contradictionResolved →
    ∀ contradictionId resolvedAt reason,
      event.payload = .resolution contradictionId resolvedAt reason →
      ∃ contradiction, p.contradictions.find contradictionId = some contradiction ∧
        contradiction.resolvedAt.isSome

/-- A resolved contradiction stays resolved. -/
theorem resolved_recorded (h : Recorded canon p event p') {contradictionId : String}
    {contradiction : MemoryContradiction}
    (hfind : p.contradictions.find contradictionId = some contradiction)
    (hresolved : contradiction.resolvedAt.isSome) :
    ∃ contradiction', p'.contradictions.find contradictionId = some contradiction' ∧
      contradiction'.resolvedAt.isSome := by
  cases h with
  | nothing | assertion | evidence | supersession | closure => exact ⟨_, hfind, hresolved⟩
  | @detection detected contradictions htype hread hleft hright hstored =>
    refine ⟨contradiction, ?_, hresolved⟩
    rw [KeyedTable.find_insertOnce hstored]
    split
    · rename_i hid
      -- the id is taken, so the detection is the stored row
      rcases KeyedTable.insertOnce_cases hstored with ⟨-, hsame⟩ | ⟨hnew, -⟩
      · rw [← hsame, hid, hfind]
      · rw [hid, hfind] at hnew
        cases hnew
    · exact hfind
  | @resolution id resolvedAt reason existing resolved htype hread hexisting htime hresolve hsame =>
    by_cases hid : resolved.contradictionId = contradictionId
    · refine ⟨resolved, by rw [KeyedTable.find_put, if_pos hid], ?_⟩
      rw [MemoryContradiction.resolve_ok hresolve]
      rfl
    · exact ⟨contradiction, by rw [KeyedTable.find_put, if_neg hid, hfind], hresolved⟩

/-- What a step adds to the applied events. -/
theorem applied_recorded (h : Recorded canon p event p') :
    (p'.applied = p.applied ∧ (event.type.isMemory = true → event ∈ p.applied.rows)) ∨
      (event.type.isMemory = true ∧ p'.applied = p.applied.put event) := by
  cases h with
  | nothing h =>
    refine Or.inl ⟨rfl, fun hmemory => ?_⟩
    rcases h with hnot | hfind
    · rw [hmemory] at hnot
      cases hnot
    · exact KeyedTable.mem_of_find hfind
  | assertion htype | evidence htype | supersession htype | closure htype | detection htype
  | resolution htype => exact Or.inr ⟨by rw [htype]; rfl, rfl⟩

/-- A new resolution resolves the contradiction it names. -/
theorem resolution_recorded (h : Recorded canon p event p')
    (htype : event.type = .contradictionResolved) (hnew : event ∉ p.applied.rows)
    {contradictionId : String} {resolvedAt : Datetime} {reason : String}
    (hpayload : event.payload = .resolution contradictionId resolvedAt reason) :
    ∃ contradiction, p'.contradictions.find contradictionId = some contradiction ∧
      contradiction.resolvedAt.isSome := by
  cases h with
  | nothing h =>
    rcases h with hnot | hfind
    · rw [htype] at hnot
      cases hnot
    · exact absurd (KeyedTable.mem_of_find hfind) hnew
  | assertion h | evidence h | supersession h | closure h | detection h =>
    rw [htype] at h
    cases h
  | @resolution id at' why existing resolved _ hread hfind htime hresolve hsame =>
    rw [hpayload] at hread
    cases hread
    have hresolved := MemoryContradiction.resolve_ok hresolve
    have hid : resolved.contradictionId = contradictionId :=
      (congrArg MemoryContradiction.contradictionId hresolved).trans
        (KeyedTable.find_key hfind : existing.contradictionId = contradictionId)
    refine ⟨resolved, by rw [KeyedTable.find_put, if_pos hid], ?_⟩
    rw [hresolved]
    rfl

/-- `AppliedResolved` is kept by a step. -/
theorem appliedResolved_recorded (h : Recorded canon p event p') (hp : AppliedResolved p) :
    AppliedResolved p' := by
  intro e he htype contradictionId resolvedAt reason hpayload
  by_cases hold : e ∈ p.applied.rows
  · obtain ⟨contradiction, hfind, hresolved⟩ := hp e hold htype _ _ _ hpayload
    exact resolved_recorded h hfind hresolved
  · have heq : e = event := by
      rcases applied_recorded h with ⟨hsame, -⟩ | ⟨-, hput⟩
      · rw [hsame] at he
        exact absurd he hold
      · rw [hput, KeyedTable.mem_put] at he
        exact he.resolve_right fun ⟨he, _⟩ => hold he
    subst heq
    exact resolution_recorded h htype hold hpayload

/-- A memory event is accepted if no other was applied under its id. -/
theorem applied_unique (h : p.apply canon event none = .ok (p', derived))
    (hmemory : event.type.isMemory = true) {e : MemoryEvent} (he : e ∈ p.applied.rows)
    (hid : e.id = event.id) : e = event := by
  obtain ⟨episodes, -, h⟩ := bind_eq_ok h
  have hfind : p.applied.find event.id = some e := hid ▸ KeyedTable.find_of_mem he
  rw [applyRecords, if_neg (by simp [hmemory])] at h
  dsimp only at h
  rw [hfind] at h
  dsimp only at h
  split at h
  · cases h
  · rename_i hsame
    exact not_not.mp hsame

/-- An accepted event is applied, and so are those before it. -/
theorem mem_applied_apply (h : p.apply canon event none = .ok (p', derived)) {e : MemoryEvent}
    (he : (e = event ∧ event.type.isMemory = true) ∨ e ∈ p.applied.rows) :
    e ∈ p'.applied.rows := by
  obtain ⟨episodes, -, hrecorded⟩ := apply_recorded h
  rcases applied_recorded hrecorded with ⟨hsame, hin⟩ | ⟨hmemory, hput⟩
  · rw [hsame]
    rcases he with ⟨rfl, hmemory⟩ | he
    · exact hin hmemory
    · exact he
  · rw [hput, KeyedTable.mem_put]
    rcases he with ⟨rfl, -⟩ | he
    · exact Or.inl rfl
    · by_cases hid : e.id = event.id
      · exact Or.inl (applied_unique h hmemory he hid)
      · exact Or.inr ⟨he, hid⟩

/-- Every memory event of a history is among the applied ones at its end. -/
theorem mem_applied_applyAll : ∀ {events : List MemoryEvent} {p : MemoryProjection},
    p.applyAll canon events = .ok p' → ∀ e,
    (e ∈ events ∧ e.type.isMemory = true) ∨ e ∈ p.applied.rows → e ∈ p'.applied.rows := by
  intro events
  induction events with
  | nil =>
    rintro p h e (⟨he, -⟩ | he)
    · cases he
    · cases h
      exact he
  | cons event events ih =>
    rintro p h e he
    obtain ⟨⟨q, derived⟩, happly, h⟩ := bind_eq_ok h
    refine ih h e ?_
    rcases he with ⟨he, hmemory⟩ | he
    · rcases List.mem_cons.mp he with rfl | he
      · exact Or.inr (mem_applied_apply happly (Or.inl ⟨rfl, hmemory⟩))
      · exact Or.inl ⟨he, hmemory⟩
    · exact Or.inr (mem_applied_apply happly (Or.inr he))

/-- `AppliedResolved` is kept by a run. -/
theorem appliedResolved_applyAll : ∀ {events : List MemoryEvent} {p : MemoryProjection},
    p.applyAll canon events = .ok p' → AppliedResolved p → AppliedResolved p' := by
  intro events
  induction events with
  | nil =>
    intro p h hp
    cases h
    exact hp
  | cons event events ih =>
    intro p h hp
    obtain ⟨⟨q, derived⟩, happly, h⟩ := bind_eq_ok h
    obtain ⟨episodes, -, hrecorded⟩ := apply_recorded happly
    exact ih h (appliedResolved_recorded hrecorded hp)

theorem appliedResolved_empty : AppliedResolved empty := fun _ he => nomatch he

/-! ## The answers for a knowledge time -/

/-- An unresolved contradiction that is resolved later is no longer among the answers. -/
theorem not_sameAnswers {contradiction resolved : MemoryContradiction}
    (hmem : contradiction ∈ p.contradictions.rows)
    (hdetected : contradiction.detectedAt.instant ≤ k.instant)
    (hopen : contradiction.resolvedAt = none)
    (hfind : p'.contradictions.find contradiction.contradictionId = some resolved)
    (hresolved : resolved.resolvedAt.isSome) : ¬ SameAnswers p p' k := by
  intro hsame
  have hbefore : contradiction ∈ p.unresolvedContradictions k :=
    List.mem_filter.mpr ⟨KeyedTable.mem_sorted.mpr hmem, by simp [hdetected, hopen]⟩
  rw [← hsame.unresolved] at hbefore
  have hafter := KeyedTable.mem_sorted.mp (List.mem_filter.mp hbefore).1
  rw [KeyedTable.find_of_mem hafter] at hfind
  cases hfind
  rw [hopen] at hresolved
  cases hresolved

theorem applyAll_append : ∀ {events new : List MemoryEvent} {p : MemoryProjection},
    p.applyAll canon (events ++ new) = .ok p' →
    ∃ q, p.applyAll canon events = .ok q ∧ q.applyAll canon new = .ok p' := by
  intro events
  induction events with
  | nil => exact fun h => ⟨_, rfl, h⟩
  | cons event events ih =>
    intro new p h
    obtain ⟨⟨q, derived⟩, happly, h⟩ := bind_eq_ok h
    obtain ⟨r, hr, hnew⟩ := ih h
    exact ⟨r, by rw [applyAll, happly]; exact hr, hnew⟩

/-- **The answers for a knowledge time stay what they were exactly when no later event
resolves a contradiction that was open then.** -/
theorem sameAnswers_iff {history new : List MemoryEvent}
    (hhistory : rebuild canon history none = .ok p) (hextension : rebuild canon (history ++ new) none = .ok p')
    (hlater : ∀ event ∈ new, event.type.isMemory = true → k.instant < event.timestamp) :
    SameAnswers p p' k ↔ ∀ event ∈ new, ¬ ResolvesOpen p k event := by
  have hall : ∀ events : List MemoryEvent, rebuild canon events none = empty.applyAll canon events :=
    fun events => by simp [rebuild]
  rw [hall] at hhistory hextension
  obtain ⟨q, hq, hnew⟩ := applyAll_append hextension
  rw [hhistory] at hq
  cases hq
  constructor
  · rintro hsame event hevent ⟨htype, id, resolvedAt, reason, hpayload, c, hc, rfl, hdetected, hopen⟩
    have happlied : event ∈ p'.applied.rows :=
      mem_applied_applyAll hnew event (Or.inl ⟨hevent, by rw [htype]; rfl⟩)
    have hinvariant : AppliedResolved p' := appliedResolved_applyAll hextension appliedResolved_empty
    obtain ⟨resolved, hfind, hresolved⟩ := hinvariant event happlied htype _ _ _ hpayload
    exact not_sameAnswers hc hdetected hopen hfind hresolved hsame
  · intro hopen
    exact sameAnswers_of_asOf (asOf_applyAll hnew hlater hopen)

/-! ## A contradiction that is resolved later -/

/-- Ids that tell the two assertions of the example apart, and nothing more. -/
def doorIds : CanonicalIds where
  assertion content := if content.value = .str "open" then "assertion:open" else "assertion:shut"
  evidence _ := "evidence"
  supersession _ := "supersession"
  closure _ := "closure"
  contradiction refs := "contradiction:" ++ refs.1 ++ refs.2
  resolution _ := "resolution"

/-- Somebody takes the door to be in some state, from time 0 on. -/
def doorContent (value : String) : AssertionContent where
  subject := "door"
  predicate := "state"
  value := .str value
  epistemicType := .assumed
  confidence := 1
  validFrom := .utc 0
  validTo := none
  recordedAt := .utc 1
  freshUntil := none
  sourceRefs := []
  derivationRefs := []
  supersedes := none
  status := .active
  mutableWorld := false

theorem doorContent_wellFormed (value : String) : (doorContent value).WellFormed where
  key := ⟨by simp only [doorContent]; decide, by simp only [doorContent]; decide⟩
  value _ h := nomatch h
  confidence := ⟨by simp [doorContent], by simp [doorContent]⟩
  validity _ h := nomatch h
  freshness _ h := nomatch h
  mutable h := nomatch h
  refs _ h := nomatch h
  distinct := ⟨List.nodup_nil, List.nodup_nil⟩
  assumed _ := rfl
  sourced h := absurd rfl h
  observed h := nomatch h
  inferred h := nomatch h

def doorAssertion (value : String) (hid : blank (doorIds.assertion (doorContent value)) = false) :
    SemanticAssertion where
  toAssertionContent := doorContent value
  assertionId := doorIds.assertion (doorContent value)
  wellFormed := doorContent_wellFormed value
  assertionId_nonblank := hid
  supersedes_ne _ h := nomatch h

/-- The two records, and the contradiction between them. -/
def doorHistory : List MemoryEvent :=
  [{ id := "e1", type := .assertionRecorded, source := "user", subject := some "door"
     timestamp := 1, payload := .assertion (doorAssertion "open" (by decide)) },
   { id := "e2", type := .assertionRecorded, source := "user", subject := some "door"
     timestamp := 1, payload := .assertion (doorAssertion "shut" (by decide)) },
   { id := "e3", type := .contradictionDetected, source := "memory", subject := some "door"
     timestamp := 1
     payload := .detection "contradiction:assertion:openassertion:shut"
       ["assertion:open", "assertion:shut"] "door" "state" (.utc 1) }]

/-- One of the records is closed. -/
def doorClosure : MemoryEvent :=
  { id := "e4", type := .validityClosed, source := "user", subject := some "assertion:open"
    timestamp := 5
    payload := .closure
      { assertionRef := "assertion:open", validTo := .utc 4, recordedAt := .utc 5
        closureId := "closure" } }

/-- The contradiction is resolved. -/
def doorResolution : MemoryEvent :=
  { id := "e5", type := .contradictionResolved, source := "memory"
    subject := some "contradiction:assertion:openassertion:shut", timestamp := 5
    payload := .resolution "contradiction:assertion:openassertion:shut" (.utc 5)
      "validity_closed" }

/-- What a history is rebuilt to, if it is accepted. -/
def rebuilt (canon : CanonicalIds) (events : List MemoryEvent) : MemoryProjection :=
  match rebuild canon events none with
  | .ok p => p
  | .error _ => empty

example : (rebuilt doorIds doorHistory).contradictions.rows.length = 1 := by decide +kernel

/-- A closure that is recorded later is not seen at the earlier time. -/
theorem door_sameAnswers :
    SameAnswers (rebuilt doorIds doorHistory) (rebuilt doorIds (doorHistory ++ [doorClosure]))
      (.utc 2) := by
  have hhistory : rebuild doorIds doorHistory none = .ok (rebuilt doorIds doorHistory) := rfl
  have hextension : rebuild doorIds (doorHistory ++ [doorClosure]) none =
      .ok (rebuilt doorIds (doorHistory ++ [doorClosure])) := rfl
  refine (sameAnswers_iff hhistory hextension ?_).mpr ?_
  · intro event hevent _
    rw [List.mem_singleton.mp hevent]
    decide
  · rintro event hevent ⟨htype, -⟩
    rw [List.mem_singleton.mp hevent] at htype
    cases htype

/-- The resolution that the closure entails is seen at the earlier time: the query
returns the contradiction, which it still finds unresolved, with the later
`resolved_at`. -/
theorem doorResolution_seen :
    rebuild doorIds doorHistory none = .ok (rebuilt doorIds doorHistory) ∧
    rebuild doorIds (doorHistory ++ [doorClosure, doorResolution]) none =
      .ok (rebuilt doorIds (doorHistory ++ [doorClosure, doorResolution])) ∧
    (∀ event ∈ [doorClosure, doorResolution],
      event.type.isMemory = true ∧ (Datetime.utc 2).instant < event.timestamp) ∧
    ((rebuilt doorIds doorHistory).unresolvedContradictions (.utc 2)).map (·.resolvedAt) =
      [none] ∧
    ((rebuilt doorIds (doorHistory ++ [doorClosure, doorResolution])).unresolvedContradictions
      (.utc 2)).map (·.resolvedAt) = [some (.utc 5)] ∧
    ¬ SameAnswers (rebuilt doorIds doorHistory)
      (rebuilt doorIds (doorHistory ++ [doorClosure, doorResolution])) (.utc 2) := by
  refine ⟨rfl, rfl, by decide, by decide +kernel, by decide +kernel, fun hsame => ?_⟩
  have hanswers := congrArg (List.map MemoryContradiction.resolvedAt) hsame.unresolved
  revert hanswers
  decide +kernel

end MemoryProjection
end Noema
