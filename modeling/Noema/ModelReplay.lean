import Noema.Lib.KeyedQueues
import Noema.ModelRecords

/-!
# Recorded model runs

`RecordingModelProvider` appends one line to a fixture for every answered request, and
`ReplayModelProvider` answers from such a file with one queue for each request fingerprint.
A recorded run replays as it was exactly when every response survives its way through the
file (`replays_iff`); which requests are turned away does not depend on it.

A line of the file is blank or a text that spells a value.
-/
namespace Noema

variable (b : ContentBuiltins)

/-- `model_request_fingerprint`: the digest of the request without its correlation id. -/
def modelRequestFingerprint (request : ModelRequest) : Except PyError String := do
  let encoded ← jsonDumps (request.toDict false)
  return b.sha256 encoded

/-- A fixture file, line by line. -/
abbrev Fixture := List (Option JsonText)

/-! ### Recording -/

/-- The wrapped provider, with what it keeps between two requests. -/
abbrev ModelProvider (σ : Type) := σ → ModelRequest → Except PyError (ModelResponse × σ)

structure RecordingModelProvider (σ : Type) where
  provider : ModelProvider σ
  state : σ
  file : Fixture

/-- The fields of a line. -/
def recordFields (fingerprint : String) (request : ModelRequest) (response : ModelResponse) :
    List (String × JSONValue) :=
  [("fixture_version", .int 1), ("fingerprint", .str fingerprint),
   ("request", request.toDict true), ("response", response.toDict.value)]

namespace RecordingModelProvider

variable {σ : Type}

/-- `generate`: what the wrapped provider answers is appended to the file. -/
def generate (recorder : RecordingModelProvider σ) (request : ModelRequest) :
    Except PyError (ModelResponse × RecordingModelProvider σ) := do
  let (response, state) ← recorder.provider recorder.state request
  let fingerprint ← modelRequestFingerprint b request
  let line ← jsonDumps (.obj (recordFields fingerprint request response))
  return (response, { recorder with state := state, file := recorder.file ++ [some line] })

/-- Requests one after another. -/
def generateAll (recorder : RecordingModelProvider σ) :
    List ModelRequest → Except PyError (List ModelResponse × RecordingModelProvider σ)
  | [] => .ok ([], recorder)
  | request :: requests => do
    let (response, recorder) ← recorder.generate b request
    let (responses, recorder) ← recorder.generateAll requests
    return (response :: responses, recorder)

end RecordingModelProvider

/-! ### Replay -/

structure ReplayModelProvider where
  strict : Bool
  responses : Dict (List ModelResponse)

namespace ReplayModelProvider

/-- The responses that wait under a fingerprint. -/
def queue (provider : ReplayModelProvider) (fingerprint : String) : List ModelResponse :=
  (Dict.get? provider.responses fingerprint).getD []

def setQueue (provider : ReplayModelProvider) (fingerprint : String)
    (waiting : List ModelResponse) : ReplayModelProvider :=
  { provider with responses := provider.responses.put (fingerprint, waiting) }

/-- The queues that are not empty. -/
def candidates (provider : ReplayModelProvider) : List (String × List ModelResponse) :=
  provider.responses.rows.filter fun row => !row.2.isEmpty

/-- One line of `_load`: nothing for a blank one. -/
def readLine (lineNumber : Nat) :
    Option JsonText → Except PyError (Option (String × ModelResponse))
  | none => .ok none
  | some line => do
    let data ← (jsonLoads line).mapping
    let version ← tokensOr b data "fixture_version" 0
    refuse (version ≠ 1) s!"unsupported fixture version on line {lineNumber}"
    let fingerprint ← itemText b.toBuiltins data "fingerprint"
    let response ← ModelResponse.fromDict b (← itemMapping data "response")
    return some (fingerprint, response)

/-- `_load`, from a line on. -/
def load (provider : ReplayModelProvider) (lineNumber : Nat) :
    Fixture → Except PyError ReplayModelProvider
  | [] => .ok provider
  | line :: lines => do
    match ← readLine b lineNumber line with
    | none => provider.load (lineNumber + 1) lines
    | some (fingerprint, response) =>
      (provider.setQueue fingerprint (provider.queue fingerprint ++ [response])).load
        (lineNumber + 1) lines

/-- `ReplayModelProvider(path, strict=...)`. -/
def create (file : Fixture) (strict : Bool) : Except PyError ReplayModelProvider :=
  load b ⟨strict, .empty⟩ 1 file

/-- The `LookupError` of a request that nothing was recorded for. -/
def noFixture (fingerprint : String) : PyError :=
  .other s!"no replay fixture for model request {fingerprint}"

/-- `generate`, with the provider after it. -/
def generate (provider : ReplayModelProvider) (request : ModelRequest) :
    Except PyError ModelResponse × ReplayModelProvider :=
  match modelRequestFingerprint b request with
  | .error error => (.error error, provider)
  | .ok fingerprint =>
    match provider.queue fingerprint with
    | response :: waiting => (.ok response, provider.setQueue fingerprint waiting)
    | [] =>
      if provider.strict then (.error (noFixture fingerprint), provider)
      else
        match provider.candidates with
        | [(key, response :: waiting)] => (.ok response, provider.setQueue key waiting)
        | _ => (.error (.other "non-strict replay is ambiguous"), provider)

/-- The provider after some requests, answered or not. -/
def afterAll (provider : ReplayModelProvider) : List ModelRequest → ReplayModelProvider
  | [] => provider
  | request :: requests => (provider.generate b request).2.afterAll requests

/-- What requests get, one after another. -/
def answers (provider : ReplayModelProvider) :
    List ModelRequest → List (Except PyError ModelResponse)
  | [] => []
  | request :: requests =>
    (provider.generate b request).1 :: (provider.generate b request).2.answers requests

end ReplayModelProvider

/-- The fingerprints that requests ask for. -/
def asked (requests : List ModelRequest) : List String :=
  requests.filterMap fun request => (modelRequestFingerprint b request).toOption

/-- An answer that equals a response. -/
def AnswersWith (answer : Except PyError ModelResponse) (response : ModelResponse) : Prop :=
  ∃ read, answer = .ok read ∧ read.Equals response

/-- **A provider replays a run**: the same requests, under any correlation ids, get equal
responses in the same order, and whatever was asked before, a request is answered while its
fingerprint was asked less often than recorded and turned away from then on. -/
structure ReplaysRun (requests : List ModelRequest) (responses : List ModelResponse)
    (provider : ReplayModelProvider) : Prop where
  same : ∀ queries, List.Forall₂ ModelRequest.SameRequest queries requests →
    List.Forall₂ AnswersWith (provider.answers b queries) responses
  answered : ∀ before query fingerprint, modelRequestFingerprint b query = .ok fingerprint →
    (asked b before).count fingerprint < (asked b requests).count fingerprint →
    ∃ response, ((provider.afterAll b before).generate b query).1 = .ok response
  surplus : ∀ before query fingerprint, modelRequestFingerprint b query = .ok fingerprint →
    (asked b requests).count fingerprint ≤ (asked b before).count fingerprint →
    ((provider.afterAll b before).generate b query).1 =
      .error (ReplayModelProvider.noFixture fingerprint)

/-- A strict replay of the file replays the run. -/
def ReplaysStrictly (requests : List ModelRequest) (responses : List ModelResponse) (file : Fixture) :
    Prop :=
  ∃ provider, ReplayModelProvider.create b file true = .ok provider ∧
    ReplaysRun b requests responses provider

/-! ### What a recorded file holds -/

/-- The line of an answered request. -/
structure RecordedCall (call : ModelRequest × ModelResponse) (line : Option JsonText)
    (fingerprint : String) (data : Payload) : Prop where
  fingerprint_eq : modelRequestFingerprint b call.1 = .ok fingerprint
  respells : data.Respells call.2.toDict
  read : ∀ lineNumber, ReplayModelProvider.readLine b lineNumber line = (do
    let response ← ModelResponse.fromDict b data
    return some (fingerprint, response))

/-- A written line is read back as its fingerprint and its response. -/
theorem recorded_line {request : ModelRequest} {response : ModelResponse} {fingerprint : String}
    {line : JsonText} (hfingerprint : modelRequestFingerprint b request = .ok fingerprint)
    (hline : jsonDumps (.obj (recordFields fingerprint request response)) = .ok line) :
    ∃ data, RecordedCall b (request, response) (some line) fingerprint data := by
  have hkeys : ((recordFields fingerprint request response).map entryKey).Nodup := by
    have heq : (recordFields fingerprint request response).map entryKey =
        ["fixture_version", "fingerprint", "request", "response"] := rfl
    rw [heq]
    decide
  let record : Payload := ⟨recordFields fingerprint request response, hkeys⟩
  have hvalue : line.value = record.value.sortKeys := by
    rw [jsonDumps, if_pos (printable_of_dumps hline)] at hline
    exact congrArg JsonText.value (Except.ok.inj hline).symm
  have hsame : line.value.sortKeys = record.value.sortKeys := by rw [hvalue, sortKeys_sortKeys]
  obtain ⟨data, hdata, hrespells⟩ := Payload.respells_of_value hsame
  have hfields : ∀ row ∈ recordFields fingerprint request response, data.Stored row.1 row.2 :=
    hrespells.stored
  simp only [recordFields, List.forall_mem_cons, List.not_mem_nil, false_imp_iff, implies_true,
    and_true] at hfields
  obtain ⟨hversion, htext, -, stored, hstored, hresponse⟩ := hfields
  obtain ⟨read, hread, hrespelled⟩ := Payload.respells_of_value hresponse
  refine ⟨read, hfingerprint, hrespelled, fun lineNumber => ?_⟩
  have hitem : itemMapping data "response" = .ok read := by
    rw [itemMapping, Payload.item, hstored]
    exact hread
  rw [ReplayModelProvider.readLine, jsonLoads, hdata]
  simp only [ok_bind, ModelResponse.tokensOr_stored hversion, ModelResponse.itemText_stored htext,
    hitem]
  rfl

namespace RecordingModelProvider

variable {σ : Type} {b : ContentBuiltins}

theorem generate_ok {recorder next : RecordingModelProvider σ} {request : ModelRequest}
    {response : ModelResponse} (h : recorder.generate b request = .ok (response, next)) :
    ∃ line fingerprint data, next.file = recorder.file ++ [line] ∧
      RecordedCall b (request, response) line fingerprint data := by
  obtain ⟨⟨answer, state⟩, -, h⟩ := bind_eq_ok h
  obtain ⟨fingerprint, hfingerprint, h⟩ := bind_eq_ok h
  obtain ⟨line, hline, h⟩ := bind_eq_ok h
  obtain ⟨rfl, rfl⟩ := Prod.mk.inj (Except.ok.inj h)
  obtain ⟨data, hdata⟩ := recorded_line b hfingerprint hline
  exact ⟨some line, fingerprint, data, rfl, hdata⟩

/-- **A recorded run leaves one line for each of its calls**, in their order. -/
theorem generateAll_ok {recorder final : RecordingModelProvider σ} {requests : List ModelRequest}
    {responses : List ModelResponse}
    (h : recorder.generateAll b requests = .ok (responses, final)) :
    ∃ lines, final.file = recorder.file ++ lines ∧ responses.length = requests.length ∧
      List.Forall₂ (fun call line => ∃ fingerprint data, RecordedCall b call line fingerprint data)
        (requests.zip responses) lines := by
  induction requests generalizing recorder responses with
  | nil =>
    obtain ⟨rfl, rfl⟩ := Prod.mk.inj (Except.ok.inj h)
    exact ⟨[], (List.append_nil _).symm, rfl, .nil⟩
  | cons request requests ih =>
    obtain ⟨⟨response, next⟩, hnext, h⟩ := bind_eq_ok h
    obtain ⟨⟨rest, last⟩, hrest, h⟩ := bind_eq_ok h
    obtain ⟨rfl, rfl⟩ := Prod.mk.inj (Except.ok.inj h)
    obtain ⟨line, fingerprint, data, hfile, hline⟩ := generate_ok hnext
    obtain ⟨lines, hlines, hlength, hall⟩ := ih hrest
    refine ⟨line :: lines, ?_, congrArg (· + 1) hlength, .cons ⟨fingerprint, data, hline⟩ hall⟩
    rw [hlines, hfile, List.append_assoc]
    rfl

end RecordingModelProvider

/-- What a recorded call is read back as: its fingerprint and what the reader makes of its
response. -/
def ReadAs (call : ModelRequest × ModelResponse) (entry : String × ModelResponse) : Prop :=
  modelRequestFingerprint b call.1 = .ok entry.1 ∧
    ∃ data : Payload, data.Respells call.2.toDict ∧ ModelResponse.fromDict b data = .ok entry.2

namespace ReplayModelProvider

variable {b : ContentBuiltins} {provider : ReplayModelProvider}

/-! ### The queues of a provider -/

theorem queue_setQueue (provider : ReplayModelProvider) (fingerprint : String)
    (waiting : List ModelResponse) : (provider.setQueue fingerprint waiting).queue =
      Function.update provider.queue fingerprint waiting := by
  funext key
  rw [queue, setQueue, Dict.get?_put]
  by_cases hkey : fingerprint = key
  · subst hkey
    rw [if_pos rfl, Function.update_self]
    rfl
  · have hother : key ≠ fingerprint := fun h => hkey h.symm
    rw [if_neg hkey, Function.update_of_ne hother]
    rfl

/-- A request whose fingerprint has a response waiting gets it. -/
theorem generate_waiting {request : ModelRequest} {fingerprint : String} {response : ModelResponse}
    {waiting : List ModelResponse} (hrequest : modelRequestFingerprint b request = .ok fingerprint)
    (hqueue : provider.queue fingerprint = response :: waiting) :
    provider.generate b request = (.ok response, provider.setQueue fingerprint waiting) := by
  unfold generate
  rw [hrequest]
  dsimp only
  rw [hqueue]

/-- A strict provider turns away a request that nothing waits for. -/
theorem generate_none {request : ModelRequest} {fingerprint : String}
    (hstrict : provider.strict = true) (hrequest : modelRequestFingerprint b request = .ok fingerprint)
    (hqueue : provider.queue fingerprint = []) :
    provider.generate b request = (.error (noFixture fingerprint), provider) := by
  unfold generate
  rw [hrequest]
  dsimp only
  rw [hqueue]
  dsimp only
  rw [if_pos hstrict]

theorem generate_invalid {request : ModelRequest} {error : PyError}
    (hrequest : modelRequestFingerprint b request = .error error) :
    provider.generate b request = (.error error, provider) := by
  unfold generate
  rw [hrequest]

/-- **A strict provider serves its queues**: the answer is the head of one, which moves on. -/
theorem generate_strict {request : ModelRequest} {fingerprint : String}
    (hstrict : provider.strict = true)
    (hrequest : modelRequestFingerprint b request = .ok fingerprint) :
    (provider.generate b request).1.toOption = (provider.queue fingerprint).head? ∧
      (provider.generate b request).2.queue = KeyedQueues.take provider.queue fingerprint ∧
      (provider.generate b request).2.strict = true := by
  cases hqueue : provider.queue fingerprint with
  | nil =>
    rw [generate_none hstrict hrequest hqueue]
    refine ⟨rfl, ?_, hstrict⟩
    rw [KeyedQueues.take, hqueue, List.tail_nil, ← hqueue, Function.update_eq_self]
  | cons response waiting =>
    rw [generate_waiting hrequest hqueue]
    refine ⟨rfl, ?_, hstrict⟩
    rw [queue_setQueue, KeyedQueues.take, hqueue, List.tail_cons]

/-- A run of requests serves the queues. -/
theorem answers_strict (hstrict : provider.strict = true) {queries : List ModelRequest}
    {fingerprints : List String}
    (h : List.Forall₂ (fun query fingerprint => modelRequestFingerprint b query = .ok fingerprint)
      queries fingerprints) :
    (provider.answers b queries).map Except.toOption =
      KeyedQueues.serve provider.queue fingerprints := by
  induction h generalizing provider with
  | nil => rfl
  | cons hquery _ ih =>
    obtain ⟨hanswer, hqueue, hkept⟩ := generate_strict hstrict hquery
    rw [answers, List.map_cons, hanswer, ih hkept, hqueue, KeyedQueues.serve]

theorem afterAll_strict (hstrict : provider.strict = true) (requests : List ModelRequest) :
    (provider.afterAll b requests).queue = KeyedQueues.after provider.queue (asked b requests) ∧
      (provider.afterAll b requests).strict = true := by
  induction requests generalizing provider with
  | nil => exact ⟨rfl, hstrict⟩
  | cons request requests ih =>
    rw [afterAll, asked, List.filterMap_cons]
    cases hrequest : modelRequestFingerprint b request with
    | error error =>
      rw [generate_invalid hrequest]
      exact ih hstrict
    | ok fingerprint =>
      obtain ⟨-, hqueue, hkept⟩ := generate_strict hstrict hrequest
      obtain ⟨hafter, hstill⟩ := ih hkept
      rw [hafter, hqueue]
      exact ⟨rfl, hstill⟩

/-! ### Loading a recorded file -/

/-- A loaded file adds its entries to the queues, in the order of its lines. -/
theorem load_ok {calls : List (ModelRequest × ModelResponse)} {lines : Fixture}
    (hlines : List.Forall₂
      (fun call line => ∃ fingerprint data, RecordedCall b call line fingerprint data) calls lines)
    {loaded : ReplayModelProvider} {lineNumber : Nat} {before : List (String × ModelResponse)}
    (hbefore : provider.queue = KeyedQueues.lanes before)
    (h : provider.load b lineNumber lines = .ok loaded) :
    ∃ entries, List.Forall₂ (ReadAs b) calls entries ∧
      loaded.queue = KeyedQueues.lanes (before ++ entries) ∧ loaded.strict = provider.strict := by
  induction hlines generalizing provider lineNumber before with
  | nil =>
    obtain rfl := Except.ok.inj h
    exact ⟨[], .nil, by rw [hbefore, List.append_nil], rfl⟩
  | cons hline _ ih =>
    obtain ⟨fingerprint, data, hrecorded⟩ := hline
    rw [load, hrecorded.read] at h
    cases hread : ModelResponse.fromDict b data with
    | error error =>
      rw [hread] at h
      cases h
    | ok response =>
      rw [hread] at h
      have hqueue : (provider.setQueue fingerprint (provider.queue fingerprint ++ [response])).queue =
          KeyedQueues.lanes (before ++ [(fingerprint, response)]) := by
        rw [queue_setQueue, KeyedQueues.lanes_concat, hbefore]
      obtain ⟨entries, hentries, hloaded, hstrict⟩ := ih hqueue h
      refine ⟨(fingerprint, response) :: entries,
        .cons ⟨hrecorded.fingerprint_eq, data, hrecorded.respells, hread⟩ hentries, ?_, hstrict⟩
      rw [hloaded, List.append_assoc]
      rfl

/-- A file loads when its responses can be read. -/
theorem load_of {calls : List (ModelRequest × ModelResponse)} {lines : Fixture}
    (hlines : List.Forall₂
      (fun call line => ∃ fingerprint data, RecordedCall b call line fingerprint data) calls lines)
    (hreplayable : ∀ call ∈ calls, call.2.Replayable b) (lineNumber : Nat) :
    ∃ loaded, provider.load b lineNumber lines = .ok loaded := by
  induction hlines generalizing provider lineNumber with
  | nil => exact ⟨provider, rfl⟩
  | cons hline _ ih =>
    obtain ⟨fingerprint, data, hrecorded⟩ := hline
    obtain ⟨hfirst, hrest⟩ := List.forall_mem_cons.mp hreplayable
    obtain ⟨response, hread, -⟩ := (ModelResponse.comesBack_iff hrecorded.respells).mpr hfirst
    rw [load, hrecorded.read, hread]
    exact ih hrest _

end ReplayModelProvider

/-! ### The run -/

/-- Two relations over one list, element by element. -/
theorem forall₂_through {α β γ : Type} {R : α → γ → Prop} {S : β → γ → Prop} {T : α → β → Prop}
    {as : List α} {bs : List β} {cs : List γ} (h : List.Forall₂ R as cs)
    (h' : List.Forall₂ S bs cs) (hT : ∀ a b c, R a c → S b c → T a b) : List.Forall₂ T as bs := by
  induction h generalizing bs with
  | nil =>
    obtain rfl := List.forall₂_nil_right_iff.mp h'
    exact .nil
  | cons hfirst _ ih =>
    obtain ⟨other, others, hother, hothers, rfl⟩ := List.forall₂_cons_right_iff.mp h'
    exact .cons (hT _ _ _ hfirst hother) (ih hothers)

section
variable {b} {requests queries : List ModelRequest} {responses : List ModelResponse}
  {entries : List (String × ModelResponse)} {provider : ReplayModelProvider}

/-- The calls of a run and what they are read back as, seen from the requests. -/
theorem requests_readAs (hlength : responses.length = requests.length)
    (h : List.Forall₂ (ReadAs b) (requests.zip responses) entries) :
    List.Forall₂ (fun request entry => modelRequestFingerprint b request = .ok entry.1)
      requests entries := by
  have hzip : (requests.zip responses).map Prod.fst = requests :=
    List.map_fst_zip (Nat.le_of_eq hlength.symm)
  rw [← hzip, List.forall₂_map_left_iff]
  exact h.imp fun call entry hcall => hcall.1

/-- The same from the responses. -/
theorem responses_readAs (hlength : responses.length = requests.length)
    (h : List.Forall₂ (ReadAs b) (requests.zip responses) entries) :
    List.Forall₂ (fun response entry => ∃ data : Payload, data.Respells response.toDict ∧
      ModelResponse.fromDict b data = .ok entry.2) responses entries := by
  have hzip : (requests.zip responses).map Prod.snd = responses :=
    List.map_snd_zip (Nat.le_of_eq hlength)
  rw [← hzip, List.forall₂_map_left_iff]
  exact h.imp fun call entry hcall => hcall.2

theorem asked_eq (h : List.Forall₂
    (fun request entry => modelRequestFingerprint b request = .ok entry.1) requests entries) :
    asked b requests = entries.map Prod.fst := by
  induction h with
  | nil => rfl
  | cons hfirst _ ih =>
    rw [asked, List.filterMap_cons, hfirst, List.map_cons, ← ih]
    rfl

/-- The fingerprint of a request does not depend on its correlation id. -/
theorem fingerprint_same {query request : ModelRequest} (h : query.SameRequest request) :
    modelRequestFingerprint b query = modelRequestFingerprint b request := by
  rw [modelRequestFingerprint, h.toDict]
  rfl

/-- **The same requests get the recorded entries**, in the same order. -/
theorem answers_entries (hstrict : provider.strict = true)
    (hqueue : provider.queue = KeyedQueues.lanes entries)
    (hentries : List.Forall₂
      (fun request entry => modelRequestFingerprint b request = .ok entry.1) requests entries)
    (hqueries : List.Forall₂ ModelRequest.SameRequest queries requests) :
    List.Forall₂ (fun answer entry => answer = Except.ok entry.2) (provider.answers b queries)
      entries := by
  have hasked : List.Forall₂ (fun entry query => modelRequestFingerprint b query = .ok entry.1)
      entries queries :=
    forall₂_through hentries.flip hqueries fun entry query request hrequest hsame => by
      rw [fingerprint_same hsame]
      exact hrequest
  have hkeys : List.Forall₂
      (fun query fingerprint => modelRequestFingerprint b query = .ok fingerprint) queries
      (entries.map Prod.fst) := List.forall₂_map_right_iff.mpr hasked.flip
  have hserved := ReplayModelProvider.answers_strict hstrict hkeys
  rw [hqueue, KeyedQueues.serve_lanes] at hserved
  have hall : List.Forall₂ (· = ·) ((provider.answers b queries).map Except.toOption)
      (entries.map fun entry => some entry.2) := hserved ▸ List.forall₂_refl _
  rw [List.forall₂_map_left_iff, List.forall₂_map_right_iff] at hall
  exact hall.imp fun answer entry h => toOption_eq_some.mp h

/-- What waits for a fingerprint after some requests. -/
theorem queue_after (hstrict : provider.strict = true)
    (hqueue : provider.queue = KeyedQueues.lanes entries)
    (hentries : List.Forall₂
      (fun request entry => modelRequestFingerprint b request = .ok entry.1) requests entries)
    (before : List ModelRequest) (fingerprint : String) :
    (provider.afterAll b before).queue fingerprint = [] ↔
      (asked b requests).count fingerprint ≤ (asked b before).count fingerprint := by
  obtain ⟨hafter, -⟩ := ReplayModelProvider.afterAll_strict hstrict before
  rw [hafter, hqueue, KeyedQueues.next_eq_none_iff, asked_eq hentries]

/-- **Which requests are turned away** is a matter of counting. -/
theorem turned_away (hstrict : provider.strict = true)
    (hqueue : provider.queue = KeyedQueues.lanes entries)
    (hentries : List.Forall₂
      (fun request entry => modelRequestFingerprint b request = .ok entry.1) requests entries)
    (hsame : ∀ queries, List.Forall₂ ModelRequest.SameRequest queries requests →
      List.Forall₂ AnswersWith (provider.answers b queries) responses) :
    ReplaysRun b requests responses provider := by
  refine ⟨hsame, fun before query fingerprint hquery hcount => ?_,
    fun before query fingerprint hquery hcount => ?_⟩
  · cases hwaiting : (provider.afterAll b before).queue fingerprint with
    | nil =>
      have hle := (queue_after hstrict hqueue hentries before fingerprint).mp hwaiting
      omega
    | cons response waiting =>
      exact ⟨response, by rw [ReplayModelProvider.generate_waiting hquery hwaiting]⟩
  · have hempty := (queue_after hstrict hqueue hentries before fingerprint).mpr hcount
    have hstill := (ReplayModelProvider.afterAll_strict (b := b) hstrict before).2
    rw [ReplayModelProvider.generate_none hstill hquery hempty]

variable {σ : Type} {recorder final : RecordingModelProvider σ}

/-- The queues of a provider that loaded a recorded file. -/
theorem create_recorded (hfile : recorder.file = [])
    (h : recorder.generateAll b requests = .ok (responses, final))
    (hcreate : ReplayModelProvider.create b final.file true = .ok provider) :
    ∃ entries, List.Forall₂ (ReadAs b) (requests.zip responses) entries ∧
      provider.queue = KeyedQueues.lanes entries ∧ provider.strict = true := by
  obtain ⟨lines, hlines, -, hcalls⟩ := RecordingModelProvider.generateAll_ok h
  rw [hlines, hfile, List.nil_append] at hcreate
  have hempty : (⟨true, .empty⟩ : ReplayModelProvider).queue = KeyedQueues.lanes [] := rfl
  obtain ⟨entries, hentries, hqueue, hstrict⟩ :=
    ReplayModelProvider.load_ok hcalls hempty hcreate
  exact ⟨entries, hentries, hqueue, hstrict⟩

/-- What replays was kept by the file. -/
theorem replayable_of_replays (hfile : recorder.file = [])
    (h : recorder.generateAll b requests = .ok (responses, final))
    (hreplays : ReplaysStrictly b requests responses final.file) :
    ∀ response ∈ responses, response.Replayable b := by
  obtain ⟨provider, hcreate, hrun⟩ := hreplays
  obtain ⟨entries, hentries, hqueue, hstrict⟩ := create_recorded hfile h hcreate
  obtain ⟨-, -, hlength, -⟩ := RecordingModelProvider.generateAll_ok h
  have hsame : List.Forall₂ ModelRequest.SameRequest requests requests :=
    List.forall₂_same.mpr fun request _ => .refl request
  have hanswers := answers_entries hstrict hqueue (requests_readAs hlength hentries) hsame
  have hequal := hrun.same requests hsame
  have hread : List.Forall₂ (fun response entry => entry.2.Equals response) responses entries :=
    forall₂_through hequal.flip hanswers.flip fun response entry answer hanswer hentry => by
      obtain ⟨read, hread, hequal⟩ := hanswer
      rw [hentry] at hread
      exact Except.ok.inj hread ▸ hequal
  have hall : List.Forall₂ (fun response _ => response.Replayable b) responses entries :=
    (responses_readAs hlength hentries).mp
      (fun response entry hdata hequal => by
        obtain ⟨data, hrespells, hread⟩ := hdata
        exact (ModelResponse.comesBack_iff hrespells).mp ⟨entry.2, hread, hequal⟩) hread
  intro response hresponse
  obtain ⟨index, hindex, rfl⟩ := List.getElem_of_mem hresponse
  exact hall.get hindex (hall.length_eq ▸ hindex)

/-- **A recorded run replays exactly when a fixture can give back each of its responses.** -/
theorem replays_iff (hfile : recorder.file = [])
    (h : recorder.generateAll b requests = .ok (responses, final)) :
    ReplaysStrictly b requests responses final.file ↔ ∀ response ∈ responses, response.Replayable b := by
  refine ⟨replayable_of_replays hfile h, fun hreplayable => ?_⟩
  obtain ⟨lines, hlines, hlength, hcalls⟩ := RecordingModelProvider.generateAll_ok h
  obtain ⟨provider, hcreate⟩ : ∃ provider,
      ReplayModelProvider.create b final.file true = .ok provider := by
    rw [hlines, hfile, List.nil_append]
    exact ReplayModelProvider.load_of hcalls
      (fun call hcall => hreplayable _ (List.of_mem_zip hcall).2) 1
  obtain ⟨entries, hentries, hqueue, hstrict⟩ := create_recorded hfile h hcreate
  have hrequests := requests_readAs hlength hentries
  refine ⟨provider, hcreate, turned_away hstrict hqueue hrequests fun queries hqueries => ?_⟩
  have hanswers := answers_entries hstrict hqueue hrequests hqueries
  have hresponses : List.Forall₂ (fun response entry => response ∈ responses ∧
      ∃ data : Payload, data.Respells response.toDict ∧
        ModelResponse.fromDict b data = .ok entry.2) responses entries :=
    (List.forall₂_and_left responses entries).mpr
      ⟨fun _ hresponse => hresponse, responses_readAs hlength hentries⟩
  refine forall₂_through hanswers hresponses fun answer response entry hanswer hresponse => ?_
  obtain ⟨hmem, data, hrespells, hread⟩ := hresponse
  obtain ⟨read, hback, hequal⟩ :=
    (ModelResponse.comesBack_iff hrespells).mpr (hreplayable response hmem)
  rw [hread] at hback
  exact ⟨entry.2, hanswer, Except.ok.inj hback ▸ hequal⟩

/-! ### A run that does not replay -/

/-- A question to the model, under a correlation id. -/
def inspect (correlationId : Option String) : ModelRequest where
  messages := [⟨"user", "inspect"⟩]
  responseSchema := none
  schemaName := "noema_response"
  instructions := none
  maxOutputTokens := none
  temperature := none
  correlationId := correlationId
  metadata := .empty
  some_message := by simp
  tokens_positive := by simp

/-- An answer with a finish reason. -/
def answered (finishReason : Option String) : ModelResponse where
  provider := "fake"
  model := "m1"
  text := "ok"
  output := .bool true
  responseId := none
  finishReason := finishReason
  usage := ⟨0, 0, 0, none⟩
  latencySeconds := none
  metadata := .empty

/-- A provider that gives one answer, before anything is recorded. -/
def fakeRecorder (finishReason : Option String) : RecordingModelProvider Unit where
  provider := fun _ _ => .ok (answered finishReason, ())
  state := ()
  file := []

/-- The digest of the question. -/
def inspectFingerprint : String :=
  (plainContent []).sha256 ⟨((inspect none).toDict false).sortKeys⟩

/-- The recorder after one question, where the answer can be written. -/
def fakeFinal (finishReason : Option String) : RecordingModelProvider Unit :=
  { fakeRecorder finishReason with
    file := [some ⟨(JSONValue.obj (recordFields inspectFingerprint (inspect (some "run-a"))
      (answered finishReason))).sortKeys⟩] }

theorem fakeRecorder_final {finishReason : Option String}
    (h : (JSONValue.obj (recordFields inspectFingerprint (inspect (some "run-a"))
      (answered finishReason))).printable = true) :
    (fakeRecorder finishReason).generateAll (plainContent []) [inspect (some "run-a")] =
      .ok ([answered finishReason], fakeFinal finishReason) := by
  have hrequest : ((inspect (some "run-a")).toDict false).printable = true := by decide +kernel
  have hfingerprint : modelRequestFingerprint (plainContent []) (inspect (some "run-a")) =
      .ok inspectFingerprint := by
    rw [modelRequestFingerprint, jsonDumps, if_pos hrequest]
    rfl
  have hline : jsonDumps (.obj (recordFields inspectFingerprint (inspect (some "run-a"))
      (answered finishReason))) = .ok ⟨(JSONValue.obj (recordFields inspectFingerprint
        (inspect (some "run-a")) (answered finishReason))).sortKeys⟩ := by
    rw [jsonDumps, if_pos h]
  have hgenerate : (fakeRecorder finishReason).generate (plainContent []) (inspect (some "run-a")) =
      .ok (answered finishReason, fakeFinal finishReason) := by
    simp only [RecordingModelProvider.generate, fakeRecorder, ok_bind, hfingerprint, hline]
    rfl
  rw [RecordingModelProvider.generateAll, hgenerate]
  rfl

theorem replays_stop :
    ReplaysStrictly (plainContent []) [inspect (some "run-a")] [answered (some "stop")]
        (fakeFinal (some "stop")).file ↔
      ∀ response ∈ [answered (some "stop")], response.Replayable (plainContent []) :=
  replays_iff rfl (fakeRecorder_final (by decide +kernel))

/-- An answer with an empty finish reason comes back with none. -/
theorem not_replays : ¬ ∀ (b : ContentBuiltins) (recorder final : RecordingModelProvider Unit)
    (requests : List ModelRequest) (responses : List ModelResponse), recorder.file = [] →
    recorder.generateAll b requests = .ok (responses, final) →
    ReplaysStrictly b requests responses final.file := by
  intro h
  have hrun := @fakeRecorder_final (some "") (by decide +kernel)
  have hreplayable := replayable_of_replays rfl hrun (h _ _ _ _ _ rfl hrun)
  exact (hreplayable _ List.mem_cons_self).finishReason rfl

end

end Noema
