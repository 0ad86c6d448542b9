import Mathlib.Data.List.Basic
import Noema.Lib.Machine
import Noema.Lib.TaskPool

/-!
# Programs over shared state

A program calls operations on a state that it shares with others, goes on with their
answers, and returns or raises.  Between two calls the state may change; what it may
change to is a relation `R` (the rely), and `Meets R G Q` says that every call that the
program makes meets `G` in the state it finds, and that a returned value meets `Q`.  The
rules are exact: `meets_bind` is an equivalence, so with `R` the equality `Meets` also
says when a program alone does not meet `G`.

A pool runs any number of programs; `Pool.Consistent.step` is the rule for their
interleavings.
-/
namespace Programs

/-- A program over operations `Op`, each with a type of answers. -/
inductive Program (Op : Type) (Answer : Op → Type) (ε α : Type)
  | done (value : α)
  | raise (error : ε)
  | call (op : Op) (next : Answer op → Program Op Answer ε α)

/-- What the operations do to a state, and what they answer. -/
structure Service (S Op : Type) (Answer : Op → Type) where
  state : S → Op → S
  answer : S → (op : Op) → Answer op

variable {S Op ε α β : Type} {Answer : Op → Type}

namespace Program

def bind : Program Op Answer ε α → (α → Program Op Answer ε β) → Program Op Answer ε β
  | done value, f => f value
  | raise error, _ => raise error
  | call op next, f => call op fun answer => (next answer).bind f

instance : Monad (Program Op Answer ε) where
  pure := done
  bind := bind

/-- One operation. -/
def perform (op : Op) : Program Op Answer ε (Answer op) := call op done

/-- A computation that makes no call. -/
def ofExcept : Except ε α → Program Op Answer ε α
  | .ok value => done value
  | .error error => raise error

/-- Each item in its turn. -/
def forEach {σ : Type} (f : σ → β → Program Op Answer ε σ) : List β → σ → Program Op Answer ε σ
  | [], s => done s
  | item :: items, s => (f s item).bind (forEach f items)

variable (service : Service S Op Answer) (R : S → S → Prop) (G : S → Op → Prop)

/-- Every call meets `G`, whatever `R` allows between the calls, and a result meets `Q`. -/
def Meets (Q : S → α → Prop) : Program Op Answer ε α → S → Prop
  | done value, s => Q s value
  | raise _, _ => True
  | call op next, s => ∀ t, R s t → G t op ∧ (next (service.answer t op)).Meets Q (service.state t op)

variable {service R G} {Q Q' : S → α → Prop} {s t : S}

/-- **The rule for a sequence.** -/
theorem meets_bind {x : Program Op Answer ε α} {f : α → Program Op Answer ε β} {Q : S → β → Prop} :
    (x >>= f).Meets service R G Q s ↔
      x.Meets service R G (fun s a => (f a).Meets service R G Q s) s := by
  show (x.bind f).Meets service R G Q s ↔ _
  induction x generalizing s with
  | done value => rfl
  | raise error => rfl
  | call op next ih => exact forall₂_congr fun t _ => and_congr_right fun _ => ih _

theorem Meets.mono {x : Program Op Answer ε α} (h : x.Meets service R G Q s)
    (himp : ∀ s a, Q s a → Q' s a) : x.Meets service R G Q' s := by
  induction x generalizing s with
  | done value => exact himp _ _ h
  | raise error => trivial
  | call op next ih =>
    intro t ht
    obtain ⟨hG, hnext⟩ := h t ht
    exact ⟨hG, ih _ hnext⟩

theorem meets_ofExcept {x : Except ε α} :
    (ofExcept x : Program Op Answer ε α).Meets service R G Q s ↔ ∀ a, x = .ok a → Q s a := by
  cases x with
  | ok a =>
    refine ⟨fun h b hb => ?_, fun h => h a rfl⟩
    cases hb
    exact h
  | error e => exact ⟨fun _ _ h => (nomatch h), fun _ => trivial⟩

/-- What a program meets, it meets after a change that `R` allows. -/
theorem Meets.later {x : Program Op Answer ε α} (h : x.Meets service R G (fun _ _ => True) s)
    (htrans : ∀ {s t u}, R s t → R t u → R s u) (hst : R s t) :
    x.Meets service R G (fun _ _ => True) t := by
  cases x with
  | done value => trivial
  | raise error => trivial
  | call op next => exact fun u hu => h u (htrans hst hu)

theorem Meets.weaken {G' : S → Op → Prop} {x : Program Op Answer ε α}
    (h : x.Meets service R G Q s) (himp : ∀ s op, G s op → G' s op) : x.Meets service R G' Q s := by
  induction x generalizing s with
  | done value => exact h
  | raise error => trivial
  | call op next ih =>
    intro t ht
    obtain ⟨hG, hnext⟩ := h t ht
    exact ⟨himp t op hG, ih _ hnext⟩

/-- **A program that runs alone** keeps what each of its checked calls keeps. -/
theorem Meets.alone {I J : S → Prop} {x : Program Op Answer ε α}
    (h : x.Meets service (fun s t => s = t ∧ J t) G Q s) (hI : I s) (hJ : ∀ s, I s → J s)
    (hstep : ∀ s op, I s → G s op → I (service.state s op)) :
    x.Meets service Eq (fun s op => G s op ∧ I (service.state s op)) (fun s a => I s ∧ Q s a) s := by
  induction x generalizing s with
  | done value => exact ⟨hI, h⟩
  | raise error => trivial
  | call op next ih =>
    rintro t rfl
    obtain ⟨hG, hnext⟩ := h s ⟨rfl, hJ s hI⟩
    exact ⟨⟨hG, hstep s op hI hG⟩, ih _ hnext (hstep s op hI hG)⟩

/-- The states that a program which runs alone leaves behind its calls. -/
def trace (service : Service S Op Answer) : Program Op Answer ε α → S → List S
  | done _, _ => []
  | raise _, _ => []
  | call op next, s =>
    service.state s op :: (next (service.answer s op)).trace service (service.state s op)

theorem meets_trace {I : S → Prop} {x : Program Op Answer ε α} :
    x.Meets service Eq (fun s op => I (service.state s op)) (fun _ _ => True) s ↔
      ∀ t ∈ x.trace service s, I t := by
  induction x generalizing s with
  | done value => exact ⟨fun _ _ h => (nomatch h), fun _ => trivial⟩
  | raise error => exact ⟨fun _ _ h => (nomatch h), fun _ => trivial⟩
  | call op next ih =>
    rw [trace, List.forall_mem_cons, ← ih]
    exact ⟨fun h => h s rfl, by rintro h t rfl; exact h⟩

/-- **The rule for a loop**: an invariant of the rounds. -/
theorem meets_forEach {σ : Type} {f : σ → β → Program Op Answer ε σ} {I : List β → S → σ → Prop}
    {items : List β} {x : σ} (hinit : I items s x)
    (hround : ∀ item items s x, I (item :: items) s x →
      (f x item).Meets service R G (fun s x => I items s x) s) :
    (forEach f items x).Meets service R G (fun s x => I [] s x) s := by
  induction items generalizing s x with
  | nil => exact hinit
  | cons item items ih =>
    exact meets_bind.mpr ((hround item items s x hinit).mono fun s x hx => ih hx)

end Program

/-! ## Pools -/

/-- Programs that run over one state. -/
structure Pool (S Op : Type) (Answer : Op → Type) (ε : Type) where
  shared : S
  tasks : List (Program Op Answer ε Unit)

/-- `outside` is a change that no program makes. -/
inductive Label (S Op : Type) (Answer : Op → Type) (ε : Type)
  | start (task : Program Op Answer ε Unit)
  | call (index : Nat)
  | abort (index : Nat)
  | outside (shared : S)

namespace Pool

variable (service : Service S Op Answer)

/-- A task runs up to and with its next call, or is cancelled there. -/
def step (pool : Pool S Op Answer ε) : Label S Op Answer ε → Option (Pool S Op Answer ε)
  | .start task => some { pool with tasks := pool.tasks ++ [task] }
  | .call index =>
    match pool.tasks[index]? with
    | some (.call op next) =>
      some ⟨service.state pool.shared op, pool.tasks.set index (next (service.answer pool.shared op))⟩
    | _ => none
  | .abort index => some { pool with tasks := pool.tasks.eraseIdx index }
  | .outside shared => some { pool with shared }

/-- The state is in order, and each task meets its guarantee from here on. -/
structure Consistent (R : S → S → Prop) (G : S → Op → Prop) (I : S → Prop)
    (pool : Pool S Op Answer ε) : Prop where
  shared : I pool.shared
  tasks : ∀ task ∈ pool.tasks, task.Meets service R G (fun _ _ => True) pool.shared

variable {service} {R : S → S → Prop} {G : S → Op → Prop} {I : S → Prop}
  {pool pool' : Pool S Op Answer ε}

/-- A change that the tasks allow. -/
theorem Consistent.outside (h : Consistent service R G I pool)
    (htrans : ∀ {s t u}, R s t → R t u → R s u) {t : S} (hI : I t) (hR : R pool.shared t) :
    Consistent service R G I { pool with shared := t } :=
  ⟨hI, fun task htask => (h.tasks task htask).later htrans hR⟩

/-- **A call of a task**: the other tasks allow what it does. -/
theorem Consistent.call (h : Consistent service R G I pool)
    (hrefl : ∀ s, I s → R s s) (htrans : ∀ {s t u}, R s t → R t u → R s u)
    {index : Nat} {op : Op} {next : Answer op → Program Op Answer ε Unit}
    (htask : pool.tasks[index]? = some (.call op next))
    (hstep : G pool.shared op → I (service.state pool.shared op) ∧
      R pool.shared (service.state pool.shared op)) :
    Consistent service R G I ⟨service.state pool.shared op,
      pool.tasks.set index (next (service.answer pool.shared op))⟩ := by
  have hmeets := h.tasks _ (List.mem_of_getElem? htask) pool.shared (hrefl _ h.shared)
  obtain ⟨hI, hR⟩ := hstep hmeets.1
  refine ⟨hI, fun task hmem => ?_⟩
  rcases List.mem_or_eq_of_mem_set hmem with hmem | rfl
  · exact (h.tasks task hmem).later htrans hR
  · exact hmeets.2

/-- **Every step keeps a pool consistent** whose programs meet their guarantee when they
start, if what they do and what comes from outside is allowed. -/
theorem Consistent.step (h : Consistent service R G I pool)
    (hrefl : ∀ s, I s → R s s) (htrans : ∀ {s t u}, R s t → R t u → R s u)
    {label : Label S Op Answer ε}
    (hstart : ∀ task, label = .start task →
      task.Meets service R G (fun _ _ => True) pool.shared)
    (hcall : ∀ index op next, label = .call index → pool.tasks[index]? = some (.call op next) →
      G pool.shared op → I (service.state pool.shared op) ∧
        R pool.shared (service.state pool.shared op))
    (houtside : ∀ t, label = .outside t → I t ∧ R pool.shared t)
    (hs : Pool.step service pool label = some pool') : Consistent service R G I pool' := by
  cases label with
  | start task =>
    cases hs
    refine ⟨h.shared, fun other hmem => ?_⟩
    rcases List.mem_append.mp hmem with hmem | hmem
    · exact h.tasks other hmem
    · cases List.mem_singleton.mp hmem
      exact hstart task rfl
  | call index =>
    simp only [Pool.step] at hs
    split at hs
    · rename_i op next htask
      cases hs
      exact h.call hrefl htrans htask (hcall index op next rfl htask)
    · cases hs
  | abort index =>
    cases hs
    exact ⟨h.shared, fun task hmem => h.tasks task (List.mem_of_mem_eraseIdx hmem)⟩
  | outside t =>
    cases hs
    exact h.outside htrans (houtside t rfl).1 (houtside t rfl).2

end Pool
end Programs
