import Mathlib.Data.List.Count
import Mathlib.Logic.Function.Basic

/-!
# One queue for each key

Entries arrive under keys and wait in the queue of their key.  A request takes the oldest
entry of its key's queue.  Requests that repeat the keys of the entries get the entries back
in the order in which they came, however the keys are interleaved (`serve_lanes`), and a
request is turned away exactly when its key was asked as often as it came before
(`next_eq_none_iff`).
-/
namespace KeyedQueues

variable {K V : Type*} [DecidableEq K]

/-- What waits under a key. -/
def lanes (entries : List (K × V)) (key : K) : List V :=
  (entries.filter fun entry => entry.1 = key).map Prod.snd

/-- The queues after a request. -/
def take (queues : K → List V) (key : K) : K → List V :=
  Function.update queues key (queues key).tail

/-- The queues after some requests. -/
def after (queues : K → List V) (keys : List K) : K → List V := keys.foldl take queues

/-- What a run of requests gets. -/
def serve (queues : K → List V) : List K → List (Option V)
  | [] => []
  | key :: keys => (queues key).head? :: serve (take queues key) keys

@[simp] theorem lanes_nil (key : K) : lanes ([] : List (K × V)) key = [] := rfl

theorem lanes_append (before later : List (K × V)) (key : K) :
    lanes (before ++ later) key = lanes before key ++ lanes later key := by
  rw [lanes, List.filter_append, List.map_append]
  rfl

/-- An entry waits behind what came before it under its key. -/
theorem lanes_concat (entries : List (K × V)) (entry : K × V) :
    lanes (entries ++ [entry]) =
      Function.update (lanes entries) entry.1 (lanes entries entry.1 ++ [entry.2]) := by
  funext key
  rw [lanes_append]
  by_cases hkey : key = entry.1
  · subst hkey
    simp [lanes]
  · have hother : ¬ entry.1 = key := fun h => hkey h.symm
    rw [Function.update_of_ne hkey]
    simp [lanes, hother]

theorem length_lanes (entries : List (K × V)) (key : K) :
    (lanes entries key).length = (entries.map Prod.fst).count key := by
  induction entries with
  | nil => rfl
  | cons entry entries ih =>
    rw [List.map_cons, List.count_cons, ← ih]
    by_cases hkey : entry.1 = key <;> simp [lanes, hkey]

/-- A request for the key of the first entry takes that entry. -/
theorem take_lanes (entry : K × V) (entries : List (K × V)) :
    take (lanes (entry :: entries)) entry.1 = lanes entries := by
  funext key
  rw [take]
  by_cases hkey : key = entry.1
  · subst hkey
    simp [lanes]
  · have hother : ¬ entry.1 = key := fun h => hkey h.symm
    rw [Function.update_of_ne hkey]
    simp [lanes, hother]

/-- **Requests that repeat the keys get the entries back in their order.** -/
theorem serve_lanes (entries : List (K × V)) :
    serve (lanes entries) (entries.map Prod.fst) = entries.map fun entry => some entry.2 := by
  induction entries with
  | nil => rfl
  | cons entry entries ih =>
    have hhead : (lanes (entry :: entries) entry.1).head? = some entry.2 := by simp [lanes]
    rw [List.map_cons, serve, hhead, take_lanes, ih, List.map_cons]

/-- **Each request moves its own queue on by one.** -/
theorem after_eq_drop (queues : K → List V) (keys : List K) (key : K) :
    after queues keys key = (queues key).drop (keys.count key) := by
  induction keys generalizing queues with
  | nil => rfl
  | cons first keys ih =>
    have hstep : after queues (first :: keys) = after (take queues first) keys := rfl
    rw [hstep, ih, take, List.count_cons]
    by_cases hkey : key = first
    · subst hkey
      rw [Function.update_self, List.drop_tail]
      simp
    · have hother : ¬ first = key := fun h => hkey h.symm
      rw [Function.update_of_ne hkey]
      simp [hother]

/-- **A request is turned away exactly when its key was asked as often as it came.** -/
theorem next_eq_none_iff (entries : List (K × V)) (keys : List K) (key : K) :
    after (lanes entries) keys key = [] ↔
      (entries.map Prod.fst).count key ≤ keys.count key := by
  rw [after_eq_drop, List.drop_eq_nil_iff, length_lanes]

end KeyedQueues
