import Mathlib.Data.List.Nodup
import Mathlib.Data.List.Sort

/-!
# Tables with a primary key

A table is a list of rows no two of which have the same key, so that a row is
found by its key and an `UPDATE … WHERE key = k AND p` changes at most one row.
The key is a function of the row; updates keep it.  An index finds the key of a row by
another property, which no two rows then share.
-/

/-- A table whose rows are identified by `key`. -/
structure KeyedTable {α κ : Type*} (key : α → κ) where
  rows : List α
  unique : (rows.map key).Nodup

namespace KeyedTable

variable {α κ : Type*} {key : α → κ} [DecidableEq κ]

/-- The table without rows. -/
def empty : KeyedTable key := ⟨[], by simp⟩

/-- The row stored under `k`. -/
def find (t : KeyedTable key) (k : κ) : Option α := t.rows.find? fun r => key r = k

omit [DecidableEq κ] in
theorem map_unique {l : List α} (h : (l.map key).Nodup) {f : α → α} (hf : ∀ r, key (f r) = key r) :
    ((l.map f).map key).Nodup := by
  have : (l.map f).map key = l.map key := by
    rw [List.map_map]
    exact List.map_congr_left fun r _ => hf r
  rwa [this]

/-- Rewrite every row by `f`, which keeps the keys. -/
def update (t : KeyedTable key) (f : α → α) (hf : ∀ r, key (f r) = key r) : KeyedTable key :=
  ⟨t.rows.map f, map_unique t.unique hf⟩

/-- Add a row under a new key. -/
def insert (t : KeyedTable key) (r : α) (h : key r ∉ t.rows.map key) : KeyedTable key :=
  ⟨t.rows ++ [r], by
    rw [List.map_append, List.map_cons, List.map_nil]
    exact List.nodup_append.mpr ⟨t.unique, List.nodup_singleton _, by
      intro a ha b hb hab
      rw [List.mem_singleton] at hb
      exact h (hb ▸ hab ▸ ha)⟩⟩

@[simp] theorem find_empty (k : κ) : (empty : KeyedTable key).find k = none := rfl

theorem find_key {t : KeyedTable key} {k : κ} {r : α} (h : t.find k = some r) : key r = k := by
  simpa using List.find?_some h

theorem mem_of_find {t : KeyedTable key} {k : κ} {r : α} (h : t.find k = some r) : r ∈ t.rows :=
  List.mem_of_find?_eq_some h

theorem find_of_mem {t : KeyedTable key} {r : α} (h : r ∈ t.rows) : t.find (key r) = some r := by
  obtain ⟨rows, unique⟩ := t
  simp only [find] at *
  induction rows with
  | nil => cases h
  | cons a rows ih =>
    obtain ⟨hnot, htail⟩ := List.nodup_cons.mp unique
    rcases List.mem_cons.mp h with rfl | hr
    · simp
    · have hne : key a ≠ key r := fun he => hnot (he ▸ List.mem_map_of_mem hr)
      rw [List.find?_cons_of_neg (by simpa using hne)]
      exact ih htail hr

theorem not_mem_keys_of_find {t : KeyedTable key} {k : κ} (h : t.find k = none) :
    k ∉ t.rows.map key := by
  intro hmem
  obtain ⟨r, hr, rfl⟩ := List.mem_map.mp hmem
  rw [find_of_mem hr] at h
  cases h

@[simp] theorem find_update (t : KeyedTable key) (f : α → α) (hf : ∀ r, key (f r) = key r) (k : κ) :
    (t.update f hf).find k = (t.find k).map f := by
  have hcomp : ((fun r => decide (key r = k)) ∘ f) = fun r => decide (key r = k) := by
    funext r; simp [hf r]
  rw [update, find, find, List.find?_map, hcomp]

theorem find_insert (t : KeyedTable key) (r : α) (h : key r ∉ t.rows.map key) (k : κ) :
    (t.insert r h).find k = if key r = k then some r else t.find k := by
  rw [insert, find, List.find?_append]
  split
  · rename_i hk
    have hnone : t.rows.find? (fun r => decide (key r = k)) = none := by
      rw [List.find?_eq_none]
      intro x hx hxk
      exact h (hk ▸ (of_decide_eq_true hxk) ▸ List.mem_map_of_mem hx)
    simp [hnone, hk]
  · rename_i hk
    simp [find, hk]

omit [DecidableEq κ] in
theorem ext_rows {t t' : KeyedTable key} (h : t.rows = t'.rows) : t = t' := by
  cases t; cases t'; cases h; rfl

/-- `d[k] = v`: a row with this key is replaced in its place, otherwise the row is added. -/
def put (t : KeyedTable key) (r : α) : KeyedTable key :=
  if h : key r ∈ t.rows.map key then
    t.update (fun x => if key x = key r then r else x) (fun x => by split <;> simp [*])
  else t.insert r h

/-- A row that is known by its key is replaced in its place. -/
theorem put_rows {t : KeyedTable key} {r : α} (h : key r ∈ t.rows.map key) :
    (t.put r).rows = t.rows.map fun x => if key x = key r then r else x := by
  rw [put, dif_pos h]
  rfl

/-- A row under a new key is added. -/
theorem put_rows_of_new {t : KeyedTable key} {r : α} (h : key r ∉ t.rows.map key) :
    (t.put r).rows = t.rows ++ [r] := by
  rw [put, dif_neg h]
  rfl

theorem mem_put {t : KeyedTable key} {r x : α} :
    x ∈ (t.put r).rows ↔ x = r ∨ (x ∈ t.rows ∧ key x ≠ key r) := by
  by_cases h : key r ∈ t.rows.map key
  · rw [put_rows h, List.mem_map]
    constructor
    · rintro ⟨y, hy, rfl⟩
      split
      · exact Or.inl rfl
      · rename_i hne
        exact Or.inr ⟨hy, hne⟩
    · rintro (rfl | ⟨hx, hne⟩)
      · obtain ⟨y, hy, heq⟩ := List.mem_map.mp h
        exact ⟨y, hy, if_pos heq⟩
      · exact ⟨x, hx, if_neg hne⟩
  · rw [put, dif_neg h, insert, List.mem_append, List.mem_singleton]
    constructor
    · rintro (hx | rfl)
      · exact Or.inr ⟨hx, fun heq => h (heq ▸ List.mem_map_of_mem hx)⟩
      · exact Or.inl rfl
    · rintro (rfl | ⟨hx, -⟩)
      · exact Or.inr rfl
      · exact Or.inl hx

theorem find_put {t : KeyedTable key} {r : α} (k : κ) :
    (t.put r).find k = if key r = k then some r else t.find k := by
  by_cases hin : key r ∈ t.rows.map key
  · rw [put, dif_pos hin, find_update]
    by_cases hk : key r = k
    · obtain ⟨x, hx, hkey⟩ := List.mem_map.mp hin
      have hfind : t.find k = some x := hk ▸ hkey ▸ find_of_mem hx
      rw [if_pos hk, hfind, Option.map_some, if_pos hkey]
    · rw [if_neg hk]
      cases hfind : t.find k with
      | none => rfl
      | some x =>
        have hx : key x ≠ key r := fun heq => hk (heq.symm.trans (find_key hfind))
        rw [Option.map_some, if_neg hx]
  · rw [put, dif_neg hin, find_insert]

/-- Putting a row that is there changes nothing. -/
theorem put_self {t : KeyedTable key} {r : α} (h : t.find (key r) = some r) : t.put r = t := by
  have hmem := mem_of_find h
  refine ext_rows ?_
  rw [put_rows (List.mem_map_of_mem hmem)]
  refine (List.map_congr_left fun x hx => ?_).trans (List.map_id _)
  split
  · rename_i heq
    exact List.inj_on_of_nodup_map t.unique hmem hx heq.symm
  · rfl

/-- Store a row once: it may be there already, but no other row under its key. -/
def insertOnce [DecidableEq α] (t : KeyedTable key) (r : α) : Option (KeyedTable key) :=
  match h : t.find (key r) with
  | some existing => if existing = r then some t else none
  | none => some (t.insert r (not_mem_keys_of_find h))

theorem insertOnce_cases [DecidableEq α] {t t' : KeyedTable key} {r : α}
    (h : t.insertOnce r = some t') :
    (t' = t ∧ t.find (key r) = some r) ∨
      (t.find (key r) = none ∧ t'.rows = t.rows ++ [r]) := by
  unfold insertOnce at h
  split at h
  · rename_i existing hfind
    split at h
    · rename_i heq
      cases h
      exact Or.inl ⟨rfl, heq ▸ hfind⟩
    · cases h
  · rename_i hfind
    cases h
    exact Or.inr ⟨hfind, rfl⟩

theorem mem_insertOnce [DecidableEq α] {t t' : KeyedTable key} {r x : α}
    (h : t.insertOnce r = some t') : x ∈ t'.rows ↔ x ∈ t.rows ∨ x = r := by
  rcases insertOnce_cases h with ⟨rfl, hfind⟩ | ⟨-, hrows⟩
  · refine ⟨.inl, ?_⟩
    rintro (hmem | rfl)
    · exact hmem
    · exact mem_of_find hfind
  · rw [hrows, List.mem_append, List.mem_singleton]

/-- A row under a new key is stored. -/
theorem insertOnce_of_new [DecidableEq α] {t : KeyedTable key} {r : α} (h : t.find (key r) = none) :
    (t.insertOnce r).isSome = true := by
  unfold insertOnce
  split
  · rename_i existing hfind
    rw [h] at hfind
    cases hfind
  · rfl

theorem find_insertOnce [DecidableEq α] {t t' : KeyedTable key} {r : α}
    (h : t.insertOnce r = some t') (k : κ) :
    t'.find k = if key r = k then some r else t.find k := by
  unfold insertOnce at h
  split at h
  · rename_i existing hfind
    split at h
    · rename_i heq
      cases h
      by_cases hk : key r = k
      · rw [if_pos hk, ← hk, hfind, heq]
      · rw [if_neg hk]
    · cases h
  · cases h
    exact find_insert t r _ k

/-- The rows that pass a test. -/
def restrict (t : KeyedTable key) (p : α → Bool) : KeyedTable key :=
  ⟨t.rows.filter p, t.unique.sublist (List.filter_sublist.map key)⟩

omit [DecidableEq κ] in
@[simp] theorem restrict_rows (t : KeyedTable key) (p : α → Bool) :
    (t.restrict p).rows = t.rows.filter p := rfl

/-- `d.pop(k, None)`. -/
def pop (t : KeyedTable key) (k : κ) : KeyedTable key := t.restrict fun r => key r ≠ k

/-- **Popping a row that was new takes the insertion back.** -/
theorem pop_insertOnce [DecidableEq α] {t t' : KeyedTable key} {r : α}
    (h : t.insertOnce r = some t') :
    (if (t.find (key r)).isNone then t'.pop (key r) else t') = t := by
  rcases insertOnce_cases h with ⟨rfl, hfind⟩ | ⟨hnone, hrows⟩
  · rw [hfind]
    rfl
  · rw [hnone]
    refine ext_rows ?_
    show t'.rows.filter _ = t.rows
    rw [hrows, List.filter_append, List.filter_singleton]
    simp only [ne_eq, not_true_eq_false, decide_false, List.append_nil, cond_false]
    refine List.filter_eq_self.mpr fun x hx => ?_
    rw [decide_eq_true_eq]
    rintro hkey
    exact not_mem_keys_of_find hnone (hkey ▸ List.mem_map_of_mem hx)

theorem find_restrict (t : KeyedTable key) (p : α → Bool) (k : κ) :
    (t.restrict p).find k = (t.find k).filter p := by
  cases hfind : t.find k with
  | none =>
    refine List.find?_eq_none.mpr fun r hr => ?_
    exact List.find?_eq_none.mp hfind r (List.mem_of_mem_filter hr)
  | some r =>
    have hkey := find_key hfind
    by_cases hp : p r = true
    · rw [Option.filter_some, if_pos hp, ← hkey]
      exact find_of_mem (t := t.restrict p) (List.mem_filter.mpr ⟨mem_of_find hfind, hp⟩)
    · rw [Option.filter_some, if_neg hp]
      refine List.find?_eq_none.mpr fun x hx hxk => ?_
      obtain ⟨hmem, hpx⟩ := List.mem_filter.mp hx
      have hsame : t.find k = some x := by
        rw [← of_decide_eq_true hxk]
        exact find_of_mem hmem
      rw [hfind] at hsame
      cases hsame
      exact hp hpx

/-- The rows in the order of their keys. -/
def sorted [LinearOrder κ] (t : KeyedTable key) : List α :=
  t.rows.insertionSort fun a b => key a ≤ key b

omit [DecidableEq κ] in
theorem mem_sorted [LinearOrder κ] {t : KeyedTable key} {r : α} : r ∈ t.sorted ↔ r ∈ t.rows :=
  List.mem_insertionSort _

omit [DecidableEq κ] in
theorem filter_sorted_pairwise [LinearOrder κ] (t : KeyedTable key) (q : α → Bool) :
    (t.sorted.filter q).Pairwise fun a b => key a ≤ key b :=
  List.Pairwise.sublist List.filter_sublist (List.pairwise_insertionSort _ _)

omit [DecidableEq κ] in
/-- Two tables give a test the same rows in the same order if they hold the same rows that
pass it. -/
theorem filter_sorted_congr [LinearOrder κ] {t t' : KeyedTable key} {q : α → Bool}
    (h : ∀ r, q r = true → (r ∈ t.rows ↔ r ∈ t'.rows)) :
    t.sorted.filter q = t'.sorted.filter q := by
  have hnodup : ∀ t : KeyedTable key, (t.sorted.filter q).Nodup := fun t =>
    ((List.perm_insertionSort _ _).nodup_iff.mpr (List.Nodup.of_map key t.unique)).filter q
  have hperm : (t.sorted.filter q).Perm (t'.sorted.filter q) := by
    refine (List.perm_ext_iff_of_nodup (hnodup t) (hnodup t')).mpr fun r => ?_
    rw [List.mem_filter, List.mem_filter, mem_sorted, mem_sorted]
    exact and_congr_left (h r)
  refine hperm.eq_of_pairwise (fun a b ha hb hab hba => ?_) (filter_sorted_pairwise _ q)
    (filter_sorted_pairwise _ q)
  have hina := mem_sorted.mp (List.mem_filter.mp (hperm.mem_iff.mp ha)).1
  have hinb := mem_sorted.mp (List.mem_filter.mp hb).1
  exact List.inj_on_of_nodup_map t'.unique hina hinb (le_antisymm hab hba)

omit [DecidableEq κ] in
/-- A table without some rows that a test rejects anyway gives the test the same rows,
in the same order. -/
theorem filter_sorted_restrict [LinearOrder κ] (t : KeyedTable key) {p q : α → Bool}
    (h : ∀ r, q r = true → p r = true) :
    (t.restrict p).sorted.filter q = t.sorted.filter q := by
  refine filter_sorted_congr fun r hr => ?_
  rw [restrict_rows, List.mem_filter]
  exact and_iff_left (h r hr)

/-- `d.pop(k, None)`. -/
def erase (t : KeyedTable key) (k : κ) : KeyedTable key :=
  ⟨t.rows.filter fun r => key r ≠ k, t.unique.sublist (List.filter_sublist.map key)⟩

theorem find_erase (t : KeyedTable key) (k k' : κ) :
    (t.erase k).find k' = if k = k' then none else t.find k' := by
  unfold erase find
  rw [List.find?_filter]
  by_cases h : k = k'
  · rw [if_pos h, List.find?_eq_none]
    intro r _ hr
    simp only [decide_eq_true_eq] at hr
    exact hr.1 (hr.2.trans h.symm)
  · rw [if_neg h]
    refine congrArg (List.find? · t.rows) (funext fun r => ?_)
    have hdrop : key r = k' → key r ≠ k := fun heq hk => h (hk.symm.trans heq)
    simpa only [decide_eq_true_eq, decide_eq_decide] using and_iff_right_of_imp hdrop

/-- `d.update(rows)`. -/
def putAll (t : KeyedTable key) (rows : List α) : KeyedTable key := rows.foldl put t

/-- The table of some rows; of two with one key the later one counts. -/
def ofList (rows : List α) : KeyedTable key := putAll empty rows

/-- Rows under new and distinct keys are added as they come. -/
theorem putAll_rows {rows : List α} {t : KeyedTable key}
    (h : ((t.rows ++ rows).map key).Nodup) : (t.putAll rows).rows = t.rows ++ rows := by
  induction rows generalizing t with
  | nil => exact (List.append_nil _).symm
  | cons row rows ih =>
    have hnew : key row ∉ t.rows.map key := by
      rw [List.map_append, List.map_cons] at h
      exact fun hmem => (List.nodup_append.mp h).2.2 _ hmem _ List.mem_cons_self rfl
    have hput := put_rows_of_new hnew
    rw [List.append_cons] at h
    show ((t.put row).putAll rows).rows = _
    rw [ih (by rw [hput]; exact h), hput]
    exact (List.append_cons _ _ _).symm

/-- The rows of a table make the table. -/
theorem ofList_rows (t : KeyedTable key) : ofList t.rows = t :=
  ext_rows (putAll_rows (t := empty) t.unique)

/-- The last of the rows under a key is found, or what was there. -/
theorem find_putAll {rows : List α} {k : κ} : ∀ {t : KeyedTable key},
    (t.putAll rows).find k = (rows.reverse.find? fun r => key r = k).or (t.find k) := by
  induction rows with
  | nil => intro t; rfl
  | cons row rows ih =>
    intro t
    show ((t.put row).putAll rows).find k = _
    rw [ih, find_put, List.reverse_cons, List.find?_append]
    cases rows.reverse.find? fun r => key r = k with
    | some r => rfl
    | none => by_cases hk : key row = k <;> simp [hk]

/-- Rows under distinct keys take the place of what was there under these keys. -/
theorem mem_putAll {rows : List α} {r : α} (h : (rows.map key).Nodup) : ∀ {t : KeyedTable key},
    r ∈ (t.putAll rows).rows ↔ r ∈ rows ∨ (r ∈ t.rows ∧ ∀ row ∈ rows, key row ≠ key r) := by
  induction rows with
  | nil =>
    intro t
    simp [putAll]
  | cons row rows ih =>
    intro t
    obtain ⟨hnew, hrest⟩ := List.nodup_cons.mp h
    show r ∈ ((t.put row).putAll rows).rows ↔ _
    rw [ih hrest, mem_put, List.mem_cons, List.forall_mem_cons]
    constructor
    · rintro (hmem | ⟨rfl | ⟨hold, hne⟩, hlater⟩)
      · exact .inl (.inr hmem)
      · exact .inl (.inl rfl)
      · exact .inr ⟨hold, hne.symm, hlater⟩
    · rintro ((rfl | hmem) | ⟨hold, hne, hlater⟩)
      · exact .inr ⟨.inl rfl, fun other hother hkey => hnew (hkey ▸ List.mem_map_of_mem hother)⟩
      · exact .inl hmem
      · exact .inr ⟨.inr ⟨hold, hne.symm⟩, hlater⟩

theorem mem_of_find_putAll {rows : List α} {k : κ} {r : α} {t : KeyedTable key}
    (h : (t.putAll rows).find k = some r) : r ∈ rows ∨ t.find k = some r := by
  rw [find_putAll, Option.or_eq_some_iff] at h
  rcases h with hfind | ⟨-, hfind⟩
  · exact Or.inl (List.mem_reverse.mp (List.mem_of_find?_eq_some hfind))
  · exact Or.inr hfind

/-- The rows that an `UPDATE … WHERE key = k AND p` would change. -/
def hits (t : KeyedTable key) (k : κ) (p : α → Bool) : List α :=
  t.rows.filter fun r => decide (key r = k) && p r

/-- **The row count of a keyed update is one exactly when the row stored under
the key passes the filter.** -/
theorem hits_length (t : KeyedTable key) (k : κ) (p : α → Bool) :
    (t.hits k p).length = ((t.find k).any p).toNat := by
  obtain ⟨rows, unique⟩ := t
  simp only [hits, find]
  induction rows with
  | nil => rfl
  | cons a rows ih =>
    obtain ⟨hnot, htail⟩ := List.nodup_cons.mp unique
    specialize ih htail
    by_cases ha : key a = k
    · have hnone : rows.filter (fun r => decide (key r = k) && p r) = [] := by
        rw [List.filter_eq_nil_iff]
        intro x hx hxk
        rw [Bool.and_eq_true, decide_eq_true_eq] at hxk
        exact hnot (ha ▸ hxk.1 ▸ List.mem_map_of_mem hx)
      have hfind : (a :: rows).find? (fun r => decide (key r = k)) = some a := by simp [ha]
      rw [List.filter_cons, hnone, hfind]
      cases hp : p a <;> simp [ha, hp]
    · have hfind : (a :: rows).find? (fun r => decide (key r = k)) =
          rows.find? (fun r => decide (key r = k)) := by simp [ha]
      rw [List.filter_cons_of_neg (by simp [ha]), hfind]
      exact ih

/-- `UPDATE … SET f WHERE key = k AND p`, and whether its row count is one. -/
def updateWhere (t : KeyedTable key) (k : κ) (p : α → Bool) (f : α → α)
    (hf : ∀ r, key (f r) = key r) : KeyedTable key × Bool :=
  (t.update (fun r => if key r = k ∧ p r then f r else r) (fun r => by split <;> simp [hf]),
    (t.hits k p).length = 1)

/-- **A keyed update rewrites the one row that passes its filter, or changes
nothing**; the row count says which. -/
theorem updateWhere_cases (t : KeyedTable key) (k : κ) (p : α → Bool) (f : α → α)
    (hf : ∀ r, key (f r) = key r) :
    (∃ r, t.find k = some r ∧ p r = true ∧ (t.updateWhere k p f hf).2 = true ∧
      ∀ k', (t.updateWhere k p f hf).1.find k' = if k' = k then some (f r) else t.find k') ∨
    ((t.find k).any p = false ∧ t.updateWhere k p f hf = (t, false)) := by
  have hwon : (t.updateWhere k p f hf).2 = (t.find k).any p := by
    simp only [updateWhere, hits_length]
    cases (t.find k).any p <;> rfl
  cases hany : (t.find k).any p with
  | true =>
    obtain ⟨r, hr, hp⟩ := (Option.any_eq_true _ _).mp hany
    refine Or.inl ⟨r, hr, hp, hwon.trans hany, fun k' => ?_⟩
    rw [updateWhere, find_update]
    by_cases hk : k' = k
    · subst hk
      simp [hr, find_key hr, hp]
    · rw [if_neg hk]
      cases hr' : t.find k' with
      | none => rfl
      | some r' => simp [find_key hr', hk]
  | false =>
    refine Or.inr ⟨rfl, Prod.ext ?_ (hwon.trans hany)⟩
    have hsame : ∀ r ∈ t.rows, (if key r = k ∧ p r then f r else r) = r := by
      intro r hr
      refine if_neg ?_
      rintro ⟨rfl, hp⟩
      rw [find_of_mem hr, Option.any_some] at hany
      exact absurd hp (by simp [hany])
    obtain ⟨rows, unique⟩ := t
    simp only [updateWhere, update, mk.injEq]
    exact (List.map_congr_left hsame).trans (List.map_id _)

/-! ## Indices -/

section Indices

variable {β : Type*} {property : α → β} {index index' : β → Option κ} {t : KeyedTable key}
  {r s : α}

omit [DecidableEq κ] in
/-- The key of every row is found by a property of the row. -/
def Indexed (t : KeyedTable key) (property : α → β) (index : β → Option κ) : Prop :=
  ∀ r ∈ t.rows, index (property r) = some (key r)

/-- **No two rows have the property by which they are indexed.** -/
theorem Indexed.unique (h : t.Indexed property index) (hr : r ∈ t.rows) (hs : s ∈ t.rows)
    (heq : property r = property s) : r = s := by
  have hkey : some (key r) = some (key s) := by rw [← h r hr, heq, h s hs]
  have hfind : t.find (key r) = some s := Option.some.inj hkey ▸ find_of_mem hs
  rw [find_of_mem hr] at hfind
  exact Option.some.inj hfind

theorem Indexed.put (h : t.Indexed property index) (hfree : ∀ s ∈ t.rows, property s ≠ property r)
    (hnew : index' (property r) = some (key r))
    (hold : ∀ k, k ≠ property r → index' k = index k) : (t.put r).Indexed property index' := by
  intro s hs
  rcases mem_put.mp hs with rfl | ⟨hs, -⟩
  · exact hnew
  · rw [hold _ (hfree s hs)]
    exact h s hs

end Indices

end KeyedTable
