import Noema.Lib.KeyedTable

/-!
# Chains of revisions

Revisions of many subjects lie in one table under their ids.  Every subject has the ids of
its revisions, oldest first, and the id of its head.  A revision is recorded if it has the
version after the head's and names the head as the revision that it supersedes.  From an
empty register, the revisions of each subject are then numbered from one, each superseding
the one before, and the head is the last (`Chained.extend`, `Chained.chainOf`).
-/

/-- What chains need to know of a revision. -/
structure RevisionForm (R ι σ : Type*) where
  id : R → ι
  subject : R → σ
  version : R → Int
  supersedes : R → Option ι

namespace RevisionForm

variable {R ι σ : Type*} (form : RevisionForm R ι σ)

/-- Numbered from one; each revision supersedes the one before it. -/
def Contiguous (chain : List R) : Prop :=
  ∀ (i : ℕ) (revision : R), chain[i]? = some revision →
    form.version revision = i + 1 ∧
      form.supersedes revision = if i = 0 then none else chain[i - 1]?.map form.id

theorem contiguous_nil : form.Contiguous [] := by
  intro i revision h
  rw [List.getElem?_nil] at h
  cases h

variable {form}

theorem Contiguous.snoc {chain : List R} {revision : R} (h : form.Contiguous chain)
    (hversion : form.version revision = chain.length + 1)
    (hsupersedes : form.supersedes revision = chain.getLast?.map form.id) :
    form.Contiguous (chain ++ [revision]) := by
  intro i found hi
  by_cases hlast : i < chain.length
  · rw [List.getElem?_append_left hlast] at hi
    obtain ⟨hold, hprior⟩ := h i found hi
    refine ⟨hold, ?_⟩
    rw [List.getElem?_append_left (by omega)]
    exact hprior
  · have hlength : i < (chain ++ [revision]).length :=
      (List.getElem?_eq_some_iff.mp hi).1
    rw [List.length_append, List.length_singleton] at hlength
    obtain rfl : i = chain.length := by omega
    rw [List.getElem?_concat_length] at hi
    cases hi
    refine ⟨hversion, ?_⟩
    rw [hsupersedes, List.getLast?_eq_getElem?]
    by_cases hempty : chain.length = 0
    · rw [if_pos hempty, List.getElem?_eq_none (by omega)]
      rfl
    · rw [if_neg hempty, List.getElem?_append_left (by omega)]

/-- Versions tell the revisions of a chain apart. -/
theorem Contiguous.nodup {chain : List R} (h : form.Contiguous chain) : chain.Nodup := by
  rw [List.nodup_iff_injective_get]
  intro i j hij
  have hi := (h i _ (List.getElem?_eq_getElem i.isLt)).1
  have hj := (h j _ (List.getElem?_eq_getElem j.isLt)).1
  have hsame : chain[(i : ℕ)] = chain[(j : ℕ)] := hij
  rw [hsame] at hi
  exact Fin.ext (by omega)

/-- All the revisions of a subject, as one chain up to the head. -/
structure ChainOf (form : RevisionForm R ι σ) (revisions chain : List R) (head : Option R) :
    Prop where
  complete : chain.Perm revisions
  contiguous : form.Contiguous chain
  head : head = chain.getLast?

variable [DecidableEq ι]

/-- The revisions, the ids of each subject's, and the heads. -/
structure Register (form : RevisionForm R ι σ) where
  table : KeyedTable form.id
  history : σ → List ι
  head : σ → Option ι

namespace Register

/-- The revisions of a subject, oldest first. -/
def chain (register : Register form) (subject : σ) : List R :=
  (register.history subject).filterMap register.table.find

def current (register : Register form) (subject : σ) : Option R :=
  (register.head subject).bind register.table.find

/-- Histories list the revisions of their subjects and no others, and these are contiguous
up to the head. -/
structure Chained (register : Register form) : Prop where
  found : ∀ subject, ∀ id ∈ register.history subject, ∃ revision,
    register.table.find id = some revision ∧ form.subject revision = subject
  listed : ∀ revision ∈ register.table.rows,
    form.id revision ∈ register.history (form.subject revision)
  contiguous : ∀ subject, form.Contiguous (register.chain subject)
  head : ∀ subject, register.head subject = (register.history subject).getLast?

/-- A revision is recorded after the head of its subject. -/
structure Extends [DecidableEq R] [DecidableEq σ] (register : Register form) (revision : R)
    (register' : Register form) : Prop where
  stored : register.table.insertOnce revision = some register'.table
  next : form.version revision =
    (register.current (form.subject revision)).elim 1 fun head => form.version head + 1
  follows : form.supersedes revision =
    (register.current (form.subject revision)).map form.id
  history : ∀ subject, register'.history subject =
    if form.subject revision = subject then register.history subject ++ [form.id revision]
    else register.history subject
  head : ∀ subject, register'.head subject =
    if form.subject revision = subject then some (form.id revision) else register.head subject

variable {register register' : Register form} {subject : σ} {revision : R}

/-- The chain, one revision for each id. -/
theorem Chained.chain_ids (h : register.Chained) :
    (register.chain subject).map form.id = register.history subject := by
  have hall := h.found subject
  unfold chain
  generalize register.history subject = ids at hall ⊢
  induction ids with
  | nil => rfl
  | cons id ids ih =>
    obtain ⟨⟨revision, hfind, -⟩, hrest⟩ := List.forall_mem_cons.mp hall
    rw [List.filterMap_cons_some hfind, List.map_cons, ih hrest, KeyedTable.find_key hfind]

theorem Chained.current_eq (h : register.Chained) :
    register.current subject = (register.chain subject).getLast? := by
  have hhead : register.head subject = (register.chain subject).getLast?.map form.id := by
    rw [h.head, ← h.chain_ids, List.getLast?_map]
  rw [current, hhead]
  cases hlast : (register.chain subject).getLast? with
  | none => rfl
  | some revision =>
    obtain ⟨id, -, hfind⟩ := List.mem_filterMap.mp (List.mem_of_getLast? hlast)
    show register.table.find (form.id revision) = some revision
    rw [KeyedTable.find_key hfind]
    exact hfind

theorem Chained.mem_chain (h : register.Chained) :
    revision ∈ register.chain subject ↔
      revision ∈ register.table.rows ∧ form.subject revision = subject := by
  constructor
  · intro hmem
    obtain ⟨id, hid, hfind⟩ := List.mem_filterMap.mp hmem
    obtain ⟨found, hfound, hsubject⟩ := h.found subject id hid
    rw [hfind] at hfound
    cases hfound
    exact ⟨KeyedTable.mem_of_find hfind, hsubject⟩
  · rintro ⟨hmem, rfl⟩
    exact List.mem_filterMap.mpr ⟨_, h.listed revision hmem, KeyedTable.find_of_mem hmem⟩

/-- A subject's chain is all its revisions. -/
theorem Chained.chain_perm [DecidableEq σ] (h : register.Chained) :
    (register.chain subject).Perm
      (register.table.rows.filter fun revision => form.subject revision = subject) := by
  have hrows : register.table.rows.Nodup := register.table.unique.of_map
  refine (List.perm_ext_iff_of_nodup (h.contiguous subject).nodup (hrows.filter _)).mpr ?_
  intro revision
  rw [h.mem_chain, List.mem_filter, decide_eq_true_iff]

/-- **What a register says of each subject.** -/
theorem Chained.chainOf [DecidableEq σ] (h : register.Chained) (subject : σ) :
    form.ChainOf (register.table.rows.filter fun revision => form.subject revision = subject)
      (register.chain subject) (register.current subject) :=
  ⟨h.chain_perm, h.contiguous subject, h.current_eq⟩

section Extending

variable [DecidableEq R] [DecidableEq σ]

/-- A recorded revision was not there: its version is after all those of its subject. -/
theorem Extends.new (h : register.Chained) (he : register.Extends revision register') :
    register.table.find (form.id revision) = none := by
  rcases KeyedTable.insertOnce_cases he.stored with ⟨-, hfind⟩ | ⟨hnew, -⟩
  · exfalso
    have hmem := h.mem_chain.mpr ⟨KeyedTable.mem_of_find hfind, rfl⟩
    have hnext := he.next
    rw [h.current_eq] at hnext
    obtain ⟨i, hi⟩ := List.mem_iff_getElem?.mp hmem
    have hversion := (h.contiguous _ i revision hi).1
    have hlength := (List.getElem?_eq_some_iff.mp hi).1
    rw [List.getLast?_eq_getElem?, List.getElem?_eq_getElem (by omega)] at hnext
    have hhead := (h.contiguous _ _ _
      (List.getElem?_eq_getElem (show (register.chain (form.subject revision)).length - 1 <
        (register.chain (form.subject revision)).length by omega))).1
    simp only [Option.elim_some] at hnext
    omega
  · exact hnew

/-- The chain of the revision's subject grows by it, the others stay. -/
theorem Extends.chain_eq (h : register.Chained) (he : register.Extends revision register')
    (subject : σ) : register'.chain subject =
      if form.subject revision = subject then register.chain subject ++ [revision]
      else register.chain subject := by
  have hnew := he.new h
  have hold : (register.history subject).filterMap register'.table.find =
      register.chain subject := by
    refine List.filterMap_congr fun id hid => ?_
    obtain ⟨found, hfound, -⟩ := h.found subject id hid
    rw [KeyedTable.find_insertOnce he.stored, if_neg]
    rintro rfl
    rw [hnew] at hfound
    cases hfound
  have hlast : register'.table.find (form.id revision) = some revision := by
    rw [KeyedTable.find_insertOnce he.stored, if_pos rfl]
  rw [chain, he.history]
  by_cases hsubject : form.subject revision = subject
  · rw [if_pos hsubject, if_pos hsubject, List.filterMap_append, hold,
      List.filterMap_cons_some hlast, List.filterMap_nil]
  · rw [if_neg hsubject, if_neg hsubject, hold]

/-- **Recording after the head keeps the chains.** -/
theorem Chained.extend (h : register.Chained) (he : register.Extends revision register') :
    register'.Chained := by
  have hfind : ∀ id, register'.table.find id =
      if form.id revision = id then some revision else register.table.find id :=
    KeyedTable.find_insertOnce he.stored
  refine ⟨fun subject id hid => ?_, fun row hrow => ?_, fun subject => ?_, fun subject => ?_⟩
  · rw [hfind]
    rw [he.history] at hid
    by_cases hkey : form.id revision = id
    · rw [if_pos hkey]
      refine ⟨revision, rfl, ?_⟩
      by_contra hother
      rw [if_neg hother] at hid
      obtain ⟨found, hfound, -⟩ := h.found subject id hid
      rw [← hkey, he.new h] at hfound
      cases hfound
    · rw [if_neg hkey]
      refine h.found subject id ?_
      split at hid
      · exact (List.mem_append.mp hid).resolve_right fun hlast =>
          hkey (List.mem_singleton.mp hlast).symm
      · exact hid
  · rw [he.history]
    rcases (KeyedTable.mem_insertOnce he.stored).mp hrow with hold | rfl
    · by_cases hsubject : form.subject revision = form.subject row
      · rw [if_pos hsubject]
        exact List.mem_append_left _ (h.listed row hold)
      · rw [if_neg hsubject]
        exact h.listed row hold
    · rw [if_pos rfl]
      exact List.mem_append_right _ (List.mem_singleton_self _)
  · rw [he.chain_eq h]
    by_cases hsubject : form.subject revision = subject
    · have hnext := he.next
      have hfollows := he.follows
      rw [h.current_eq, hsubject] at hnext hfollows
      rw [if_pos hsubject]
      refine (h.contiguous subject).snoc ?_ hfollows
      by_cases hempty : register.chain subject = []
      · rw [hempty] at hnext ⊢
        exact hnext
      · have hpos := List.length_pos_iff.mpr hempty
        rw [List.getLast?_eq_getElem?, List.getElem?_eq_getElem (by omega)] at hnext
        have hhead := (h.contiguous subject _ _ (List.getElem?_eq_getElem
          (show (register.chain subject).length - 1 < (register.chain subject).length by omega))).1
        simp only [Option.elim_some] at hnext
        omega
    · rw [if_neg hsubject]
      exact h.contiguous subject
  · rw [he.head, he.history]
    by_cases hsubject : form.subject revision = subject
    · rw [if_pos hsubject, if_pos hsubject, List.getLast?_concat]
    · rw [if_neg hsubject, if_neg hsubject]
      exact h.head subject

end Extending

end Register

end RevisionForm
