import Noema.ContentIds
import Noema.EndogenousPayloads

/-!
# Payloads that were stored

A store may give the fields of a payload back in another order, at every depth.  What a
reader finds under a key does not depend on it: a text, a number or a list of those is found
as it was written, and an object is found as an object that was stored in the same way.
-/
namespace Noema

theorem sortItems_map (items : List JSONValue) : sortItems items = items.map JSONValue.sortKeys := by
  induction items with
  | nil => rfl
  | cons item items ih => rw [sortItems, ih, List.map_cons]

/-- A scalar, or a list of scalars. -/
def JSONValue.flat : JSONValue → Bool
  | .list items => items.all fun item => item.scalar.isSome
  | .obj _ => false
  | .null | .bool _ | .int _ | .float _ | .str _ => true

theorem JSONValue.sortKeys_scalar {value other : JSONValue} (hscalar : value.scalar.isSome)
    (h : other.sortKeys = value.sortKeys) : other = value := by
  cases value <;> cases other <;> first
    | exact h
    | (rw [sortKeys, sortKeys] at h; cases h)
    | cases hscalar

theorem JSONValue.sortKeys_flat {value other : JSONValue} (hflat : value.flat)
    (h : other.sortKeys = value.sortKeys) : other = value := by
  cases value with
  | list items =>
    cases other with
    | list others =>
      rw [sortKeys, sortKeys, sortItems_map, sortItems_map] at h
      injection h with h
      refine congrArg JSONValue.list ?_
      induction items generalizing others with
      | nil => exact List.map_eq_nil_iff.mp h
      | cons item items ih =>
        obtain ⟨hitem, hitems⟩ := Bool.and_eq_true_iff.mp hflat
        obtain ⟨other, others, rfl, hother, hothers⟩ := List.map_eq_cons_iff.mp h
        rw [sortKeys_scalar hitem hother, ih hitems others hothers]
    | null | bool | int | float | str | obj => rw [sortKeys, sortKeys] at h; cases h
  | obj => cases hflat
  | null | bool | int | float | str => exact sortKeys_scalar rfl h

namespace Payload

/-- The same fields in some order, at every depth. -/
def Respells (q p : Payload) : Prop := q.sortKeys = p.sortKeys

theorem respells_refl (p : Payload) : p.Respells p := rfl

theorem respells_sortKeys (p : Payload) : p.sortKeys.Respells p := p.sortKeys_idem

theorem mem_sortKeys {p : Payload} {field : String × JSONValue} :
    field ∈ p.sortKeys.rows ↔ ∃ value, (field.1, value) ∈ p.rows ∧ value.sortKeys = field.2 := by
  rw [sortKeys, List.mem_insertionSort, sortFields_map, List.mem_map]
  constructor
  · rintro ⟨⟨key, value⟩, hmem, rfl⟩
    exact ⟨value, hmem, rfl⟩
  · rintro ⟨value, hmem, hvalue⟩
    exact ⟨(field.1, value), hmem, Prod.ext rfl hvalue⟩

theorem get?_of_mem {p : Payload} {key : String} {value : JSONValue} (h : (key, value) ∈ p.rows) :
    Dict.get? p key = some value := by
  have hfind : p.find key = some (key, value) := KeyedTable.find_of_mem h
  rw [Dict.get?, hfind]
  rfl

theorem mem_of_get? {p : Payload} {key : String} {value : JSONValue}
    (h : Dict.get? p key = some value) : (key, value) ∈ p.rows := by
  obtain ⟨⟨key', value'⟩, hfind, rfl⟩ := Option.map_eq_some_iff.mp h
  have hkey : key' = key := KeyedTable.find_key hfind
  rw [← hkey]
  exact KeyedTable.mem_of_find hfind

theorem get?_sortKeys (p : Payload) (key : String) :
    Dict.get? p.sortKeys key = (Dict.get? p key).map JSONValue.sortKeys := by
  refine Option.ext fun value => ?_
  rw [Option.map_eq_some_iff]
  constructor
  · intro h
    obtain ⟨stored, hmem, hvalue⟩ := mem_sortKeys.mp (mem_of_get? h)
    exact ⟨stored, get?_of_mem hmem, hvalue⟩
  · rintro ⟨stored, hstored, hvalue⟩
    exact get?_of_mem (mem_sortKeys.mpr ⟨stored, mem_of_get? hstored, hvalue⟩)

/-- A field that holds a value, or one that differs in the order of its fields. -/
def Stored (q : Payload) (key : String) (value : JSONValue) : Prop :=
  ∃ stored, Dict.get? q key = some stored ∧ stored.sortKeys = value.sortKeys

namespace Respells

variable {q p : Payload}

theorem get? (h : q.Respells p) (key : String) :
    (Dict.get? q key).map JSONValue.sortKeys = (Dict.get? p key).map JSONValue.sortKeys := by
  rw [← get?_sortKeys, ← get?_sortKeys, h]

/-- Every field that was written is stored. -/
theorem stored (h : q.Respells p) : ∀ row ∈ p.rows, q.Stored row.1 row.2 := fun row hrow => by
  have hsame := h.get? row.1
  rw [get?_of_mem hrow] at hsame
  exact Option.map_eq_some_iff.mp hsame

end Respells

theorem ofList_rows_of_nodup {rows : List (String × JSONValue)}
    (h : (rows.map Prod.fst).Nodup) : (KeyedTable.ofList rows : Payload).rows = rows :=
  congrArg KeyedTable.rows (KeyedTable.ofList_rows (⟨rows, h⟩ : Payload))

theorem Respells.fields {q : Payload} {rows : List (String × JSONValue)}
    (h : q.Respells (.ofList rows)) (hkeys : (rows.map Prod.fst).Nodup) :
    ∀ row ∈ rows, q.Stored row.1 row.2 := by
  have hstored := h.stored
  rwa [ofList_rows_of_nodup hkeys] at hstored

/-- A field holds one value, up to the order of fields. -/
theorem Stored.unique {q : Payload} {key : String} {value other : JSONValue}
    (h : q.Stored key value) (hother : q.Stored key other) : value.sortKeys = other.sortKeys := by
  obtain ⟨stored, hstored, hsame⟩ := h
  obtain ⟨stored', hstored', hsame'⟩ := hother
  rw [hstored] at hstored'
  cases hstored'
  exact hsame.symm.trans hsame'

theorem respells_of_sortKeys {q p : Payload} (h : q.value.sortKeys = p.value.sortKeys) :
    q.Respells p := by
  injection h with hrows
  exact KeyedTable.ext_rows hrows

/-- Fields in some order are the same once their keys are in order. -/
theorem insertionSort_congr {rows others : List (String × JSONValue)}
    (hkeys : (others.map Prod.fst).Nodup) (h : rows.Perm others) :
    rows.insertionSort keyLe = others.insertionSort keyLe := by
  have hperm : (rows.insertionSort keyLe).Perm (others.insertionSort keyLe) :=
    (List.perm_insertionSort keyLe rows).trans (h.trans (List.perm_insertionSort keyLe others).symm)
  refine hperm.eq_of_pairwise (fun a c ha hc hac hca => ?_)
    (List.pairwise_insertionSort keyLe _) (List.pairwise_insertionSort keyLe _)
  have ha := h.subset ((List.mem_insertionSort keyLe).mp ha)
  have hc := (List.mem_insertionSort keyLe).mp hc
  exact List.inj_on_of_nodup_map hkeys ha hc (le_antisymm hac hca)

/-- Rows whose values differ in the order of fields make the same payload. -/
theorem respells_of_rows {rows others : List (String × JSONValue)}
    (hrows : (rows.map Prod.fst).Nodup) (hothers : (others.map Prod.fst).Nodup)
    (h : sortFields rows = sortFields others) :
    Payload.Respells (.ofList rows) (.ofList others) := by
  refine KeyedTable.ext_rows ?_
  show (sortFields _).insertionSort keyLe = (sortFields _).insertionSort keyLe
  rw [ofList_rows_of_nodup hrows, ofList_rows_of_nodup hothers, h]

/-- Payloads of the same keys say the same field by field. -/
theorem Respells.forall₂ {rows others : List (String × JSONValue)}
    (h : Respells (.ofList rows) (.ofList others)) (hkeys : (rows.map Prod.fst).Nodup)
    (hsame : rows.map Prod.fst = others.map Prod.fst) :
    List.Forall₂ (fun row other => row.2.sortKeys = other.2.sortKeys) rows others := by
  have hpairs : List.Forall₂ (fun row other => row.1 = other.1) rows others := by
    rw [← List.forall₂_eq_eq_eq, List.forall₂_map_left_iff, List.forall₂_map_right_iff] at hsame
    exact hsame
  obtain ⟨hlength, hkey⟩ := List.forall₂_iff_zip.mp hpairs
  refine List.forall₂_iff_zip.mpr ⟨hlength, fun {row other} hzip => ?_⟩
  obtain ⟨hrow, hother⟩ := List.of_mem_zip hzip
  have hstored := (respells_refl _).fields hkeys row hrow
  rw [hkey hzip] at hstored
  exact hstored.unique (h.fields (hsame ▸ hkeys) other hother)

/-- A flat value is found as it was written. -/
theorem Stored.flat {q : Payload} {key : String} {value : JSONValue} (h : q.Stored key value)
    (hflat : value.flat) : Dict.get? q key = some value := by
  obtain ⟨stored, hstored, hsame⟩ := h
  rw [hstored, JSONValue.sortKeys_flat hflat hsame]

/-- An object that is stored as another one holds its fields. -/
theorem respells_of_value {value : JSONValue} {p : Payload}
    (h : value.sortKeys = p.value.sortKeys) :
    ∃ q : Payload, value.mapping = .ok q ∧ q.Respells p := by
  cases value with
  | obj fields =>
    rw [value, JSONValue.sortKeys, JSONValue.sortKeys] at h
    injection h with h
    have hkeys : (fields.map entryKey).Perm (p.rows.map entryKey) := by
      have hleft := (List.perm_insertionSort keyLe (sortFields fields)).map entryKey
      have hright := (List.perm_insertionSort keyLe (sortFields p.rows)).map entryKey
      rw [h] at hleft
      rw [sortFields_keys] at hleft hright
      exact hleft.symm.trans hright
    let q : Payload := ⟨fields, hkeys.nodup_iff.mpr p.unique⟩
    refine ⟨q, ?_, KeyedTable.ext_rows h⟩
    exact congrArg Except.ok (KeyedTable.ofList_rows q)
  | null | bool | int | float | str | list =>
    rw [Payload.value, JSONValue.sortKeys, JSONValue.sortKeys] at h
    cases h

/-- A list of objects is stored as a list of objects. -/
theorem respells_of_list {stored : JSONValue} {ps : List Payload}
    (h : stored.sortKeys = (JSONValue.list (ps.map value)).sortKeys) :
    ∃ items, stored.iterate = .ok items ∧
      List.Forall₂ (fun item p => ∃ q : Payload, item.mapping = .ok q ∧ q.Respells p) items ps := by
  cases stored with
  | list items =>
    rw [JSONValue.sortKeys, JSONValue.sortKeys, sortItems_map, sortItems_map] at h
    injection h with h
    refine ⟨items, rfl, ?_⟩
    induction ps generalizing items with
    | nil =>
      rw [List.map_eq_nil_iff.mp h]
      exact .nil
    | cons p ps ih =>
      rw [List.map_cons, List.map_cons] at h
      obtain ⟨item, items, rfl, hitem, hitems⟩ := List.map_eq_cons_iff.mp h
      exact .cons (respells_of_value hitem) (ih items hitems)
  | null | bool | int | float | str | obj =>
    rw [JSONValue.sortKeys, JSONValue.sortKeys] at h
    cases h

end Payload

/-! ## Digests -/

theorem printableFields_all (fields : List (String × JSONValue)) :
    printableFields fields = fields.all fun field => field.2.printable := by
  induction fields with
  | nil => rfl
  | cons field fields ih => rw [printableFields, ih, List.all_cons]

theorem finiteFields_all (fields : List (String × JSONValue)) :
    finiteFields fields = fields.all fun field => field.2.finite := by
  induction fields with
  | nil => rfl
  | cons field fields ih => rw [finiteFields, ih, List.all_cons]

mutual

theorem printable_sortKeys : ∀ value : JSONValue, value.sortKeys.printable = value.printable
  | .list items => by
    rw [JSONValue.sortKeys, JSONValue.printable, JSONValue.printable, printable_sortItems items]
  | .obj fields => by
    rw [JSONValue.sortKeys, JSONValue.printable, JSONValue.printable, printableFields_all,
      (List.perm_insertionSort keyLe (sortFields fields)).all_eq, ← printableFields_all,
      printable_sortFields fields]
  | .null => rfl
  | .bool _ => rfl
  | .int _ => rfl
  | .float _ => rfl
  | .str _ => rfl

theorem printable_sortItems : ∀ items : List JSONValue,
    printableItems (sortItems items) = printableItems items
  | [] => rfl
  | item :: items => by
    rw [sortItems, printableItems, printableItems, printable_sortKeys item,
      printable_sortItems items]

theorem printable_sortFields : ∀ fields : List (String × JSONValue),
    printableFields (sortFields fields) = printableFields fields
  | [] => rfl
  | (key, value) :: fields => by
    rw [sortFields, printableFields, printableFields, printable_sortKeys value,
      printable_sortFields fields]

end

mutual

theorem finite_sortKeys : ∀ value : JSONValue, value.sortKeys.finite = value.finite
  | .list items => by
    rw [JSONValue.sortKeys, JSONValue.finite, JSONValue.finite, finite_sortItems items]
  | .obj fields => by
    rw [JSONValue.sortKeys, JSONValue.finite, JSONValue.finite, finiteFields_all,
      (List.perm_insertionSort keyLe (sortFields fields)).all_eq, ← finiteFields_all,
      finite_sortFields fields]
  | .null => rfl
  | .bool _ => rfl
  | .int _ => rfl
  | .float _ => rfl
  | .str _ => rfl

theorem finite_sortItems : ∀ items : List JSONValue,
    finiteItems (sortItems items) = finiteItems items
  | [] => rfl
  | item :: items => by
    rw [sortItems, finiteItems, finiteItems, finite_sortKeys item, finite_sortItems items]

theorem finite_sortFields : ∀ fields : List (String × JSONValue),
    finiteFields (sortFields fields) = finiteFields fields
  | [] => rfl
  | (key, value) :: fields => by
    rw [sortFields, finiteFields, finiteFields, finite_sortKeys value, finite_sortFields fields]

end

/-- The canonical text has its keys in order. -/
theorem canonicalJson_congr {value other : JSONValue} (h : value.sortKeys = other.sortKeys) :
    canonicalJson value = canonicalJson other := by
  have hfinite : value.finite = other.finite := by
    rw [← finite_sortKeys value, h, finite_sortKeys]
  have hprintable : value.printable = other.printable := by
    rw [← printable_sortKeys value, h, printable_sortKeys]
  unfold canonicalJson jsonDumps
  rw [hfinite, hprintable, h]

theorem canonicalJson_ok {value : JSONValue} {text : JsonText}
    (h : canonicalJson value = .ok text) : value.printable = true ∧ text.value = value.sortKeys := by
  obtain ⟨_, -, hdumps⟩ := bind_eq_ok h
  have hprintable := printable_of_dumps hdumps
  refine ⟨hprintable, ?_⟩
  rw [jsonDumps, if_pos hprintable] at hdumps
  cases hdumps
  rfl

namespace ContentBuiltins

variable (b : ContentBuiltins) {kind : String} {p q : Payload} {id : String}

theorem contentId_congr (kind : String) (h : q.Respells p) : b.contentId kind q = b.contentId kind p := by
  have hvalue : q.value.sortKeys = p.value.sortKeys := congrArg (fun t : Payload => JSONValue.obj t.rows) h
  unfold contentId
  rw [canonicalJson_congr hvalue]

variable {b}

theorem printable_of_contentId (h : b.contentId kind p = .ok id) : p.value.printable = true := by
  obtain ⟨text, htext, -⟩ := bind_eq_ok h
  exact (canonicalJson_ok htext).1

/-- **Contents with one id are the same up to the order of fields.** -/
theorem contentId_injective (hq : b.contentId kind q = .ok id) (hp : b.contentId kind p = .ok id) :
    q.Respells p := by
  obtain ⟨text, htext, hid⟩ := bind_eq_ok hq
  obtain ⟨text', htext', hid'⟩ := bind_eq_ok hp
  have hids : kind ++ ":" ++ b.sha256 text = kind ++ ":" ++ b.sha256 text' :=
    Except.ok.inj (hid.trans hid'.symm)
  have hdigests : b.sha256 text = b.sha256 text' := by
    refine String.toList_inj.mp ?_
    have hlists := congrArg String.toList hids
    simp only [String.toList_append] at hlists
    exact List.append_cancel_left hlists
  have htexts : text.value = text'.value := congrArg JsonText.value (b.sha256_injective hdigests)
  rw [(canonicalJson_ok htext).2, (canonicalJson_ok htext').2] at htexts
  injection htexts with hrows
  exact KeyedTable.ext_rows hrows

end ContentBuiltins
end Noema
