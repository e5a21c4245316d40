import Mathlib
import ConstantProduct.Toml.Document

namespace ConstantProduct.Toml

namespace Entries

variable {f : Option Value → Option Value} {key : String} {es before : Entries} {v : Value}

theorem alter?_append (h : key ∉ before.map Prod.fst) (rest : Entries) :
    alter? f key (before ++ rest) = (alter? f key rest).map (before ++ ·) := by
  induction before with
  | nil => simp
  | cons e before ih =>
    obtain ⟨k, v⟩ := e
    rw [List.map_cons, List.mem_cons, not_or] at h
    rw [List.cons_append, alter?, if_neg (Ne.symm h.1), ih h.2, Option.map_map]
    rfl

theorem alter?_new (h : key ∉ es.map Prod.fst) :
    alter? f key es = (f none).map fun v => es ++ [(key, v)] := by
  have happend := alter?_append (f := f) h []
  rw [List.append_nil] at happend
  rw [happend, alter?, Option.map_map]
  rfl

theorem alter?_last (h : key ∉ before.map Prod.fst) :
    alter? f key (before ++ [(key, v)]) = (f (some v)).map fun v => before ++ [(key, v)] := by
  rw [alter?_append h, alter?, if_pos rfl, Option.map_map]
  rfl

theorem alterLast?_concat {α : Type} (f : α → Option α) (items : List α) (a : α) :
    alterLast? f (items ++ [a]) = (f a).map (items ++ [·]) := by
  induction items with
  | nil => rfl
  | cons b items ih =>
    rw [List.cons_append, alterLast?, ih, Option.map_map]
    · rfl
    · simp

theorem insert?_new (h : key ∉ es.map Prod.fst) : insert? v [key] es = some (es ++ [(key, v)]) := by
  rw [insert?, alter?_new h]
  rfl

/-- What stands under a header that fields are being set below. -/
inductive Opened : (Entries → Value) → Prop where
  | table : Opened (.table .header)
  | tables (items : List Value) : Opened fun es => .tables (items ++ [.table .header es])

theorem descend?_opened {value : Entries → Value} (hvalue : Opened value)
    (h : key ∉ before.map Prod.fst) (f : Entries → Option Entries) :
    descend? f [key] (before ++ [(key, value es)]) =
      (f es).map fun es => before ++ [(key, value es)] := by
  rw [descend?, alter?_last h]
  cases hvalue with
  | table => rw [descend?, Option.map_map]; rfl
  | tables items =>
    simp only [alterLast?_concat, within, descend?, Option.map_map]
    rfl

end Entries

namespace Document

open Entries

variable {name : String} {before es fields : Entries} {path : List String}

def setting (field : String × Value) : Statement := .entry [field.1] field.2

theorem add_settings {value : Entries → Value} (hvalue : Opened value)
    (h : name ∉ before.map Prod.fst) (hnodup : ((es ++ fields).map Prod.fst).Nodup) :
    (fields.map setting).foldlM add? ([name], before ++ [(name, value es)]) =
      some ([name], before ++ [(name, value (es ++ fields))]) := by
  induction fields generalizing es with
  | nil => simp
  | cons field fields ih =>
    have hnew : field.1 ∉ es.map Prod.fst := by
      rw [List.map_append, List.map_cons] at hnodup
      exact fun hmem => (List.nodup_append.1 hnodup).2.2 _ hmem _ List.mem_cons_self rfl
    have hrest : (es ++ [field] ++ fields).map Prod.fst = (es ++ field :: fields).map Prod.fst := by
      simp
    rw [List.map_cons, List.foldlM_cons, setting, add?, descend?_opened hvalue h, insert?_new hnew]
    refine (ih (hrest ▸ hnodup)).trans ?_
    rw [List.append_assoc]
    rfl

/-- A table under its header, with its fields. -/
theorem add_table (h : name ∉ before.map Prod.fst) (hnodup : (fields.map Prod.fst).Nodup) :
    (.header [name] :: fields.map setting).foldlM add? (path, before) =
      some ([name], before ++ [(name, .table .header fields)]) := by
  rw [List.foldlM_cons, add?, openTable?, alter?_new h]
  exact add_settings .table h hnodup

def item (name : String) (fields : Entries) : List Statement :=
  .arrayHeader [name] :: fields.map setting

theorem add_item (h : name ∉ before.map Prod.fst) (hnodup : (fields.map Prod.fst).Nodup)
    (items : List Value) :
    (item name fields).foldlM add? (path, before ++ [(name, .tables items)]) =
      some ([name], before ++ [(name, .tables (items ++ [.table .header fields]))]) := by
  rw [item, List.foldlM_cons, add?, pushTable?, alter?_last h]
  exact add_settings (.tables items) h hnodup

theorem add_items {tables : List Entries} (h : name ∉ before.map Prod.fst)
    (hnodup : ∀ fields ∈ tables, (fields.map Prod.fst).Nodup) (path : List String)
    (items : List Value) :
    ∃ path', (tables.flatMap (item name)).foldlM add? (path, before ++ [(name, .tables items)]) =
      some (path', before ++ [(name, .tables (items ++ tables.map (.table .header)))]) := by
  induction tables generalizing path items with
  | nil => exact ⟨path, by simp⟩
  | cons fields tables ih =>
    obtain ⟨hfields, htables⟩ := List.forall_mem_cons.1 hnodup
    obtain ⟨path', hpath⟩ := ih htables [name] (items ++ [.table .header fields])
    refine ⟨path', ?_⟩
    rw [List.flatMap_cons, List.foldlM_append, add_item h hfields]
    rw [List.append_assoc] at hpath
    exact hpath

/-- Tables under the same header in double brackets, where there is at least one. -/
theorem add_tables {tables : List Entries} (h : name ∉ before.map Prod.fst)
    (hnodup : ∀ fields ∈ tables, (fields.map Prod.fst).Nodup) (hne : tables ≠ []) :
    ∃ path', (tables.flatMap (item name)).foldlM add? (path, before) =
      some (path', before ++ [(name, .tables (tables.map (.table .header)))]) := by
  obtain ⟨fields, tables, rfl⟩ := List.exists_cons_of_ne_nil hne
  obtain ⟨hfields, htables⟩ := List.forall_mem_cons.1 hnodup
  obtain ⟨path', hpath⟩ := add_items h htables [name] [.table .header fields]
  refine ⟨path', ?_⟩
  have hfirst : (item name fields).foldlM add? (path, before) =
      some ([name], before ++ [(name, .tables [.table .header fields])]) := by
    rw [item, List.foldlM_cons, add?, pushTable?, alter?_new h]
    exact add_settings (.tables []) h hfields
  rw [List.flatMap_cons, List.foldlM_append, hfirst]
  exact hpath

end Document

end ConstantProduct.Toml
