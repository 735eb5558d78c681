import Mathlib.Data.List.Basic
import Mathlib.Data.List.Nodup

namespace OpenNebula.Library

/-! # Loops over lists -/

universe u v

variable {α : Type u} {β : Type v} {items : List α} {step : β → α → β} {P : β → Prop}

theorem foldl_reaches {item : α} (member : item ∈ items) (establishes : ∀ state, P (step state item))
    (keeps : ∀ state other, P state → P (step state other)) (start : β) : P (items.foldl step start) := by
  obtain ⟨front, back, rfl⟩ := List.append_of_mem member
  rw [List.foldl_append, List.foldl_cons]
  exact List.foldlRecOn back step (establishes _) fun state holds other _ => keeps state other holds

theorem foldl_keeps (keeps : ∀ state item, P state → P (step state item)) {start : β}
    (holds : P start) : P (items.foldl step start) :=
  List.foldlRecOn items step holds fun state holds item _ => keeps state item holds

theorem find?_of_nodup_map {κ : Type v} [DecidableEq κ] {key : α → κ} {item : α}
    (nodup : (items.map key).Nodup) (member : item ∈ items) :
    items.find? (fun other => key other = key item) = some item := by
  cases found : items.find? (fun other => key other = key item) with
  | none =>
    have absent := List.find?_eq_none.1 found item member
    simp at absent
  | some other =>
    have same : key other = key item := by simpa using List.find?_some found
    exact congrArg some
      (List.inj_on_of_nodup_map nodup (List.mem_of_find?_eq_some found) member same)

end OpenNebula.Library
