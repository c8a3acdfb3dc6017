import ComponentAtlas.Table
import Mathlib.Data.List.Nodup

/-!
# Keys of tables

A value that is put into a table adds its key at the end, unless the key is there already. So a table
that is built from an empty one has each key once.

* `Table.keys_put`, `Table.nodup_keys_put`: the keys after a value was put in;
* `Table.mem_iff_get?`: the entries of a table are what is found under its keys;
* `Table.forall_put`: what is true of all values.
-/

namespace ComponentAtlas

theorem nodup_addNew {α : Type} [DecidableEq α] {xs : List α} (h : xs.Nodup) (x : α) :
    (addNew xs x).Nodup := by
  rw [addNew]
  split
  · exact h
  · next hx =>
    rw [← List.concat_eq_append]
    exact h.concat hx

namespace Table

variable {κ β : Type} [DecidableEq κ] {t : Table κ β}

theorem keys_put (key : κ) (value : β) (t : Table κ β) :
    (put key value t).map (·.1) = addNew (t.map (·.1)) key := by
  induction t with
  | nil => rfl
  | cons e t ih =>
    obtain ⟨k, v⟩ := e
    by_cases hk : k = key
    · simp [Table.put, addNew, hk]
    · rw [Table.put, if_neg hk, List.map_cons, ih]
      have hne : key ≠ k := fun h => hk h.symm
      simp only [addNew, List.map_cons, List.mem_cons, hne, false_or]
      split <;> rfl

theorem nodup_keys_put (h : (t.map (·.1)).Nodup) (key : κ) (value : β) :
    ((put key value t).map (·.1)).Nodup := by
  rw [keys_put]
  exact nodup_addNew h key

theorem mem_iff_get? (h : (t.map (·.1)).Nodup) (key : κ) (value : β) :
    (key, value) ∈ t ↔ get? key t = some value := by
  refine ⟨fun hmem => ?_, mem_of_get?⟩
  induction t with
  | nil => cases hmem
  | cons e t ih =>
    obtain ⟨k, v⟩ := e
    obtain ⟨hnot, h⟩ := List.nodup_cons.1 h
    rw [get?]
    rcases List.mem_cons.1 hmem with heq | hmem
    · cases heq
      exact if_pos rfl
    · -- the key stands behind, and so not in front
      have hk : k ≠ key := by
        rintro rfl
        exact hnot (List.mem_map.2 ⟨_, hmem, rfl⟩)
      rw [if_neg hk]
      exact ih h hmem

/-- What is true of all values stays true if it is true of the new one. -/
theorem forall_put {P : β → Prop} (h : ∀ e ∈ t, P e.2) (key : κ) {value : β} (hvalue : P value) :
    ∀ e ∈ put key value t, P e.2 := by
  induction t with
  | nil => simpa [put] using hvalue
  | cons e t ih =>
    obtain ⟨hfirst, hrest⟩ := List.forall_mem_cons.1 h
    rw [put]
    split
    · exact List.forall_mem_cons.2 ⟨hvalue, hrest⟩
    · exact List.forall_mem_cons.2 ⟨hfirst, ih hrest⟩

end Table

end ComponentAtlas
