import FlowScript.Table

/-!
# The names of a table

Which names a table has, and in which order, before and after a value is put
into it or erased. With distinct names, what a look-up finds is what is in the
table (`get?_eq_some_iff`).
-/

namespace FlowScript.Table

variable {α : Type} {t : Table α} {key other : Text} {value : α}

/-- A look-up finds something just for the names of the table. -/
theorem isSome_get?_iff : (get? t key).isSome = true ↔ key ∈ keys t := by
  induction t with
  | nil => simp [get?, keys]
  | cons entry rest ih =>
    by_cases h : entry.1 = key
    · simp [get?, keys, h]
    · rw [get?, if_neg h, ih]
      simp [keys, Ne.symm h]

theorem contains_iff : contains t key = true ↔ key ∈ keys t :=
  isSome_get?_iff

theorem get?_eq_none (h : key ∉ keys t) : get? t key = none := by
  rw [← Option.not_isSome_iff_eq_none, isSome_get?_iff]
  exact h

theorem mem_keys_of_get? (h : get? t key = some value) : key ∈ keys t :=
  isSome_get?_iff.1 (h ▸ rfl)

/-- A new name comes last. -/
theorem put_of_not_mem (h : key ∉ keys t) : put t key value = t ++ [(key, value)] := by
  induction t with
  | nil => rfl
  | cons entry rest ih =>
    rw [keys, List.map_cons, List.mem_cons, not_or] at h
    rw [put, if_neg (Ne.symm h.1), ih h.2]
    rfl

theorem keys_put_of_not_mem (h : key ∉ keys t) : keys (put t key value) = keys t ++ [key] := by
  rw [put_of_not_mem h, keys, List.map_append]
  rfl

/-- A name that is there keeps its place. -/
theorem keys_put_of_mem (h : key ∈ keys t) : keys (put t key value) = keys t := by
  induction t with
  | nil => cases h
  | cons entry rest ih =>
    by_cases hk : entry.1 = key
    · rw [put, if_pos hk, keys, keys, List.map_cons, List.map_cons, hk]
    · rw [put, if_neg hk, keys, List.map_cons]
      refine congrArg _ (ih ?_)
      rw [keys, List.map_cons, List.mem_cons] at h
      exact h.resolve_left (Ne.symm hk)

theorem nodup_keys_put (h : (keys t).Nodup) : (keys (put t key value)).Nodup := by
  by_cases hk : key ∈ keys t
  · rwa [keys_put_of_mem hk]
  · rw [keys_put_of_not_mem hk, List.nodup_append]
    refine ⟨h, by simp, fun a ha b hb => ?_⟩
    rw [List.mem_singleton.1 hb]
    exact fun hab => hk (hab ▸ ha)

/-- The other names keep their order when one is erased. -/
theorem keys_erase (t : Table α) (key : Text) :
    keys (erase t key) = (keys t).filter fun other => other ≠ key := by
  rw [keys, erase, keys, List.filter_map]
  rfl

theorem nodup_keys_erase (h : (keys t).Nodup) (key : Text) : (keys (erase t key)).Nodup := by
  rw [keys_erase]
  exact h.filter _

/-- What a look-up finds is in the table. -/
theorem mem_of_get? (h : get? t key = some value) : (key, value) ∈ t := by
  induction t with
  | nil => cases h
  | cons entry rest ih =>
    by_cases hk : entry.1 = key
    · rw [get?, if_pos hk, Option.some.injEq] at h
      rw [← hk, ← h]
      exact List.mem_cons_self
    · rw [get?, if_neg hk] at h
      exact List.mem_cons_of_mem _ (ih h)

/-- Among distinct names a look-up finds every value. -/
theorem get?_of_mem (hnodup : (keys t).Nodup) (h : (key, value) ∈ t) : get? t key = some value := by
  induction t with
  | nil => cases h
  | cons entry rest ih =>
    rw [keys, List.map_cons, List.nodup_cons] at hnodup
    rcases List.mem_cons.1 h with rfl | h
    · simp [get?]
    · -- The name stands further on, so it is not the first one.
      have hk : entry.1 ≠ key := fun hk => hnodup.1 (List.mem_map.2 ⟨_, h, hk.symm⟩)
      rw [get?, if_neg hk]
      exact ih hnodup.2 h

theorem get?_eq_some_iff (hnodup : (keys t).Nodup) :
    get? t key = some value ↔ (key, value) ∈ t :=
  ⟨mem_of_get?, get?_of_mem hnodup⟩

end FlowScript.Table
