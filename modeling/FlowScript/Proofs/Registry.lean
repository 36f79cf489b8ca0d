import FlowScript.Proofs.Ident
import FlowScript.Proofs.Table
import FlowScript.Registry

/-!
# The two tables of the registry

The two tables are *paired* when the id that a label belongs to holds it, and
every label in use belongs to an id. Every operation keeps them paired
(`Paired.assign`, `Paired.remove`, `Paired.resolve`). Giving up a label leaves no
other holder out, as the first of them inherits it (`Paired.unlink`).

Assigning labels changes the label of one id and the order of none
(`labelFor_assign_of_ne`, `keys_labels_assign_of_mem`).

A label that may hold halves is resolved as if it were whole, or has no id and leaves
the registry as it was (`resolveRaw_cases`).

* `Paired.run`: the tables are paired after any history;
* `inverse_runRaw_empty`: what this says of a registry that was empty once, whatever
  halves there are in its labels.
-/

namespace FlowScript.Registry

open Table (get? keys)
open Text (Halves)

variable {r : Registry} {id other label : Text}

/-! ## Labels of ids -/

@[simp]
theorem labels_unlink (r : Registry) (id : Text) : (r.unlink id).labels = r.labels := by
  rw [unlink]
  split
  · rfl
  · split <;> rfl

@[simp]
theorem labels_assign (r : Registry) (id label : Text) :
    (r.assign id label).labels = Table.put r.labels id label := by
  rw [assign, labels_unlink]

@[simp]
theorem labelFor_assign_self (r : Registry) (id label : Text) :
    (r.assign id label).labelFor id = label := by
  rw [labelFor, labels_assign, Table.get?_put_self, Option.getD_some]

/-- The label of one id is no concern of the others. -/
theorem labelFor_assign_of_ne (h : other ≠ id) :
    (r.assign id label).labelFor other = r.labelFor other := by
  rw [labelFor, labels_assign, Table.get?_put_of_ne _ _ h, labelFor]

theorem labelFor_of_get? (h : get? r.labels id = some label) : r.labelFor id = label := by
  rw [labelFor, h, Option.getD_some]

theorem keys_labels_assign_of_mem (h : id ∈ keys r.labels) :
    keys (r.assign id label).labels = keys r.labels := by
  rw [labels_assign, Table.keys_put_of_mem h]

theorem keys_labels_assign_of_not_mem (h : id ∉ keys r.labels) :
    keys (r.assign id label).labels = keys r.labels ++ [id] := by
  rw [labels_assign, Table.keys_put_of_not_mem h]

/-- An id that is new has no label to give up. -/
theorem unlink_of_not_mem (h : id ∉ keys r.labels) : r.unlink id = r := by
  have howned : r.owned? id = none := by rw [owned?, Table.get?_eq_none h]
  rw [unlink, howned]

theorem idFor?_assign_of_not_mem (h : id ∉ keys r.labels) (l : Text) :
    (r.assign id label).idFor? l = if l = label then some id else r.idFor? l := by
  rw [assign, unlink_of_not_mem h, idFor?]
  by_cases hl : l = label
  · rw [if_pos hl, hl, Table.get?_put_self]
  · rw [if_neg hl, Table.get?_put_of_ne _ _ hl, idFor?]

/-! ## Paired tables -/

/-- The two tables fit together. -/
structure Paired (r : Registry) : Prop where
  /-- No id is there twice. -/
  nodup : (keys r.labels).Nodup
  /-- No label belongs to two ids. -/
  single : (keys r.ids).Nodup
  /-- The id that a label belongs to holds it. -/
  holds : ∀ label id, get? r.ids label = some id → get? r.labels id = some label
  /-- A label that an id holds belongs to an id. -/
  owned : ∀ id label, get? r.labels id = some label → (get? r.ids label).isSome = true

theorem paired_empty : Paired empty where
  nodup := List.nodup_nil
  single := List.nodup_nil
  holds _ _ h := nomatch h
  owned _ _ h := nomatch h

theorem owned?_eq_some (h : r.owned? id = some label) :
    get? r.labels id = some label ∧ get? r.ids label = some id := by
  rw [owned?] at h
  split at h
  · cases h
  · next l hl =>
    split at h
    · next hi =>
      obtain rfl := Option.some.inj h
      exact ⟨hl, hi⟩
    · cases h

theorem owned?_eq_none (h : r.owned? id = none) (hl : get? r.labels id = some label) :
    get? r.ids label ≠ some id := by
  rw [owned?, hl] at h
  intro hi
  simp [hi] at h

/-- Another holder of the label is found if there is one. -/
theorem otherHolder?_isSome (hne : other ≠ id) (h : get? r.labels other = some label) :
    (r.otherHolder? id label).isSome = true := by
  rw [otherHolder?, Option.isSome_map, List.find?_isSome]
  exact ⟨(other, label), Table.mem_of_get? h, by simpa using hne⟩

theorem otherHolder?_eq_some (hnodup : (keys r.labels).Nodup)
    (h : r.otherHolder? id label = some other) :
    other ≠ id ∧ get? r.labels other = some label := by
  rw [otherHolder?, Option.map_eq_some_iff] at h
  obtain ⟨⟨o, held⟩, hfind, rfl⟩ := h
  have hp : o ≠ id ∧ held = label := by simpa using List.find?_some hfind
  obtain ⟨hne, rfl⟩ := hp
  exact ⟨hne, Table.get?_of_mem hnodup (List.mem_of_find?_eq_some hfind)⟩

theorem nodup_keys_ids_unlink (h : (keys r.ids).Nodup) (id : Text) :
    (keys (r.unlink id).ids).Nodup := by
  rw [unlink]
  split
  · exact h
  · split
    · exact Table.nodup_keys_erase h _
    · exact Table.nodup_keys_put h

/-- When an id has given up its label, labels belong to other ids only, and every
    label that another id holds belongs to one. -/
theorem Paired.unlink (h : r.Paired) (id : Text) :
    (∀ label other, get? (r.unlink id).ids label = some other →
      other ≠ id ∧ get? r.labels other = some label) ∧
    ∀ other label, other ≠ id → get? r.labels other = some label →
      (get? (r.unlink id).ids label).isSome = true := by
  rw [Registry.unlink]
  split
  · next hnone =>
    -- No label belongs to the id, and nothing changes.
    refine ⟨fun label other hl => ?_, fun other label _ hl => h.owned other label hl⟩
    have hheld := h.holds label other hl
    exact ⟨fun hid => owned?_eq_none hnone (hid ▸ hheld) (hid ▸ hl), hheld⟩
  · next old hold =>
    obtain ⟨hl, hi⟩ := owned?_eq_some hold
    -- Only the label that is given up belonged to the id.
    have hother {label other : Text} (hne : label ≠ old) (ho : get? r.ids label = some other) :
        other ≠ id := by
      rintro rfl
      rw [h.holds label other ho, Option.some.injEq] at hl
      exact hne hl
    split
    · next hnone =>
      -- Nobody inherits the label: no other id holds it.
      refine ⟨fun label other ho => ?_, fun other label hne ho => ?_⟩
      · have hne : label ≠ old := by
          rintro rfl
          simp at ho
        rw [Table.get?_erase_of_ne _ hne] at ho
        exact ⟨hother hne ho, h.holds label other ho⟩
      · have hne' : label ≠ old := by
          rintro rfl
          simpa [hnone] using otherHolder?_isSome hne ho
        rw [Table.get?_erase_of_ne _ hne']
        exact h.owned other label ho
    · next heir hheir =>
      -- The heir is another holder, and now has the label.
      obtain ⟨hne, hheld⟩ := otherHolder?_eq_some h.nodup hheir
      refine ⟨fun label other ho => ?_, fun other label _ ho => ?_⟩
      · by_cases hlabel : label = old
        · subst hlabel
          rw [Table.get?_put_self, Option.some.injEq] at ho
          exact ho ▸ ⟨hne, hheld⟩
        · rw [Table.get?_put_of_ne _ _ hlabel] at ho
          exact ⟨hother hlabel ho, h.holds label other ho⟩
      · by_cases hlabel : label = old
        · rw [hlabel, Table.get?_put_self]
          rfl
        · rw [Table.get?_put_of_ne _ _ hlabel]
          exact h.owned other label ho

/-- Assigning a label keeps the tables paired. -/
theorem Paired.assign (h : r.Paired) (id label : Text) : (r.assign id label).Paired where
  nodup := by
    rw [labels_assign]
    exact Table.nodup_keys_put h.nodup
  single := by
    rw [Registry.assign]
    exact Table.nodup_keys_put (nodup_keys_ids_unlink h.single id)
  holds l i hi := by
    rw [labels_assign]
    rw [Registry.assign] at hi
    by_cases hl : l = label
    · subst hl
      rw [Table.get?_put_self, Option.some.injEq] at hi
      rw [← hi, Table.get?_put_self]
    · rw [Table.get?_put_of_ne _ _ hl] at hi
      obtain ⟨hne, hheld⟩ := (h.unlink id).1 l i hi
      rw [Table.get?_put_of_ne _ _ hne, hheld]
  owned i l hi := by
    rw [labels_assign] at hi
    rw [Registry.assign]
    by_cases hl : l = label
    · rw [hl, Table.get?_put_self]
      rfl
    · -- Another label: its holder is another id, which gave nothing up.
      rw [Table.get?_put_of_ne _ _ hl]
      have hne : i ≠ id := by
        rintro rfl
        rw [Table.get?_put_self, Option.some.injEq] at hi
        exact hl hi.symm
      rw [Table.get?_put_of_ne _ _ hne] at hi
      exact (h.unlink id).2 i l hne hi

/-- Removing an id keeps the tables paired. -/
theorem Paired.remove (h : r.Paired) (id : Text) : (r.remove id).Paired where
  nodup := by
    rw [Registry.remove, labels_unlink]
    exact Table.nodup_keys_erase h.nodup id
  single := nodup_keys_ids_unlink h.single id
  holds l i hi := by
    -- The owner of the label is another id, which is still there.
    obtain ⟨hne, hheld⟩ := (h.unlink id).1 l i hi
    rw [Registry.remove, labels_unlink, Table.get?_erase_of_ne _ hne, hheld]
  owned i l hi := by
    rw [Registry.remove, labels_unlink] at hi
    have hne : i ≠ id := by
      rintro rfl
      rw [Table.get?_erase_self] at hi
      cases hi
    rw [Table.get?_erase_of_ne _ hne] at hi
    exact (h.unlink id).2 i l hne hi

/-! ## Resolving labels -/

/-- A label that belongs to an id resolves to that id and changes nothing. -/
theorem resolve_of_idFor? (h : r.idFor? (Text.trim label) = some id) :
    r.resolve label = (r, id) := by
  rw [resolve]
  simp only [h]

/-- A label that belongs to no id is assigned to the id made from it. -/
theorem resolve_of_idFor?_eq_none (h : r.idFor? (Text.trim label) = none) :
    r.resolve label =
      (r.assign (Ident.labelled (Text.trim label)) (Text.trim label),
        Ident.labelled (Text.trim label)) := by
  rw [resolve]
  simp only [h]

theorem Paired.resolve (h : r.Paired) (label : Text) : (r.resolve label).1.Paired := by
  cases hid : r.idFor? (Text.trim label) with
  | none =>
    rw [resolve_of_idFor?_eq_none hid]
    exact h.assign _ _
  | some id => rwa [resolve_of_idFor? hid]

/-- The id that a label resolves to holds the label, trimmed. -/
theorem Paired.get?_labels_resolve (h : r.Paired) (label : Text) :
    get? (r.resolve label).1.labels (r.resolve label).2 = some (Text.trim label) := by
  cases hid : r.idFor? (Text.trim label) with
  | none => rw [resolve_of_idFor?_eq_none hid, labels_assign, Table.get?_put_self]
  | some id =>
    rw [resolve_of_idFor? hid]
    exact h.holds _ _ hid

/-! ## Histories -/

theorem Paired.act (h : r.Paired) (a : Action) : (r.act a).Paired := by
  cases a with
  | resolve label => exact h.resolve label
  | assign id label => exact h.assign id label
  | remove id => exact h.remove id
  | clear => exact paired_empty

theorem Paired.run (h : r.Paired) (actions : List Action) : (r.run actions).Paired := by
  induction actions generalizing r with
  | nil => exact h
  | cons a rest ih => exact ih (h.act a)

/-- The label of an id in use belongs to an id that holds it, perhaps another. -/
theorem Paired.exists_owner (h : r.Paired) (hl : get? r.labels id = some label) :
    ∃ owner, r.idFor? label = some owner ∧ r.labelFor owner = label := by
  obtain ⟨owner, howner⟩ := Option.isSome_iff_exists.1 (h.owned id label hl)
  exact ⟨owner, howner, labelFor_of_get? (h.holds label owner howner)⟩

/-- The labels that belong to ids are those that ids hold. -/
theorem Paired.mem_keys_ids_iff (h : r.Paired) :
    label ∈ keys r.ids ↔ ∃ id, get? r.labels id = some label := by
  constructor
  · intro hmem
    obtain ⟨id, hid⟩ := Option.isSome_iff_exists.1 (Table.isSome_get?_iff.2 hmem)
    exact ⟨id, h.holds label id hid⟩
  · rintro ⟨id, hid⟩
    exact Table.isSome_get?_iff.1 (h.owned id label hid)

/-! ## Labels that may hold halves -/

variable {h : Halves}

/-- A label that belongs to an id has no need of bytes. -/
theorem resolveRaw_of_idFor? (hid : r.idFor? (Text.trim label) = some id) :
    r.resolveRaw h label = .ok (r.resolve label) := by
  rw [resolve_of_idFor? hid, resolveRaw]
  simp only [hid]

theorem resolveRaw_of_isWhole (hw : h.isWhole label = true) :
    r.resolveRaw h label = .ok (r.resolve label) := by
  cases hid : r.idFor? (Text.trim label) with
  | some id => exact resolveRaw_of_idFor? hid
  | none =>
    rw [resolve_of_idFor?_eq_none hid, resolveRaw]
    simp only [hid, Ident.labelledRaw_of_isWhole ((h.isWhole_trim label).trans hw)]
    rfl

/-- A label that is new has no id if there is a half in it. -/
theorem resolveRaw_eq_error (hid : r.idFor? (Text.trim label) = none)
    (hw : h.isWhole label = false) :
    r.resolveRaw h label = .error (.unencodable (h.stray (Text.trim label))) := by
  rw [resolveRaw]
  simp only [hid, Ident.labelledRaw_of_not_isWhole ((h.isWhole_trim label).trans hw),
    Text.trim_trim]
  rfl

/-- A label resolves as if it were whole, or not at all. -/
theorem resolveRaw_cases (r : Registry) (h : Halves) (label : Text) :
    r.resolveRaw h label = .ok (r.resolve label) ∨
      ∃ fault, r.resolveRaw h label = .error fault := by
  cases hid : r.idFor? (Text.trim label) with
  | some id => exact .inl (resolveRaw_of_idFor? hid)
  | none =>
    cases hw : h.isWhole label with
    | true => exact .inl (resolveRaw_of_isWhole hw)
    | false => exact .inr ⟨_, resolveRaw_eq_error hid hw⟩

theorem actRaw_cases (r : Registry) (h : Halves) (a : Action) :
    r.actRaw h a = r.act a ∨ r.actRaw h a = r := by
  cases a with
  | resolve label =>
    obtain heq | ⟨fault, heq⟩ := r.resolveRaw_cases h label
    · refine .inl ?_
      rw [actRaw, heq]
      rfl
    · refine .inr ?_
      rw [actRaw, heq]
  | assign | remove | clear => exact .inl rfl

theorem Paired.runRaw (hr : r.Paired) (h : Halves) (actions : List Action) :
    (r.runRaw h actions).Paired := by
  induction actions generalizing r with
  | nil => exact hr
  | cons a rest ih =>
    refine ih ?_
    obtain heq | heq := r.actRaw_cases h a
    · rw [heq]
      exact hr.act a
    · rwa [heq]

/-- Without halves nothing is different. -/
theorem runRaw_eq_run {actions : List Action}
    (hactions : ∀ label, .resolve label ∈ actions → h.isWhole label = true) :
    r.runRaw h actions = r.run actions := by
  induction actions generalizing r with
  | nil => rfl
  | cons a rest ih =>
    have hact : r.actRaw h a = r.act a := by
      cases a with
      | resolve label => rw [actRaw, resolveRaw_of_isWhole (hactions label List.mem_cons_self), act]
      | assign | remove | clear => rfl
    rw [runRaw, List.foldl_cons, hact]
    exact ih fun label hlabel => hactions label (List.mem_cons_of_mem _ hlabel)

/-- After any history of an empty registry, whatever halves there are in its labels, the
    two tables have distinct names and are inverse to each other as far as labels are not
    shared: the id that a label belongs to holds it, and the labels that belong to ids are
    those that ids hold. A label that is in use or whole resolves to an id that holds it,
    trimmed. Any other label has no bytes and is a fault. -/
theorem inverse_runRaw_empty (h : Halves) (actions : List Action) :
    let r := empty.runRaw h actions
    ((keys r.labels).Nodup ∧ (keys r.ids).Nodup) ∧
      (∀ label id, (label, id) ∈ r.ids → get? r.labels id = some label) ∧
      (∀ id label, (id, label) ∈ r.labels → label ∈ keys r.ids) ∧
      (∀ label, label ∈ keys r.ids ↔ ∃ id, get? r.labels id = some label) ∧
      (∀ id label, get? r.labels id = some label →
        ∃ owner, r.idFor? label = some owner ∧ r.labelFor owner = label) ∧
      ∀ label,
        (Text.trim label ∈ keys r.ids ∨ h.isWhole label = true →
          ∃ r' id, r.resolveRaw h label = .ok (r', id) ∧
            get? r'.labels id = some (Text.trim label)) ∧
        (Text.trim label ∉ keys r.ids → h.isWhole label = false →
          r.resolveRaw h label = .error (.unencodable (h.stray (Text.trim label)))) := by
  intro r
  have hr : r.Paired := paired_empty.runRaw h actions
  refine ⟨⟨hr.nodup, hr.single⟩, fun label id hmem => ?_, fun id label hmem => ?_,
    fun label => hr.mem_keys_ids_iff, fun id label => hr.exists_owner, fun label => ⟨?_, ?_⟩⟩
  · exact hr.holds label id (Table.get?_of_mem hr.single hmem)
  · exact hr.mem_keys_ids_iff.2 ⟨id, Table.get?_of_mem hr.nodup hmem⟩
  · intro hlabel
    refine ⟨_, _, ?_, hr.get?_labels_resolve label⟩
    obtain hused | hw := hlabel
    · obtain ⟨id, hid⟩ := Option.isSome_iff_exists.1 (Table.isSome_get?_iff.2 hused)
      exact resolveRaw_of_idFor? hid
    · exact resolveRaw_of_isWhole hw
  · exact fun hnew hw => resolveRaw_eq_error (Table.get?_eq_none hnew) hw

/-- A label that two ids held falls to the first of them when the other one is
    relabelled, and resolves to it; a half in it does not matter. -/
theorem inverse_runRaw_shared_label :
    let half := Halves.standIn 0xD800
    let r := empty.runRaw .last [.assign "n_1".toList [half], .resolve ['x', half],
      .assign "n_2".toList [half], .assign "n_2".toList "No".toList]
    r.ids = [([half], "n_1".toList), ("No".toList, "n_2".toList)] ∧
      Text.trim [' ', half] ∈ keys r.ids ∧
      ∃ r' id, r.resolveRaw .last [' ', half] = .ok (r', id) ∧
        get? r'.labels id = some [half] := by
  intro half r
  have hids : r.ids = [([half], "n_1".toList), ("No".toList, "n_2".toList)] := by
    decide +kernel
  have hused : Text.trim [' ', half] ∈ keys r.ids := by
    rw [hids]
    decide +kernel
  obtain ⟨-, -, -, -, -, hresolve⟩ := inverse_runRaw_empty .last [.assign "n_1".toList [half],
    .resolve ['x', half], .assign "n_2".toList [half], .assign "n_2".toList "No".toList]
  obtain ⟨r', id, hok, hholds⟩ := (hresolve [' ', half]).1 (.inl hused)
  have htrim : Text.trim [' ', half] = [half] := by decide +kernel
  exact ⟨hids, hused, r', id, hok, htrim ▸ hholds⟩

/-- A new label that is a half on its own does not resolve to an id. -/
theorem half_resolves_to_no_id :
    empty.resolveRaw .last [Halves.standIn 0xD800] = .error (.unencodable ⟨0xD800, 0, 0⟩) :=
  rfl

end FlowScript.Registry
