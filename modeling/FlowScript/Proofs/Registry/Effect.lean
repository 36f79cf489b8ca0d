import FlowScript.Proofs.Registry
import Mathlib.Data.List.Find

/-!
# What assigning and removing change

Before an id is given a label, or removed, it lets go of the label that it holds.
Should that label belong to it, the label passes to the first other id in the
order of the registry that holds it (`Paired.idFor?_unlink`); no other label
notices. All else that an assignment or a removal changes is the entry of the
id itself.

* `Paired.relabels_assign`, `Paired.removes_remove`: the effect on paired tables;
* `effect_run_empty`: the effect after any history of an empty registry.
-/

namespace FlowScript.Registry

open Table (get? keys)

variable {r : Registry} {id label : Text}

/-- The first id other than `id`, in the order of the registry, that holds the
    label. -/
def heir? (r : Registry) (id label : Text) : Option Text :=
  (keys r.labels).find? fun other => other ≠ id ∧ r.labelFor other = label

/-- What becomes of a label when `id` lets go of it and `r` turns into `r'`. -/
structure LetsGo (r r' : Registry) (id label : Text) : Prop where
  /-- If the label does not belong to the id, it belongs where it belonged. -/
  stays : r.idFor? label ≠ some id → r'.idFor? label = r.idFor? label
  /-- If it does, it passes to the first other id that holds it. -/
  passes : r.idFor? label = some id → r'.idFor? label = r.heir? id label

/-- All that is different when `id` has been given `label` and `r` has turned
    into `r'`. -/
structure Relabels (r r' : Registry) (id label : Text) : Prop where
  /-- The id holds the label. -/
  holds : r'.labelFor id = label
  /-- The label belongs to the id. -/
  owns : r'.idFor? label = some id
  /-- The other ids hold what they held. -/
  others : ∀ other, other ≠ id → r'.labelFor other = r.labelFor other
  /-- The ids keep their places, and a new one comes last. -/
  order : keys r'.labels = if id ∈ keys r.labels then keys r.labels else keys r.labels ++ [id]
  /-- The id lets go of the label that it held, if that is another one. -/
  letsGo : ∀ old, get? r.labels id = some old → old ≠ label → LetsGo r r' id old
  /-- All other labels belong where they belonged. -/
  elsewhere : ∀ l, l ≠ label → get? r.labels id ≠ some l → r'.idFor? l = r.idFor? l

/-- All that is different when `id` has been removed and `r` has turned into
    `r'`. -/
structure Removes (r r' : Registry) (id : Text) : Prop where
  /-- The id is not there. -/
  gone : r'.contains id = false
  /-- The other ids hold what they held. -/
  others : ∀ other, other ≠ id → r'.labelFor other = r.labelFor other
  /-- The other ids keep their order. -/
  order : keys r'.labels = (keys r.labels).filter fun other => other ≠ id
  /-- The id lets go of the label that it held. -/
  letsGo : ∀ old, get? r.labels id = some old → LetsGo r r' id old
  /-- All other labels belong where they belonged. -/
  elsewhere : ∀ l, get? r.labels id ≠ some l → r'.idFor? l = r.idFor? l

/-! ## Letting go of a label -/

/-- Looking through the entries or through the ids comes to the same. -/
theorem otherHolder?_eq_heir? (h : (keys r.labels).Nodup) (id label : Text) :
    r.otherHolder? id label = r.heir? id label := by
  rw [otherHolder?, heir?, keys, List.find?_map]
  refine congrArg (Option.map Prod.fst) (List.find?_congr fun entry hentry => ?_)
  have hlabel : r.labelFor entry.1 = entry.2 := labelFor_of_get? (Table.get?_of_mem h hentry)
  simp only [Function.comp, hlabel]

/-- When an id lets go of its label, the label changes hands if it belonged to the
    id, and nothing else does. -/
theorem Paired.idFor?_unlink (h : r.Paired) (id l : Text) : (r.unlink id).idFor? l =
    if r.idFor? l = some id then r.heir? id l else r.idFor? l := by
  cases howned : r.owned? id with
  | none =>
    -- No label belongs to the id.
    have hne : r.idFor? l ≠ some id := fun hi => owned?_eq_none howned (h.holds l id hi) hi
    rw [if_neg hne, Registry.unlink, howned]
  | some old =>
    obtain ⟨hheld, hi⟩ : get? r.labels id = some old ∧ r.idFor? old = some id :=
      owned?_eq_some howned
    rw [← otherHolder?_eq_heir? h.nodup, Registry.unlink, howned]
    by_cases hl : l = old
    · subst hl
      rw [if_pos hi]
      cases hheir : r.otherHolder? id l with
      | none => simp only [hheir, idFor?, Table.get?_erase_self]
      | some heir => simp only [hheir, idFor?, Table.get?_put_self]
    · -- Another label cannot belong to the id, which holds `old`.
      have hne : r.idFor? l ≠ some id := fun hother =>
        hl (Option.some.inj ((h.holds l id hother).symm.trans hheld))
      rw [if_neg hne]
      cases hheir : r.otherHolder? id old with
      | none => simp only [hheir, idFor?, Table.get?_erase_of_ne _ hl]
      | some heir => simp only [hheir, idFor?, Table.get?_put_of_ne _ _ hl]

theorem Paired.letsGo (h : r.Paired) {r' : Registry}
    (heq : r'.idFor? label = (r.unlink id).idFor? label) : LetsGo r r' id label where
  stays hne := by rw [heq, h.idFor?_unlink, if_neg hne]
  passes hi := by rw [heq, h.idFor?_unlink, if_pos hi]

/-- A label that the id does not hold is not touched when the id lets go of
    its own. -/
theorem Paired.idFor?_unlink_of_ne (h : r.Paired) (hl : get? r.labels id ≠ some label) :
    (r.unlink id).idFor? label = r.idFor? label := by
  have hne : r.idFor? label ≠ some id := fun hi => hl (h.holds label id hi)
  rw [h.idFor?_unlink, if_neg hne]

/-! ## Assigning and removing -/

theorem idFor?_assign_of_ne {l : Text} (hl : l ≠ label) :
    (r.assign id label).idFor? l = (r.unlink id).idFor? l :=
  Table.get?_put_of_ne _ _ hl

/-- What assigning a label changes. -/
theorem Paired.relabels_assign (h : r.Paired) (id label : Text) :
    Relabels r (r.assign id label) id label where
  holds := labelFor_assign_self r id label
  owns := Table.get?_put_self _ label id
  others _ hother := labelFor_assign_of_ne hother
  order := by
    split
    · next hmem => exact keys_labels_assign_of_mem hmem
    · next hnew => exact keys_labels_assign_of_not_mem hnew
  letsGo old _ hne := h.letsGo (idFor?_assign_of_ne hne)
  elsewhere l hne hl := (idFor?_assign_of_ne hne).trans (h.idFor?_unlink_of_ne hl)

/-- What removing an id changes. -/
theorem Paired.removes_remove (h : r.Paired) (id : Text) : Removes r (r.remove id) id where
  gone := by
    rw [contains, Table.contains, Registry.remove, Table.get?_erase_self, Option.isSome_none]
  others other hother := by
    rw [labelFor, Registry.remove, labels_unlink, Table.get?_erase_of_ne _ hother, labelFor]
  order := by rw [Registry.remove, labels_unlink, Table.keys_erase]
  letsGo old _ := h.letsGo rfl
  elsewhere l hl := h.idFor?_unlink_of_ne hl

/-- After any history of an empty registry, assigning a label and removing an id
    change just what they have to. The id holds the new label, which belongs to
    it; the label that it held stays with another id that it belongs to, or
    else passes to the first other id, in order, that holds it; and all other
    labels and ids are as they were. -/
theorem effect_run_empty (actions : List Action) (id label : Text) :
    let r := empty.run actions
    Relabels r (r.assign id label) id label ∧ Removes r (r.remove id) id := by
  intro r
  have h : r.Paired := paired_empty.run actions
  exact ⟨h.relabels_assign id label, h.removes_remove id⟩

/-- Of three ids that hold a label it belongs to the last. The first inherits it when
    that one is relabelled or removed, and nobody does when that one is given the
    same label again. -/
theorem effect_run_three_holders :
    let r := empty.run [.assign "n_1".toList "Yes".toList, .assign "n_2".toList "Yes".toList,
      .assign "n_3".toList "Yes".toList]
    r.idFor? "Yes".toList = some "n_3".toList ∧
      (r.assign "n_3".toList "No".toList).idFor? "Yes".toList = some "n_1".toList ∧
      (r.remove "n_3".toList).idFor? "Yes".toList = some "n_1".toList ∧
      (r.assign "n_3".toList "Yes".toList).idFor? "Yes".toList = some "n_3".toList := by
  intro r
  have howner : r.idFor? "Yes".toList = some "n_3".toList := by decide +kernel
  have hheld : get? r.labels "n_3".toList = some "Yes".toList := by decide +kernel
  have hheir : r.heir? "n_3".toList "Yes".toList = some "n_1".toList := by decide +kernel
  have hassign (label : Text) := effect_run_empty [.assign "n_1".toList "Yes".toList,
    .assign "n_2".toList "Yes".toList, .assign "n_3".toList "Yes".toList] "n_3".toList label
  obtain ⟨hno, hremove⟩ := hassign "No".toList
  refine ⟨howner, ?_, ?_, (hassign "Yes".toList).1.owns⟩
  · exact ((hno.letsGo _ hheld (by decide)).passes howner).trans hheir
  · exact ((hremove.letsGo _ hheld).passes howner).trans hheir

end FlowScript.Registry
