import FlowScript.Text.Basic

/-!
# Tables

Values under names, in the order in which the names came. Putting a value under
a name that is there keeps its place; a new name comes last.

Main statements: what a look-up finds after a `put` (`get?_put_self`,
`get?_put_of_ne`) and after an `erase` (`get?_erase_self`, `get?_erase_of_ne`).
-/

namespace FlowScript

/-- Values under names, in order. -/
abbrev Table (α : Type) := List (Text × α)

namespace Table

variable {α : Type}

/-- The value under a name: the first, should the name occur twice. -/
def get? : Table α → Text → Option α
  | [], _ => none
  | (k, v) :: rest, key => if k = key then some v else get? rest key

/-- The table with `value` under `key`. -/
def put : Table α → Text → α → Table α
  | [], key, value => [(key, value)]
  | (k, v) :: rest, key, value =>
    if k = key then (key, value) :: rest else (k, v) :: put rest key value

/-- The table without `key`. -/
def erase (t : Table α) (key : Text) : Table α :=
  t.filter fun entry => entry.1 ≠ key

/-- There is a value under the name. -/
def contains (t : Table α) (key : Text) : Bool :=
  (get? t key).isSome

/-- The names, in order. -/
def keys (t : Table α) : List Text :=
  t.map Prod.fst

@[simp]
theorem get?_put_self (t : Table α) (key : Text) (value : α) :
    get? (put t key value) key = some value := by
  induction t with
  | nil => simp [put, get?]
  | cons entry rest ih =>
    by_cases h : entry.1 = key <;> simp [put, get?, h, ih]

theorem get?_put_of_ne (t : Table α) {key other : Text} (value : α) (h : other ≠ key) :
    get? (put t key value) other = get? t other := by
  induction t with
  | nil => simp [put, get?, Ne.symm h]
  | cons entry rest ih =>
    by_cases hk : entry.1 = key
    · simp [put, get?, hk, Ne.symm h]
    · by_cases ho : entry.1 = other
      · simp [put, get?, ho, h]
      · simp [put, get?, hk, ho, ih]

@[simp]
theorem get?_erase_self (t : Table α) (key : Text) : get? (erase t key) key = none := by
  induction t with
  | nil => rfl
  | cons entry rest ih =>
    by_cases h : entry.1 = key
    · simpa [erase, h] using ih
    · simpa [erase, h, get?] using ih

theorem get?_erase_of_ne (t : Table α) {key other : Text} (h : other ≠ key) :
    get? (erase t key) other = get? t other := by
  induction t with
  | nil => rfl
  | cons entry rest ih =>
    by_cases hk : entry.1 = key
    · have : entry.1 ≠ other := fun e => h (e ▸ hk)
      simp only [get?, this, if_false]
      simpa [erase, hk] using ih
    · by_cases ho : entry.1 = other
      · simp [erase, get?, ho, h]
      · simpa [erase, hk, get?, ho] using ih

end Table

end FlowScript
