set_option autoImplicit false

/-!
# Rows of a table

A table of a database, seen as a list of rows with a key and a value. A key has at most
one row when all rows come from `put` and `putIfMissing`, and looking a key up finds
its first row in any case.
-/

namespace ByteLedger

/-- The rows of a table. -/
abbrev Rows (κ ν : Type) := List (κ × ν)

namespace Rows

variable {κ ν : Type} [DecidableEq κ]

/-- The value in the row of a key. -/
def get? (rows : Rows κ ν) (key : κ) : Option ν :=
  match rows with
  | [] => none
  | (k, v) :: rest => if k = key then some v else get? rest key

/-- The table with the given value in the row of a key. -/
def put (rows : Rows κ ν) (key : κ) (value : ν) : Rows κ ν :=
  match rows with
  | [] => [(key, value)]
  | (k, v) :: rest => if k = key then (key, value) :: rest else (k, v) :: put rest key value

/-- The table with a row for a key: the given one if there was none. -/
def putIfMissing (rows : Rows κ ν) (key : κ) (value : ν) : Rows κ ν :=
  match get? rows key with
  | some _ => rows
  | none => put rows key value

theorem get?_put (rows : Rows κ ν) (key k : κ) (value : ν) :
    (put rows key value).get? k = if key = k then some value else rows.get? k := by
  induction rows with
  | nil => rfl
  | cons row rest ih =>
    obtain ⟨k', v'⟩ := row
    simp only [put]
    split
    · rename_i h
      subst h
      simp only [get?]
      split <;> rfl
    · rename_i h
      simp only [get?]
      rw [ih]
      by_cases hk : k' = k
      · subst hk
        rw [if_pos rfl, if_neg (fun e => h e.symm), if_pos rfl]
      · rw [if_neg hk, if_neg hk]

/-- A row that is missing is added after all others. -/
theorem put_of_none {rows : Rows κ ν} {key : κ} (h : rows.get? key = none) (value : ν) :
    rows.put key value = rows ++ [(key, value)] := by
  induction rows with
  | nil => rfl
  | cons row rest ih =>
    obtain ⟨k, v⟩ := row
    rw [get?] at h
    split at h
    · cases h
    · rename_i hk
      rw [put, if_neg hk, ih h, List.cons_append]

theorem putIfMissing_of_none {rows : Rows κ ν} {key : κ} (h : rows.get? key = none)
    (value : ν) : rows.putIfMissing key value = rows ++ [(key, value)] := by
  rw [putIfMissing, h]
  exact put_of_none h value

theorem putIfMissing_of_some {rows : Rows κ ν} {key : κ} {old : ν}
    (h : rows.get? key = some old) (value : ν) : rows.putIfMissing key value = rows := by
  rw [putIfMissing, h]

theorem get?_putIfMissing (rows : Rows κ ν) (key k : κ) (value : ν) :
    (putIfMissing rows key value).get? k
      = if key = k then some ((rows.get? key).getD value) else rows.get? k := by
  unfold putIfMissing
  cases h : get? rows key with
  | none =>
    rw [Option.getD_none]
    exact get?_put rows key k value
  | some v =>
    rw [Option.getD_some]
    by_cases hk : key = k
    · rw [if_pos hk, ← hk, h]
    · rw [if_neg hk]

end Rows

end ByteLedger
