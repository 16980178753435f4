import Mathlib.Data.List.Basic

/-!
# Tables

A table is a list of names with values, and the first entry of a name counts. Where no name occurs
twice the order does not matter: a name has a value exactly if the two are an entry. The labels of a
program are such a table, and so is an environment.
-/

set_option autoImplicit false

namespace Mailroom

variable {β : Type}

theorem lookup_cons_eq_ite (name : String) (value : β) (rest : List (String × β)) (x : String) :
    ((name, value) :: rest).lookup x = if x = name then some value else rest.lookup x := by
  rw [List.lookup_cons]
  by_cases hx : x = name
  · simp [hx]
  · simp [hx, beq_eq_false_iff_ne.mpr hx]

theorem mem_iff_lookup {rows : List (String × β)} (h : (rows.map Prod.fst).Nodup) {name : String}
    {value : β} : (name, value) ∈ rows ↔ rows.lookup name = some value := by
  induction rows with
  | nil => simp
  | cons row rows ih =>
    obtain ⟨n, v⟩ := row
    obtain ⟨hfirst, hrest⟩ := List.nodup_cons.mp h
    rw [lookup_cons_eq_ite, List.mem_cons, Prod.mk.injEq, ih hrest]
    by_cases hname : name = n
    · subst hname
      have hnone : rows.lookup name ≠ some value := by
        rw [ne_eq, ← ih hrest]
        exact fun hmem => hfirst (List.mem_map.mpr ⟨_, hmem, rfl⟩)
      simp [hnone, eq_comm]
    · simp [hname]

end Mailroom
