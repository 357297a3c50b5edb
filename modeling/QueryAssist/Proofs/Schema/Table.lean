import QueryAssist.Proofs.Text.Dotted
import QueryAssist.Schema.Table

/-!
# The names of a table

* `Table.lastPart_key` — the last part of the full name of a table is its bare name.
* `Table.bareName_of_name_eq` — so is what follows the last dot of its name.
-/

namespace QueryAssist.Table

open Text

variable {table : Table}

theorem dot_not_mem_bareName (table : Table) : '.' ∉ table.bareName.toList :=
  dot_not_mem_lastPart table.name

theorem dot_mem_key (table : Table) : '.' ∈ table.key.toList := by
  simp [key]

theorem mem_key_of_mem_name (table : Table) {c : Char} (h : c ∈ table.name.toList) : c ∈ table.key.toList := by
  simp [key, h]

/-- The full name of a table ends in its bare name. -/
theorem lastPart_key (table : Table) : lastPart table.key = table.bareName :=
  lastPart_append table.database table.name

/-- A name without dots is a bare name. -/
theorem bareName_eq_name (h : '.' ∉ table.name.toList) : table.bareName = table.name :=
  lastPart_eq_self h

/-- A name is a bare name only if it has no dots. -/
theorem bareName_eq_name_iff : table.bareName = table.name ↔ '.' ∉ table.name.toList :=
  ⟨fun h => h ▸ table.dot_not_mem_bareName, bareName_eq_name⟩

/-- What follows a schema and its dot is the bare name. -/
theorem bareName_of_name_eq {schema name : String} (h : table.name = schema ++ "." ++ name)
    (hname : '.' ∉ name.toList) : table.bareName = name := by
  rw [bareName, h, lastPart_append, lastPart_eq_self hname]

end QueryAssist.Table
