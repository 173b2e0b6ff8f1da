import SqlDialects.Row

/-! The two views of a row. Cells are found by name and by position among the columns and cells as
they came, while the row is written as a list of entries, as many as it has both names and cells
for. Whatever the lengths of the two, and however often a name is repeated, both views show the same
cells. -/

namespace SqlDialects.Row

theorem cell?_of_no_cells (columns : List String) (name : String) :
    cell? ⟨columns, []⟩ name = none := by
  simp [cell?]

/-- The first column, with a cell for it. -/
theorem cell?_cons (column : String) (cell : Json) (columns : List String) (cells : List Json)
    (name : String) :
    cell? ⟨column :: columns, cell :: cells⟩ name =
      if column = name then some cell else cell? ⟨columns, cells⟩ name := by
  by_cases h : column = name
  · simp [cell?, List.findIdx?_cons, h]
  · cases hindex : columns.findIdx? (· == name) <;>
      simp [cell?, List.findIdx?_cons, h, hindex]

/-- The first position of a name is one of an entry, or has no cell. -/
theorem cell?_eq_find? (row : Row) (name : String) :
    row.cell? name = (row.entries.find? (·.1 == name)).map Prod.snd := by
  obtain ⟨columns, cells⟩ := row
  induction columns generalizing cells with
  | nil => rfl
  | cons column columns ih =>
    cases cells with
    | nil => exact cell?_of_no_cells (column :: columns) name
    | cons cell cells =>
      rw [cell?_cons, ih cells]
      by_cases h : column = name <;> simp [entries, h]

/-- A name whose first position is behind the last cell has no entry at all. -/
example : cell? ⟨["a", "b", "b"], [.int 1]⟩ "b" = none ∧
    entries ⟨["a", "b", "b"], [.int 1]⟩ = [("a", .int 1)] := ⟨rfl, rfl⟩

theorem cell?_eq_some_iff {row : Row} {name : String} {cell : Json} :
    row.cell? name = some cell ↔
      ∃ before after, row.entries = before ++ (name, cell) :: after ∧
        ∀ entry ∈ before, entry.1 ≠ name := by
  rw [cell?_eq_find?]
  constructor
  · intro h
    obtain ⟨⟨name', cell'⟩, hfind, rfl⟩ := Option.map_eq_some_iff.mp h
    obtain ⟨hname, before, after, hentries, hbefore⟩ := List.find?_eq_some_iff_append.mp hfind
    have hname : name' = name := by simpa using hname
    subst hname
    exact ⟨before, after, hentries, by simpa using hbefore⟩
  · rintro ⟨before, after, hentries, hbefore⟩
    have hnone : before.find? (·.1 == name) = none := by simpa using hbefore
    simp [hentries, hnone]

theorem cell?_eq_none_iff {row : Row} {name : String} :
    row.cell? name = none ↔ ∀ entry ∈ row.entries, entry.1 ≠ name := by
  rw [cell?_eq_find?, Option.map_eq_none_iff]
  simp

theorem cellAt?_of_entry {row : Row} {index : Nat} {entry : String × Json}
    (h : row.entries[index]? = some entry) : row.cellAt? index = some entry.2 :=
  (List.getElem?_zip_eq_some.mp h).2

/-- A name gives the cell of the first entry of that name among those that the row is written as,
and none exactly if there is no such entry. A position among the entries gives the cell of the
entry. -/
theorem views_agree (row : Row) :
    ∃ entries, row.toJson = .object entries ∧
      (∀ name cell, row.cell? name = some cell ↔
        ∃ before after, entries = before ++ (name, cell) :: after ∧
          ∀ entry ∈ before, entry.1 ≠ name) ∧
      (∀ name, row.cell? name = none ↔ ∀ entry ∈ entries, entry.1 ≠ name) ∧
      ∀ i : Fin entries.length, row.cellAt? i = some (entries.get i).2 :=
  ⟨row.entries, rfl, fun _ _ => cell?_eq_some_iff, fun _ => cell?_eq_none_iff,
    fun i => cellAt?_of_entry (List.getElem?_eq_getElem i.isLt)⟩

end SqlDialects.Row
