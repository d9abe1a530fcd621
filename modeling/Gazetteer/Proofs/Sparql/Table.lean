import Gazetteer.Proofs.Sparql.Results
import Gazetteer.Repository.Evaluation
import Mathlib.Data.List.Nodup

/-!
# Proofs/Sparql/Table — a table of results, from an engine and from a server

An engine hands a table of results over as columns and rows, a server as a JSON document with an
object for each row, whose members stand in any order and leave out what is not bound. The table
itself is `Table.toRows`. An engine's answer has these rows (`Table.toRows_answer`), and so has
every document that encodes the table (`Table.Encodes.rowsOf_eq`).
-/

namespace Gazetteer.Sparql

/-- A table of results: variables that are all different, and rows that give each of them a text or
leave it without a value. -/
structure Table where
  names : List String
  rows : List (List (Option String))
  nodup : names.Nodup
  full : ∀ row ∈ rows, row.length = names.length

namespace Table

variable {t : Table} {row : List (Option String)}

/-- The variables with what a row gives to them. -/
def cells (t : Table) (row : List (Option String)) : List (String × Option String) :=
  t.names.zip row

/-- A value of a table; null if there is none. -/
def shown (value : Option String) : Value := (value.map Value.string).getD .null

/-- A row of a table: all variables in their order, each with its value. -/
def toRow (t : Table) (row : List (Option String)) : Row :=
  (t.cells row).map fun cell => (.string cell.1, shown cell.2)

/-- The rows of a table. -/
def toRows (t : Table) : Rows := ⟨t.rows.map t.toRow, none⟩

theorem map_fst_cells (hrow : row ∈ t.rows) : (t.cells row).map Prod.fst = t.names :=
  List.map_fst_zip (Nat.le_of_eq (t.full row hrow).symm)

theorem nodup_map_fst_cells (hrow : row ∈ t.rows) : ((t.cells row).map Prod.fst).Nodup := by
  rw [map_fst_cells hrow]
  exact t.nodup

/-- A variable that stands once is found where it stands. -/
theorem find?_fst {α : Type} {entries : List (String × α)} {name : String} {a : α}
    (h : (entries.map Prod.fst).Nodup) (hmem : (name, a) ∈ entries) :
    entries.find? (fun entry => entry.1 == name) = some (name, a) := by
  obtain ⟨entry, hfind⟩ := Option.isSome_iff_exists.mp
    (List.find?_isSome (p := fun entry : String × α => entry.1 == name).mpr
      ⟨(name, a), hmem, beq_self_eq_true name⟩)
  have hname : entry.1 = name := by simpa using List.find?_some hfind
  rw [hfind, List.inj_on_of_nodup_map h (List.mem_of_find?_eq_some hfind) hmem hname]

/-- The cells of a row, put in one by one, are the row. -/
theorem ofCells_toRow (hrow : row ∈ t.rows) : Row.ofCells (t.toRow row) = t.toRow row := by
  refine ofCells_of_pairwise (List.pairwise_map.mpr ?_)
  refine (List.pairwise_map.mp (nodup_map_fst_cells hrow)).imp fun {c d} hne => ?_
  show Value.same (.string c.1) (.string d.1) = false
  simpa using hne

/-- All rows have the variables, in their order. -/
theorem map_map_fst_toRows (t : Table) :
    t.toRows.rows.map (·.map Prod.fst) = t.rows.map fun _ => t.names.map .string := by
  rw [toRows, List.map_map]
  refine List.map_congr_left fun row hrow => ?_
  rw [← map_fst_cells hrow, List.map_map]
  exact List.map_map

/-! ## From an engine -/

/-- The answer of an engine that has found a table. -/
def answer (t : Table) : Rdf.Answer := { columns := t.names, rows := t.rows }

theorem cell?_cells (hrow : row ∈ t.rows) {cell : String × Option String}
    (hcell : cell ∈ t.cells row) : Rdf.Answer.cell? (t.cells row) cell.1 = some cell.2 := by
  have hnodup : ((t.cells row).reverse.map Prod.fst).Nodup := by
    rw [List.map_reverse, List.nodup_reverse]
    exact nodup_map_fst_cells hrow
  rw [Rdf.Answer.cell?, find?_fst hnodup (List.mem_reverse.mpr hcell)]
  rfl

/-- An engine's row has the cells put in one by one. -/
theorem rowOf_map_fst {found : List (String × Option String)} :
    ∀ {cells : List (String × Option String)} (row : Row),
      (∀ cell ∈ cells, Rdf.Answer.cell? found cell.1 = some cell.2) →
      Rdf.Answer.rowOf found row (cells.map Prod.fst)
        = .ok ((cells.map fun cell => (Value.string cell.1, shown cell.2)).foldl
            (fun row cell => Value.put cell.1 cell.2 row) row)
  | [], _, _ => rfl
  | cell :: cells, row, h => by
      obtain ⟨hcell, hcells⟩ := List.forall_mem_cons.mp h
      rw [List.map_cons, Rdf.Answer.rowOf, hcell]
      exact rowOf_map_fst _ hcells

theorem rowOf_eq (hrow : row ∈ t.rows) :
    Rdf.Answer.rowOf (t.cells row) [] t.names = .ok (t.toRow row) := by
  rw [← ofCells_toRow hrow]
  have hrowOf := rowOf_map_fst [] fun _ => cell?_cells hrow
  rwa [map_fst_cells hrow] at hrowOf

theorem rowsOf_names : ∀ {rows : List (List (Option String))}, (∀ row ∈ rows, row ∈ t.rows) →
    Rdf.Answer.rowsOf t.names none rows = ⟨rows.map t.toRow, none⟩
  | [], _ => rfl
  | row :: rows, h => by
      obtain ⟨hrow, hrows⟩ := List.forall_mem_cons.mp h
      have hfirst : Rdf.Answer.rowOf (Rdf.Answer.cellsOf t.names row) [] t.names
          = .ok (t.toRow row) := rowOf_eq hrow
      rw [Rdf.Answer.rowsOf, hfirst, rowsOf_names hrows]
      rfl

/-- **An engine that has found a table** has its rows. -/
theorem toRows_answer (t : Table) : t.answer.toRows = t.toRows :=
  rowsOf_names fun _ hrow => hrow

/-! ## From a server -/

/-- Whether a value stands for a text: an object that has the text as its `value`, whatever else it
says of it. -/
def IsTerm (text : String) (v : Value) : Prop :=
  ∃ members, v = .object members ∧ Value.find? "value" members = some (.string text)

/-- The variables that a row gives a text to, with the texts. -/
def bound (t : Table) (row : List (Option String)) : List (String × String) :=
  (t.cells row).filterMap fun cell => cell.2.map (Prod.mk cell.1)

/-- Whether a value stands for a row: an object with a term for each variable that has a text, in
any order. -/
def IsBinding (t : Table) (row : List (Option String)) (v : Value) : Prop :=
  ∃ members, v = .object members ∧
    (members.map Prod.fst).Perm ((t.bound row).map Prod.fst) ∧
    ∀ entry ∈ t.bound row, ∃ term, (entry.1, term) ∈ members ∧ IsTerm entry.2 term

/-- Whether a document encodes a table: it declares the variables, and has a binding for each row,
in the order of the rows. -/
def Encodes (t : Table) (document : Value) : Prop :=
  ∃ bindings, Declares document (.array (t.names.map .string)) bindings ∧
    List.Forall₂ t.IsBinding t.rows bindings

theorem mem_bound {name text : String} :
    (name, text) ∈ t.bound row ↔ (name, some text) ∈ t.cells row := by
  rw [bound, List.mem_filterMap]
  constructor
  · rintro ⟨⟨name', value⟩, hcell, hvalue⟩
    obtain ⟨text', rfl, heq⟩ := Option.map_eq_some_iff.mp hvalue
    obtain ⟨rfl, rfl⟩ := Prod.mk.inj heq
    exact hcell
  · exact fun hcell => ⟨_, hcell, rfl⟩

theorem nodup_map_fst_bound (hrow : row ∈ t.rows) : ((t.bound row).map Prod.fst).Nodup := by
  refine List.pairwise_map.mpr (List.pairwise_filterMap.mpr ?_)
  refine (List.pairwise_map.mp (nodup_map_fst_cells hrow)).imp fun {c d} hne e he e' he' => ?_
  obtain ⟨_, _, rfl⟩ := Option.map_eq_some_iff.mp he
  obtain ⟨_, _, rfl⟩ := Option.map_eq_some_iff.mp he'
  exact hne

/-- **A binding gives its variables their values**, in whatever order its members stand. -/
theorem IsBinding.binds {v : Value} (h : t.IsBinding row v) (hrow : row ∈ t.rows)
    {cell : String × Option String} (hcell : cell ∈ t.cells row) :
    Binds v (.string cell.1) (shown cell.2) := by
  obtain ⟨members, rfl, hperm, hterms⟩ := h
  obtain ⟨name, value⟩ := cell
  cases value with
  | some text =>
    obtain ⟨_, hmem, entry, rfl, hvalue⟩ := hterms (name, text) (mem_bound.mpr hcell)
    have hnodup : (members.map Prod.fst).Nodup := hperm.nodup_iff.mpr (nodup_map_fst_bound hrow)
    exact .bound (by rw [Value.find?, find?_fst hnodup hmem]; rfl) hvalue
  | none =>
    refine .unbound ?_
    rw [Value.find?, Option.map_eq_none_iff, List.find?_eq_none]
    intro member hmember hname
    -- a member would be a variable with a text, and the variable stands in the row once
    obtain ⟨⟨other, text⟩, hbound, hother⟩ :=
      List.mem_map.mp (hperm.mem_iff.mp (List.mem_map_of_mem (f := Prod.fst) hmember))
    have heq : (other, some text) = (name, none) :=
      List.inj_on_of_nodup_map (nodup_map_fst_cells hrow) (mem_bound.mp hbound) hcell
        (hother.trans (beq_iff_eq.mp hname))
    exact absurd (Prod.mk.inj heq).2 (by simp)

theorem IsBinding.isRow {v : Value} (h : t.IsBinding row v) (hrow : row ∈ t.rows) :
    IsRow (.array (t.names.map .string)) v (t.toRow row) := by
  refine ⟨_, (t.cells row).map fun cell => shown cell.2, rfl, ?_, ?_⟩
  · rw [← map_fst_cells hrow, List.map_map]
    refine List.forall₂_map_left_iff.mpr (List.forall₂_map_right_iff.mpr ?_)
    exact List.forall₂_same.mpr fun cell => h.binds hrow
  · rw [← map_fst_cells hrow, List.map_map, List.zip_map', ← ofCells_toRow hrow]
    rfl

/-- **A document that encodes a table** has its rows. -/
theorem Encodes.rowsOf_eq {document : Value} (h : t.Encodes document) :
    rowsOf document = .ok (t.rows.map t.toRow) := by
  obtain ⟨bindings, hdeclares, hbindings⟩ := h
  refine ((reads_rowsOf document).ok_iff _).mpr ⟨_, bindings, hdeclares, ?_⟩
  have hrows : List.Forall₂ (fun row v => row ∈ t.rows ∧ t.IsBinding row v) t.rows bindings :=
    (List.forall₂_and_left _ _).mpr ⟨fun _ hrow => hrow, hbindings⟩
  refine List.forall₂_map_right_iff.mpr (List.Forall₂.flip ?_)
  exact hrows.imp fun _ _ ⟨hrow, hbinding⟩ => hbinding.isRow hrow

end Table

end Gazetteer.Sparql
