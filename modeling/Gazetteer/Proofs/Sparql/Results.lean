import Gazetteer.Sparql.Results
import Mathlib.Data.List.Forall2

/-!
# Proofs/Sparql/Results — which JSON documents are tables of results

A document is not validated before it is read, so any JSON may turn out to be a table. `IsTable`
says what the rows of a document are, cell by cell (`Binds`), and a document is read just when it is
a table; where it is none, the reading fails with the flaw in its shape (`reads_rowsOf`).

Reading is built from steps that fail in this way only, so `Reads` says of a step which results it
has, and goes through a sequence of steps (`Reads.bind`).
-/

namespace Gazetteer

/-- Whether a result is just what a relation allows, and there is a flaw of shape where it allows
none. -/
structure Reads {α : Type} (R : α → Prop) (r : Except Fault α) : Prop where
  ok_iff : ∀ a, r = .ok a ↔ R a
  flaw : ∀ fault, r = .error fault → ∃ flaw, fault = .shape flaw

namespace Reads

variable {α β : Type} {R R' : α → Prop} {r : Except Fault α}

theorem ok {a : α} (h : ∀ b, R b ↔ b = a) : Reads R (.ok a) where
  ok_iff b := by
    rw [h]
    exact ⟨fun hab => (Except.ok.inj hab).symm, fun hba => by rw [hba]⟩
  flaw _ herror := absurd herror (by simp)

theorem error (h : ∀ a, ¬ R a) (flaw : ShapeFlaw) : Reads R (.error (.shape flaw)) where
  ok_iff a := ⟨fun hok => absurd hok (by simp), fun hR => absurd hR (h a)⟩
  flaw fault herror := ⟨flaw, (Except.error.inj herror).symm⟩

theorem of_iff (h : Reads R r) (hiff : ∀ a, R a ↔ R' a) : Reads R' r where
  ok_iff a := (h.ok_iff a).trans (hiff a)
  flaw := h.flaw

/-- **Steps that are read one after the other.** -/
theorem bind {S : α → β → Prop} {next : α → Except Fault β} (h : Reads R r)
    (hnext : ∀ a, R a → Reads (S a) (next a)) :
    Reads (fun b => ∃ a, R a ∧ S a b) (r >>= next) := by
  cases r with
  | error fault =>
    obtain ⟨flaw, rfl⟩ := h.flaw fault rfl
    exact error (fun b ⟨a, hR, _⟩ => absurd ((h.ok_iff a).mpr hR) (by simp)) flaw
  | ok a =>
    have hR : R a := (h.ok_iff a).mp rfl
    have ha : ∀ a', R a' → a' = a := fun a' h' => (Except.ok.inj ((h.ok_iff a').mpr h')).symm
    refine (hnext a hR).of_iff fun b => ⟨fun hS => ⟨a, hR, hS⟩, ?_⟩
    rintro ⟨a', hR', hS⟩
    exact ha a' hR' ▸ hS

/-- **A result is there or not**, and then it is the flaw. -/
theorem cases (h : Reads R r) :
    (∃ a, R a ∧ r = .ok a) ∨ (¬ ∃ a, R a) ∧ ∃ flaw, r = .error (.shape flaw) := by
  cases hr : r with
  | ok a => exact .inl ⟨a, (h.ok_iff a).mp hr, rfl⟩
  | error fault =>
    obtain ⟨flaw, rfl⟩ := h.flaw fault hr
    exact .inr ⟨fun ⟨a, hR⟩ => absurd (hr.symm.trans ((h.ok_iff a).mpr hR)) (by simp), flaw, rfl⟩

end Reads

/-! ## Going through values -/

namespace Value

theorem reads_member (name : String) (otherwise v : Value) :
    Reads (fun w => ∃ members, v = .object members ∧ w = (find? name members).getD otherwise)
      (member name otherwise v) := by
  cases v with
  | object members => exact .ok fun w => by simp
  | null | bool _ | int _ | float _ | string _ | array _ => exact .error (by simp) _

theorem reads_items (v : Value) : Reads (fun parts => v.items = .ok parts) v.items where
  ok_iff _ := Iff.rfl
  flaw fault h := by
    cases v with
    | array _ | string _ | object _ => exact absurd h (by simp [items])
    | null | bool _ | int _ | float _ => exact ⟨_, (Except.error.inj h).symm⟩

theorem reads_itemAt (parts : List Value) (index : Int) :
    Reads (fun w => itemAt parts index = .ok w) (itemAt parts index) where
  ok_iff _ := Iff.rfl
  flaw fault h := by
    simp only [itemAt] at h
    generalize (if index < 0 then index + (parts.length : Int) else index) = position at h
    split at h
    · exact ⟨_, (Except.error.inj h).symm⟩
    · split at h
      · exact absurd h (by simp)
      · exact ⟨_, (Except.error.inj h).symm⟩

/-- What an array holds is asked for by an index. -/
theorem reads_under_array (parts : List Value) (key : Value) :
    Reads (fun w => (array parts).under key = .ok w) ((array parts).under key) where
  ok_iff _ := Iff.rfl
  flaw fault h := by
    cases key with
    | int n => exact (reads_itemAt parts n).flaw fault h
    | bool b => exact (reads_itemAt parts (ofBool b)).flaw fault h
    | null | float _ | string _ | array _ | object _ => exact ⟨_, (Except.error.inj h).symm⟩

/-- **What is held under a name**, only an object has. -/
theorem reads_under_name (v : Value) (name : String) :
    Reads (fun w => ∃ members, v = .object members ∧ find? name members = some w)
      (v.under (.string name)) := by
  cases v with
  | object members =>
    rw [under]
    cases hfind : find? name members with
    | none => exact .error (by simp [hfind]) _
    | some w => exact .ok fun w' => by simp [hfind, eq_comm]
  | null | bool _ | int _ | float _ | string _ | array _ => exact .error (by simp) _

end Value

namespace Sparql

/-! ## Cells -/

/-- Whether a binding gives a value to a column: the `value` of what it holds under the column, or
null if it does not hold it. A binding that is no object is gone through as what it is. -/
inductive Binds : (binding column v : Value) → Prop
  | bound {members cell : List (String × Value)} {name : String} {v : Value}
      (hname : Value.find? name members = some (.object cell))
      (hvalue : Value.find? "value" cell = some v) : Binds (.object members) (.string name) v
  | unbound {members : List (String × Value)} {name : String}
      (hname : Value.find? name members = none) : Binds (.object members) (.string name) .null
  | unnamed {members : List (String × Value)} {column : Value} (hkey : column.isKey = true)
      (hname : ∀ name, column ≠ .string name) : Binds (.object members) column .null
  | listed {items : List Value} {cell : List (String × Value)} {column v : Value}
      (hitem : (items.any fun item => item.same column) = true)
      (hcell : (Value.array items).under column = .ok (.object cell))
      (hvalue : Value.find? "value" cell = some v) : Binds (.array items) column v
  | unlisted {items : List Value} {column : Value} (hkey : column.isKey = true)
      (hitem : (items.any fun item => item.same column) = false) : Binds (.array items) column .null
  | absent {text name : String} (hname : Text.occursIn name.toList text.toList = false) :
      Binds (.string text) (.string name) .null

theorem isKey_of_binds {binding column v : Value} (h : Binds binding column v) :
    column.isKey = true := by
  cases h with
  | bound | unbound | absent => rfl
  | unnamed hkey | unlisted hkey => exact hkey
  | listed hitem hcell =>
    -- only a number or a truth value is the place of an item
    cases column with
    | null | bool _ | int _ | float _ | string _ => rfl
    | array _ | object _ => exact absurd hcell (by simp [Value.under])

theorem reads_cell_object (members : List (String × Value)) {column : Value}
    (hkey : column.isKey = true) :
    Reads (Binds (.object members) column) (cell (.object members) column) := by
  by_cases hname : ∃ name, column = .string name
  · obtain ⟨name, rfl⟩ := hname
    cases hfind : Value.find? name members with
    | none =>
      have hcell : cell (.object members) (.string name) = .ok .null := by
        simp [cell, holds, hfind]
      rw [hcell]
      refine .ok fun v => ⟨fun h => ?_, fun h => h ▸ .unbound hfind⟩
      cases h with
      | bound hname => exact absurd (hfind.symm.trans hname) (by simp)
      | unbound | unnamed => rfl
    | some bound =>
      have hcell : cell (.object members) (.string name) = bound.under (.string "value") := by
        simp [cell, holds, hfind, Value.under]
      rw [hcell]
      refine (Value.reads_under_name bound "value").of_iff fun v => ⟨?_, fun h => ?_⟩
      · rintro ⟨entry, rfl, hvalue⟩
        exact .bound hfind hvalue
      · cases h with
        | bound hname hvalue => exact ⟨_, Option.some.inj (hfind.symm.trans hname), hvalue⟩
        | unbound hname => exact absurd (hfind.symm.trans hname) (by simp)
        | unnamed _ hne => exact absurd rfl (hne name)
  · have hne : ∀ name, column ≠ .string name := fun name h => hname ⟨name, h⟩
    have hcell : cell (.object members) column = .ok .null := by
      cases column with
      | string name => exact absurd rfl (hne name)
      | array _ | object _ => exact absurd hkey (by simp [Value.isKey])
      | null | bool _ | int _ | float _ => rfl
    rw [hcell]
    refine .ok fun v => ⟨fun h => ?_, fun h => h ▸ .unnamed hkey hne⟩
    cases h with
    | bound => exact absurd rfl (hne _)
    | unbound | unnamed => rfl

theorem reads_cell_array (items : List Value) {column : Value} (hkey : column.isKey = true) :
    Reads (Binds (.array items) column) (cell (.array items) column) := by
  cases hitem : items.any fun item => item.same column with
  | false =>
    have hcell : cell (.array items) column = .ok .null := by simp only [cell, holds, hitem]
    rw [hcell]
    refine .ok fun v => ⟨fun h => ?_, fun h => h ▸ .unlisted hkey hitem⟩
    cases h with
    | listed hmem => exact absurd (hitem.symm.trans hmem) (by simp)
    | unlisted => rfl
  | true =>
    have hcell : cell (.array items) column
        = (Value.array items).under column >>= fun bound => bound.under (.string "value") := by
      simp only [cell, holds, hitem]
      cases (Value.array items).under column <;> rfl
    rw [hcell]
    refine ((Value.reads_under_array items column).bind fun bound _ =>
      Value.reads_under_name bound "value").of_iff fun v => ⟨?_, fun h => ?_⟩
    · rintro ⟨_, hunder, entry, rfl, hvalue⟩
      exact .listed hitem hunder hvalue
    · cases h with
      | listed _ hunder hvalue => exact ⟨_, hunder, _, rfl, hvalue⟩
      | unlisted _ hmem => exact absurd (hitem.symm.trans hmem) (by simp)

theorem reads_cell_string (text : String) (column : Value) :
    Reads (Binds (.string text) column) (cell (.string text) column) := by
  cases column with
  | string name =>
    cases hoccurs : Text.occursIn name.toList text.toList with
    | false =>
      have hcell : cell (.string text) (.string name) = .ok .null := by
        simp only [cell, holds, hoccurs]
      rw [hcell]
      refine .ok fun v => ⟨fun h => ?_, fun h => h ▸ .absent hoccurs⟩
      cases h
      rfl
    | true =>
      have hcell : cell (.string text) (.string name)
          = .error (.shape (.textIndex (Value.string name).typeName)) := by
        simp only [cell, holds, hoccurs, Value.under]
      rw [hcell]
      refine .error (fun v h => ?_) _
      cases h with
      | absent hname => exact absurd (hoccurs.symm.trans hname) (by simp)
  | null | bool _ | int _ | float _ | array _ | object _ => exact .error (fun v h => by cases h) _

/-- **A cell** is read just when the binding gives a value to the column. -/
theorem reads_cell (binding : Value) {column : Value} (hkey : column.isKey = true) :
    Reads (Binds binding column) (cell binding column) := by
  cases binding with
  | object members => exact reads_cell_object members hkey
  | array items => exact reads_cell_array items hkey
  | string text => exact reads_cell_string text column
  | null | bool _ | int _ | float _ => exact .error (fun v h => by cases h) _

/-- What is no key gets no value, but a list without it is not asked further. -/
theorem cell_of_not_isKey (binding : Value) {column : Value} (hkey : column.isKey = false) :
    cell binding column = .ok .null ∨ ∃ flaw, cell binding column = .error (.shape flaw) := by
  cases column with
  | null | bool _ | int _ | float _ | string _ => exact absurd hkey (by simp [Value.isKey])
  | array _ | object _ =>
    cases binding with
    | null | bool _ | int _ | float _ | string _ | object _ => exact .inr ⟨_, rfl⟩
    | array items =>
      simp only [cell, holds]
      cases items.any _ with
      | false => exact .inl rfl
      | true => exact .inr ⟨_, rfl⟩

/-! ## Rows and tables -/

/-- Whether a row is the one of a binding: the value of every column under the column, in the order
of the columns. -/
def IsRow (columns binding : Value) (row : Row) : Prop :=
  ∃ names values, columns.items = .ok names ∧ List.Forall₂ (Binds binding) names values ∧
    row = Row.ofCells (names.zip values)

/-- Whether a document has columns and bindings. What is missing of it counts as empty. -/
def Declares (document columns : Value) (bindings : List Value) : Prop :=
  ∃ top head results entries, document = .object top ∧
    (Value.find? "head" top).getD (.object []) = .object head ∧
    columns = (Value.find? "vars" head).getD (.array []) ∧
    (Value.find? "results" top).getD (.object []) = .object results ∧
    entries = (Value.find? "bindings" results).getD (.array []) ∧ entries.items = .ok bindings

/-- Whether rows are those of a document: one for each binding, in the order of the bindings. -/
def IsTable (document : Value) (rows : List Row) : Prop :=
  ∃ columns bindings, Declares document columns bindings ∧
    List.Forall₂ (IsRow columns) bindings rows

theorem reads_rowFrom (binding : Value) : ∀ (columns : List Value) (row : Row),
    Reads (fun row' => ∃ values, List.Forall₂ (Binds binding) columns values ∧
      row' = (columns.zip values).foldl (fun row cell => Value.put cell.1 cell.2 row) row)
      (rowFrom binding row columns)
  | [], row => .ok fun row' => by simp
  | column :: rest, row => by
      cases hkey : column.isKey with
      | true =>
        have hstep : rowFrom binding row (column :: rest)
            = cell binding column >>= fun v => rowFrom binding (Value.put column v row) rest := by
          rw [rowFrom]
          cases cell binding column with
          | error fault => rfl
          | ok v => exact if_pos hkey
        rw [hstep]
        refine ((reads_cell binding hkey).bind fun v _ =>
          reads_rowFrom binding rest (Value.put column v row)).of_iff fun row' => ⟨?_, ?_⟩
        · rintro ⟨v, hv, values, hvalues, rfl⟩
          exact ⟨v :: values, .cons hv hvalues, rfl⟩
        · rintro ⟨_, hall, rfl⟩
          obtain ⟨v, values, hv, hvalues, rfl⟩ := List.forall₂_cons_left_iff.mp hall
          exact ⟨v, hv, values, hvalues, rfl⟩
      | false =>
        have hnone : ∀ row', ¬ ∃ values, List.Forall₂ (Binds binding) (column :: rest) values ∧
            row' = ((column :: rest).zip values).foldl
              (fun row cell => Value.put cell.1 cell.2 row) row := by
          rintro row' ⟨_, hvalues, -⟩
          obtain ⟨v, values, hv, -⟩ := List.forall₂_cons_left_iff.mp hvalues
          exact absurd (isKey_of_binds hv) (by simp [hkey])
        rw [rowFrom]
        rcases cell_of_not_isKey binding hkey with hcell | ⟨flaw, hcell⟩
        · simp only [hcell, hkey, Bool.false_eq_true, if_false]
          exact .error hnone _
        · rw [hcell]
          exact .error hnone _

theorem reads_rowOf (columns binding : Value) :
    Reads (IsRow columns binding) (rowOf columns binding) := by
  have hstep : rowOf columns binding = columns.items >>= fun names => rowFrom binding [] names := by
    rw [rowOf]
    cases columns.items <;> rfl
  rw [hstep]
  refine ((Value.reads_items columns).bind fun names _ => reads_rowFrom binding names []).of_iff
    fun row => ⟨?_, ?_⟩
  · rintro ⟨names, hnames, values, hvalues, rfl⟩
    exact ⟨names, values, hnames, hvalues, rfl⟩
  · rintro ⟨names, values, hnames, hvalues, rfl⟩
    exact ⟨names, hnames, values, hvalues, rfl⟩

theorem reads_rowsFrom (columns : Value) : ∀ bindings : List Value,
    Reads (List.Forall₂ (IsRow columns) bindings) (rowsFrom columns bindings)
  | [] => .ok fun rows => by simp
  | binding :: rest => by
      have hstep : rowsFrom columns (binding :: rest) = rowOf columns binding >>= fun row =>
          rowsFrom columns rest >>= fun rows => .ok (row :: rows) := by
        rw [rowsFrom]
        cases rowOf columns binding with
        | error fault => rfl
        | ok row => cases rowsFrom columns rest <;> rfl
      rw [hstep]
      refine ((reads_rowOf columns binding).bind fun row _ => (reads_rowsFrom columns rest).bind
        (S := fun rows rows' => rows' = row :: rows) fun rows _ => .ok fun _ => Iff.rfl).of_iff
        fun rows => ⟨?_, ?_⟩
      · rintro ⟨row, hrow, rows, hrows, rfl⟩
        exact .cons hrow hrows
      · intro h
        obtain ⟨row, rows, hrow, hrows, rfl⟩ := List.forall₂_cons_left_iff.mp h
        exact ⟨row, hrow, rows, hrows, rfl⟩

/-- **A document is read** just when it is a table. -/
theorem reads_rowsOf (document : Value) : Reads (IsTable document) (rowsOf document) := by
  refine ((Value.reads_member "head" (.object []) document).bind fun head _ =>
    (Value.reads_member "vars" (.array []) head).bind fun columns _ =>
    (Value.reads_member "results" (.object []) document).bind fun results _ =>
    (Value.reads_member "bindings" (.array []) results).bind fun entries _ =>
    (Value.reads_items entries).bind fun bindings _ =>
      reads_rowsFrom columns bindings).of_iff fun rows => ⟨?_, ?_⟩
  · rintro ⟨head, ⟨top, rfl, hhead⟩, columns, ⟨head, rfl, rfl⟩, results, ⟨top', htop, hresults⟩,
      entries, ⟨results, rfl, rfl⟩, bindings, hbindings, hrows⟩
    obtain rfl := Value.object.inj htop
    exact ⟨_, bindings, ⟨top, head, results, _, rfl, hhead.symm, rfl, hresults.symm, rfl,
      hbindings⟩, hrows⟩
  · rintro ⟨_, bindings, ⟨top, head, results, _, rfl, hhead, rfl, hresults, rfl, hbindings⟩, hrows⟩
    exact ⟨_, ⟨top, rfl, hhead.symm⟩, _, ⟨head, rfl, rfl⟩, _, ⟨top, rfl, hresults.symm⟩, _,
      ⟨results, rfl, rfl⟩, bindings, hbindings, hrows⟩

/-! ## Columns -/

/-- Cells of columns that are all different stay as they are. -/
theorem put_of_forall_ne {column v : Value} : ∀ {row : Row},
    (∀ cell ∈ row, (cell.1 == column) = false) → Value.put column v row = row ++ [(column, v)]
  | [], _ => rfl
  | (name, w) :: row, h => by
      obtain ⟨hname, hrow⟩ := List.forall_mem_cons.mp h
      rw [Value.put, if_neg (by simp [hname]), put_of_forall_ne hrow]
      rfl

theorem ofCells_of_pairwise {cells : List (Value × Value)}
    (h : cells.Pairwise fun c d => (c.1 == d.1) = false) : Row.ofCells cells = cells := by
  have hfold : ∀ (row : Row), (row ++ cells).Pairwise (fun c d => (c.1 == d.1) = false) →
      cells.foldl (fun row cell => Value.put cell.1 cell.2 row) row = row ++ cells := by
    induction cells with
    | nil => simp
    | cons cell cells ih =>
      intro row hrow
      have hput : Value.put cell.1 cell.2 row = row ++ [cell] :=
        put_of_forall_ne fun c hc => (List.pairwise_append.mp hrow).2.2 c hc cell List.mem_cons_self
      rw [List.foldl_cons, hput, ih h.tail _ (by simpa using hrow)]
      simp
  exact hfold [] h

/-- **A row has just the columns**, in their order, if they are all different. -/
theorem IsRow.map_fst {columns binding : Value} {row : Row} (h : IsRow columns binding row)
    {names : List Value} (hnames : columns.items = .ok names)
    (hne : names.Pairwise fun a b => (a == b) = false) : row.map (·.1) = names := by
  obtain ⟨names', values, hnames', hvalues, rfl⟩ := h
  obtain rfl := Except.ok.inj (hnames.symm.trans hnames')
  have hfst : (names.zip values).map (·.1) = names :=
    List.map_fst_zip (Nat.le_of_eq hvalues.length_eq)
  rw [ofCells_of_pairwise, hfst]
  exact List.pairwise_map.mp (by rw [hfst]; exact hne)

theorem Declares.unique {document columns columns' : Value} {bindings bindings' : List Value}
    (h : Declares document columns bindings) (h' : Declares document columns' bindings') :
    columns' = columns ∧ bindings' = bindings := by
  obtain ⟨top, head, results, entries, rfl, hhead, rfl, hresults, rfl, hentries⟩ := h
  obtain ⟨top', head', results', entries', htop, hhead', rfl, hresults', rfl, hentries'⟩ := h'
  obtain rfl := Value.object.inj htop
  obtain rfl := Value.object.inj (hhead.symm.trans hhead')
  obtain rfl := Value.object.inj (hresults.symm.trans hresults')
  exact ⟨rfl, Except.ok.inj (hentries'.symm.trans hentries)⟩

/-- **A table has a row for each binding** of its document, and each row just the columns. -/
theorem IsTable.columns {document columns : Value} {bindings : List Value} {rows : List Row}
    (h : IsTable document rows) (hdeclares : Declares document columns bindings) :
    rows.length = bindings.length ∧ ∀ names, columns.items = .ok names →
      (names.Pairwise fun a b => (a == b) = false) → ∀ row ∈ rows, row.map (·.1) = names := by
  obtain ⟨columns', bindings', hdeclares', hrows⟩ := h
  obtain ⟨rfl, rfl⟩ := hdeclares.unique hdeclares'
  refine ⟨hrows.length_eq.symm, fun names hnames hne row hrow => ?_⟩
  obtain ⟨i, hi, rfl⟩ := List.getElem_of_mem hrow
  exact (hrows.get (by rw [hrows.length_eq]; exact hi) hi).map_fst hnames hne

end Sparql

end Gazetteer
