import ApiDoc.ConstantTable
import ApiDoc.Proofs.Sections

/-!
# The rows of a page of constants

What a page of constants says is told by its rows: those of the tables that stand between the first rule
and the bottom navigation bar and name a class (`ClassTable.IsIn`, `DataRow.IsIn`).  The page cannot be
read if one of them has not three cells, and the first one is reported; otherwise the last row with a
class and a name has the value (`ConstantTable.ofPage_reads_rows`).

The tables of a page and their rows come in document order (`pairwise_dataRows`), so the first and the
last row of a sort are those found by a search from either end.
-/

namespace ApiDoc

open Html (Node)

/-! ## Tables and rows -/

/-- A place is behind the first rule of a body, with no bottom navigation bar on the way. -/
def IsListed : List Node → Nat → Prop :=
  IsBetween (·.hasName "hr") (·.isAnchor navigationAnchor)

instance (body : List Node) (i : Nat) : Decidable (IsListed body i) :=
  inferInstanceAs (Decidable (IsBetween _ _ _ _))

/-- A table has constants of a class in some rows: above them is one more row, with a single cell that spans
all columns and names the class. -/
def IsClassTable (table : Node) (className : String) (rows : List Node) : Prop :=
  table.hasName "table" = true ∧ rows ≠ [] ∧ ∃ heading cell,
    table.elements.filter (·.hasName "tr") = heading :: rows ∧ rowCells heading = [cell] ∧
    cell.hasName "td" = true ∧
    (∃ span, cell.attribute? "colspan" = some span ∧ Text.natural? (Text.trim span.toList) = some 3) ∧
    cell.trimmedText ≠ [] ∧ className = String.ofList cell.trimmedText

/-- A table of constants of a page: the place of the table, the class it is about and the rows below its
heading. -/
structure ClassTable where
  place : Nat
  className : String
  rows : List Node

/-- The tables of constants on a body. -/
def ClassTable.IsIn (body : List Node) (t : ClassTable) : Prop :=
  ∃ table, body[t.place]? = some table ∧ IsListed body t.place ∧ IsClassTable table t.className t.rows

/-- A row of a table of constants, numbered from zero below the heading. -/
structure DataRow where
  table : Nat
  number : Nat
  className : String
  row : Node

namespace DataRow

/-- The rows on a body. -/
def IsIn (body : List Node) (r : DataRow) : Prop :=
  ∃ rows, ClassTable.IsIn body ⟨r.table, r.className, rows⟩ ∧ rows[r.number]? = some r.row

/-- Document order. -/
def IsBefore (a b : DataRow) : Prop :=
  a.table < b.table ∨ a.table = b.table ∧ a.number < b.number

theorem IsBefore.asymm {a b : DataRow} (h : a.IsBefore b) : ¬b.IsBefore a := by
  rintro (h' | h') <;> rcases h with h | h <;> omega

/-- The text of a cell, counted from zero. -/
def cellText? (r : DataRow) (i : Nat) : Option String :=
  (rowCells r.row)[i]?.map fun cell => String.ofList cell.trimmedText

/-- What is wrong with a row, if anything is. -/
def error? (r : DataRow) : Option MalformedRow := errorOf? (readRow r.className r.number r.row)

/-- A row with three cells is read, and only such a row. -/
theorem readRow_cases (r : DataRow) :
    ((rowCells r.row).length = 3 ∧ ∃ name value, r.cellText? 1 = some name ∧ r.cellText? 2 = some value ∧
      readRow r.className r.number r.row = .ok (name, value)) ∨
    (rowCells r.row).length ≠ 3 ∧ readRow r.className r.number r.row =
      .error ⟨r.className, r.number + 1, (rowCells r.row).length⟩ := by
  unfold readRow cellText?
  split
  · next name value heq =>
    rw [heq]
    exact .inl ⟨rfl, _, _, rfl, rfl, rfl⟩
  · next hne =>
    refine .inr ⟨fun hlen => ?_, rfl⟩
    obtain ⟨a, b, c, habc⟩ := List.length_eq_three.mp hlen
    exact hne a b c habc

theorem error?_eq_some_iff {r : DataRow} {e : MalformedRow} : r.error? = some e ↔
    (rowCells r.row).length ≠ 3 ∧ e = ⟨r.className, r.number + 1, (rowCells r.row).length⟩ := by
  rw [error?]
  rcases r.readRow_cases with ⟨hlen, name, value, -, -, hread⟩ | ⟨hlen, hread⟩
  · simp [hread, hlen, errorOf?]
  · simp [hread, hlen, errorOf?, eq_comm]

theorem error?_eq_none_iff {r : DataRow} : r.error? = none ↔ (rowCells r.row).length = 3 := by
  rw [error?]
  rcases r.readRow_cases with ⟨hlen, name, value, -, -, hread⟩ | ⟨hlen, hread⟩
  · simp [hread, hlen, errorOf?]
  · simp [hread, hlen, errorOf?]

end DataRow

theorem rowClass?_eq_some_iff {heading : Node} {className : String} : rowClass? heading = some className ↔
    ∃ cell, rowCells heading = [cell] ∧ cell.hasName "td" = true ∧
      (∃ span, cell.attribute? "colspan" = some span ∧ Text.natural? (Text.trim span.toList) = some 3) ∧
      cell.trimmedText ≠ [] ∧ className = String.ofList cell.trimmedText := by
  have hspan : ∀ cell, columnSpan? cell = some constantColumns ↔
      ∃ span, cell.attribute? "colspan" = some span ∧ Text.natural? (Text.trim span.toList) = some 3 :=
    fun _ => Option.bind_eq_some_iff
  unfold rowClass?
  split
  · next cell hcell =>
    simp only [hcell, List.cons.injEq, and_true, exists_eq_left', ← hspan, Option.ite_none_right_eq_some,
      Bool.and_eq_true, beq_iff_eq, Bool.not_eq_true', List.isEmpty_eq_false_iff, Option.some.injEq,
      and_assoc]
    rw [eq_comm (a := String.ofList _)]
  · next hne =>
    simp only [reduceCtorEq, false_iff]
    rintro ⟨cell, hcell, -⟩
    exact hne cell hcell

theorem isClassTable_iff {table : Node} {className : String} {rows : List Node} :
    IsClassTable table className rows ↔
      table.hasName "table" = true ∧ constantRows? table = some (className, rows) := by
  unfold IsClassTable constantRows?
  refine and_congr_right fun _ => ?_
  split
  · next heading row rows' heq =>
    simp only [heq, Option.map_eq_some_iff, Prod.mk.injEq, List.cons.injEq, rowClass?_eq_some_iff]
    constructor
    · rintro ⟨-, _, cell, ⟨rfl, rfl⟩, hcell⟩
      exact ⟨className, ⟨cell, hcell⟩, rfl, rfl⟩
    · rintro ⟨_, ⟨cell, hcell⟩, rfl, rfl⟩
      exact ⟨List.cons_ne_nil _ _, heading, cell, ⟨rfl, rfl⟩, hcell⟩
  · next hne =>
    simp only [reduceCtorEq, iff_false]
    rintro ⟨hrows, heading, cell, heq, -⟩
    obtain ⟨row, rows', rfl⟩ := List.exists_cons_of_ne_nil hrows
    exact hne _ _ _ heq

/-! ## The tables of a body -/

/-- The tables of constants on a body, in order. -/
def classTables (body : List Node) : List ClassTable :=
  (body.zipIdx.filter fun x => x.1.hasName "table" && decide (IsListed body x.2)).filterMap fun x =>
    (constantRows? x.1).map fun t => ⟨x.2, t.1, t.2⟩

theorem candidateTables_eq_filter (body : List Node) : candidateTables body =
    (body.zipIdx.filter fun x => x.1.hasName "table" && decide (IsListed body x.2)).map (·.1) := by
  have hrule : candidateTables body =
      (((body.dropWhile (!·.hasName "hr")).drop 1).takeWhile (!·.isAnchor navigationAnchor)).filter
        (·.hasName "table") := by
    rw [candidateTables]
    cases hd : body.dropWhile (!·.hasName "hr") with
    | nil => rfl
    | cons rule r =>
      have hname : rule.hasName "hr" = true := by
        have hhead := List.head?_dropWhile_not (!·.hasName "hr") body
        rw [hd] at hhead
        simpa using hhead
      have hanchor := Node.isAnchor_eq_false hname (by decide) (by decide) navigationAnchor
      have htable : rule.hasName "table" = false := Node.hasName_of_ne hname (by decide)
      rw [List.takeWhile_cons_of_pos (by rw [hanchor]; rfl), List.filter_cons_of_neg (by simp [htable])]
      rfl
  rw [hrule, takeWhile_drop_dropWhile_eq_itemsAt, itemsAt, List.filter_map, List.filter_filter]
  rfl

theorem filterMap_candidateTables (body : List Node) : (candidateTables body).filterMap constantRows? =
    (classTables body).map fun t => (t.className, t.rows) := by
  rw [candidateTables_eq_filter, classTables, List.filterMap_map, List.map_filterMap]
  refine List.filterMap_congr fun x _ => ?_
  rw [Option.map_map]
  exact Option.map_id'.symm

theorem mem_classTables {body : List Node} {t : ClassTable} : t ∈ classTables body ↔ t.IsIn body := by
  simp only [classTables, List.mem_filterMap, List.mem_filter, Bool.and_eq_true, decide_eq_true_iff,
    Option.map_eq_some_iff, ClassTable.IsIn, isClassTable_iff]
  constructor
  · rintro ⟨x, ⟨hx, htable, hlisted⟩, _, hrows, rfl⟩
    exact ⟨x.1, List.mem_zipIdx_iff_getElem?.mp hx, hlisted, htable, hrows⟩
  · rintro ⟨table, hx, hlisted, htable, hrows⟩
    exact ⟨(table, t.place), ⟨List.mem_zipIdx_iff_getElem?.mpr hx, htable, hlisted⟩, _, hrows, rfl⟩

theorem pairwise_classTables (body : List Node) : (classTables body).Pairwise (·.place < ·.place) := by
  rw [classTables, List.pairwise_filterMap]
  refine ((ascending_zipIdx body).filter _).imp fun hlt t ht t' ht' => ?_
  obtain ⟨_, -, rfl⟩ := Option.map_eq_some_iff.mp ht
  obtain ⟨_, -, rfl⟩ := Option.map_eq_some_iff.mp ht'
  exact hlt

/-! ## The rows of a body -/

/-- The rows of a table, in order. -/
def ClassTable.dataRows (t : ClassTable) : List DataRow :=
  t.rows.zipIdx.map fun x => ⟨t.place, x.2, t.className, x.1⟩

/-- The rows of tables, in order. -/
def dataRows (tables : List ClassTable) : List DataRow := tables.flatMap ClassTable.dataRows

theorem ClassTable.mem_dataRows {t : ClassTable} {r : DataRow} : r ∈ t.dataRows ↔
    t = ⟨r.table, r.className, t.rows⟩ ∧ t.rows[r.number]? = some r.row := by
  simp only [ClassTable.dataRows, List.mem_map, List.mem_zipIdx_iff_getElem?]
  constructor
  · rintro ⟨x, hrow, rfl⟩
    exact ⟨rfl, hrow⟩
  · rintro ⟨ht, hrow⟩
    exact ⟨(r.row, r.number), hrow, by rw [ht]⟩

theorem dataRows_cons (t : ClassTable) (r : List ClassTable) :
    dataRows (t :: r) = t.dataRows ++ dataRows r := List.flatMap_cons

theorem mem_dataRows {body : List Node} {r : DataRow} : r ∈ dataRows (classTables body) ↔ r.IsIn body := by
  simp only [dataRows, List.mem_flatMap, ClassTable.mem_dataRows, mem_classTables, DataRow.IsIn]
  constructor
  · rintro ⟨t, ht, heq, hrow⟩
    exact ⟨t.rows, heq ▸ ht, hrow⟩
  · rintro ⟨rows, ht, hrow⟩
    exact ⟨_, ht, rfl, hrow⟩

theorem pairwise_dataRows (body : List Node) : (dataRows (classTables body)).Pairwise DataRow.IsBefore := by
  rw [dataRows, List.pairwise_flatMap]
  constructor
  · intro t _
    rw [ClassTable.dataRows, List.pairwise_map]
    exact (ascending_zipIdx t.rows).imp fun hlt => .inr ⟨rfl, hlt⟩
  · refine (pairwise_classTables body).imp fun hlt r hr r' hr' => .inl ?_
    rw [(ClassTable.mem_dataRows.mp hr).1, (ClassTable.mem_dataRows.mp hr').1] at hlt
    exact hlt

/-! ## Reading -/

namespace ConstantTable

/-- Adds the values of tables, one table after the other. -/
def addTables (tables : List ClassTable) (t : ConstantTable) : Except MalformedRow ConstantTable :=
  tables.foldlM (fun t table => do
    return t.addRows table.className (← readRows table.className table.rows)) t

theorem addTables_cons_eq_ok_iff {table : ClassTable} {r : List ClassTable} {t t' : ConstantTable} :
    addTables (table :: r) t = .ok t' ↔ ∃ rows, readRows table.className table.rows = .ok rows ∧
      addTables r (t.addRows table.className rows) = .ok t' := by
  rw [addTables, List.foldlM_cons, Except.bind_eq_ok_iff]
  simp only [Except.bind_eq_ok_iff, Except.pure_eq_ok_iff]
  constructor
  · rintro ⟨_, ⟨rows, hrows, rfl⟩, h⟩
    exact ⟨rows, hrows, h⟩
  · rintro ⟨rows, hrows, h⟩
    exact ⟨_, ⟨rows, hrows, rfl⟩, h⟩

theorem ofTree_eq_addTables (page : Node) :
    ofTree page = addTables (classTables page.bodyElements) .empty := by
  rw [ofTree, filterMap_candidateTables, List.foldlM_map]
  rfl

theorem errorOf?_readRows (table : ClassTable) :
    errorOf? (readRows table.className table.rows) = table.dataRows.findSome? DataRow.error? := by
  rw [readRows, errorOf?_mapM, ClassTable.dataRows, List.findSome?_map]
  rfl

theorem errorOf?_addTables (tables : List ClassTable) (t : ConstantTable) :
    errorOf? (addTables tables t) = (dataRows tables).findSome? DataRow.error? := by
  induction tables generalizing t with
  | nil => rfl
  | cons table r ih =>
    rw [dataRows_cons, List.findSome?_append, ← errorOf?_readRows, addTables, List.foldlM_cons]
    cases readRows table.className table.rows with
    | error e => rfl
    | ok rows => exact ih _

/-- The value a constant of a class has. -/
def value? (t : ConstantTable) (className name : String) : Option String :=
  (t.get? className).bind (·.get? name)

theorem value?_addRows (t : ConstantTable) (c : String) (rows : List (String × String))
    (className name : String) : (t.addRows c rows).value? className name =
      if c = className then (OrderedMap.lookup? name rows.reverse).or (t.value? className name)
      else t.value? className name := by
  unfold value? addRows
  rw [OrderedMap.get?_insert]
  simp only [Std.LawfulEqCmp.compare_eq_iff_eq]
  by_cases hc : c = className
  · subst hc
    rw [if_pos rfl, if_pos rfl, Option.bind_some, OrderedMap.get?_foldl_insert]
    cases t.get? c with
    | none => rfl
    | some values => rfl
  · rw [if_neg (Ne.symm hc), if_neg hc]

theorem contains_addRows (t : ConstantTable) (c : String) (rows : List (String × String))
    (className : String) : (t.addRows c rows).contains className = true ↔
      c = className ∨ t.contains className = true := by
  unfold addRows OrderedMap.contains
  rw [OrderedMap.get?_insert]
  simp only [Std.LawfulEqCmp.compare_eq_iff_eq]
  by_cases hc : c = className
  · simp [hc]
  · simp [hc, Ne.symm hc]

end ConstantTable

/-- The value a row has for a constant, if it is about it. -/
def DataRow.value? (r : DataRow) (className name : String) : Option String :=
  if r.className = className ∧ r.cellText? 1 = some name then r.cellText? 2 else none

namespace DataRow

theorem value?_eq_some_iff {r : DataRow} {className name value : String} :
    r.value? className name = some value ↔
      r.className = className ∧ r.cellText? 1 = some name ∧ r.cellText? 2 = some value := by
  rw [value?, Option.ite_none_right_eq_some, and_assoc]

theorem value?_eq_none_iff {r : DataRow} {className name : String} (h : (rowCells r.row).length = 3) :
    r.value? className name = none ↔ r.className = className → r.cellText? 1 ≠ some name := by
  obtain ⟨value, hvalue⟩ : ∃ value, r.cellText? 2 = some value := by
    rcases r.readRow_cases with ⟨-, _, value, -, hvalue, -⟩ | ⟨hne, -⟩
    · exact ⟨value, hvalue⟩
    · exact absurd h hne
  simp [value?, hvalue]

end DataRow

namespace ConstantTable

theorem lookup?_of_readRows {table : ClassTable} {rows : List (String × String)}
    (h : readRows table.className table.rows = .ok rows) (className name : String) :
    table.dataRows.reverse.findSome? (·.value? className name) =
      if table.className = className then OrderedMap.lookup? name rows.reverse else none := by
  have hrows := mapM_eq_ok_iff.mp h
  clear h
  rw [ClassTable.dataRows]
  generalize table.rows.zipIdx = l at hrows
  induction hrows with
  | nil => simp [OrderedMap.lookup?]
  | @cons x e l es hx _ ih =>
    have hvalue : (⟨table.place, x.2, table.className, x.1⟩ : DataRow).value? className name =
        if table.className = className then OrderedMap.lookup? name [e] else none := by
      have hrow := DataRow.readRow_cases ⟨table.place, x.2, table.className, x.1⟩
      rcases hrow with ⟨-, n, v, hn, hv, hread⟩ | ⟨-, hread⟩
      · obtain rfl : (n, v) = e := Except.ok.inj (hread.symm.trans hx)
        rw [DataRow.value?, hn, hv, OrderedMap.lookup?]
        by_cases hc : table.className = className
        · by_cases hname : n = name
          · simp [hc, hname]
          · simp [hc, hname, Ne.symm hname, OrderedMap.lookup?]
        · simp [hc]
      · cases hread.symm.trans hx
    rw [List.map_cons, List.reverse_cons, List.findSome?_append, ih, List.reverse_cons,
      OrderedMap.lookup?_append, List.findSome?_singleton, hvalue]
    by_cases hc : table.className = className
    · simp only [if_pos hc]
    · simp only [if_neg hc]
      rfl

theorem value?_of_addTables {tables : List ClassTable} {t t' : ConstantTable}
    (h : addTables tables t = .ok t') (className name : String) : t'.value? className name =
      ((dataRows tables).reverse.findSome? (·.value? className name)).or
        (t.value? className name) := by
  induction tables generalizing t with
  | nil =>
    cases h
    rfl
  | cons table r ih =>
    obtain ⟨rows, hrows, h⟩ := addTables_cons_eq_ok_iff.mp h
    rw [ih h, value?_addRows, dataRows_cons, List.reverse_append, List.findSome?_append,
      lookup?_of_readRows hrows, Option.or_assoc]
    by_cases hc : table.className = className
    · simp only [if_pos hc]
    · simp only [if_neg hc, Option.none_or]

theorem contains_of_addTables {tables : List ClassTable} {t t' : ConstantTable}
    (h : addTables tables t = .ok t') (className : String) : t'.contains className = true ↔
      (∃ table ∈ tables, table.className = className) ∨ t.contains className = true := by
  induction tables generalizing t with
  | nil =>
    cases h
    simp
  | cons table r ih =>
    obtain ⟨rows, hrows, h⟩ := addTables_cons_eq_ok_iff.mp h
    rw [ih h, contains_addRows, List.exists_mem_cons_iff, or_assoc, or_left_comm]

theorem errorOf?_ofTree (page : Node) :
    errorOf? (ofTree page) = (dataRows (classTables page.bodyElements)).findSome? DataRow.error? := by
  rw [ofTree_eq_addTables, errorOf?_addTables]

section
variable {page : Node} {t : ConstantTable} (h : ofTree page = .ok t)
include h

/-- A page that is read has no row with other than three cells. -/
theorem length_rowCells_of_ofTree {r : DataRow} (hr : r.IsIn page.bodyElements) :
    (rowCells r.row).length = 3 := by
  have hnone : (dataRows (classTables page.bodyElements)).findSome? DataRow.error? = none := by
    rw [← errorOf?_ofTree, h]
    rfl
  exact DataRow.error?_eq_none_iff.mp (List.findSome?_eq_none_iff.mp hnone r (mem_dataRows.mpr hr))

theorem contains_ofTree_iff {className : String} : t.contains className = true ↔
    ∃ table : ClassTable, table.IsIn page.bodyElements ∧ table.className = className := by
  rw [ofTree_eq_addTables] at h
  rw [contains_of_addTables h]
  simp only [mem_classTables]
  exact or_iff_left Bool.false_ne_true

/-- A constant has the value in the last row about it. -/
theorem value?_ofTree_iff {className name value : String} : t.value? className name = some value ↔
    ∃ r : DataRow, r.IsIn page.bodyElements ∧ r.className = className ∧ r.cellText? 1 = some name ∧
      r.cellText? 2 = some value ∧ ∀ later : DataRow, later.IsIn page.bodyElements → r.IsBefore later →
        later.className = className → later.cellText? 1 ≠ some name := by
  have hlast : ∀ later : DataRow, later.IsIn page.bodyElements → (later.value? className name = none ↔
      (later.className = className → later.cellText? 1 ≠ some name)) := fun later hlater =>
    DataRow.value?_eq_none_iff (length_rowCells_of_ofTree h hlater)
  have hvalue := value?_of_addTables ((ofTree_eq_addTables page).symm.trans h) className name
  rw [show value? (.empty : ConstantTable) className name = none from rfl, Option.or_none] at hvalue
  rw [hvalue, findSome?_eq_some_iff (fun _ _ => DataRow.IsBefore.asymm)
    (List.pairwise_reverse.mpr (pairwise_dataRows page.bodyElements))]
  simp only [List.mem_reverse, mem_dataRows, DataRow.value?_eq_some_iff]
  constructor
  · rintro ⟨r, hr, ⟨hclass, hname, hvalue⟩, hnone⟩
    exact ⟨r, hr, hclass, hname, hvalue, fun later hlater hbefore =>
      (hlast later hlater).mp (hnone later hlater hbefore)⟩
  · rintro ⟨r, hr, hclass, hname, hvalue, hnone⟩
    exact ⟨r, hr, ⟨hclass, hname, hvalue⟩, fun later hlater hbefore =>
      (hlast later hlater).mpr (hnone later hlater hbefore)⟩

end

/-- A page of constants is read exactly: it fails at its first row that has not three cells, and otherwise
has the classes its tables name and, for each class and name, the value in the last row about it. -/
theorem ofPage_reads_rows (text : List Char) :
    let body := (Html.readPage text).bodyElements
    ((∃ e, ofPage text = .error e) ↔ ∃ r : DataRow, r.IsIn body ∧ (rowCells r.row).length ≠ 3) ∧
    (∀ e, ofPage text = .error e ↔ ∃ r : DataRow, r.IsIn body ∧ (rowCells r.row).length ≠ 3 ∧
      e = ⟨r.className, r.number + 1, (rowCells r.row).length⟩ ∧
      ∀ earlier : DataRow, earlier.IsIn body → earlier.IsBefore r → (rowCells earlier.row).length = 3) ∧
    ∀ t, ofPage text = .ok t →
      (∀ className, t.contains className = true ↔
        ∃ table : ClassTable, table.IsIn body ∧ table.className = className) ∧
      ∀ className name value, (t.get? className).bind (·.get? name) = some value ↔
        ∃ r : DataRow, r.IsIn body ∧ r.className = className ∧ r.cellText? 1 = some name ∧
          r.cellText? 2 = some value ∧ ∀ later : DataRow, later.IsIn body → r.IsBefore later →
            later.className = className → later.cellText? 1 ≠ some name := by
  intro body
  have herror : errorOf? (ofPage text) = (dataRows (classTables body)).findSome? DataRow.error? :=
    errorOf?_ofTree _
  refine ⟨?_, fun e => ?_, fun t ht => ⟨fun className => contains_ofTree_iff ht,
    fun className name value => value?_ofTree_iff ht⟩⟩
  · simp only [← errorOf?_eq_some_iff, herror, ← Option.isSome_iff_exists, List.findSome?_isSome_iff,
      mem_dataRows]
    refine exists_congr fun r => and_congr_right fun _ => ?_
    rw [← Option.ne_none_iff_isSome, Ne, DataRow.error?_eq_none_iff]
  · rw [← errorOf?_eq_some_iff, herror,
      findSome?_eq_some_iff (fun _ _ => DataRow.IsBefore.asymm) (pairwise_dataRows body)]
    simp only [mem_dataRows, DataRow.error?_eq_some_iff, DataRow.error?_eq_none_iff, and_assoc]

/-- A page with a table of a class, of two rows. -/
def constantsPage (last : String) : List Char :=
  ["<hr><table><tr>", "<td colspan=3>p.C</td></tr>", "<tr><td>int<td>A<td>1</tr>", last, "</table>",
    "<a name=navbar_bottom></a>"].flatMap String.toList

/-- The later of two values counts, and a row without a value is reported. -/
theorem constants_read_of_constantsPage :
    let page := constantsPage "<tr><td>int<td>A<td>2</tr>"
    let short := constantsPage "<tr><td>int<td>A</tr>"
    (∃ t, ofPage page = .ok t ∧ (∃ table : ClassTable, table.IsIn (Html.readPage page).bodyElements ∧
        table.className = "p.C") ∧
      ∃ r : DataRow, r.IsIn (Html.readPage page).bodyElements ∧ r.cellText? 1 = some "A" ∧
        r.cellText? 2 = some "2") ∧
    ofPage short = .error ⟨"p.C", 2, 2⟩ ∧
    ∃ r : DataRow, r.IsIn (Html.readPage short).bodyElements ∧ (rowCells r.row).length ≠ 3 := by
  intro page short
  have hread : (ofPage page).toOption.any (fun t => t.contains "p.C" &&
      (t.get? "p.C").bind (·.get? "A") == some "2") = true := by
    decide +kernel
  have hfailed : ofPage short = .error ⟨"p.C", 2, 2⟩ := by decide +kernel
  refine ⟨?_, hfailed, (ofPage_reads_rows short).1.mp ⟨_, hfailed⟩⟩
  cases ht : ofPage page with
  | error e => rw [ht] at hread; cases hread
  | ok t =>
    rw [ht, Except.toOption, Option.any_some, Bool.and_eq_true, beq_iff_eq] at hread
    obtain ⟨hclass, hvalue⟩ := hread
    obtain ⟨hclasses, hvalues⟩ := (ofPage_reads_rows page).2.2 t ht
    obtain ⟨r, hr, -, hname, hvalue, -⟩ := (hvalues "p.C" "A" "2").mp hvalue
    exact ⟨t, rfl, (hclasses "p.C").mp hclass, r, hr, hname, hvalue⟩

end ConstantTable

end ApiDoc
