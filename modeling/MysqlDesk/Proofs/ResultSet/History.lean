/-
An index fits its names, whatever was done.

`ResultSet.Indexed` keeps the names of columns and an index of them, and hands both to rows. A row that
was added under some names must still answer under these when the set has got other names, when names are
given twice, and when the row is shorter or longer than its names.

What was done to a result set is its history, a list of changes. The history alone says what the rows are
(`added`), which names are in force (`inForce`) and how many rows are counted (`counted`); none of the
three knows of an index. The invariant is that an index which is kept belongs to the names beside it
(`WellIndexed`). A change keeps it, so every history does, and look-ups by index are look-ups by name.

Result sets can be copied and both go on, so the last section is about several of them at once: each is
what its own history says (`after_map`), where the history of a copy begins with that of its original.
-/
import Mathlib.Data.List.Forall2
import Mathlib.Data.List.Induction
import Mathlib.Data.List.TakeWhile
import MysqlDesk.Proofs.Dictionary
import MysqlDesk.Proofs.ResultSet.Place
import MysqlDesk.ResultSet.Indexed

set_option autoImplicit false

namespace MysqlDesk

namespace ResultSet

/-! ## Histories -/

/-- Something that is done to a result set. -/
inductive Change where
  | setColumns (names : List String)
  | addRow (cells : List Cell)
  | append (columns : List String) (cells : List Cell)

namespace Change

/-- The names that a change sets. -/
def names? : Change → Option (List String)
  | .setColumns names => some names
  | _ => none

/-- Whether a change is a row to be added under the names in force. -/
def isRow : Change → Bool
  | .addRow _ => true
  | _ => false

/-- What a change adds when the given names are in force: the columns and the cells of a row. -/
def row? (names : Option (List String)) : Change → Option (List String × List Cell)
  | .setColumns _ => none
  | .addRow cells => names.map fun names => (names, cells)
  | .append columns cells => some (columns, cells)

end Change

/-- The names that were set last. -/
def inForce (history : List Change) : Option (List String) :=
  (history.filterMap Change.names?).getLast?

/-- The rows of a history, each with the names that were in force when it came or with its own. -/
def added (history : List Change) : List (List String × List Cell) :=
  (List.range history.length).filterMap fun k =>
    history[k]?.bind (Change.row? (inForce (history.take k)))

/-- The number of rows that came after names were first set, other than rows with names of their own. -/
def counted (history : List Change) : Nat :=
  (history.dropWhile fun c => c.names?.isNone).countP Change.isRow

section

variable (history : List Change) (c : Change)

theorem inForce_concat : inForce (history ++ [c]) = c.names?.or (inForce history) := by
  rw [inForce, List.filterMap_append, List.getLast?_append]
  cases c <;> rfl

theorem added_concat :
    added (history ++ [c]) = added history ++ (c.row? (inForce history)).toList := by
  have hfront : (List.range history.length).filterMap (fun k =>
      (history ++ [c])[k]?.bind (Change.row? (inForce ((history ++ [c]).take k))))
        = added history := by
    refine List.filterMap_congr fun k hk => ?_
    have hlt : k < history.length := List.mem_range.1 hk
    rw [List.getElem?_append_left hlt, List.take_append_of_le_length (Nat.le_of_lt hlt)]
  have hlast : (history ++ [c])[history.length]?.bind
      (Change.row? (inForce ((history ++ [c]).take history.length)))
        = c.row? (inForce history) := by
    rw [List.getElem?_concat_length, List.take_left']
    · rfl
    · rfl
  rw [added, List.length_append, List.length_singleton, List.range_succ, List.filterMap_append,
    hfront, List.filterMap_cons, hlast]
  cases c.row? (inForce history) <;> rfl

theorem inForce_eq_none_iff : inForce history = none ↔ ∀ c ∈ history, c.names? = none := by
  rw [inForce, List.getLast?_eq_none_iff, List.filterMap_eq_nil_iff]

/-- A row counts as soon as there are names. -/
theorem counted_concat :
    counted (history ++ [c])
      = counted history + if c.isRow = true ∧ inForce history ≠ none then 1 else 0 := by
  by_cases hnone : inForce history = none
  · have hall : ∀ c ∈ history, c.names?.isNone = true := fun c hc =>
      Option.isNone_iff_eq_none.2 ((inForce_eq_none_iff history).1 hnone c hc)
    have hskip (rest : List Change) : counted (history ++ rest) = counted rest := by
      rw [counted, List.dropWhile_append_of_pos hall, counted]
    have hhistory : counted history = 0 := by
      have h := hskip []
      rwa [List.append_nil] at h
    rw [hskip, hhistory, if_neg fun h => h.2 hnone]
    cases c <;> rfl
  · have hkept : (history.dropWhile fun c => c.names?.isNone) ≠ [] := fun hnil => by
      rw [List.dropWhile_eq_nil_iff] at hnil
      exact hnone ((inForce_eq_none_iff history).2 fun c hc => Option.isNone_iff_eq_none.1 (hnil c hc))
    rw [counted, List.dropWhile_append, if_neg (mt List.isEmpty_iff.1 hkept), List.countP_append,
      List.countP_singleton, counted]
    simp only [hnone, ne_eq, not_false_eq_true, and_true]

/-- Without rows that have names of their own, what is added is what is counted. -/
theorem length_added_eq_counted (h : ∀ c ∈ history, ∀ columns cells, c ≠ .append columns cells) :
    (added history).length = counted history := by
  induction history using List.reverseRecOn with
  | nil => rfl
  | append_singleton history c ih =>
    obtain ⟨hhistory, hc⟩ := List.forall_mem_append.1 h
    rw [added_concat, counted_concat, List.length_append, ih hhistory]
    cases c with
    | setColumns names => rfl
    | addRow cells => cases inForce history <;> rfl
    | append columns cells => exact absurd rfl (hc _ (List.mem_singleton.2 rfl) columns cells)

end

end ResultSet

/-! ## The result set of a history -/

open ResultSet (Change inForce added counted)

/-- The result set after a change. -/
def IndexedSet.apply (rs : IndexedSet) : Change → IndexedSet
  | .setColumns names => rs.setColumns names
  | .addRow cells => rs.addRow cells
  | .append columns cells => rs.append (.ofCells columns cells)

/-- The result set without indexes after a change. -/
def ResultSet.apply (rs : ResultSet) : Change → ResultSet
  | .setColumns names => rs.setColumns names
  | .addRow cells => rs.addRow cells
  | .append columns cells => rs.append ⟨columns, cells⟩

/-- The result set that a history leaves. -/
def IndexedSet.ofHistory (history : List Change) : IndexedSet :=
  history.foldl IndexedSet.apply .empty

section

variable {rs : IndexedSet}

theorem IndexedSet.addRow_of_none (h : rs.columns = none) (cells : List Cell) :
    rs.addRow cells = rs := by
  rw [addRow, h]

theorem IndexedSet.addRow_of_some {names : List String} (h : rs.columns = some names)
    (cells : List Cell) :
    rs.addRow cells
      = { rs with rows := rs.rows ++ [⟨names, cells, rs.index⟩], affected := rs.affected + 1 } := by
  simp only [addRow, h]

end

/-- Every index belongs to the names beside it. -/
structure IndexedSet.WellIndexed (rs : IndexedSet) : Prop where
  rows : ∀ row ∈ rs.rows, row.index = indexColumns row.columns
  shared : ∀ names, rs.columns = some names → rs.index = indexColumns names

namespace IndexedSet

/-- A change keeps the indexes fitting. A row that is added takes the index of the set, which belongs to
the names that it takes; the rows that are there are not touched. -/
theorem WellIndexed.apply {rs : IndexedSet} (h : rs.WellIndexed) (c : Change) :
    (rs.apply c).WellIndexed := by
  cases c with
  | setColumns names =>
    refine ⟨h.rows, fun other hother => ?_⟩
    exact congrArg indexColumns (Option.some.inj hother)
  | addRow cells =>
    rw [IndexedSet.apply]
    cases hcolumns : rs.columns with
    | none => rwa [addRow_of_none hcolumns]
    | some names =>
      rw [addRow_of_some hcolumns]
      refine ⟨fun row hrow => ?_, h.shared⟩
      rcases List.mem_append.1 hrow with hold | hnew
      · exact h.rows row hold
      · obtain rfl := List.mem_singleton.1 hnew
        exact h.shared names hcolumns
  | append columns cells =>
    refine ⟨fun row hrow => ?_, h.shared⟩
    rcases List.mem_append.1 hrow with hold | hnew
    · exact h.rows row hold
    · obtain rfl := List.mem_singleton.1 hnew
      rfl

/-- A result set is what a history says, in all that can be seen of it. -/
structure Follows (history : List Change) (rs : IndexedSet) : Prop where
  columns : rs.columns = inForce history
  rows : rs.rows.map (fun row => (row.columns, row.cells)) = added history
  affected : rs.affected = counted history

theorem Follows.apply {history : List Change} {rs : IndexedSet} (h : Follows history rs)
    (c : Change) : Follows (history ++ [c]) (rs.apply c) := by
  have hcolumns := ResultSet.inForce_concat history c
  have hrows := ResultSet.added_concat history c
  have haffected := ResultSet.counted_concat history c
  rw [← h.columns] at hcolumns hrows haffected
  rw [← h.rows] at hrows
  rw [← h.affected] at haffected
  cases c with
  | setColumns names => exact ⟨hcolumns.symm, ((List.append_nil _).symm.trans hrows.symm), haffected.symm⟩
  | addRow cells =>
    rw [IndexedSet.apply]
    cases hnames : rs.columns with
    | none =>
      rw [hnames] at hcolumns hrows haffected
      rw [addRow_of_none hnames]
      exact ⟨hnames.trans hcolumns.symm, (List.append_nil _).symm.trans hrows.symm, haffected.symm⟩
    | some names =>
      rw [hnames] at hcolumns hrows haffected
      rw [addRow_of_some hnames]
      exact ⟨hnames.trans hcolumns.symm, List.map_append.trans hrows.symm, haffected.symm⟩
  | append columns cells =>
    exact ⟨hcolumns.symm, List.map_append.trans hrows.symm, haffected.symm⟩

theorem ofHistory_concat (history : List Change) (c : Change) :
    ofHistory (history ++ [c]) = (ofHistory history).apply c := by
  rw [ofHistory, List.foldl_append]
  rfl

variable (history : List Change)

/-- **A history leaves what it says**, and every index in it belongs to the names beside it. -/
theorem ofHistory_spec : Follows history (ofHistory history) ∧ (ofHistory history).WellIndexed := by
  induction history using List.reverseRecOn with
  | nil => exact ⟨⟨rfl, rfl, rfl⟩, fun row hrow => absurd hrow List.not_mem_nil, fun names h => by cases h⟩
  | append_singleton history c ih =>
    rw [ofHistory_concat]
    exact ⟨ih.1.apply c, ih.2.apply c⟩

/-! ### The same without indexes -/

theorem plain_apply (rs : IndexedSet) (c : Change) : (rs.apply c).plain = rs.plain.apply c := by
  obtain ⟨rows, affected, columns, index⟩ := rs
  cases c with
  | setColumns names => rfl
  | addRow cells =>
    cases columns with
    | none => rfl
    | some names => exact congrArg (ResultSet.mk _ · _) List.map_append
  | append columns cells => exact congrArg (ResultSet.mk _ · _) List.map_append

theorem plain_ofHistory :
    (ofHistory history).plain = history.foldl ResultSet.apply ResultSet.empty := by
  induction history using List.reverseRecOn with
  | nil => rfl
  | append_singleton history c ih =>
    rw [ofHistory_concat, plain_apply, ih, List.foldl_append]
    rfl

end IndexedSet

/-- An index finds what the walk through the names finds. -/
theorem lastValue?_zipIdx (name : String) (names : List String) (start : Nat) :
    Dictionary.lastValue? name (names.zipIdx start) = Row.lastPlace? name start names := by
  induction names generalizing start with
  | nil => rfl
  | cons column rest ih =>
    rw [List.zipIdx_cons, Dictionary.lastValue?, Row.lastPlace?, ih]
    simp only [eq_comm (a := name)]
    cases Row.lastPlace? name (start + 1) rest <;> rfl

theorem get?_indexColumns (name : String) (names : List String) :
    (indexColumns names).get? name = Row.lastPlace? name 0 names := by
  rw [indexColumns, Dictionary.get?_ofPairs, lastValue?_zipIdx]

section

variable {row : IndexedRow}

theorem IndexedRow.place?_eq (h : row.index = indexColumns row.columns) (name : String) :
    row.place? name = row.plain.place? name := by
  rw [place?, h, get?_indexColumns]
  rfl

theorem IndexedRow.get?_eq (h : row.index = indexColumns row.columns) (name : String) :
    row.get? name = row.plain.get? name := by
  rw [get?, place?_eq h]
  rfl

end

/-! ## Several result sets -/

/-- Something that is done where there are several result sets, which are told apart by their places. A new
one and a copy take the place behind all others. -/
inductive ResultSet.Step where
  | fresh
  | change (which : Nat) (c : Change)
  | copy (which : Nat)

open ResultSet (Step)

section

variable {α β : Type}

/-- What a step makes of several things that change as result sets do. -/
def ResultSet.Step.on (fresh : α) (apply : α → Change → α) (all : List α) : Step → List α
  | .fresh => all ++ [fresh]
  | .change which c => all.modify which fun a => apply a c
  | .copy which => all ++ all[which]?.toList

/-- What steps make of nothing. -/
def ResultSet.after (fresh : α) (apply : α → Change → α) (steps : List Step) : List α :=
  steps.foldl (Step.on fresh apply) []

end

/-- The history of each of the result sets. The history of a copy begins with that of its original. -/
def ResultSet.histories : List Step → List (List Change) :=
  ResultSet.after [] fun history c => history ++ [c]

/-- The result sets that the steps leave. -/
def IndexedSet.afterSteps : List Step → List IndexedSet :=
  ResultSet.after .empty IndexedSet.apply

section

variable {α β : Type} {fresh : α} {apply : α → Change → α}

theorem ResultSet.after_concat (steps : List Step) (step : Step) :
    after fresh apply (steps ++ [step]) = step.on fresh apply (after fresh apply steps) := by
  rw [after, List.foldl_append]
  rfl

/-- Where one kind of things is a view of another, it stays so. -/
theorem ResultSet.map_after {fresh' : β} {apply' : β → Change → β} (view : α → β)
    (hfresh : view fresh = fresh') (happly : ∀ a c, view (apply a c) = apply' (view a) c)
    (steps : List Step) : (after fresh apply steps).map view = after fresh' apply' steps := by
  induction steps using List.reverseRecOn with
  | nil => rfl
  | append_singleton steps step ih =>
    rw [after_concat, after_concat, ← ih]
    cases step with
    | fresh => rw [Step.on, Step.on, List.map_append, List.map_singleton, hfresh]
    | change which c =>
      refine List.ext_getElem? fun place => ?_
      rw [Step.on, Step.on, List.getElem?_map, List.getElem?_modify, List.getElem?_modify,
        List.getElem?_map]
      cases (after fresh apply steps)[place]? with
      | none => rfl
      | some a =>
        by_cases hplace : which = place
        · simp [hplace, happly]
        · simp [hplace]
    | copy which =>
      rw [Step.on, Step.on, List.map_append, List.getElem?_map]
      cases (after fresh apply steps)[which]? <;> rfl

/-- A thing at a place is followed by what has been made of it. -/
theorem ResultSet.exists_getElem?_after (stays : α → α → Prop) (hrefl : ∀ a, stays a a)
    (htrans : ∀ a b c, stays a b → stays b c → stays a c) (happly : ∀ a c, stays a (apply a c))
    (steps more : List Step) {which : Nat} {a : α} (h : (after fresh apply steps)[which]? = some a) :
    ∃ b, (after fresh apply (steps ++ more))[which]? = some b ∧ stays a b := by
  induction more using List.reverseRecOn with
  | nil => exact ⟨a, by rwa [List.append_nil], hrefl a⟩
  | append_singleton more step ih =>
    obtain ⟨b, hb, hstays⟩ := ih
    rw [← List.append_assoc, after_concat]
    have hlt := (List.getElem?_eq_some_iff.1 hb).1
    cases step with
    | fresh => exact ⟨b, (List.getElem?_append_left hlt).trans hb, hstays⟩
    | copy other => exact ⟨b, (List.getElem?_append_left hlt).trans hb, hstays⟩
    | change other c =>
      rw [Step.on, List.getElem?_modify, hb]
      by_cases hother : other = which
      · exact ⟨apply b c, by simp [hother], htrans a b _ hstays (happly b c)⟩
      · exact ⟨b, by simp [hother], hstays⟩

end

/-- Each result set is the one of its history. -/
theorem IndexedSet.afterSteps_eq (steps : List Step) :
    afterSteps steps = (ResultSet.histories steps).map ofHistory := by
  have hview : (ResultSet.histories steps).map ofHistory = afterSteps steps :=
    ResultSet.map_after ofHistory rfl ofHistory_concat steps
  exact hview.symm

/-- A change leaves the rows that are there as they are. -/
theorem IndexedSet.rows_prefix_apply (rs : IndexedSet) (c : Change) :
    rs.rows <+: (rs.apply c).rows := by
  cases c with
  | setColumns names => exact List.prefix_refl _
  | addRow cells =>
    cases hnames : rs.columns with
    | none =>
      have hsame : (rs.addRow cells).rows = rs.rows :=
        congrArg IndexedSet.rows (addRow_of_none hnames cells)
      exact ⟨[], (List.append_nil _).trans hsame.symm⟩
    | some names =>
      rw [IndexedSet.apply, addRow_of_some hnames]
      exact List.prefix_append _ _
  | append columns cells => exact List.prefix_append _ _

/-! ## What can be seen -/

/-- What is promised of a result set with the given history. -/
structure IndexedSet.Represents (history : List Change) (rs : IndexedSet) : Prop where
  /-- The rows are those of the history, with the names that they came with. -/
  rows : rs.rows.map (fun row => (row.columns, row.cells)) = added history
  /-- The place of a name is the last one at which the row's own names have it. -/
  place : ∀ row ∈ rs.rows, ∀ name place,
    row.place? name = some place ↔ LastAt name row.columns place
  /-- A name has no place if the row's own names do not have it. -/
  noPlace : ∀ row ∈ rs.rows, ∀ name, row.place? name = none ↔ name ∉ row.columns
  /-- The cell of a name is the one at its place; a row that is too short has none. -/
  cell : ∀ row ∈ rs.rows, ∀ name place, LastAt name row.columns place →
    row.get? name = row.cells[place]?
  /-- A name without a place has no cell. -/
  noCell : ∀ row ∈ rs.rows, ∀ name, name ∉ row.columns → row.get? name = none
  /-- The names for rows to come are those that were set last. -/
  columns : rs.columns = inForce history
  /-- As long as no names were set, adding a row changes nothing. -/
  ignored : inForce history = none → ∀ cells, rs.addRow cells = rs
  /-- Added rows are counted from the first names on. -/
  affected : rs.affected = counted history
  /-- All rows are counted, unless there are rows with names of their own. -/
  allCounted : (∀ c ∈ history, ∀ columns cells, c ≠ .append columns cells) →
    rs.affected = rs.rows.length
  /-- Without its indexes the result set is the plain one of the history, with the same look-ups. -/
  plain : rs.plain = history.foldl ResultSet.apply .empty
    ∧ ∀ row ∈ rs.rows, ∀ name, row.get? name = row.plain.get? name

theorem IndexedSet.represents_ofHistory (history : List Change) :
    Represents history (ofHistory history) := by
  obtain ⟨hfollows, hindexed⟩ := ofHistory_spec history
  have hplace (row : IndexedRow) (hrow : row ∈ (ofHistory history).rows) (name : String) :
      row.place? name = row.plain.place? name :=
    IndexedRow.place?_eq (hindexed.rows row hrow) name
  have hget (row : IndexedRow) (hrow : row ∈ (ofHistory history).rows) (name : String) :
      row.get? name = row.plain.get? name :=
    IndexedRow.get?_eq (hindexed.rows row hrow) name
  refine ⟨hfollows.rows, ?_, ?_, ?_, ?_, hfollows.columns, ?_, hfollows.affected, ?_,
    plain_ofHistory history, hget⟩
  · intro row hrow name place
    rw [hplace row hrow]
    exact Row.place?_eq_some_iff
  · intro row hrow name
    rw [hplace row hrow]
    exact Row.place?_eq_none_iff
  · intro row hrow name place hlast
    rw [hget row hrow, Row.get?, Row.place?_eq_some_iff.2 hlast]
    rfl
  · intro row hrow name hname
    rw [hget row hrow, Row.get?, Row.place?_eq_none_iff.2 hname]
    rfl
  · exact fun hnone cells => addRow_of_none (hfollows.columns.trans hnone) cells
  · intro hown
    rw [hfollows.affected, ← ResultSet.length_added_eq_counted history hown, ← hfollows.rows,
      List.length_map]

/-- **An index fits its names.** Whatever is done with result sets, copies of them included, each of them is
what its history says; in particular, every row answers under the names that it came with. And whatever is
done then, the rows that are there stay. -/
theorem indexes_fit_names (steps more : List Step) :
    List.Forall₂ IndexedSet.Represents (ResultSet.histories steps) (IndexedSet.afterSteps steps)
      ∧ ∀ (which : Nat) (rs : IndexedSet), (IndexedSet.afterSteps steps)[which]? = some rs →
        ∃ later, (IndexedSet.afterSteps (steps ++ more))[which]? = some later
          ∧ rs.rows <+: later.rows := by
  constructor
  · rw [IndexedSet.afterSteps_eq, List.forall₂_map_right_iff, List.forall₂_same]
    exact fun history _ => IndexedSet.represents_ofHistory history
  · intro which rs hrs
    exact ResultSet.exists_getElem?_after (fun a b => a.rows <+: b.rows)
      (fun a => List.prefix_refl _) (fun a b c => List.IsPrefix.trans)
      IndexedSet.rows_prefix_apply steps more hrs

/-- A row that came under a name used twice, and that is too short to have the second of its columns. The
row is copied, and then its original gets other names and another row. -/
theorem indexes_fit_names_copied :
    let steps : List Step := [.fresh, .change 0 (.addRow [.int 0]),
      .change 0 (.setColumns ["id", "name", "id"]), .change 0 (.addRow [.int 1, .text "a"]), .copy 0]
    let more : List Step := [.change 0 (.setColumns ["name"]), .change 0 (.addRow [.text "b"]),
      .change 1 (.append ["x"] [])]
    ∃ rs later row, (IndexedSet.afterSteps steps)[0]? = some rs
      ∧ (IndexedSet.afterSteps (steps ++ more))[0]? = some later
      ∧ rs.rows <+: later.rows ∧ rs.rows = [row] ∧ later.affected = 2
      ∧ row.place? "id" = some 2 ∧ row.get? "id" = none ∧ row.get? "name" = some (.text "a") := by
  intro steps more
  have hrs : (IndexedSet.afterSteps steps)[0]? = some (IndexedSet.ofHistory
      [.addRow [.int 0], .setColumns ["id", "name", "id"], .addRow [.int 1, .text "a"]]) := rfl
  obtain ⟨later, hlater, hprefix⟩ := (indexes_fit_names steps more).2 0 _ hrs
  have haffected : later.affected = 2 := by
    obtain rfl := Option.some.inj hlater
    rfl
  exact ⟨_, later, _, hrs, hlater, hprefix, rfl, haffected, rfl, rfl, rfl⟩

end MysqlDesk
