import IntentPolicy.Store.Database
import Mathlib.Data.List.Nodup

namespace IntentPolicy

/-!
# Entries laid out in rows

The rows of a table are the entries of a list, laid out one by one.  The order does not matter:
a new row goes behind the others, one that is saved again stays in its place, and whatever is
read from the table is found by a key or sorted.
-/

/-- The rows are the entries laid out, in some order. -/
def LaidOut {Entry Row : Type} (layout : Entry → Row) (entries : List Entry) (rows : List Row) :
    Prop :=
  rows.Perm (entries.map layout)

/-- No two entries are picked. -/
def PicksOne {Entry : Type} (picks : Entry → Bool) (entries : List Entry) : Prop :=
  entries.Pairwise fun left right => ¬ (picks left = true ∧ picks right = true)

section Lists

variable {Entry Row Key Value Fault : Type} {layout : Entry → Row} {entries others : List Entry}
  {rows : List Row} {picks : Entry → Bool} {picksRow : Row → Bool} {entry held : Entry}

/-- A key picks at most one of several entries with distinct keys. -/
theorem picksOne_of_nodup
    [DecidableEq Key]
    {key : Entry → Key}
    (distinct : (entries.map key).Nodup)
    (wanted : Key) :
    PicksOne (key · == wanted) entries := by
  refine (List.pairwise_map.mp distinct).imp ?_
  rintro left right apart ⟨isLeft, isRight⟩
  exact apart ((beq_iff_eq.mp isLeft).trans (beq_iff_eq.mp isRight).symm)

theorem PicksOne.perm
    (one : PicksOne picks entries)
    (same : entries.Perm others) :
    PicksOne picks others := by
  refine (same.pairwise_iff ?_).mp one
  exact fun {left right} notBoth both => notBoth both.symm

/-- What is picked does not depend on the order. -/
theorem find?_eq_of_perm
    (same : entries.Perm others)
    (one : PicksOne picks entries) :
    entries.find? picks = others.find? picks := by
  induction same with
  | nil => rfl
  | cons entry _ inductionHypothesis =>
      rw [List.find?_cons, List.find?_cons, inductionHypothesis (List.pairwise_cons.mp one).2]
  | swap left right rest =>
      obtain ⟨notBoth, -⟩ := List.pairwise_cons.mp one
      have apart := notBoth left List.mem_cons_self
      rw [List.find?_cons, List.find?_cons, List.find?_cons, List.find?_cons]
      cases isRight : picks right with
      | false => rfl
      | true =>
          have notLeft : picks left = false := by simpa [isRight] using apart
          rw [notLeft]
  | trans first _ firstHypothesis secondHypothesis =>
      exact (firstHypothesis one).trans (secondHypothesis (one.perm first))

/-- An entry is found by its key, if the keys are distinct. -/
theorem find?_key_of_mem
    [DecidableEq Key]
    {key : Entry → Key}
    (distinct : (entries.map key).Nodup)
    (member : entry ∈ entries) :
    entries.find? (key · == key entry) = some entry := by
  have isFound : (entries.find? (key · == key entry)).isSome = true :=
    List.find?_isSome.mpr ⟨entry, member, beq_self_eq_true (key entry)⟩
  obtain ⟨other, found⟩ := Option.isSome_iff_exists.mp isFound
  have isPicked := List.find?_some found
  have sameKey : key other = key entry := beq_iff_eq.mp isPicked
  rw [found, List.inj_on_of_nodup_map distinct (List.mem_of_find?_eq_some found) member sameKey]

/-- The entry that is picked, and the others. -/
theorem perm_cons_of_find?
    (found : entries.find? picks = some held)
    (one : PicksOne picks entries) :
    entries.Perm (held :: entries.filter fun entry => !picks entry) := by
  induction entries with
  | nil => cases found
  | cons entry rest inductionHypothesis =>
      obtain ⟨notBoth, oneBehind⟩ := List.pairwise_cons.mp one
      rw [List.find?_cons] at found
      cases isPicked : picks entry with
      | true =>
          rw [isPicked] at found
          obtain rfl := Option.some.inj found
          have allKept : rest.filter (fun entry => !picks entry) = rest := by
            rw [List.filter_eq_self]
            intro other member
            have notOther := notBoth other member
            simpa [isPicked] using notOther
          rw [List.filter_cons_of_neg (by simp [isPicked]), allKept]
      | false =>
          rw [isPicked] at found
          rw [List.filter_cons_of_pos (by simp [isPicked])]
          exact ((inductionHypothesis found oneBehind).cons entry).trans (.swap held entry _)

/-- Keys stay distinct when an entry takes the place of the one with its key. -/
theorem nodup_save
    [DecidableEq Key]
    {key : Entry → Key}
    {wanted : Key}
    (distinct : (entries.map key).Nodup)
    (named : key entry = wanted) :
    (((entries.filter (key · != wanted)) ++ [entry]).map key).Nodup := by
  rw [List.map_append, List.map_singleton, ← List.concat_eq_append, List.nodup_concat]
  refine ⟨?_, distinct.sublist (List.filter_sublist.map key)⟩
  intro member
  obtain ⟨other, kept, sameKey⟩ := List.mem_map.mp member
  exact bne_iff_ne.mp (List.mem_filter.mp kept).2 (sameKey.trans named)

/-- Entries that can be read back are read back one by one. -/
theorem mapM_layout
    {read : Row → Except Fault Value}
    {readBack : Entry → Value}
    (readable : ∀ entry ∈ entries, read (layout entry) = .ok (readBack entry)) :
    (entries.map layout).mapM read = .ok (entries.map readBack) := by
  induction entries with
  | nil => rfl
  | cons entry rest inductionHypothesis =>
      obtain ⟨readHere, readBehind⟩ := List.forall_mem_cons.mp readable
      rw [List.map_cons, List.mapM_cons, readHere, inductionHypothesis readBehind]
      rfl

/-- One row that cannot be read fails the whole reading. -/
theorem mapM_of_error
    {read : Row → Except Fault Value}
    {row : Row}
    {fault : Fault}
    (member : row ∈ rows)
    (unreadable : read row = .error fault) :
    ∃ first, rows.mapM read = .error first := by
  induction rows with
  | nil => cases member
  | cons other rest inductionHypothesis =>
      rw [List.mapM_cons]
      cases here : read other with
      | error first => exact ⟨first, rfl⟩
      | ok value =>
          rcases List.mem_cons.mp member with rfl | inRest
          · rw [here] at unreadable
            cases unreadable
          · obtain ⟨first, behind⟩ := inductionHypothesis inRest
            rw [behind]
            exact ⟨first, rfl⟩

end Lists

/-- A new row goes among the others. -/
theorem Table.rows_insert_perm
    {Row : Type}
    (table : Table Row)
    (row : Row) :
    (table.insert row).rows.Perm (row :: table.rows) := by
  rw [insert, place, rows, rows, ← List.map_cons (f := NumberedRow.row) (a := ⟨_, row⟩)]
  refine (List.perm_middle.trans ?_).map _
  rw [List.takeWhile_append_dropWhile]

namespace LaidOut

variable {Entry Row Key : Type} {layout : Entry → Row} {entries : List Entry} {rows : List Row}
  {picks : Entry → Bool} {picksRow : Row → Bool} {entry : Entry}

theorem mem
    (laidOut : LaidOut layout entries rows)
    (member : entry ∈ entries) :
    layout entry ∈ rows :=
  laidOut.mem_iff.mpr (List.mem_map_of_mem member)

/-- The rows are the entries in an order of their own. -/
theorem exists_ordered
    (laidOut : LaidOut layout entries rows) :
    ∃ ordered : List Entry, ordered.Perm entries ∧ rows = ordered.map layout := by
  induction rows generalizing entries with
  | nil =>
      have noEntries := List.map_eq_nil_iff.mp (List.nil_perm.mp laidOut)
      exact ⟨[], by rw [noEntries], rfl⟩
  | cons row rest inductionHypothesis =>
      obtain ⟨entry, member, rfl⟩ := List.mem_map.mp (laidOut.mem_iff.mp List.mem_cons_self)
      obtain ⟨front, behind, rfl⟩ := List.append_of_mem member
      have restLaidOut : LaidOut layout (front ++ behind) rest := by
        refine List.Perm.cons_inv (List.Perm.trans laidOut ?_) (a := layout entry)
        rw [← List.map_cons]
        exact List.perm_middle.map layout
      obtain ⟨ordered, same, rfl⟩ := inductionHypothesis restLaidOut
      exact ⟨entry :: ordered, (same.cons entry).trans List.perm_middle.symm, rfl⟩

theorem filter
    (laidOut : LaidOut layout entries rows)
    (alike : ∀ entry, picksRow (layout entry) = picks entry) :
    LaidOut layout (entries.filter picks) (rows.filter picksRow) := by
  have samePicks : picksRow ∘ layout = picks := funext alike
  have filtered := List.Perm.filter picksRow laidOut
  rwa [List.filter_map, samePicks] at filtered

theorem any_eq
    (laidOut : LaidOut layout entries rows)
    (alike : ∀ entry, picksRow (layout entry) = picks entry) :
    rows.any picksRow = entries.any picks := by
  have samePicks : picksRow ∘ layout = picks := funext alike
  rw [List.Perm.any_eq laidOut, List.any_map, samePicks]

theorem find?_eq
    (laidOut : LaidOut layout entries rows)
    (alike : ∀ entry, picksRow (layout entry) = picks entry)
    (one : PicksOne picks entries) :
    rows.find? picksRow = (entries.find? picks).map layout := by
  have samePicks : picksRow ∘ layout = picks := funext alike
  have oneRow : PicksOne picksRow (entries.map layout) := by
    rw [PicksOne, List.pairwise_map]
    simp only [alike]
    exact one
  rw [find?_eq_of_perm laidOut (oneRow.perm (List.Perm.symm laidOut)), List.find?_map, samePicks]

/-- A new entry is laid out in a new row. -/
theorem insert
    {table : Table Row}
    (laidOut : LaidOut layout entries table.rows) :
    LaidOut layout (entries ++ [entry]) (table.insert (layout entry)).rows := by
  rw [LaidOut, List.map_append, List.map_singleton]
  calc
    List.Perm (table.insert (layout entry)).rows (layout entry :: table.rows) :=
      table.rows_insert_perm _
    List.Perm _ (layout entry :: entries.map layout) := laidOut.cons _
    List.Perm _ (entries.map layout ++ [layout entry]) :=
      (List.perm_append_singleton _ _).symm

/-- An entry that takes the place of another is laid out in its row. -/
theorem replace
    {held : Entry}
    {change : Row → Row}
    (laidOut : LaidOut layout entries rows)
    (alike : ∀ entry, picksRow (layout entry) = picks entry)
    (one : PicksOne picks entries)
    (found : entries.find? picks = some held)
    (changed : change (layout held) = layout entry) :
    LaidOut layout ((entries.filter fun other => !picks other) ++ [entry])
      (rows.map fun row => if picksRow row then change row else row) := by
  have others : ((entries.filter fun other => !picks other).map layout).map
      (fun row => if picksRow row then change row else row) =
        (entries.filter fun other => !picks other).map layout := by
    rw [List.map_map]
    refine List.map_congr_left fun other member => ?_
    have notPicked := (List.mem_filter.mp member).2
    rw [Function.comp_apply, alike, if_neg (by simpa using notPicked)]
  have isPicked : picksRow (layout held) = true := by
    rw [alike]
    exact List.find?_some found
  have reordered := List.Perm.trans laidOut ((perm_cons_of_find? found one).map layout)
  have changedRows := reordered.map fun row => if picksRow row then change row else row
  rw [List.map_cons, List.map_cons, others, if_pos isPicked, changed] at changedRows
  rw [LaidOut, List.map_append, List.map_singleton]
  exact changedRows.trans (List.perm_append_singleton _ _).symm

/-- Saving an entry changes the row of the one that it replaces, or makes a new row. -/
theorem save
    {table : Table Row}
    (laidOut : LaidOut layout entries table.rows)
    (alike : ∀ entry, picksRow (layout entry) = picks entry)
    (one : PicksOne picks entries)
    (change : Row → Row)
    (merged : Option Entry → Entry)
    (changed : ∀ held, entries.find? picks = some held →
      change (layout held) = layout (merged (some held))) :
    LaidOut layout
      ((entries.filter fun other => !picks other) ++ [merged (entries.find? picks)])
      (if table.rows.any picksRow then
          table.map fun row => if picksRow row then change row else row
        else table.insert (layout (merged none))).rows := by
  rw [laidOut.any_eq alike]
  cases found : entries.find? picks with
  | none =>
      have notPicked := List.find?_eq_none.mp found
      have noneGoes : entries.filter (fun other => !picks other) = entries := by
        rw [List.filter_eq_self]
        intro other member
        simpa using notPicked other member
      rw [List.any_eq_false.mpr notPicked, if_neg Bool.false_ne_true, noneGoes]
      exact laidOut.insert
  | some held =>
      have isThere : entries.any picks = true :=
        List.any_eq_true.mpr ⟨held, List.mem_of_find?_eq_some found, List.find?_some found⟩
      rw [isThere, if_pos rfl, Table.rows_map]
      exact laidOut.replace alike one found (changed held found)

/-- Sorted rows are sorted entries laid out, if the rows of older entries come first. -/
theorem mergeSort_eq
    {rowLe : Row → Row → Bool}
    {entryLe : Entry → Entry → Bool}
    (laidOut : LaidOut layout entries rows)
    (rowTrans : ∀ left middle right, rowLe left middle = true → rowLe middle right = true →
      rowLe left right = true)
    (rowTotal : ∀ left right, (rowLe left right || rowLe right left) = true)
    (entryTrans : ∀ left middle right, entryLe left middle = true → entryLe middle right = true →
      entryLe left right = true)
    (entryTotal : ∀ left right, (entryLe left right || entryLe right left) = true)
    (ordered : ∀ left ∈ entries, ∀ right ∈ entries, entryLe left right = true →
      rowLe (layout left) (layout right) = true)
    (strict : ∀ left ∈ entries, ∀ right ∈ entries, rowLe (layout left) (layout right) = true →
      rowLe (layout right) (layout left) = true → left = right) :
    rows.mergeSort rowLe = (entries.mergeSort entryLe).map layout := by
  have sortedEntries := List.mergeSort_perm entries entryLe
  have sameRows : (rows.mergeSort rowLe).Perm ((entries.mergeSort entryLe).map layout) :=
    ((List.mergeSort_perm rows rowLe).trans laidOut).trans (sortedEntries.map layout).symm
  have isEntry {row : Row} (member : row ∈ (entries.mergeSort entryLe).map layout) :
      ∃ entry ∈ entries, layout entry = row := by
    obtain ⟨entry, inSorted, laid⟩ := List.mem_map.mp member
    exact ⟨entry, sortedEntries.mem_iff.mp inSorted, laid⟩
  refine List.Perm.eq_of_pairwise ?_ (List.pairwise_mergeSort rowTrans rowTotal rows) ?_ sameRows
  · intro left right leftMember rightMember leftFirst rightFirst
    obtain ⟨leftEntry, leftStored, rfl⟩ := isEntry (sameRows.mem_iff.mp leftMember)
    obtain ⟨rightEntry, rightStored, rfl⟩ := isEntry rightMember
    rw [strict leftEntry leftStored rightEntry rightStored leftFirst rightFirst]
  · rw [List.pairwise_map]
    refine (List.pairwise_mergeSort entryTrans entryTotal entries).imp_of_mem ?_
    intro left right leftMember rightMember older
    exact ordered left (sortedEntries.mem_iff.mp leftMember) right
      (sortedEntries.mem_iff.mp rightMember) older

end LaidOut

/-- A table with one row for each of several entries, which have distinct keys. -/
structure Tabulates {Entry Row Key : Type} (layout : Entry → Row) (key : Entry → Key)
    (storable : Entry → Prop) (entries : List Entry) (rows : List Row) : Prop where
  laidOut : LaidOut layout entries rows
  distinct : (entries.map key).Nodup
  storable : ∀ entry ∈ entries, storable entry

namespace Tabulates

variable {Entry Row Key : Type} {layout : Entry → Row} {key : Entry → Key}
  {storable : Entry → Prop} {entries : List Entry} {rows : List Row}

theorem nil : Tabulates layout key storable [] [] :=
  ⟨.refl _, .nil, nofun⟩

theorem filter
    {picks : Entry → Bool}
    (tabulates : Tabulates layout key storable entries rows)
    (picksRow : Row → Bool)
    (alike : ∀ entry, picksRow (layout entry) = picks entry) :
    Tabulates layout key storable (entries.filter picks) (rows.filter picksRow) where
  laidOut := tabulates.laidOut.filter alike
  distinct := tabulates.distinct.sublist (List.filter_sublist.map key)
  storable entry member := tabulates.storable entry (List.mem_filter.mp member).1

variable [DecidableEq Key] {wanted : Key}

theorem find?_eq
    {picksRow : Row → Bool}
    (tabulates : Tabulates layout key storable entries rows)
    (alike : ∀ entry, picksRow (layout entry) = (key entry == wanted)) :
    rows.find? picksRow = (entries.find? (key · == wanted)).map layout :=
  tabulates.laidOut.find?_eq alike (picksOne_of_nodup tabulates.distinct wanted)

/-- An entry is saved among the others, merged with the one that has its key. -/
theorem save
    {table : Table Row}
    (tabulates : Tabulates layout key storable entries table.rows)
    (picksRow : Row → Bool)
    (alike : ∀ entry, picksRow (layout entry) = (key entry == wanted))
    (change : Row → Row)
    (merged : Option Entry → Entry)
    (sameKey : ∀ held, key (merged held) = wanted)
    (changed : ∀ held, change (layout held) = layout (merged (some held)))
    (storableNew : storable (merged none))
    (storableAgain : ∀ held, storable held → storable (merged (some held))) :
    Tabulates layout key storable
      ((entries.filter (key · != wanted)) ++ [merged (entries.find? (key · == wanted))])
      (if table.rows.any picksRow then
          table.map fun row => if picksRow row then change row else row
        else table.insert (layout (merged none))).rows where
  laidOut := tabulates.laidOut.save alike (picksOne_of_nodup tabulates.distinct wanted) change
    merged fun held _ => changed held
  distinct := nodup_save tabulates.distinct (sameKey _)
  storable := by
    intro entry member
    rcases List.mem_append.mp member with among | isSaved
    · exact tabulates.storable entry (List.mem_filter.mp among).1
    · rw [List.mem_singleton.mp isSaved]
      cases found : entries.find? (key · == wanted) with
      | none => exact storableNew
      | some held =>
          exact storableAgain held (tabulates.storable held (List.mem_of_find?_eq_some found))

end Tabulates

end IntentPolicy
