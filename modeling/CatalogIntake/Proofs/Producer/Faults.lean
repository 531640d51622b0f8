import CatalogIntake.Proofs.Concurrency.Undisturbed
import Mathlib.Data.List.Pairwise

/-!
The first fault of a source, and the rows before it. A file that cannot be used as a whole has its
fault before the first row, one with a row that cannot be decoded has it in place of that row, and
the rows that can be decoded have their numbers to themselves.
-/

namespace CatalogIntake

def SourceFault.rowsBefore : SourceFault → Int
  | undecodableRow rowNumber _ => rowNumber - 1
  | _ => 0

namespace RowEvent

def fault? : RowEvent → Option SourceFault
  | fault f => some f
  | _ => none

def firstFault? (events : List RowEvent) : Option SourceFault := events.findSome? fault?

def beforeFault (events : List RowEvent) : List RowEvent := events.takeWhile (!·.isFault)

def rowNumber? : RowEvent → Option Int
  | parsed record => record.rowNumber
  | rejected rowNumber _ _ => some rowNumber
  | fault _ => none

section Lists

variable {read rest : List RowEvent} {f : SourceFault}

theorem firstFault?_append (clean : ∀ e ∈ read, e.isFault = false) :
    firstFault? (read ++ rest) = firstFault? rest := by
  have hnone : read.findSome? fault? = none := by
    rw [List.findSome?_eq_none_iff]
    intro e he
    have hclean := clean e he
    cases e with
    | fault f => cases hclean
    | _ => rfl
  unfold firstFault?
  rw [List.findSome?_append, hnone, Option.none_or]

theorem beforeFault_append (clean : ∀ e ∈ read, e.isFault = false) :
    beforeFault (read ++ .fault f :: rest) = read := by
  unfold beforeFault
  rw [List.takeWhile_append_of_pos fun e he => by rw [clean e he]; rfl,
    List.takeWhile_cons_of_neg (by simp [isFault]), List.append_nil]

theorem records_append (events more : List RowEvent) :
    records (events ++ more) = records events ++ records more := List.filterMap_append

end Lists

def IsNumbered (events : List RowEvent) : Prop :=
  events.Pairwise fun e e' => e.rowNumber? ≠ e'.rowNumber?

theorem mem_records {events : List RowEvent} {record : ProductRecord} :
    record ∈ records events ↔ .parsed record ∈ events := by
  unfold records
  rw [List.mem_filterMap]
  constructor
  · rintro ⟨e, he, hrecord⟩
    cases e with
    | parsed found =>
      obtain rfl := Option.some.inj hrecord
      exact he
    | _ => cases hrecord
  · exact fun he => ⟨_, he, rfl⟩

theorem IsNumbered.records {events : List RowEvent} (h : IsNumbered events) :
    (records events).Pairwise fun record record' => record.rowNumber ≠ record'.rowNumber := by
  refine List.Pairwise.filterMap record? ?_ h
  intro e e' hne record hrecord record' hrecord'
  cases e <;> cases hrecord
  cases e' <;> cases hrecord'
  exact hne

theorem IsNumbered.rejected {events : List RowEvent} {record : ProductRecord} {rowNumber : Int}
    {message : String} {raw : Option String} (h : IsNumbered events)
    (row : .rejected rowNumber message raw ∈ events) (parsed : record ∈ RowEvent.records events) :
    record.rowNumber ≠ some rowNumber :=
  have : Std.Symm fun e e' : RowEvent => e.rowNumber? ≠ e'.rowNumber? :=
    ⟨fun _ _ hne => hne.symm⟩
  h.forall (mem_records.mp parsed) row fun heq => nomatch heq

section Files

variable {layout : Layout} {rowNumber : Int} {rows : List (Except Csv.Undecodable (List String))}
  {path : String} {found : Except FileError Folder.Node} {f : SourceFault}

theorem rowNumber_of_read {row : List String} {record : ProductRecord}
    (h : layout.read rowNumber row = .ok record) : record.rowNumber = some rowNumber := by
  unfold Layout.read at h
  cases hrecord : layout.recordOf rowNumber row with
  | error fault =>
    rw [hrecord] at h
    cases h
  | ok found =>
    rw [hrecord] at h
    cases h
    revert hrecord
    unfold Layout.recordOf
    simp only [bind, Except.bind, pure, Except.pure]
    intro hrecord
    repeat' split at hrecord
    all_goals first | cases hrecord; rfl | cases hrecord

/-- The rows of a file, from a row on: there is none, or it cannot be decoded, or it is an event
with its number. -/
inductive Opens (layout : Layout) (rowNumber : Int) :
    List (Except Csv.Undecodable (List String)) → List RowEvent → Prop
  | ended : Opens layout rowNumber [] []
  | undecodable {u : Csv.Undecodable} {rest : List (Except Csv.Undecodable (List String))} :
      Opens layout rowNumber (.error u :: rest) [.fault (.undecodableRow rowNumber u)]
  | row {row : List String} {rest : List (Except Csv.Undecodable (List String))} {e : RowEvent}
      (clean : e.isFault = false) (number : e.rowNumber? = some rowNumber) :
      Opens layout rowNumber (.ok row :: rest) (e :: ofRows layout (rowNumber + 1) rest)

theorem opens_ofRows (layout : Layout) (rowNumber : Int)
    (rows : List (Except Csv.Undecodable (List String))) :
    Opens layout rowNumber rows (ofRows layout rowNumber rows) := by
  rcases rows with _ | ⟨u | row, rest⟩
  · exact .ended
  · exact .undecodable
  · simp only [ofRows]
    cases hread : layout.read rowNumber row with
    | ok record => exact .row rfl (rowNumber_of_read hread)
    | error e => exact .row rfl rfl

theorem le_of_mem_ofRows {e : RowEvent} {k : Int} (he : e ∈ ofRows layout rowNumber rows)
    (number : e.rowNumber? = some k) : rowNumber ≤ k := by
  induction rows generalizing rowNumber with
  | nil => cases he
  | cons first rest ih =>
    have opens := opens_ofRows layout rowNumber (first :: rest)
    generalize ofRows layout rowNumber (first :: rest) = events at he opens
    cases opens with
    | undecodable =>
      rw [List.mem_singleton.mp he] at number
      cases number
    | row clean number' =>
      rcases List.mem_cons.mp he with rfl | he
      · rw [number'] at number
        exact Int.le_of_eq (Option.some.inj number)
      · have := ih he
        omega

theorem isNumbered_ofRows : IsNumbered (ofRows layout rowNumber rows) := by
  induction rows generalizing rowNumber with
  | nil => exact .nil
  | cons first rest ih =>
    have opens := opens_ofRows layout rowNumber (first :: rest)
    generalize ofRows layout rowNumber (first :: rest) = events at opens ⊢
    cases opens with
    | undecodable => exact List.pairwise_singleton _ _
    | row clean number =>
      refine .cons ?_ ih
      intro e he hsame
      have hle := le_of_mem_ofRows he (hsame.symm.trans number)
      omega

theorem length_beforeFault_ofRows (h : firstFault? (ofRows layout rowNumber rows) = some f) :
    rowNumber + (beforeFault (ofRows layout rowNumber rows)).length = f.rowsBefore + 1 := by
  induction rows generalizing rowNumber with
  | nil => cases h
  | cons first rest ih =>
    have opens := opens_ofRows layout rowNumber (first :: rest)
    generalize ofRows layout rowNumber (first :: rest) = events at h opens ⊢
    cases opens with
    | undecodable =>
      obtain rfl := Option.some.inj h
      simp [beforeFault, isFault, SourceFault.rowsBefore]
    | @row _ _ e clean number =>
      have hnone : e.fault? = none := by
        cases e <;> first | rfl | cases clean
      have hrest := ih ((List.findSome?_cons_of_isNone (by rw [hnone]; rfl)).symm.trans h)
      unfold beforeFault at hrest ⊢
      rw [List.takeWhile_cons_of_pos (by rw [clean]; rfl), List.length_cons]
      push_cast
      omega

/-- A file that cannot be used as a whole is one fault; the others have rows. -/
theorem ofPath_cases (path : String) (found : Except FileError Folder.Node) :
    (∃ f, f.rowsBefore = 0 ∧ ofPath path found = [.fault f]) ∨
      ∃ layout rows, ofPath path found = ofRows layout 1 rows := by
  unfold ofPath
  split
  · unfold ofSource
    split
    · exact .inl ⟨_, rfl, rfl⟩
    · split
      · exact .inl ⟨_, rfl, rfl⟩
      · exact .inr ⟨_, _, rfl⟩
  · exact .inl ⟨_, rfl, rfl⟩
  · exact .inl ⟨_, rfl, rfl⟩

/-- A file has its fault where it says, be it before the first row or in place of a later one. -/
theorem length_beforeFault_ofPath (h : firstFault? (ofPath path found) = some f) :
    ((beforeFault (ofPath path found)).length : Int) = f.rowsBefore := by
  rcases ofPath_cases path found with ⟨whole, before, hpath⟩ | ⟨layout, rows, hpath⟩
  · rw [hpath] at h ⊢
    obtain rfl := Option.some.inj h
    exact before.symm
  · rw [hpath] at h ⊢
    have hlength := length_beforeFault_ofRows h
    omega

theorem isNumbered_ofPath (path : String) (found : Except FileError Folder.Node) :
    IsNumbered (ofPath path found) := by
  rcases ofPath_cases path found with ⟨whole, -, hpath⟩ | ⟨layout, rows, hpath⟩
  · rw [hpath]
    exact List.pairwise_singleton _ _
  · rw [hpath]
    exact isNumbered_ofRows

end Files

end RowEvent

end CatalogIntake
