import CatalogIntake.Proofs.Pipeline.Point
import Mathlib.Algebra.GroupWithZero.Nat
import Mathlib.Algebra.Ring.Int.Defs
import Mathlib.Data.List.Perm.Basic

/-!
Where the rows of a source are while its producer is under way. Each record is in a published
chunk, in the chunk to be published, in the window or unread, in the order of the source; each
rejected row that counts has been counted, is about to be, is pending or unread. Rows go missing
only on the way to a failed end.
-/

namespace CatalogIntake

def Chunk.rowCount (chunks : List Chunk) : Nat := (chunks.map (·.records.length)).sum

namespace RowEvent

def record? : RowEvent → Option ProductRecord
  | parsed record => some record
  | _ => none

def isRejected : RowEvent → Bool
  | rejected .. => true
  | _ => false

def records (events : List RowEvent) : List ProductRecord := events.filterMap record?

def rejections (events : List RowEvent) : Nat := events.countP isRejected

end RowEvent

def ImportSettings.counted (settings : ImportSettings) (events : List RowEvent) : Nat :=
  match settings.parseFailures with
  | .count => RowEvent.rejections events
  | .logOnly => 0

namespace ImportSettings

variable (settings : ImportSettings) (rest : List RowEvent)

@[simp] theorem counted_nil : settings.counted [] = 0 := by
  unfold counted
  cases settings.parseFailures <;> rfl

@[simp] theorem counted_parsed (record : ProductRecord) :
    settings.counted (.parsed record :: rest) = settings.counted rest := rfl

@[simp] theorem counted_fault (fault : SourceFault) :
    settings.counted (.fault fault :: rest) = settings.counted rest := rfl

theorem counted_reject (rowNumber : Int) (message : String) (raw : Option String)
    (run : ProducerRun) :
    (ProducerRun.reject settings rowNumber message raw run).pendingErrors.length +
        settings.counted rest =
      run.pendingErrors.length + settings.counted (.rejected rowNumber message raw :: rest) := by
  unfold ProducerRun.reject counted
  cases settings.parseFailures with
  | count =>
    simp only [RowEvent.rejections, RowEvent.isRejected, List.countP_cons, if_true,
      List.length_append, List.length_singleton]
    omega
  | logOnly => rfl

end ImportSettings

namespace ProducerRun

variable (settings : ImportSettings) (rowNumber : Int) (message : String) (raw : Option String)
  (run : ProducerRun)

@[simp] theorem reject_jobId : (reject settings rowNumber message raw run).jobId = run.jobId := by
  unfold reject
  cases settings.parseFailures <;> rfl

@[simp] theorem reject_window :
    (reject settings rowNumber message raw run).window = run.window := by
  unfold reject
  cases settings.parseFailures <;> rfl

@[simp] theorem reject_rowsRead :
    (reject settings rowNumber message raw run).rowsRead = run.rowsRead + 1 := by
  unfold reject
  cases settings.parseFailures <;> rfl

@[simp] theorem reject_rejectedRows :
    (reject settings rowNumber message raw run).rejectedRows = run.rejectedRows + 1 := by
  unfold reject
  cases settings.parseFailures <;> rfl

theorem reject_named {settings : ImportSettings} {rowNumber : Int} {message : String}
    {raw : Option String} {run : ProducerRun}
    (h : ∀ e ∈ run.pendingErrors, e.jobId = run.jobId) :
    ∀ e ∈ (reject settings rowNumber message raw run).pendingErrors,
      e.jobId = (reject settings rowNumber message raw run).jobId := by
  intro e he
  rw [reject_jobId]
  unfold reject at he
  cases hpolicy : settings.parseFailures with
  | count =>
    rw [hpolicy] at he
    rcases List.mem_append.mp he with he | he
    · exact h e he
    · rw [List.mem_singleton.mp he]
      rfl
  | logOnly =>
    rw [hpolicy] at he
    exact h e he

end ProducerRun

def Call.published? : (c : Call) → c.Answer → Option Chunk
  | .publish chunk, .ok _ => some chunk
  | _, _ => none

namespace Call

def processed : (c : Call) → c.Answer → Int
  | .increment _ processed _, .ok _ => processed
  | _, _ => 0

def failed : (c : Call) → c.Answer → Int
  | .increment _ _ failed, .ok _ => failed
  | _, _ => 0

def rows (c : Call) (answer : c.Answer) : Int := c.processed answer + c.failed answer

@[simp] theorem rows_publish (chunk : Chunk) (answer : Outcome Unit) :
    (publish chunk).rows answer = 0 := rfl

def inserted : (c : Call) → c.Answer → List Product
  | .insertBatch products, .ok _ => products
  | .insertOne product, .ok _ => [product]
  | _, _ => []

def saved : (c : Call) → c.Answer → List ErrorCandidate
  | .saveErrors candidates, .ok _ => candidates
  | _, _ => []

end Call

namespace Point

def chunk? : Point → Option Chunk
  | publishing _ chunk _ _ | pausing _ chunk _ _ => some chunk
  | _ => none

def inHand (point : Point) : List ProductRecord := (point.chunk?.map (·.records)).getD []

def uncounted : Point → Nat
  | counting _ rejected => rejected
  | _ => 0

def isFailing : Point → Bool
  | failing _ | ended (.failed _) => true
  | _ => false

/-- Everything has been published and counted; the total is to be written, or has been. -/
def isFinal : Point → Bool
  | totalling | completing | confirming | ended .finished => true
  | _ => false

def atEnd : Point → Bool
  | opening atEnd | publishing atEnd _ _ _ | pausing atEnd _ _ _ | flushing atEnd
  | counting atEnd _ => atEnd
  | point => point.isFinal

def isPastWindow : Point → Bool
  | publishing .. | pausing .. => true
  | flushing atEnd | counting atEnd _ => atEnd
  | point => point.isFinal

def isPastPending : Point → Bool
  | counting .. => true
  | point => point.isFinal

end Point

/-- The state `p` of a producer of this source fits the chunks that it has published and the number
of rejected rows that it has counted. -/
structure Reads (settings : ImportSettings) (source : List RowEvent) (published : List Chunk)
    (flushed : Int) (p : Producing) : Prop where
  records : ∃ lost, (lost ≠ [] → p.point.isFailing = true) ∧
    published.flatMap (·.records) ++ p.point.inHand ++ lost ++ p.run.window ++
      RowEvent.records p.unread = RowEvent.records source
  rejections : ∃ lost : Nat, (lost ≠ 0 → p.point.isFailing = true) ∧
    flushed + p.point.uncounted + lost + p.run.pendingErrors.length + settings.counted p.unread =
      settings.counted source
  flushed : 0 ≤ flushed
  nonempty : ∀ chunk ∈ published, chunk.records ≠ []
  named : ∀ e ∈ p.run.pendingErrors, e.jobId = p.run.jobId
  suffix : p.unread <:+ source
  rowsRead : p.run.rowsRead + (RowEvent.records p.unread).length + RowEvent.rejections p.unread =
    (RowEvent.records source).length + RowEvent.rejections source
  rejectedRows : p.run.rejectedRows + RowEvent.rejections p.unread = RowEvent.rejections source
  chunk : ∀ chunk, p.point.chunk? = some chunk → chunk.jobId = p.run.jobId ∧ chunk.records ≠ []
  unread : p.point.atEnd = true → p.unread = []
  window : p.point.isPastWindow = true → p.run.window = []
  pending : p.point.isPastPending = true → p.run.pendingErrors = []
  rows : p.point.isFinal = true → p.run.rowsRead ≠ 0

namespace Reads

variable {settings : ImportSettings} {source : List RowEvent} {published : List Chunk}
  {flushed : Int} {p next : Producing}

theorem start (settings : ImportSettings) (jobId : JobId) (source : List RowEvent) :
    Reads settings source [] 0 (.start jobId source) where
  records := ⟨[], by simp, rfl⟩
  rejections := ⟨0, by simp, by simp [Producing.start, ProducerRun.start, Point.uncounted]⟩
  flushed := Int.le_refl 0
  nonempty := fun _ h => by cases h
  named := fun _ h => by cases h
  suffix := List.suffix_refl source
  rowsRead := by simp [Producing.start, ProducerRun.start]
  rejectedRows := by simp [Producing.start, ProducerRun.start]
  chunk := by
    intro chunk h
    cases h
  unread := by
    intro h
    cases h
  window := by
    intro h
    cases h
  pending := by
    intro h
    cases h
  rows := by
    intro h
    cases h

/-- Only the point changes, and nothing is in another place than before. -/
theorem turn (h : Reads settings source published flushed p) {q : Point}
    (chunk : q.chunk? = p.point.chunk?) (uncounted : q.uncounted = p.point.uncounted)
    (failing : p.point.isFailing = true → q.isFailing = true)
    (unread : q.atEnd = true → p.unread = [])
    (window : q.isPastWindow = true → p.run.window = [])
    (pending : q.isPastPending = true → p.run.pendingErrors = [])
    (rows : q.isFinal = true → p.run.rowsRead ≠ 0) :
    Reads settings source published flushed (p.moveTo q) := by
  obtain ⟨lost, hlost, hrecords⟩ := h.records
  obtain ⟨missed, hmissed, hrejections⟩ := h.rejections
  have hinHand : q.inHand = p.point.inHand := by
    unfold Point.inHand
    rw [chunk]
  exact
    { records := ⟨lost, fun hne => failing (hlost hne), by
        simpa only [Producing.moveTo, hinHand] using hrecords⟩
      rejections := ⟨missed, fun hne => failing (hmissed hne), by
        simpa only [Producing.moveTo, uncounted] using hrejections⟩
      flushed := h.flushed
      nonempty := h.nonempty
      named := h.named
      suffix := h.suffix
      rowsRead := h.rowsRead
      rejectedRows := h.rejectedRows
      chunk := fun c hc => h.chunk c (chunk.symm.trans hc)
      unread, window, pending, rows }

theorem fail (h : Reads settings source published flushed p) (reason : String) :
    Reads settings source published flushed (p.moveTo (.failing reason)) := by
  obtain ⟨lost, -, hrecords⟩ := h.records
  obtain ⟨missed, -, hrejections⟩ := h.rejections
  exact
    { records := ⟨p.point.inHand ++ lost, fun _ => rfl, by
        simpa [Producing.moveTo, Point.inHand, Point.chunk?] using hrecords⟩
      rejections := ⟨p.point.uncounted + missed, fun _ => rfl, by
        simp only [Producing.moveTo, Point.uncounted] at hrejections ⊢
        omega⟩
      flushed := h.flushed
      nonempty := h.nonempty
      named := h.named
      suffix := h.suffix
      rowsRead := h.rowsRead
      rejectedRows := h.rejectedRows
      chunk := fun c hc => by cases hc
      unread := fun hend => by cases hend
      window := fun hpast => by cases hpast
      pending := fun hpast => by cases hpast
      rows := fun hfinal => by cases hfinal }

theorem proceed (h : Reads settings source published flushed p) {atEnd : Bool}
    (point : p.point = .flushing atEnd) (empty : p.run.pendingErrors = []) :
    Reads settings source published flushed (p.proceed atEnd) := by
  have hunread : atEnd = true → p.unread = [] := fun hend => h.unread (by rw [point]; exact hend)
  have hwindow : atEnd = true → p.run.window = [] :=
    fun hend => h.window (by rw [point]; exact hend)
  have turned {q : Point} (chunk : q.chunk? = none) (uncounted : q.uncounted = 0)
      (atEnd_ : q.atEnd = true → atEnd = true) (past : q.isPastWindow = true → atEnd = true)
      (rows : q.isFinal = true → p.run.rowsRead ≠ 0) :
      Reads settings source published flushed (p.moveTo q) :=
    h.turn (by rw [chunk, point]; rfl) (by rw [uncounted, point]; rfl)
      (fun hfail => by rw [point] at hfail; cases hfail) (fun hend => hunread (atEnd_ hend))
      (fun hpast => hwindow (past hpast)) (fun _ => empty) rows
  unfold Producing.proceed
  cases atEnd with
  | false =>
    simp only [Bool.false_eq_true, if_false]
    exact turned rfl rfl (fun hend => by cases hend) (fun hpast => by cases hpast)
      (fun hfinal => by cases hfinal)
  | true =>
    rw [if_pos rfl]
    split
    · exact h.fail _
    · rename_i hrows
      exact turned rfl rfl (fun _ => rfl) (fun _ => rfl) (fun _ => hrows)

section Events

variable {run : ProducerRun} {rest : List RowEvent}

theorem reading {unread : List RowEvent}
    (h : Reads settings source published flushed ⟨run, unread, .reading⟩) :
    published.flatMap (·.records) ++ run.window ++ RowEvent.records unread =
        RowEvent.records source ∧
      flushed + run.pendingErrors.length + settings.counted unread = settings.counted source := by
  obtain ⟨lost, hlost, hrecords⟩ := h.records
  obtain ⟨missed, hmissed, hrejections⟩ := h.rejections
  obtain rfl : lost = [] := Classical.not_not.mp fun hne => nomatch hlost hne
  obtain rfl : missed = 0 := Classical.not_not.mp fun hne => nomatch hmissed hne
  constructor
  · simpa [Point.inHand, Point.chunk?] using hrecords
  · simpa [Point.uncounted] using hrejections

theorem of_reading (unread : List RowEvent)
    (records : published.flatMap (·.records) ++ run.window ++ RowEvent.records unread =
      RowEvent.records source)
    (rejections : flushed + run.pendingErrors.length + settings.counted unread =
      settings.counted source)
    (flushed_ : 0 ≤ flushed) (nonempty : ∀ chunk ∈ published, chunk.records ≠ [])
    (named : ∀ e ∈ run.pendingErrors, e.jobId = run.jobId)
    (suffix : unread <:+ source)
    (rowsRead : run.rowsRead + (RowEvent.records unread).length + RowEvent.rejections unread =
      (RowEvent.records source).length + RowEvent.rejections source)
    (rejectedRows : run.rejectedRows + RowEvent.rejections unread = RowEvent.rejections source)
    {q : Point} (q_ : q = .reading ∨ q = .opening false ∨ q = .flushing false) :
    Reads settings source published flushed ⟨run, unread, q⟩ := by
  have plain : q.chunk? = none ∧ q.uncounted = 0 ∧ q.atEnd = false ∧ q.isPastWindow = false ∧
      q.isPastPending = false ∧ q.isFinal = false := by
    rcases q_ with rfl | rfl | rfl <;> decide
  obtain ⟨chunk, uncounted, atEnd, past, pastPending, final⟩ := plain
  exact
    { records := ⟨[], fun hne => absurd rfl hne, by
        simpa [Point.inHand, chunk] using records⟩
      rejections := ⟨0, fun hne => absurd rfl hne, by simpa [uncounted] using rejections⟩
      flushed := flushed_
      nonempty, named, suffix, rowsRead, rejectedRows
      chunk := fun c hc => by simp [chunk] at hc
      unread := fun hend => by simp [atEnd] at hend
      window := fun hpast => by simp [past] at hpast
      pending := fun hpast => by simp [pastPending] at hpast
      rows := fun hfinal => by simp [final] at hfinal }

theorem onEvent {event : RowEvent}
    (h : Reads settings source published flushed ⟨run, event :: rest, .reading⟩) :
    Reads settings source published flushed (Producing.onEvent settings run rest event) := by
  obtain ⟨hrecords, hrejections⟩ := h.reading
  have hrows := h.rowsRead
  have hrejected := h.rejectedRows
  have hsuffix : rest <:+ source := (List.suffix_cons event rest).trans h.suffix
  cases event with
  | parsed record =>
    simp only [RowEvent.records, RowEvent.rejections, RowEvent.record?, RowEvent.isRejected,
      List.filterMap_cons, List.countP_cons, List.length_cons, Bool.false_eq_true, if_false]
      at hrecords hrows hrejected
    refine of_reading rest ?_ ?_ h.flushed h.nonempty ?_ hsuffix ?_ ?_ ?_
    · simpa [Producing.take, RowEvent.records] using hrecords
    · simpa [Producing.take] using hrejections
    · exact h.named
    · simp only [Producing.take, RowEvent.records, RowEvent.rejections]
      push_cast at hrows
      omega
    · simpa [Producing.take, RowEvent.rejections] using hrejected
    · split <;> simp
  | rejected rowNumber message raw =>
    have hpending := settings.counted_reject rest rowNumber message raw run
    simp only [RowEvent.records, RowEvent.rejections, RowEvent.record?, RowEvent.isRejected,
      List.filterMap_cons, List.countP_cons, if_true] at hrecords hrows hrejected
    refine of_reading rest ?_ ?_ h.flushed h.nonempty ?_ hsuffix ?_ ?_ ?_
    · rw [ProducerRun.reject_window]
      exact hrecords
    · omega
    · exact ProducerRun.reject_named h.named
    · rw [ProducerRun.reject_rowsRead]
      push_cast at hrows
      simp only [RowEvent.records, RowEvent.rejections]
      omega
    · rw [ProducerRun.reject_rejectedRows]
      push_cast at hrejected
      simp only [RowEvent.rejections]
      omega
    · split <;> simp
  | fault fault =>
    have hrest : Reads settings source published flushed ⟨run, rest, .reading⟩ :=
      of_reading rest hrecords hrejections h.flushed h.nonempty h.named hsuffix
        hrows hrejected
        (.inl rfl)
    exact hrest.fail fault.text

end Events

theorem goes (h : Reads settings source published flushed p)
    (goes : Producing.Goes settings p next) : Reads settings source published flushed next := by
  cases goes with
  | sourceEnded at_ unread =>
    refine h.turn (by rw [at_]; rfl) (by rw [at_]; rfl) ?_ (fun _ => unread) ?_ ?_ ?_
    · rw [at_]
      exact fun hfail => nomatch hfail
    · exact fun hpast => nomatch hpast
    · exact fun hpast => nomatch hpast
    · exact fun hfinal => nomatch hfinal
  | taken at_ unread =>
    obtain ⟨run, rest, point⟩ := p
    obtain rfl : point = .reading := at_
    obtain rfl : rest = _ := unread
    exact h.onEvent
  | nothingToPublish at_ empty =>
    refine h.turn (by rw [at_]; rfl) (by rw [at_]; rfl) ?_ ?_ (fun _ => empty) ?_ ?_
    · rw [at_]
      exact fun hfail => nomatch hfail
    · exact fun hend => h.unread (by rw [at_]; exact hend)
    · exact fun hpast => nomatch hpast
    · exact fun hfinal => nomatch hfinal
  | nothingToFlush at_ empty => exact h.proceed at_ empty

theorem finalTurn (h : Reads settings source published flushed p) {q : Point}
    (final : p.point.isFinal = true) (final_ : q.isFinal = true) :
    Reads settings source published flushed (p.moveTo q) := by
  have plain {point : Point} (hfinal : point.isFinal = true) : point.chunk? = none ∧
      point.uncounted = 0 ∧ point.isFailing = false ∧ point.atEnd = true ∧
      point.isPastWindow = true ∧ point.isPastPending = true := by
    unfold Point.isFinal at hfinal
    split at hfinal
    · decide
    · decide
    · decide
    · decide
    · cases hfinal
  obtain ⟨chunk, uncounted, failing, atEnd, past, pastPending⟩ := plain final
  obtain ⟨chunk', uncounted', -⟩ := plain final_
  refine h.turn (chunk'.trans chunk.symm) (uncounted'.trans uncounted.symm) ?_ ?_ ?_ ?_ ?_
  · rw [failing]
    exact fun hfail => nomatch hfail
  · exact fun _ => h.unread atEnd
  · exact fun _ => h.window past
  · exact fun _ => h.pending pastPending
  · exact fun _ => h.rows final

theorem openWindow (h : Reads settings source published flushed p) {atEnd : Bool}
    {retries : Nat} (at_ : p.point = .opening atEnd) (any : p.run.window ≠ []) :
    Reads settings source published flushed
      { p with
        run := { p.run with window := [] }
        point :=
          .publishing atEnd ⟨p.run.jobId, p.run.chunkNumber.toInt, p.run.window⟩ 0 retries } := by
  obtain ⟨run, unread, point⟩ := p
  obtain rfl : point = .opening atEnd := at_
  obtain ⟨lost, hlost, hrecords⟩ := h.records
  obtain rfl : lost = [] := Classical.not_not.mp fun hne => nomatch hlost hne
  exact
    { records := ⟨[], fun hne => absurd rfl hne, by
        simpa [Point.inHand, Point.chunk?] using hrecords⟩
      rejections := h.rejections
      flushed := h.flushed
      nonempty := h.nonempty
      named := h.named
      suffix := h.suffix
      rowsRead := h.rowsRead
      rejectedRows := h.rejectedRows
      chunk := fun c hc => by
        obtain rfl := Option.some.inj hc
        exact ⟨rfl, any⟩
      unread := h.unread
      window := fun _ => rfl
      pending := fun hpast => nomatch hpast
      rows := fun hfinal => nomatch hfinal }

theorem publish (h : Reads settings source published flushed p) {atEnd : Bool} {chunk : Chunk}
    {attempts retries : Nat} (at_ : p.point = .publishing atEnd chunk attempts retries) :
    Reads settings source (published ++ [chunk]) flushed
      { p with
        run := { p.run with chunkNumber := p.run.chunkNumber + 1 }
        point := .flushing atEnd } := by
  obtain ⟨run, unread, point⟩ := p
  obtain rfl : point = .publishing atEnd chunk attempts retries := at_
  obtain ⟨lost, hlost, hrecords⟩ := h.records
  obtain rfl : lost = [] := Classical.not_not.mp fun hne => nomatch hlost hne
  exact
    { records := ⟨[], fun hne => absurd rfl hne, by
        simpa [Point.inHand, Point.chunk?] using hrecords⟩
      rejections := h.rejections
      flushed := h.flushed
      nonempty := fun c hc => by
        rcases List.mem_append.mp hc with hc | hc
        · exact h.nonempty c hc
        · obtain rfl := List.mem_singleton.mp hc
          exact (h.chunk c rfl).2
      named := h.named
      suffix := h.suffix
      rowsRead := h.rowsRead
      rejectedRows := h.rejectedRows
      chunk := fun c hc => nomatch hc
      unread := h.unread
      window := fun _ => h.window rfl
      pending := fun hpast => nomatch hpast
      rows := fun hfinal => nomatch hfinal }

theorem log (h : Reads settings source published flushed p) {atEnd : Bool}
    (at_ : p.point = .flushing atEnd) :
    Reads settings source published flushed
      { p with
        run := { p.run with pendingErrors := [] }
        point := .counting atEnd p.run.pendingErrors.length } := by
  obtain ⟨run, unread, point⟩ := p
  obtain rfl : point = .flushing atEnd := at_
  obtain ⟨missed, hmissed, hrejections⟩ := h.rejections
  exact
    { records := h.records
      rejections := ⟨missed, hmissed, by
        simp only [Point.uncounted, List.length_nil] at hrejections ⊢
        omega⟩
      flushed := h.flushed
      nonempty := h.nonempty
      named := fun e he => nomatch he
      suffix := h.suffix
      rowsRead := h.rowsRead
      rejectedRows := h.rejectedRows
      chunk := fun c hc => nomatch hc
      unread := h.unread
      window := h.window
      pending := fun _ => rfl
      rows := fun hfinal => nomatch hfinal }

theorem count (h : Reads settings source published flushed p) {atEnd : Bool} {rejected : Nat}
    (at_ : p.point = .counting atEnd rejected) :
    Reads settings source published (flushed + (0 + rejected)) (p.proceed atEnd) := by
  obtain ⟨run, unread, point⟩ := p
  obtain rfl : point = .counting atEnd rejected := at_
  obtain ⟨missed, hmissed, hrejections⟩ := h.rejections
  have hempty := h.pending rfl
  have hflushed := h.flushed
  have hcounted : Reads settings source published (flushed + (0 + rejected))
      ⟨run, unread, .flushing atEnd⟩ :=
    { records := h.records
      rejections := ⟨missed, hmissed, by
        simp only [Point.uncounted] at hrejections ⊢
        omega⟩
      flushed := by omega
      nonempty := h.nonempty
      named := h.named
      suffix := h.suffix
      rowsRead := h.rowsRead
      rejectedRows := h.rejectedRows
      chunk := fun c hc => nomatch hc
      unread := h.unread
      window := h.window
      pending := fun hpast => nomatch hpast
      rows := fun hfinal => nomatch hfinal }
  exact hcounted.proceed rfl hempty

theorem asks (h : Reads settings source published flushed p) {c : Call} {answer : c.Answer}
    (asks : Producing.Asks settings p c answer next) :
    Reads settings source (published ++ (c.published? answer).toList) (flushed + c.rows answer)
      next := by
  -- the calls that move neither a chunk onto the bus nor rows into the counters
  have quiet (h' : Reads settings source published flushed next)
      (published_ : c.published? answer = none) (rows : c.rows answer = 0) :
      Reads settings source (published ++ (c.published? answer).toList) (flushed + c.rows answer)
        next := by
    rw [published_, rows, Option.toList_none, List.append_nil, Int.add_zero]
    exact h'
  cases asks with
  | jobUnavailable _ _ => exact quiet (h.fail _) rfl rfl
  | jobGone _ _ => exact quiet (h.fail _) rfl rfl
  | processing at_ any _ => exact quiet (h.openWindow at_ any) rfl rfl
  | cancelled at_ _ _ =>
    refine quiet (h.turn (by rw [at_]; rfl) (by rw [at_]; rfl) ?_ ?_ ?_ ?_ ?_) rfl rfl
    · rw [at_]
      exact fun hfail => nomatch hfail
    all_goals exact fun hq => nomatch hq
  | inactive _ _ _ _ => exact quiet (h.fail _) rfl rfl
  | published at_ =>
    rw [show Call.rows (.publish _) (.ok ()) = 0 from rfl, Int.add_zero]
    exact h.publish at_
  | notPublished _ => exact quiet (h.fail _) rfl rfl
  | publishedAgain at_ =>
    refine quiet (h.turn (by rw [at_]; rfl) (by rw [at_]; rfl) ?_ ?_ ?_ ?_ ?_) rfl rfl
    · rw [at_]
      exact fun hfail => nomatch hfail
    · exact fun hend => h.unread (by rw [at_]; exact hend)
    · exact fun _ => h.window (by rw [at_]; rfl)
    all_goals exact fun hq => nomatch hq
  | paused at_ =>
    refine quiet (h.turn (by rw [at_]; rfl) (by rw [at_]; rfl) ?_ ?_ ?_ ?_ ?_) rfl rfl
    · rw [at_]
      exact fun hfail => nomatch hfail
    · exact fun hend => h.unread (by rw [at_]; exact hend)
    · exact fun _ => h.window (by rw [at_]; rfl)
    all_goals exact fun hq => nomatch hq
  | logged at_ _ => exact quiet (h.log at_) rfl rfl
  | uncounted _ => exact quiet (h.fail _) rfl rfl
  | counted at_ =>
    rw [show Call.published? (.increment _ _ _) (.ok _) = none from rfl, Option.toList_none,
      List.append_nil]
    exact h.count at_
  | notTotalled _ => exact quiet (h.fail _) rfl rfl
  | totalled at_ => exact quiet (h.finalTurn (by rw [at_]; rfl) rfl) rfl rfl
  | unchecked _ => exact quiet (h.fail _) rfl rfl
  | notDone at_ => exact quiet (h.finalTurn (by rw [at_]; rfl) rfl) rfl rfl
  | completed at_ => exact quiet (h.finalTurn (by rw [at_]; rfl) rfl) rfl rfl
  | unconfirmed _ => exact quiet (h.fail _) rfl rfl
  | confirmed at_ => exact quiet (h.finalTurn (by rw [at_]; rfl) rfl) rfl rfl
  | stopped at_ =>
    refine quiet (h.turn (by rw [at_]; rfl) (by rw [at_]; rfl) ?_ ?_ ?_ ?_ ?_) rfl rfl
    · rw [at_]
      exact fun hfail => nomatch hfail
    all_goals exact fun hq => nomatch hq
  | failed at_ =>
    refine quiet (h.turn (by rw [at_]; rfl) (by rw [at_]; rfl) (fun _ => rfl) ?_ ?_ ?_ ?_) rfl rfl
    all_goals exact fun hq => nomatch hq

theorem rows_le (h : Reads settings source published flushed p) :
    Chunk.rowCount published + flushed ≤ p.run.rowsRead := by
  obtain ⟨lost, -, hrecords⟩ := h.records
  obtain ⟨missed, -, hrejections⟩ := h.rejections
  have hlength := congrArg List.length hrecords
  have hrows := h.rowsRead
  have hflushed := h.flushed
  simp only [List.length_append, List.length_flatMap] at hlength
  have hsuffix : RowEvent.rejections p.unread ≤ RowEvent.rejections source :=
    h.suffix.sublist.countP_le
  have hcounted : settings.counted source + RowEvent.rejections p.unread ≤
      settings.counted p.unread + RowEvent.rejections source := by
    unfold ImportSettings.counted
    cases settings.parseFailures with
    | count => exact Nat.le_of_eq (Nat.add_comm _ _)
    | logOnly => simpa using hsuffix
  unfold Chunk.rowCount
  omega

/-- At the last points every record is published and every rejected row that counts is counted. -/
theorem final (h : Reads settings source published flushed p) (final : p.point.isFinal = true) :
    published.flatMap (·.records) = RowEvent.records source ∧
      flushed = settings.counted source ∧
      p.run.rowsRead = (RowEvent.records source).length + RowEvent.rejections source ∧
      p.run.rejectedRows = RowEvent.rejections source := by
  have hreading : Reads settings source published flushed (p.moveTo .totalling) :=
    h.finalTurn final rfl
  obtain ⟨lost, hlost, hrecords⟩ := hreading.records
  obtain ⟨missed, hmissed, hrejections⟩ := hreading.rejections
  obtain rfl : lost = [] := Classical.not_not.mp fun hne => nomatch hlost hne
  obtain rfl : missed = 0 := Classical.not_not.mp fun hne => nomatch hmissed hne
  have hunread : p.unread = [] := hreading.unread rfl
  have hwindow : p.run.window = [] := hreading.window rfl
  have hpending : p.run.pendingErrors = [] := hreading.pending rfl
  have hrows := h.rowsRead
  have hrejected := h.rejectedRows
  rw [hunread] at hrows hrejected
  refine ⟨?_, ?_, ?_, ?_⟩
  · simpa [Producing.moveTo, Point.inHand, Point.chunk?, hwindow, hunread, RowEvent.records]
      using hrecords
  · simpa [Producing.moveTo, Point.uncounted, hpending, hunread] using hrejections
  · simpa [RowEvent.records, RowEvent.rejections] using hrows
  · simpa [RowEvent.rejections] using hrejected

end Reads

namespace Producing

variable {settings : ImportSettings} {p next : Producing}

@[simp] theorem proceed_run (atEnd : Bool) : (p.proceed atEnd).run = p.run := by
  unfold proceed
  split
  · split <;> rfl
  · rfl

theorem Goes.jobId (h : Goes settings p next) : next.run.jobId = p.run.jobId := by
  cases h with
  | @taken event _ _ _ =>
    cases event with
    | rejected rowNumber message raw => exact ProducerRun.reject_jobId ..
    | _ => rfl
  | nothingToFlush _ _ => rw [proceed_run]
  | _ => rfl

theorem Asks.jobId {c : Call} {answer : c.Answer} (h : Asks settings p c answer next) :
    next.run.jobId = p.run.jobId := by
  cases h with
  | counted _ => rw [proceed_run]
  | _ => rfl

theorem proceed_uncounted (atEnd : Bool) : (p.proceed atEnd).point.uncounted = 0 := by
  unfold proceed
  split
  · split <;> rfl
  · rfl

theorem Goes.uncounted_eq (h : Goes settings p next) :
    next.point.uncounted = p.point.uncounted := by
  cases h with
  | @taken event rest at_ _ =>
    rw [at_]
    cases event with
    | fault fault => rfl
    | _ =>
      simp only [onEvent]
      split <;> rfl
  | nothingToFlush at_ _ =>
    rw [at_, proceed_uncounted]
    rfl
  | sourceEnded at_ _ | nothingToPublish at_ _ =>
    rw [at_]
    rfl

/-- What a producer logs it counts next, unless the counting fails. -/
theorem Asks.uncounted_eq {c : Call} {answer : c.Answer} (h : Asks settings p c answer next)
    (kept : next.point.isFailing = false)
    (saves : ∀ candidates, c = .saveErrors candidates → c.saved answer = candidates) :
    next.point.uncounted + c.failed answer = p.point.uncounted + (c.saved answer).length := by
  cases h with
  | logged at_ _ =>
    rw [saves _ rfl, at_]
    simp [Point.uncounted, Call.failed]
  | counted at_ =>
    rw [at_, proceed_uncounted]
    simp [Point.uncounted, Call.failed, Call.saved]
  | uncounted _ => cases kept
  | jobUnavailable at_ _ | jobGone at_ _ | processing at_ _ _ | cancelled at_ _ _
  | inactive at_ _ _ _ | published at_ | notPublished at_ | publishedAgain at_ | paused at_
  | notTotalled at_ | totalled at_ | unchecked at_ | notDone at_ | completed at_
  | unconfirmed at_ | confirmed at_ | stopped at_ | failed at_ =>
    rw [at_]
    rfl

theorem Asks.uncounted_of_publish {chunk : Chunk} {answer : Outcome Unit}
    (h : Asks settings p (.publish chunk) answer next) :
    next.point.uncounted = p.point.uncounted := by
  cases h with
  | published at_ | notPublished at_ | publishedAgain at_ =>
    rw [at_]
    rfl

theorem Asks.saved {c : Call} {answer : c.Answer} (h : Asks settings p c answer next) :
    c.saved answer ⊆ p.run.pendingErrors := by
  cases h with
  | @logged _ answer _ _ =>
    cases answer with
    | ok _ => exact List.Subset.refl _
    | error f => exact List.nil_subset _
  | _ => exact List.nil_subset _

theorem Asks.stores {c : Call} {answer : c.Answer} (h : Asks settings p c answer next) :
    c.inserted answer = [] ∧ c.processed answer = 0 := by
  cases h <;> exact ⟨rfl, rfl⟩

end Producing

end CatalogIntake
