import CatalogIntake.Proofs.Producer.Faults

/-!
How a producer cuts its source, as long as the stores answer and its job is not cancelled. All
that it has published are full chunks from the beginning of the source, up to the window at its
end. It fails for a fault, for a chunk that the bus has refused too often, or for want of rows,
and for nothing else.
-/

namespace CatalogIntake

namespace Chunk

def slices (id : JobId) (size : Nat) (records : List ProductRecord) (count : Nat) : List Chunk :=
  (List.range count).map fun k => ⟨id, ordinal k, (records.drop (k * size)).take size⟩

/-- What is said when a closed bus has refused the chunk behind so many others so often. -/
def refusalText (count attempts : Nat) : String :=
  ((Failure.of .busClosed).during (.publishChunk (ordinal count) (.ofNat attempts))).text

variable {id : JobId} {size : Nat} {records rest : List ProductRecord} {count : Nat}

theorem slices_succ : slices id size records (count + 1) =
    slices id size records count ++
      [⟨id, ordinal count, (records.drop (count * size)).take size⟩] := by
  unfold slices
  rw [List.range_succ, List.map_append, List.map_singleton]

theorem flatMap_slices :
    (slices id size records count).flatMap (·.records) = records.take (count * size) := by
  induction count with
  | zero => simp [slices]
  | succ count ih =>
    rw [slices_succ, List.flatMap_append, ih, List.flatMap_singleton, Nat.succ_mul, List.take_add]

theorem length_flatMap {chunks : List Chunk}
    (full : ∀ chunk ∈ chunks, chunk.records.length = size) :
    (chunks.flatMap (·.records)).length = chunks.length * size := by
  induction chunks with
  | nil => simp
  | cons first others ih =>
    have hothers := ih fun chunk hchunk => full chunk (List.mem_cons_of_mem first hchunk)
    rw [List.flatMap_cons, List.length_append, full first List.mem_cons_self, hothers,
      List.length_cons, Nat.succ_mul, Nat.add_comm]

theorem slices_concat {published : List Chunk} {chunk : Chunk}
    (slices_ : published = slices id size records published.length)
    (full : ∀ chunk ∈ published, chunk.records.length = size)
    (jobId : chunk.jobId = id) (number : chunk.number = ordinal published.length)
    (length : chunk.records.length = size)
    (parts : published.flatMap (·.records) ++ chunk.records ++ rest = records) :
    published ++ [chunk] = slices id size records (published.length + 1) := by
  have hlength := length_flatMap full
  have hrecords : (records.drop (published.length * size)).take size = chunk.records := by
    rw [← parts, List.append_assoc, ← hlength, List.drop_left, ← length, List.take_left]
  rw [slices_succ, ← slices_, hrecords, ← number, ← jobId]

end Chunk

namespace Point

def attempts : Point → Nat
  | publishing _ _ attempts _ | pausing _ _ attempts _ => attempts
  | _ => 0

def retries? : Point → Option Nat
  | publishing _ _ _ retries | pausing _ _ _ retries => some retries
  | _ => none

def failure? : Point → Option String
  | failing reason => some (Text.boundedErrorMessage reason)
  | ended (.failed reason) => some reason
  | _ => none

def isBeyond : Point → Bool
  | flushing atEnd | counting atEnd _ => atEnd
  | point => point.isFinal

/-- The chunk that the bus has refused if a producer has come from one point to the other. -/
def refusal? : Point → Point → Option Chunk
  | publishing _ chunk _ _, pausing _ _ _ _ => some chunk
  | publishing _ chunk _ _, failing _ => some chunk
  | _, _ => none

variable {point next : Point}

theorem attempts_of_chunk? (h : point.chunk? = none) :
    point.attempts = 0 ∧ point.retries? = none := by
  cases point <;> first | exact ⟨rfl, rfl⟩ | cases h

theorem failure?_of_isFailing (h : point.isFailing = false) : point.failure? = none := by
  unfold failure?
  split
  · cases h
  · cases h
  · rfl

theorem refusal?_of_chunk? (h : point.chunk? = none) : refusal? point next = none := by
  unfold refusal?
  split
  · cases h
  · cases h
  · rfl

/-- The bus as it is heard between two points: how often it has refused the chunk at each place by
then. -/
structure Hears (point next : Point) (place : Chunk → Nat) (refused refused' : Nat → Nat) :
    Prop where
  count : ∀ n, refused' n = refused n + if (refusal? point next).map place = some n then 1 else 0
  closed : ∀ {atEnd chunk attempts reason}, point = .publishing atEnd chunk attempts 0 →
    next = .failing reason → reason = ((Failure.of .busClosed).during
      (.publishChunk chunk.number (.ofNat (attempts + 1)))).text

theorem Hears.quiet {place : Chunk → Nat} {refused refused' : Nat → Nat}
    (h : Hears point next place refused refused') (silent : refusal? point next = none) :
    refused' = refused := by
  funext n
  rw [h.count, silent]
  rfl

end Point

theorem Reads.published_eq_nil {settings : ImportSettings} {source : List RowEvent}
    {published : List Chunk} {flushed : Int} {p : Producing}
    (h : Reads settings source published flushed p) (rows : p.run.rowsRead = 0) :
    published = [] := by
  have hle := h.rows_le
  have hflushed := h.flushed
  cases published with
  | nil => rfl
  | cons first rest =>
    have hpos := List.length_pos_iff.mpr (h.nonempty first List.mem_cons_self)
    unfold Chunk.rowCount at hle
    rw [List.map_cons, List.sum_cons] at hle
    omega

inductive BreakOff (settings : ImportSettings) (source : List RowEvent) (refused : Nat → Nat)
    (chunks : Nat) : String → Prop
  | fault {fault : SourceFault} (first : RowEvent.firstFault? source = some fault)
      (count : chunks =
        (RowEvent.records (RowEvent.beforeFault source)).length / settings.chunkSize)
      (few : ∀ n, refused n ≤ settings.publishRetries) :
      BreakOff settings source refused chunks fault.text
  | refused (all : refused chunks = settings.publishRetries + 1)
      (few : ∀ n, n ≠ chunks → refused n ≤ settings.publishRetries) :
      BreakOff settings source refused chunks
        (Chunk.refusalText chunks (settings.publishRetries + 1))
  | noRows (clean : RowEvent.firstFault? source = none)
      (few : ∀ n, refused n ≤ settings.publishRetries) :
      BreakOff settings source refused chunks ProducerRun.emptySourceReason

/-- The state `p` of a producer of this source fits the chunks that it has published, the number of
rejected rows that it has counted, and how often the bus has refused chunks. -/
structure Cuts (settings : ImportSettings) (source : List RowEvent) (published : List Chunk)
    (flushed : Int) (refused : Nat → Nat) (p : Producing) : Prop where
  number : p.run.chunkNumber = .ofNat published.length
  slices : p.point.isBeyond = false → published =
    Chunk.slices p.run.jobId settings.chunkSize (RowEvent.records source) published.length
  full : p.point.isBeyond = false →
    ∀ chunk ∈ published, chunk.records.length = settings.chunkSize
  window : p.point ≠ .opening false → p.run.window.length < settings.chunkSize
  filled : p.point = .opening false → p.run.window.length = settings.chunkSize
  chunk : ∀ chunk, p.point.chunk? = some chunk → chunk.number = Chunk.ordinal published.length ∧
    (p.point.atEnd = false → chunk.records.length = settings.chunkSize)
  tries : ∀ retries, p.point.retries? = some retries →
    p.point.attempts + retries = settings.publishRetries
  refusals : p.point.isFailing = false → (∀ n, refused n ≤ settings.publishRetries) ∧
    refused published.length = p.point.attempts ∧ ∀ n, published.length < n → refused n = 0
  clean : p.point.isFailing = false →
    ∃ read, source = read ++ p.unread ∧ ∀ e ∈ read, e.isFault = false
  reason : ∀ kept, p.point.failure? = some kept → ∃ full,
    kept = Text.boundedErrorMessage full ∧
      BreakOff settings source refused published.length full
  rejections : flushed + p.point.uncounted + p.run.pendingErrors.length +
    settings.counted p.unread = settings.counted source
  stopped : p.point.isStopped = false

namespace Cuts

variable {settings : ImportSettings} {source : List RowEvent} {published : List Chunk}
  {flushed flushed' : Int} {refused refused' : Nat → Nat} {place : Chunk → Nat}
  {p next : Producing}

theorem start (jobId : JobId) (size : 1 ≤ settings.chunkSize) :
    Cuts settings source [] 0 (fun _ => 0) (.start jobId source) where
  number := rfl
  slices := fun _ => rfl
  full := fun _ _ h => by cases h
  window := fun _ => size
  filled := fun h => by cases h
  chunk := fun _ h => by cases h
  tries := fun _ h => by cases h
  refusals := fun _ => ⟨fun _ => Nat.zero_le _, rfl, fun _ _ => rfl⟩
  clean := fun _ => ⟨[], rfl, fun _ h => by cases h⟩
  reason := fun _ h => by cases h
  rejections := by
    simp [Producing.start, ProducerRun.start, Point.uncounted]
  stopped := rfl

theorem quiet (h : Cuts settings source published flushed refused p)
    (jobId : next.run.jobId = p.run.jobId) (number : next.run.chunkNumber = p.run.chunkNumber)
    (unread : next.unread = p.unread)
    (beyond : next.point.isBeyond = false → p.point.isBeyond = false)
    (window : next.run.window.length < settings.chunkSize) (opening : next.point ≠ .opening false)
    (free : p.point.chunk? = none) (free' : next.point.chunk? = none)
    (lasts : p.point.isFailing = false) (lasts' : next.point.isFailing = false)
    (stopped : next.point.isStopped = false)
    (rejections : flushed' + next.point.uncounted + next.run.pendingErrors.length =
      flushed + p.point.uncounted + p.run.pendingErrors.length) :
    Cuts settings source published flushed' refused next where
  number := number.trans h.number
  slices := by
    rw [jobId]
    exact fun hbeyond => h.slices (beyond hbeyond)
  full := fun hbeyond => h.full (beyond hbeyond)
  window := fun _ => window
  filled := fun hopening => absurd hopening opening
  chunk := fun _ hchunk => by simp [free'] at hchunk
  tries := fun _ hretries => by simp [Point.attempts_of_chunk? free'] at hretries
  refusals := by
    intro _
    obtain ⟨few, here, later⟩ := h.refusals lasts
    rw [(Point.attempts_of_chunk? free).1] at here
    exact ⟨few, by rw [here, (Point.attempts_of_chunk? free').1], later⟩
  clean := by
    rw [unread]
    exact fun _ => h.clean lasts
  reason := fun _ hkept => by simp [Point.failure?_of_isFailing lasts'] at hkept
  rejections := by
    rw [rejections, unread]
    exact h.rejections
  stopped := stopped

theorem fail (h : Cuts settings source published flushed refused p) {reason : String}
    {unread : List RowEvent} (rest : settings.counted unread = settings.counted p.unread)
    (slices : published =
      Chunk.slices p.run.jobId settings.chunkSize (RowEvent.records source) published.length)
    (full : ∀ chunk ∈ published, chunk.records.length = settings.chunkSize)
    (opening : p.point ≠ .opening false) (counted : flushed' = flushed + p.point.uncounted)
    (breaks : BreakOff settings source refused' published.length reason) :
    Cuts settings source published flushed' refused' ⟨p.run, unread, .failing reason⟩ where
  number := h.number
  slices := fun _ => slices
  full := fun _ => full
  window := fun _ => h.window opening
  filled := fun hopening => by cases hopening
  chunk := fun _ hchunk => by cases hchunk
  tries := fun _ hretries => by cases hretries
  refusals := fun hlasts => by cases hlasts
  clean := fun hlasts => by cases hlasts
  reason := fun kept hkept => ⟨reason, (Option.some.inj hkept).symm, breaks⟩
  rejections := by
    have hrejections := h.rejections
    show flushed' + (0 : Nat) + p.run.pendingErrors.length + settings.counted unread = _
    omega
  stopped := rfl

section Events

variable {run : ProducerRun} {rest unread : List RowEvent}

/-- What has been read when a producer reads: no fault, and what is published or in the window. -/
theorem reading (h : Cuts settings source published flushed refused ⟨run, unread, .reading⟩)
    (reads : Reads settings source published flushed ⟨run, unread, .reading⟩) :
    ∃ read, source = read ++ unread ∧ (∀ e ∈ read, e.isFault = false) ∧
      RowEvent.records read = published.flatMap (·.records) ++ run.window := by
  obtain ⟨read, hsource, hclean⟩ := h.clean rfl
  refine ⟨read, hsource, hclean, ?_⟩
  have hrecords := reads.reading.1
  rw [hsource, RowEvent.records_append] at hrecords
  exact (List.append_cancel_right hrecords).symm

/-- The event has been taken, and the producer does not fail for it. -/
theorem took {event : RowEvent} {run' : ProducerRun} {point : Point}
    (h : Cuts settings source published flushed refused ⟨run, event :: rest, .reading⟩)
    (genuine : event.isFault = false)
    (jobId : run'.jobId = run.jobId) (number : run'.chunkNumber = run.chunkNumber)
    (window : point ≠ .opening false → run'.window.length < settings.chunkSize)
    (filled : point = .opening false → run'.window.length = settings.chunkSize)
    (rejections : run'.pendingErrors.length + settings.counted rest =
      run.pendingErrors.length + settings.counted (event :: rest))
    (point_ : point = .reading ∨ point = .opening false ∨ point = .flushing false) :
    Cuts settings source published flushed refused ⟨run', rest, point⟩ := by
  have plain : point.chunk? = none ∧ point.uncounted = 0 ∧ point.isBeyond = false ∧
      point.failure? = none ∧ point.isStopped = false := by
    rcases point_ with rfl | rfl | rfl <;> decide
  obtain ⟨hchunk, huncounted, hbeyond, hfailure, hstopped⟩ := plain
  obtain ⟨hattempts, hretries⟩ := Point.attempts_of_chunk? hchunk
  obtain ⟨read, hsource, hclean⟩ := h.clean rfl
  exact
    { number := number.trans h.number
      slices := by
        rw [jobId]
        exact fun _ => h.slices rfl
      full := fun _ => h.full rfl
      window, filled
      chunk := fun _ hc => by simp [hchunk] at hc
      tries := fun _ hr => by simp [hretries] at hr
      refusals := fun _ => by
        rw [hattempts]
        exact h.refusals rfl
      clean := fun _ => by
        refine ⟨read ++ [event], by rw [hsource, List.append_cons], ?_⟩
        intro e he
        rcases List.mem_append.mp he with he | he
        · exact hclean e he
        · rw [List.mem_singleton.mp he]
          exact genuine
      reason := fun _ hkept => by simp [hfailure] at hkept
      rejections := by
        have hrejections : flushed + (0 : Nat) + run.pendingErrors.length +
          settings.counted (event :: rest) = settings.counted source := h.rejections
        show flushed + point.uncounted + run'.pendingErrors.length + settings.counted rest = _
        omega
      stopped := hstopped }

theorem onEvent {event : RowEvent}
    (h : Cuts settings source published flushed refused ⟨run, event :: rest, .reading⟩)
    (reads : Reads settings source published flushed ⟨run, event :: rest, .reading⟩)
    (size : 1 ≤ settings.chunkSize) :
    Cuts settings source published flushed refused
      (Producing.onEvent settings run rest event) := by
  have hwindow : run.window.length < settings.chunkSize :=
    h.window fun hopening => by cases hopening
  cases event with
  | parsed record =>
    have hlength : (Producing.take record run).window.length = run.window.length + 1 :=
      List.length_append
    refine h.took rfl rfl rfl ?_ ?_ rfl ?_
    · split
      · exact fun hopening => absurd rfl hopening
      · omega
    · split
      · omega
      · exact fun hopening => by cases hopening
    · split
      · exact .inr (.inl rfl)
      · exact .inl rfl
  | rejected rowNumber message raw =>
    refine h.took rfl (ProducerRun.reject_jobId ..) ?_ ?_ ?_ (settings.counted_reject ..) ?_
    · unfold ProducerRun.reject
      cases settings.parseFailures <;> rfl
    · rw [ProducerRun.reject_window]
      exact fun _ => hwindow
    · split <;> exact fun hopening => by cases hopening
    · split
      · exact .inr (.inr rfl)
      · exact .inl rfl
  | fault fault =>
    obtain ⟨read, hsource, hclean, hread⟩ := h.reading reads
    refine h.fail rfl (h.slices rfl) (h.full rfl) (fun hopening => by cases hopening)
      (Int.add_zero _).symm (.fault ?_ ?_ (h.refusals rfl).1)
    · rw [hsource, RowEvent.firstFault?_append hclean]
      rfl
    · have hlength := congrArg List.length hread
      rw [List.length_append, Chunk.length_flatMap (h.full rfl)] at hlength
      rw [hsource, RowEvent.beforeFault_append hclean, hlength, Nat.add_comm,
        Nat.add_mul_div_right _ _ size, Nat.div_eq_of_lt hwindow, Nat.zero_add]

end Events

/-- After the rejected rows; a source without rows has not been published from. -/
theorem proceed (h : Cuts settings source published flushed refused p)
    (reads : Reads settings source published flushed p) {atEnd : Bool}
    (at_ : p.point = .flushing atEnd ∨ ∃ rejected, p.point = .counting atEnd rejected)
    (counted : flushed' = flushed + p.point.uncounted) :
    Cuts settings source published flushed' refused (p.proceed atEnd) := by
  have plain : p.point.chunk? = none ∧ p.point.isFailing = false ∧ p.point.isBeyond = atEnd ∧
      p.point.atEnd = atEnd ∧ p.point ≠ .opening false := by
    rcases at_ with at_ | ⟨rejected, at_⟩ <;> rw [at_] <;> simp [Point.chunk?, Point.isFailing,
      Point.isBeyond, Point.atEnd]
  obtain ⟨hchunk, hlasts, hbeyond, hend, hopening⟩ := plain
  have turned {q : Point} (beyond : q.isBeyond = atEnd) (opening : q ≠ .opening false)
      (chunk : q.chunk? = none) (lasts : q.isFailing = false) (stopped : q.isStopped = false)
      (uncounted : q.uncounted = 0) :
      Cuts settings source published flushed' refused (p.moveTo q) := by
    refine h.quiet rfl rfl rfl (fun hq => hbeyond.trans (beyond.symm.trans hq)) (h.window hopening)
      opening hchunk chunk hlasts lasts stopped ?_
    show flushed' + q.uncounted + _ = _
    rw [uncounted, counted]
    exact congrArg (· + _) (Int.add_zero _)
  unfold Producing.proceed
  cases atEnd with
  | false => exact turned rfl (fun hq => by cases hq) rfl rfl rfl rfl
  | true =>
    rw [if_pos rfl]
    split
    · rename_i hrows
      have hnone : published = [] := reads.published_eq_nil hrows
      subst hnone
      obtain ⟨read, hsource, hclean⟩ := h.clean hlasts
      refine h.fail rfl rfl (fun _ hc => by cases hc) hopening counted (.noRows ?_
        (h.refusals hlasts).1)
      rw [hsource, RowEvent.firstFault?_append hclean, reads.unread hend]
      rfl
    · exact turned rfl (fun hq => by cases hq) rfl rfl rfl rfl

theorem goes (h : Cuts settings source published flushed refused p)
    (reads : Reads settings source published flushed p) (size : 1 ≤ settings.chunkSize)
    (goes : Producing.Goes settings p next) :
    Cuts settings source published flushed refused next := by
  cases goes with
  | sourceEnded at_ _ =>
    refine h.quiet rfl rfl rfl ?_ (h.window (by rw [at_]; exact fun hq => by cases hq))
      (fun hq => by cases hq) ?_ rfl ?_ rfl rfl ?_
    all_goals rw [at_]
    exacts [fun _ => rfl, rfl, rfl, rfl]
  | taken at_ unread =>
    obtain ⟨run, rest, point⟩ := p
    obtain rfl : point = .reading := at_
    obtain rfl : rest = _ := unread
    exact h.onEvent reads size
  | nothingToPublish at_ empty =>
    refine h.quiet rfl rfl rfl ?_ ?_ (fun hq => by cases hq) ?_ rfl ?_ rfl rfl ?_
    case refine_2 =>
      show p.run.window.length < _
      rw [empty]
      exact size
    all_goals rw [at_]
    exacts [fun _ => rfl, rfl, rfl, rfl]
  | nothingToFlush at_ _ =>
    refine h.proceed reads (.inl at_) ?_
    rw [at_]
    exact (Int.add_zero _).symm

theorem openWindow (h : Cuts settings source published flushed refused p)
    (size : 1 ≤ settings.chunkSize) {atEnd : Bool} (at_ : p.point = .opening atEnd) :
    Cuts settings source published flushed refused
      { p with
        run := { p.run with window := [] }
        point := .publishing atEnd ⟨p.run.jobId, p.run.chunkNumber.toInt, p.run.window⟩ 0
          settings.publishRetries } := by
  obtain ⟨run, unread, point⟩ := p
  obtain rfl : point = .opening atEnd := at_
  exact
    { number := h.number
      slices := fun _ => h.slices rfl
      full := fun _ => h.full rfl
      window := fun _ => size
      filled := fun hopening => by cases hopening
      chunk := fun chunk hchunk => by
        obtain rfl := Option.some.inj hchunk
        refine ⟨congrArg Int32.toInt h.number, fun hend => ?_⟩
        obtain rfl : atEnd = false := hend
        exact h.filled rfl
      tries := fun retries hretries => by
        obtain rfl := Option.some.inj hretries
        exact Nat.zero_add _
      refusals := fun _ => h.refusals rfl
      clean := fun _ => h.clean rfl
      reason := fun _ hkept => by cases hkept
      rejections := h.rejections
      stopped := rfl }

theorem publish (h : Cuts settings source published flushed refused p)
    (reads : Reads settings source published flushed p) {atEnd : Bool} {chunk : Chunk}
    {attempts retries : Nat} (at_ : p.point = .publishing atEnd chunk attempts retries) :
    Cuts settings source (published ++ [chunk]) flushed refused
      { p with
        run := { p.run with chunkNumber := p.run.chunkNumber + 1 }
        point := .flushing atEnd } := by
  obtain ⟨run, unread, point⟩ := p
  obtain rfl : point = .publishing atEnd chunk attempts retries := at_
  obtain ⟨hnumber, hlength⟩ := h.chunk chunk rfl
  obtain ⟨few, here, later⟩ := h.refusals rfl
  obtain ⟨lost, hlost, hrecords⟩ := reads.records
  obtain rfl : lost = [] := Classical.not_not.mp fun hne => nomatch hlost hne
  have hcount : (published ++ [chunk]).length = published.length + 1 := List.length_append
  exact
    { number := by
        rw [hcount, Int32.ofNat_add]
        exact congrArg (· + 1) h.number
      slices := by
        rintro rfl
        rw [hcount]
        have parts : published.flatMap (·.records) ++ chunk.records ++
            (run.window ++ RowEvent.records unread) = RowEvent.records source := by
          rw [← hrecords]
          simp [Point.inHand, Point.chunk?]
        exact Chunk.slices_concat (h.slices rfl) (h.full rfl) (reads.chunk chunk rfl).1 hnumber
          (hlength rfl) parts
      full := by
        rintro rfl c hc
        rcases List.mem_append.mp hc with hc | hc
        · exact h.full rfl c hc
        · rw [List.mem_singleton.mp hc]
          exact hlength rfl
      window := fun _ => h.window fun hopening => by cases hopening
      filled := fun hopening => by cases hopening
      chunk := fun _ hc => by cases hc
      tries := fun _ hretries => by cases hretries
      refusals := by
        intro _
        rw [hcount]
        exact ⟨few, later _ (Nat.lt_succ_self _), fun n hn => later n (Nat.lt_of_succ_lt hn)⟩
      clean := fun _ => h.clean rfl
      reason := fun _ hkept => by cases hkept
      rejections := h.rejections
      stopped := rfl }

/-- The chunk in hand has been refused, and may be refused again. -/
theorem refuse (h : Cuts settings source published flushed refused p) {atEnd : Bool}
    {chunk : Chunk} {attempts retries : Nat}
    (at_ : p.point = .publishing atEnd chunk attempts (retries + 1))
    (hears : p.point.Hears (.pausing atEnd chunk (attempts + 1) retries) place refused refused')
    (placed : place chunk = published.length) :
    Cuts settings source published flushed refused'
      (p.moveTo (.pausing atEnd chunk (attempts + 1) retries)) := by
  obtain ⟨run, unread, point⟩ := p
  obtain rfl : point = .publishing atEnd chunk attempts (retries + 1) := at_
  obtain ⟨hnumber, hlength⟩ := h.chunk chunk rfl
  obtain ⟨few, here, later⟩ := h.refusals rfl
  have htries : attempts + (retries + 1) = settings.publishRetries := h.tries _ rfl
  have hcount (n : Nat) : refused' n = refused n + if published.length = n then 1 else 0 := by
    rw [hears.count]
    simp [Point.refusal?, placed]
  have hhere : refused published.length = attempts := here
  exact
    { number := h.number
      slices := fun _ => h.slices rfl
      full := fun _ => h.full rfl
      window := fun _ => h.window fun hopening => by cases hopening
      filled := fun hopening => by cases hopening
      chunk := h.chunk
      tries := by
        intro left hleft
        obtain rfl := Option.some.inj hleft
        show attempts + 1 + retries = _
        omega
      refusals := by
        intro _
        refine ⟨?_, ?_, ?_⟩
        · intro n
          rw [hcount]
          split
          · rename_i hn
            rw [← hn, hhere]
            omega
          · exact few n
        · rw [hcount, if_pos rfl, hhere]
          rfl
        · intro n hn
          rw [hcount, if_neg (by omega)]
          exact later n hn
      clean := fun _ => h.clean rfl
      reason := fun _ hkept => by cases hkept
      rejections := h.rejections
      stopped := rfl }

theorem giveUp (h : Cuts settings source published flushed refused p) {atEnd : Bool} {chunk : Chunk}
    {attempts : Nat} {reason : String} (at_ : p.point = .publishing atEnd chunk attempts 0)
    (hears : p.point.Hears (.failing reason) place refused refused')
    (placed : place chunk = published.length) :
    Cuts settings source published flushed refused' (p.moveTo (.failing reason)) := by
  have hreason := hears.closed at_ rfl
  obtain ⟨run, unread, point⟩ := p
  obtain rfl : point = .publishing atEnd chunk attempts 0 := at_
  obtain ⟨hnumber, -⟩ := h.chunk chunk rfl
  obtain ⟨few, here, -⟩ := h.refusals rfl
  have htries : attempts = settings.publishRetries := h.tries 0 rfl
  have hcount (n : Nat) : refused' n = refused n + if published.length = n then 1 else 0 := by
    rw [hears.count]
    simp [Point.refusal?, placed]
  refine h.fail rfl (h.slices rfl) (h.full rfl) (fun hopening => by cases hopening)
    (Int.add_zero _).symm ?_
  rw [hreason, hnumber, htries]
  refine .refused ?_ ?_
  · rw [hcount, if_pos rfl, here, ← htries]
    rfl
  · intro n hn
    rw [hcount, if_neg (by omega)]
    exact few n

theorem finalTurn (h : Cuts settings source published flushed refused p) {q : Point}
    (final : p.point.isFinal = true) (final_ : q.isFinal = true) :
    Cuts settings source published flushed refused (p.moveTo q) := by
  have plain {point : Point} (hfinal : point.isFinal = true) : point.chunk? = none ∧
      point.uncounted = 0 ∧ point.isFailing = false ∧ point.isBeyond = true ∧
      point.isStopped = false ∧ point ≠ .opening false := by
    unfold Point.isFinal at hfinal
    split at hfinal
    · decide
    · decide
    · decide
    · decide
    · cases hfinal
  obtain ⟨chunk, uncounted, lasts, beyond, -, opening⟩ := plain final
  obtain ⟨chunk', uncounted', lasts', beyond', stopped', opening'⟩ := plain final_
  refine h.quiet rfl rfl rfl ?_ (h.window opening) opening' chunk chunk' lasts lasts' stopped' ?_
  · exact fun hq => by simp [Producing.moveTo, beyond'] at hq
  · show flushed + q.uncounted + _ = _
    rw [uncounted', uncounted]
    rfl

theorem resume (h : Cuts settings source published flushed refused p) {atEnd : Bool}
    {chunk : Chunk} {attempts retries : Nat}
    (at_ : p.point = .pausing atEnd chunk attempts retries) :
    Cuts settings source published flushed refused
      (p.moveTo (.publishing atEnd chunk attempts retries)) := by
  obtain ⟨run, unread, point⟩ := p
  obtain rfl : point = .pausing atEnd chunk attempts retries := at_
  exact
    { number := h.number
      slices := fun _ => h.slices rfl
      full := fun _ => h.full rfl
      window := fun _ => h.window fun hopening => by cases hopening
      filled := fun hopening => by cases hopening
      chunk := h.chunk
      tries := h.tries
      refusals := fun _ => h.refusals rfl
      clean := fun _ => h.clean rfl
      reason := fun _ hkept => by cases hkept
      rejections := h.rejections
      stopped := rfl }

theorem log (h : Cuts settings source published flushed refused p) {atEnd : Bool}
    (at_ : p.point = .flushing atEnd) :
    Cuts settings source published flushed refused
      { p with
        run := { p.run with pendingErrors := [] }
        point := .counting atEnd p.run.pendingErrors.length } := by
  obtain ⟨run, unread, point⟩ := p
  obtain rfl : point = .flushing atEnd := at_
  refine h.quiet rfl rfl rfl (fun hq => hq) (h.window fun hq => by cases hq) (fun hq => by cases hq)
    rfl rfl rfl rfl rfl ?_
  show flushed + run.pendingErrors.length + (0 : Nat) =
    flushed + (0 : Nat) + run.pendingErrors.length
  omega

theorem failed (h : Cuts settings source published flushed refused p) {reason : String}
    (at_ : p.point = .failing reason) :
    Cuts settings source published flushed refused
      (p.moveTo (.ended (.failed (Text.boundedErrorMessage reason)))) := by
  obtain ⟨run, unread, point⟩ := p
  obtain rfl : point = .failing reason := at_
  exact
    { number := h.number
      slices := fun _ => h.slices rfl
      full := fun _ => h.full rfl
      window := fun _ => h.window fun hopening => by cases hopening
      filled := fun hopening => by cases hopening
      chunk := fun _ hc => by cases hc
      tries := fun _ hretries => by cases hretries
      refusals := fun hlasts => by cases hlasts
      clean := fun hlasts => by cases hlasts
      reason := h.reason
      rejections := h.rejections
      stopped := rfl }

theorem asks (h : Cuts settings source published flushed refused p)
    (reads : Reads settings source published flushed p) (size : 1 ≤ settings.chunkSize)
    {w : Concurrency.World} {job : Job} {c : Call} {answer : c.Answer}
    (asks : Producing.Asks settings p c answer next) (available : w.Available)
    (known : w.jobs.get? p.run.jobId = some job)
    (live : p.point.isTotalled = false → p.point.isFailed = false → job.status = .processing)
    (replies : (∀ chunk, c ≠ .publish chunk) → (w.answer c).1 = answer)
    (hears : p.point.Hears next.point place refused refused')
    (placed : ∀ chunk, chunk.jobId = p.run.jobId → place chunk = published.length) :
    Cuts settings source (published ++ (c.published? answer).toList) (flushed + c.rows answer)
      refused' next := by
  -- the calls that neither bring a chunk onto the bus or back from it nor rows into the counters
  have quiet (h' : Cuts settings source published flushed refused next)
      (published_ : c.published? answer = none) (rows : c.rows answer = 0)
      (silent : p.point.refusal? next.point = none) :
      Cuts settings source (published ++ (c.published? answer).toList) (flushed + c.rows answer)
        refused' next := by
    rw [published_, rows, Option.toList_none, List.append_nil, Int.add_zero, hears.quiet silent]
    exact h'
  have found {atEnd : Bool} (at_ : p.point = .opening atEnd) : job.status = .processing :=
    live (by rw [at_]; rfl) (by rw [at_]; rfl)
  cases asks with
  | jobUnavailable _ _ => cases replies fun _ hc => by cases hc
  | jobGone _ _ =>
    have hanswer := replies fun _ hc => by cases hc
    rw [Concurrency.World.answer_getJob, known] at hanswer
    cases hanswer
  | processing at_ _ _ =>
    exact quiet (h.openWindow size at_) rfl rfl (Point.refusal?_of_chunk? (by rw [at_]; rfl))
  | cancelled at_ _ status =>
    have hanswer := replies fun _ hc => by cases hc
    rw [Concurrency.World.answer_getJob, known] at hanswer
    obtain rfl := Option.some.inj (Except.ok.inj hanswer)
    rw [found at_] at status
    cases status
  | inactive at_ _ processing _ =>
    have hanswer := replies fun _ hc => by cases hc
    rw [Concurrency.World.answer_getJob, known] at hanswer
    obtain rfl := Option.some.inj (Except.ok.inj hanswer)
    exact absurd (found at_) processing
  | published at_ =>
    rw [show Call.rows (.publish _) (.ok ()) = 0 from rfl, Int.add_zero,
      hears.quiet (by rw [at_]; rfl)]
    exact h.publish reads at_
  | notPublished at_ =>
    rw [show Call.rows (.publish _) (.error _) = 0 from rfl, Int.add_zero,
      show Call.published? (.publish _) (.error _) = none from rfl, Option.toList_none,
      List.append_nil]
    exact h.giveUp at_ hears (placed _ (reads.chunk _ (by rw [at_]; rfl)).1)
  | publishedAgain at_ =>
    rw [show Call.rows (.publish _) (.error _) = 0 from rfl, Int.add_zero,
      show Call.published? (.publish _) (.error _) = none from rfl, Option.toList_none,
      List.append_nil]
    exact h.refuse at_ hears (placed _ (reads.chunk _ (by rw [at_]; rfl)).1)
  | paused at_ => exact quiet (h.resume at_) rfl rfl (by rw [at_]; rfl)
  | logged at_ _ =>
    exact quiet (h.log at_) rfl rfl (Point.refusal?_of_chunk? (by rw [at_]; rfl))
  | uncounted _ =>
    have hanswer := replies fun _ hc => by cases hc
    exact absurd hanswer (available.increment known _ _ _)
  | @counted atEnd rejected _ at_ =>
    rw [show Call.published? (.increment _ _ _) (.ok _) = none from rfl, Option.toList_none,
      List.append_nil, hears.quiet (Point.refusal?_of_chunk? (by rw [at_]; rfl))]
    refine h.proceed reads (.inr ⟨rejected, at_⟩) ?_
    rw [at_]
    exact congrArg (flushed + ·) (Int.zero_add _)
  | notTotalled _ => cases replies fun _ hc => by cases hc
  | totalled at_ =>
    exact quiet (h.finalTurn (by rw [at_]; rfl) rfl) rfl rfl
      (Point.refusal?_of_chunk? (by rw [at_]; rfl))
  | unchecked _ => cases replies fun _ hc => by cases hc
  | notDone at_ =>
    exact quiet (h.finalTurn (by rw [at_]; rfl) rfl) rfl rfl
      (Point.refusal?_of_chunk? (by rw [at_]; rfl))
  | completed at_ =>
    exact quiet (h.finalTurn (by rw [at_]; rfl) rfl) rfl rfl
      (Point.refusal?_of_chunk? (by rw [at_]; rfl))
  | unconfirmed _ => cases replies fun _ hc => by cases hc
  | confirmed at_ =>
    exact quiet (h.finalTurn (by rw [at_]; rfl) rfl) rfl rfl
      (Point.refusal?_of_chunk? (by rw [at_]; rfl))
  | stopped at_ =>
    have hstopped := h.stopped
    rw [at_] at hstopped
    cases hstopped
  | failed at_ =>
    exact quiet (h.failed at_) rfl rfl (Point.refusal?_of_chunk? (by rw [at_]; rfl))

end Cuts

end CatalogIntake
