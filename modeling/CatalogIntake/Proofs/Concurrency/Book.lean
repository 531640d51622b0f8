import CatalogIntake.Proofs.Concurrency.Ledger

/-!
One import among many. Its book holds all that the others can see of it: its job, the chunks that
were published and counted for it, and the rejected rows that its producer has counted. Seen from
one import, a step of the system is a move of its producer, a call of a worker with one of its
chunks, a cancellation, or nothing at all.
-/

namespace CatalogIntake

def Call.jobId? : Call → Option JobId
  | .getJob id | .finalizeTotal id _ | .increment id _ _ | .completeIfDone id | .failJob id _
  | .cancelJob id => some id
  | _ => none

def Call.isCreate : Call → Bool
  | .createJob _ => true
  | _ => false

def Job.after (now : Instant) : (c : Call) → c.Answer → Job → Job
  | .finalizeTotal _ total, _ => Job.totalled total
  | .increment _ processed failed, .ok _ => Job.counted processed failed
  | .completeIfDone _, _ => Job.checked now
  | .failJob _ reason, _ => Job.finished .failed (some reason) now
  | .cancelJob _, _ => Job.finished .cancelled none now
  | _, _ => fun job => job

theorem Stage.Asks.jobId {chunk : Chunk} {stage next : Stage} {c : Call} {answer : c.Answer}
    (h : Stage.Asks chunk stage c answer next) :
    (c.jobId? = some chunk.jobId ∨ c.jobId? = none) ∧ c.isCreate = false ∧
      c.published? answer = none := by
  cases h <;> first | exact ⟨.inl rfl, rfl, rfl⟩ | exact ⟨.inr rfl, rfl, rfl⟩

theorem Producing.Asks.callJobId {settings : ImportSettings} {p next : Producing} {c : Call}
    {answer : c.Answer} (h : Producing.Asks settings p c answer next) :
    (c.jobId? = some p.run.jobId ∨ c.jobId? = none) ∧ c.isCreate = false := by
  cases h <;> first | exact ⟨.inl rfl, rfl⟩ | exact ⟨.inr rfl, rfl⟩

namespace Concurrency

theorem World.get?_answer (w : World) {c : Call} (create : c.isCreate = false) (id : JobId) :
    (w.answer c).2.jobs.get? id =
      if c.jobId? = some id then (w.jobs.get? id).map (Job.after w.now c (w.answer c).1)
      else w.jobs.get? id := by
  cases c with
  | createJob job => cases create
  | getJob id' =>
    rw [answer_getJob]
    simp [Job.after]
  | finalizeTotal id' total =>
    rw [answer_finalizeTotal]
    simp [Call.jobId?, Job.after, JobTable.get?_finalizeTotal, eq_comm]
  | increment id' processed failed =>
    rw [answer_increment]
    simp only [JobTable.get?_increment, JobTable.fst_increment, Call.jobId?, Option.some.injEq]
    by_cases hid : id' = id
    · subst hid
      cases havailable : w.jobs.progressAvailable with
      | false => simp [Job.after, Outcome.fail]
      | true => cases hget : w.jobs.get? id' <;> simp [Job.after]
    · have hne : ¬id = id' := fun h => hid h.symm
      simp [hid, hne]
  | completeIfDone id' =>
    rw [answer_completeIfDone]
    simp [Call.jobId?, Job.after, JobTable.get?_completeIfDone, eq_comm]
  | failJob id' reason =>
    rw [answer_failJob]
    simp [Call.jobId?, Job.after, JobTable.fail, JobTable.get?_finish, eq_comm]
  | cancelJob id' =>
    rw [answer_cancelJob]
    simp [Call.jobId?, Job.after, JobTable.cancel, JobTable.get?_finish, eq_comm]
  | _ => rfl

def Event.flushed (id : JobId) : Event → Int
  | asked _ c answer => if c.jobId? = some id then c.rows answer else 0
  | _ => 0

structure Book where
  job : Option Job
  published : List Chunk
  counted : List Chunk
  flushed : Int

namespace Book

def asked (b : Book) (now : Instant) (c : Call) (answer : c.Answer) : Book :=
  { b with
    job := b.job.map (Job.after now c answer)
    published := b.published ++ (c.published? answer).toList
    flushed := b.flushed + c.rows answer }

def handled (b : Book) (now : Instant) (chunk : Chunk) (c : Call) (answer : c.Answer) : Book :=
  { b with
    job := b.job.map (Job.after now c answer)
    counted := b.counted ++ if c.counts answer then [chunk] else [] }

def cancelled (b : Book) (now : Instant) : Book :=
  { b with job := b.job.map (Job.finished .cancelled none now) }

end Book

namespace System

def published (s : System) (id : JobId) : List Chunk := s.taken.filter (·.jobId = id)

def countedFor (s : System) (id : JobId) : List Chunk := s.counted.filter (·.jobId = id)

def flushed (s : System) (id : JobId) : Int := (s.history.map (Event.flushed id)).sum

def book (s : System) (id : JobId) : Book :=
  ⟨s.world.jobs.get? id, s.published id, s.countedFor id, s.flushed id⟩

/-- What a step means to the import of the producer `p`, which becomes `p'`. -/
inductive Turn (s : System) (a : Action) (s' : System) (p p' : Producer) (b : Book) : Book → Prop
  | rested (state : p'.state = p.state) : Turn s a s' p p' b b
  | went (goes : Producing.Goes p.settings p.state p'.state) : Turn s a s' p p' b b
  | asked {c : Call} {answer : c.Answer}
      (asks : Producing.Asks p.settings p.state c answer p'.state)
      (replies : (∀ chunk, c ≠ .publish chunk) → (s.world.answer c).1 = answer)
      (taken : (∃ chunk, c = .publish chunk) → s.world.bus.closed = false →
        (c.published? answer).isSome = true) :
      Turn s a s' p p' b (b.asked s.world.now c answer)
  | handled {j : Nat} {w w' : Worker} {d : Delivery} {stage next : Stage} {c : Call}
      {answer : c.Answer} (state : p'.state = p.state) (at_ : s.workers[j]? = some w)
      (busy : w.duty = .busy d stage) (own : d.chunk.jobId = p.jobId)
      (asks : Stage.Asks d.chunk stage c answer next) (replies : (s.world.answer c).1 = answer)
      (next_ : s'.workers[j]? = some w') (busy' : w'.duty = .busy d next) :
      Turn s a s' p p' b (b.handled s.world.now d.chunk c answer)
  | cancelled (state : p'.state = p.state) (action : a = .cancel p.jobId) :
      Turn s a s' p p' b (b.cancelled s.world.now)

section Views

variable (s : System) (i j : Nat) (p : Producer) (w : Worker) (e : Event) (bus : Bus) (id : JobId)

@[simp] theorem book_setProducer : (s.setProducer i p).book id = s.book id := rfl

@[simp] theorem book_setWorker : (s.setWorker j w).book id = s.book id := rfl

@[simp] theorem book_setBus : (s.setBus bus).book id = s.book id := rfl

@[simp] theorem book_letIn (ticket : Option Nat) : (s.letIn ticket).book id = s.book id := by
  unfold letIn
  split
  · rfl
  · split <;> rfl

theorem book_record : (s.record e).book id =
    ⟨s.world.jobs.get? id,
      s.published id ++ (e.taken?.toList.filter (·.jobId = id)),
      s.countedFor id ++ (e.counted?.toList.filter (·.jobId = id)),
      s.flushed id + e.flushed id⟩ := by
  simp only [book, published, countedFor, flushed, taken, counted, record, filterMap_concat,
    List.filter_append, List.map_append, List.sum_append, List.map_cons, List.map_nil,
    List.sum_cons, List.sum_nil, Int.add_zero]

end Views

/-- An event that concerns another job leaves the book as it is. -/
theorem book_record_of_other {s : System} {e : Event} {id : JobId}
    (taken_ : ∀ c, e.taken? = some c → c.jobId ≠ id)
    (counted_ : ∀ c, e.counted? = some c → c.jobId ≠ id) (flushed_ : e.flushed id = 0) :
    (s.record e).book id = s.book id := by
  have nothing {o : Option Chunk} (h : ∀ c, o = some c → c.jobId ≠ id) :
      o.toList.filter (·.jobId = id) = [] := by
    cases o with
    | none => rfl
    | some c => simpa using h c rfl
  rw [book_record, nothing taken_, nothing counted_, flushed_]
  simp [book]

theorem getElem?_setProducer {s : System} {k : Nat} {p q : Producer}
    (at_ : s.producers[k]? = some p) (i : Nat) :
    (s.setProducer k q).producers[i]? = if i = k then some q else s.producers[i]? := by
  have hlt : k < s.producers.length := (List.getElem?_eq_some_iff.mp at_).1
  unfold setProducer
  rw [List.getElem?_set]
  by_cases h : i = k
  · subst h
    simp [hlt]
  · have hne : ¬k = i := fun hki => h hki.symm
    simp [h, hne]

/-- The producers have different jobs, and these are in the table; the chunk that one is about to
publish is for its own job. The book of an unknown job is blank. -/
structure Registered (s : System) : Prop where
  distinct : ∀ {i k : Nat} {p q : Producer}, s.producers[i]? = some p →
    s.producers[k]? = some q → p.jobId = q.jobId → i = k
  known : ∀ {i : Nat} {p : Producer}, s.producers[i]? = some p →
    (s.world.jobs.get? p.jobId).isSome = true
  own : ∀ {i : Nat} {p : Producer} {chunk : Chunk}, s.producers[i]? = some p →
    p.state.point.chunk? = some chunk → chunk.jobId = p.jobId
  blank : ∀ {id : JobId}, s.world.jobs.get? id = none → s.book id = ⟨none, [], [], 0⟩

/-- The producer after a step, and what the step means to its import: a turn of some kind. -/
def Continues (T : Producer → Producer → Book → Book → Prop) (s s' : System) (i : Nat)
    (p : Producer) : Prop :=
  ∃ p', s'.producers[i]? = some p' ∧ p'.settings = p.settings ∧ p'.source = p.source ∧
    p'.jobId = p.jobId ∧ T p p' (s.book p.jobId) (s'.book p.jobId)

section Steps

variable {a : Action} {s s' : System} {i k : Nat} {p q : Producer}

theorem book_of_world {world : World} {producers : List Producer} {id : JobId}
    (get : world.jobs.get? id = s.world.jobs.get? id) :
    System.book { s with world, producers } id = s.book id := by
  show Book.mk (world.jobs.get? id) _ _ _ = _
  rw [get]
  rfl

theorem get?_started {id jobId : JobId} (other : id ≠ jobId) :
    (s.world.jobs.create (Job.started jobId s.world.now)).2.get? id = s.world.jobs.get? id := by
  rw [JobTable.get?_create, if_neg]
  exact fun h => other h.1

theorem get?_started_self {jobId : JobId} (fresh : s.world.jobs.get? jobId = none) :
    (s.world.jobs.create (Job.started jobId s.world.now)).2.get? jobId =
      some (Job.started jobId s.world.now) := by
  rw [JobTable.get?_create]
  exact if_pos ⟨rfl, fresh⟩

theorem continues_of_same {T : Producer → Producer → Book → Book → Prop}
    (rested : ∀ p b, T p p b b) (at_ : s'.producers[i]? = some p)
    (book : s'.book p.jobId = s.book p.jobId) : Continues T s s' i p := by
  refine ⟨p, at_, rfl, rfl, rfl, ?_⟩
  rw [book]
  exact rested p _

theorem get?_of_answer {c : Call} {answer : c.Answer} {world : World}
    (replies : s.world.answer c = (answer, world)) (create : c.isCreate = false) (id : JobId) :
    world.jobs.get? id =
      if c.jobId? = some id then (s.world.jobs.get? id).map (Job.after s.world.now c answer)
      else s.world.jobs.get? id := by
  have h := World.get?_answer s.world create id
  rw [replies] at h
  exact h

theorem after_of_none {c : Call} (h : c.jobId? = none) (now : Instant) (answer : c.Answer) :
    Job.after now c answer = fun job => job := by
  cases c <;> first | rfl | cases h

theorem get?_of_own_answer {c : Call} {answer : c.Answer} {world : World} {id : JobId}
    (replies : s.world.answer c = (answer, world)) (create : c.isCreate = false)
    (own : c.jobId? = some id ∨ c.jobId? = none) :
    world.jobs.get? id = (s.world.jobs.get? id).map (Job.after s.world.now c answer) := by
  rw [get?_of_answer replies create]
  rcases own with own | own
  · rw [if_pos own]
  · rw [own, if_neg (by exact fun h => nomatch h), after_of_none own]
    exact Option.map_id'.symm

theorem get?_of_other_answer {c : Call} {answer : c.Answer} {world : World} {id other : JobId}
    (replies : s.world.answer c = (answer, world)) (create : c.isCreate = false)
    (own : c.jobId? = some other ∨ c.jobId? = none) (ne : other ≠ id) :
    c.jobId? ≠ some id ∧ world.jobs.get? id = s.world.jobs.get? id := by
  have hne : c.jobId? ≠ some id := by
    rcases own with own | own
    · rw [own]
      exact fun h => ne (Option.some.inj h)
    · rw [own]
      exact fun h => nomatch h
  exact ⟨hne, (get?_of_answer replies create id).trans (if_neg hne)⟩

theorem book_of_other_asks {c : Call} {answer : c.Answer} {world : World} {state : Producing}
    {id : JobId} (other : q.jobId ≠ id) (replies : s.world.answer c = (answer, world))
    (asks : Producing.Asks q.settings q.state c answer state) :
    ({ s with world }.record (.asked k c answer)).book id = s.book id := by
  obtain ⟨hid, hcreate⟩ := asks.callJobId
  obtain ⟨hne, hget⟩ := get?_of_other_answer replies hcreate hid other
  refine (book_record_of_other ?_ ?_ ?_).trans ?_
  · exact fun _ h => by cases h
  · exact fun _ h => by cases h
  · exact if_neg hne
  · show Book.mk (world.jobs.get? id) _ _ _ = _
    rw [hget]
    rfl

theorem book_of_own_asks {c : Call} {answer : c.Answer} {world : World} {state : Producing}
    (store : ∀ chunk, c ≠ .publish chunk) (replies : s.world.answer c = (answer, world))
    (asks : Producing.Asks p.settings p.state c answer state) :
    ({ s with world }.record (.asked k c answer)).book p.jobId =
      (s.book p.jobId).asked s.world.now c answer := by
  obtain ⟨hid, hcreate⟩ := asks.callJobId
  have hget := get?_of_own_answer replies hcreate hid
  have hpublished : c.published? answer = none := by
    cases c with
    | publish chunk => exact absurd rfl (store chunk)
    | _ => rfl
  have hrows : Event.flushed p.jobId (.asked k c answer) = c.rows answer := by
    show (if c.jobId? = some p.jobId then c.rows answer else 0) = c.rows answer
    rcases hid with hid | hid
    · exact if_pos hid
    · rw [if_neg (by rw [hid]; exact fun h => nomatch h)]
      cases c <;> first | rfl | cases hid
  rw [book_record, hrows]
  unfold Book.asked
  rw [hpublished]
  show Book.mk (world.jobs.get? _) _ _ _ = _
  rw [show p.jobId = p.state.run.jobId from rfl, hget]
  simp [book, Event.taken?, Event.counted?, published, countedFor, taken, counted, flushed]

theorem book_of_published {bus : Bus} {chunk : Chunk} {id : JobId} :
    ((s.setBus bus).record (.taken k chunk)).book id =
      if chunk.jobId = id then (s.book id).asked s.world.now (.publish chunk) (.ok ())
      else s.book id := by
  rw [book_record]
  by_cases hid : chunk.jobId = id
  · rw [if_pos hid]
    simp [book, Book.asked, Event.taken?, Event.counted?, Event.flushed, hid, Call.published?,
      Job.after, published, countedFor, taken, counted, flushed, setBus]
  · rw [if_neg hid]
    simp [book, Event.taken?, Event.counted?, Event.flushed, hid, published, countedFor, taken,
      counted, flushed, setBus]

theorem book_of_handled {d : Delivery} {stage next : Stage} {c : Call} {answer : c.Answer}
    {world : World} {id : JobId} (replies : s.world.answer c = (answer, world))
    (asks : Stage.Asks d.chunk stage c answer next) :
    ({ s with world }.record (.handled k d c answer)).book id =
      if d.chunk.jobId = id then (s.book id).handled s.world.now d.chunk c answer
      else s.book id := by
  obtain ⟨hid, hcreate, -⟩ := asks.jobId
  by_cases hchunk : d.chunk.jobId = id
  · rw [if_pos hchunk, book_record]
    have hget := get?_of_own_answer replies hcreate hid
    rw [hchunk] at hget
    show Book.mk (world.jobs.get? _) _ _ _ = _
    rw [hget]
    cases hcounts : c.counts answer <;>
      simp [book, Book.handled, Event.taken?, Event.counted?, Event.flushed, hcounts, hchunk,
        published, countedFor, taken, counted, flushed]
  · rw [if_neg hchunk]
    obtain ⟨-, hget⟩ := get?_of_other_answer replies hcreate hid hchunk
    refine (book_record_of_other ?_ ?_ rfl).trans ?_
    · exact fun _ h => by cases h
    · intro c' h
      simp only [Event.counted?] at h
      split at h
      · obtain rfl := Option.some.inj h
        exact hchunk
      · cases h
    · show Book.mk (world.jobs.get? id) _ _ _ = _
      rw [hget]
      rfl

theorem continues_of_producer {T : Producer → Producer → Book → Book → Prop} {q' : Producer}
    (rested : ∀ p b, T p p b b) (registered : s.Registered) (hq : s.producers[k]? = some q)
    (at_ : s.producers[i]? = some p)
    (producers : ∀ i, s'.producers[i]? = if i = k then some q' else s.producers[i]?)
    (settings : q'.settings = q.settings) (source : q'.source = q.source)
    (jobId : q'.jobId = q.jobId)
    (turn : T q q' (s.book q.jobId) (s'.book q.jobId))
    (others : ∀ id, q.jobId ≠ id → s'.book id = s.book id) : Continues T s s' i p := by
  by_cases hik : i = k
  · subst hik
    obtain rfl : q = p := Option.some.inj (hq.symm.trans at_)
    exact ⟨q', (producers i).trans (if_pos rfl), settings, source, jobId, turn⟩
  · refine continues_of_same rested (((producers i).trans (if_neg hik)).trans at_) (others _ ?_)
    exact fun hid => hik (registered.distinct at_ hq hid.symm)

theorem getElem?_letIn (ticket : Option Nat) (at_ : s.producers[i]? = some p) :
    ∃ waiting, (s.letIn ticket).producers[i]? = some { p with waiting } := by
  unfold letIn
  split
  · exact ⟨p.waiting, at_⟩
  · rename_i k
    split
    · rename_i q hq
      rw [getElem?_setProducer hq]
      by_cases hik : i = k
      · subst hik
        obtain rfl : q = p := Option.some.inj (hq.symm.trans at_)
        exact ⟨false, if_pos rfl⟩
      · exact ⟨p.waiting, (if_neg hik).trans at_⟩
    · exact ⟨p.waiting, at_⟩

theorem Step.continues (step : Step s a s') (registered : s.Registered)
    (at_ : s.producers[i]? = some p) : Continues (Turn s a s') s s' i p := by
  have rested (p : Producer) (b : Book) : Turn s a s' p p b b := .rested rfl
  -- only calls of the producer itself, of workers with its chunks and a cancellation reach the book
  cases step with
  | read hq =>
    exact continues_of_producer rested registered hq at_ (getElem?_setProducer hq) rfl rfl rfl
      (.rested rfl) fun _ _ => rfl
  | go hq _ goes =>
    exact continues_of_producer rested registered hq at_ (getElem?_setProducer hq) rfl rfl
      goes.jobId (.went goes) fun _ _ => rfl
  | @refused k q chunk state hq _ hclosed asks =>
    have hbook (id : JobId) :
        (s.record (.asked k (.publish chunk) (.fail .busClosed))).book id = s.book id :=
      book_record_of_other (fun _ h => by cases h) (fun _ h => by cases h) rfl
    refine continues_of_producer rested registered hq at_ (getElem?_setProducer hq) rfl rfl
      asks.jobId ?_ fun id _ => hbook id
    rw [book_setProducer, hbook]
    have hturn : Turn s (.produce k)
        ((s.record (.asked k (.publish chunk) (.fail .busClosed))).setProducer k (q.goTo state))
        q (q.goTo state) (s.book q.jobId)
        ((s.book q.jobId).asked s.world.now (.publish chunk) (.fail .busClosed)) :=
      .asked asks (fun hc => absurd rfl (hc chunk)) fun _ hopen => by
        rw [hclosed] at hopen
        cases hopen
    simpa [Book.asked, Call.published?, Job.after, Outcome.fail] using hturn
  | @published k q q' chunk state _ bus hq _ _ _ asks moved =>
    obtain ⟨atEnd, attempts, retries, hpoint⟩ : ∃ atEnd attempts retries,
        q.state.point = .publishing atEnd chunk attempts retries := by
      cases asks with
      | published hpoint => exact ⟨_, _, _, hpoint⟩
    have hown : chunk.jobId = q.jobId := registered.own hq (by rw [hpoint]; rfl)
    rw [moved]
    refine continues_of_producer (fun _ _ => .rested rfl) registered hq at_
      (getElem?_setProducer hq) rfl rfl asks.jobId ?_ ?_
    · rw [book_setProducer, book_of_published, if_pos hown]
      exact .asked asks (fun hc => absurd rfl (hc chunk)) fun _ _ => rfl
    · intro id hid
      rw [book_setProducer, book_of_published, if_neg (by rw [hown]; exact hid)]
  | asked hq _ store replies asks =>
    refine continues_of_producer rested registered hq at_ (getElem?_setProducer hq) rfl rfl
      asks.jobId ?_ ?_
    · rw [book_setProducer, book_of_own_asks store replies asks]
      refine .asked asks (fun _ => by rw [replies]) ?_
      rintro ⟨chunk, hc⟩
      exact absurd hc (store chunk)
    · intro id hid
      rw [book_setProducer, book_of_other_asks hid replies asks]
  | @received j w d admitted bus _ _ _ =>
    obtain ⟨waiting, hat⟩ := getElem?_letIn (s := s.setBus bus) admitted at_
    refine ⟨{ p with waiting }, hat, rfl, rfl, rfl, ?_⟩
    rw [book_setWorker, book_letIn, book_setBus]
    exact .rested rfl
  | left _ _ _ => exact continues_of_same rested at_ rfl
  | thought _ _ _ => exact continues_of_same rested at_ rfl
  | @handled j w d stage next c answer world hw busy replies asks =>
    refine ⟨p, at_, rfl, rfl, rfl, ?_⟩
    rw [book_setWorker, book_of_handled replies asks]
    by_cases hid : d.chunk.jobId = p.jobId
    · rw [if_pos hid]
      exact .handled rfl hw busy hid asks (by rw [replies])
        (List.getElem?_set_self (List.getElem?_eq_some_iff.mp hw).1) rfl
    · rw [if_neg hid]
      exact .rested rfl
  | @settled j w d result _ _ =>
    refine continues_of_same rested at_ ?_
    unfold settle
    rw [book_setWorker, book_record_of_other (fun _ h => by cases h) (fun _ h => by cases h) rfl,
      book_setBus]
  | @started settings jobId source fresh =>
    refine continues_of_same rested ((List.getElem?_append_left
      (List.getElem?_eq_some_iff.mp at_).1).trans at_) ?_
    have hknown := registered.known at_
    have hne : p.jobId ≠ jobId := fun hid => by
      rw [hid, fresh] at hknown
      cases hknown
    exact book_of_world (get?_started hne)
  | hired => exact continues_of_same rested at_ rfl
  | cancelled id =>
    by_cases hid : p.jobId = id
    · refine ⟨p, at_, rfl, rfl, rfl, ?_⟩
      have hbook : System.book { s with
          world := { s.world with jobs := (s.world.jobs.cancel id s.world.now).2 } } p.jobId =
          (s.book p.jobId).cancelled s.world.now := by
        show Book.mk (JobTable.get? _ _) _ _ _ = _
        rw [JobTable.cancel, JobTable.get?_finish, if_pos hid]
        rfl
      rw [hbook]
      subst hid
      exact .cancelled rfl rfl
    · refine continues_of_same rested at_ (book_of_world ?_)
      show JobTable.get? _ _ = _
      rw [JobTable.cancel, JobTable.get?_finish, if_neg hid]
  | supplied supply value =>
    refine continues_of_same rested at_ ?_
    cases supply <;> rfl
  | closed => exact continues_of_same rested at_ rfl
  | waited now => exact continues_of_same rested at_ rfl

end Steps

end System

end Concurrency

end CatalogIntake
