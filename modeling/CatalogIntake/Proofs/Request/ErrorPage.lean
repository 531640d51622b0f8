import CatalogIntake.Proofs.Consumer.Bench
import CatalogIntake.Request.ErrorPage
import Mathlib.Algebra.Order.Floor.Div

/-!
The error log read page by page. Entries are numbered as they are saved and nothing is ever taken
out, so that the pages of a job are its entries cut into pieces of equal length, and a page that is
read again has at most more entries at its end.
-/

namespace CatalogIntake

/-- The entries of candidates that are saved one after another, each at its time. -/
def ErrorLog.numbered (saved : List (Instant × ErrorCandidate)) : List ErrorEntry :=
  saved.mapIdx fun k s => .ofCandidate (k + 1) s.1 s.2

namespace Concurrency

/-- Something that happens at the stores: somebody calls them, or a change from outside. -/
inductive Incident
  | call (c : Call)
  | change (weather : Weather)

namespace World

def blank (now : Instant) (capacity : Nat) : World :=
  .opening now .empty .empty .empty capacity

def after (w : World) : Incident → World
  | .call c => (w.answer c).2
  | .change weather => weather.pass w

def pass (w : World) (history : List Incident) : World := history.foldl after w

def savedBy (w : World) : Incident → List (Instant × ErrorCandidate)
  | .call c => (c.saved (w.answer c).1).map (w.now, ·)
  | .change _ => []

def saved : World → List Incident → List (Instant × ErrorCandidate)
  | _, [] => []
  | w, incident :: rest => w.savedBy incident ++ saved (w.after incident) rest

def readPage (w : World) (id : JobId) (limit offset : Option Int) :
    Except ErrorPageError ErrorPage :=
  ((ErrorPage.fetch id limit offset).run (fun c w => w.answer c) w).1

end World

/-- The pages that somebody gets who asks for one page after the other, up to an empty one. -/
inductive Paged (w : World) (id : JobId) (limit : Nat) : Nat → List ErrorPage → Prop
  | done {offset : Nat} {page : ErrorPage}
    (read : w.readPage id (some limit) (some offset) = .ok page) (empty : page.errors = []) :
    Paged w id limit offset []
  | more {offset : Nat} {page : ErrorPage} {rest : List ErrorPage}
    (read : w.readPage id (some limit) (some offset) = .ok page) (filled : page.errors ≠ [])
    (next : Paged w id limit (offset + limit) rest) : Paged w id limit offset (page :: rest)

/-- All pages of a job, when these are all entries of the log. -/
structure Partition (w : World) (id : JobId) (limit : Nat) (entries : List ErrorEntry)
    (pages : List ErrorPage) : Prop where
  only : ∀ others, Paged w id limit 0 others ↔ others = pages
  whole : pages.flatMap (·.errors) = entries.filter (·.jobId == id)
  once : (pages.flatMap (·.errors)).Nodup
  number : pages.length = (entries.filter (·.jobId == id)).length ⌈/⌉ limit

section Growth

variable {w : World} {id : JobId}

theorem numbered_append (saved more : List (Instant × ErrorCandidate)) :
    ErrorLog.numbered (saved ++ more) = ErrorLog.numbered saved ++
      more.mapIdx fun k s => .ofCandidate ((ErrorLog.numbered saved).length + k + 1) s.1 s.2 := by
  unfold ErrorLog.numbered
  rw [List.mapIdx_append, List.length_mapIdx]
  congr 2
  funext k s
  push_cast
  congr 2
  exact Int.add_comm _ _

theorem ids_numbered (saved : List (Instant × ErrorCandidate)) :
    (ErrorLog.numbered saved).map (·.id) =
      (List.range saved.length).map fun k : Nat => (k : Int) + 1 := by
  apply List.ext_getElem
  · simp [ErrorLog.numbered]
  · intro k hk hk'
    simp [ErrorLog.numbered, ErrorEntry.ofCandidate]

theorem nodup_numbered (saved : List (Instant × ErrorCandidate)) :
    (ErrorLog.numbered saved).Nodup := by
  apply List.Nodup.of_map (·.id)
  rw [ids_numbered]
  exact List.nodup_range.map fun _ _ h => by omega

theorem World.entries_after (w : World) (incident : Incident) :
    (w.after incident).errors.entries = w.errors.entries ++
      (w.savedBy incident).mapIdx fun k s =>
        .ofCandidate (w.errors.entries.length + k + 1) s.1 s.2 := by
  cases incident with
  | change weather => exact (Bench.pass_spares w [weather]).2.1.trans (List.append_nil _).symm
  | call c =>
    cases c with
    | saveErrors candidates =>
      simp only [World.after, World.savedBy, World.answer_saveErrors]
      unfold ErrorLog.save
      split
      · simp only [ErrorLog.append_eq, Call.saved]
        congr 1
        apply List.ext_getElem?
        intro k
        simp [Function.comp_def]
      · simp [Call.saved, Outcome.fail]
    | _ => exact (List.append_nil _).symm

theorem World.entries_pass {earlier : List (Instant × ErrorCandidate)}
    (h : w.errors.entries = ErrorLog.numbered earlier) (history : List Incident) :
    (w.pass history).errors.entries = ErrorLog.numbered (earlier ++ w.saved history) := by
  induction history generalizing w earlier with
  | nil => rwa [World.saved, List.append_nil]
  | cons incident rest ih =>
    have hnext : (w.after incident).errors.entries =
        ErrorLog.numbered (earlier ++ w.savedBy incident) := by
      rw [w.entries_after, numbered_append, h]
    have hrest := ih hnext
    rwa [List.append_assoc] at hrest

theorem World.entries_prefix (w : World) (history : List Incident) :
    w.errors.entries <+: (w.pass history).errors.entries := by
  induction history generalizing w with
  | nil => exact List.prefix_rfl
  | cons incident rest ih =>
    refine List.IsPrefix.trans ?_ (ih (w.after incident))
    rw [w.entries_after]
    exact List.prefix_append _ _

theorem World.known_after (known : (w.jobs.get? id).isSome = true) (incident : Incident) :
    ((w.after incident).jobs.get? id).isSome = true := by
  cases incident with
  | change weather =>
    unfold JobTable.get?
    rw [World.after, show (weather.pass w).jobs.jobs = w.jobs.jobs from
      (Bench.pass_spares w [weather]).1]
    exact known
  | call c =>
    simp only [World.after]
    cases hcreate : c.isCreate with
    | false =>
      rw [World.get?_answer w hcreate]
      split
      · rwa [Option.isSome_map]
      · exact known
    | true =>
      cases c with
      | createJob job =>
        simp only [World.answer_createJob, JobTable.get?_create]
        split
        · rfl
        · exact known
      | _ => cases hcreate

theorem World.known_pass (known : (w.jobs.get? id).isSome = true) (history : List Incident) :
    ((w.pass history).jobs.get? id).isSome = true := by
  induction history generalizing w with
  | nil => exact known
  | cons incident rest ih => exact ih (World.known_after known incident)

end Growth

section Paging

variable {w : World} {id : JobId} {limit : Nat}

def World.pageAt (w : World) (id : JobId) (limit offset : Int) : ErrorPage :=
  ⟨id, w.errors.count id, limit, offset, w.errors.page id limit offset⟩

theorem World.readPage_eq (known : (w.jobs.get? id).isSome = true) (limit offset : Option Int) :
    w.readPage id limit offset = (ErrorPage.validate limit offset).map fun _ =>
      w.pageAt id (limit.getD ErrorPage.defaultLimit) (offset.getD 0) := by
  obtain ⟨job, hjob⟩ := Option.isSome_iff_exists.mp known
  unfold World.readPage ErrorPage.fetch
  cases ErrorPage.validate limit offset with
  | error e => rfl
  | ok _ =>
    rw [Plan.run_call, World.answer_getJob, hjob]
    rfl

theorem validate_of_bounds (positive : 1 ≤ limit) (bounded : limit ≤ 1000) (offset : Nat) :
    ErrorPage.validate (some limit) (some offset) = .ok () := by
  unfold ErrorPage.validate ErrorPage.maxLimit
  rw [if_neg, if_neg]
  · simp
  · simp
    omega

theorem readPage_of_bounds (known : (w.jobs.get? id).isSome = true) (positive : 1 ≤ limit)
    (bounded : limit ≤ 1000) (offset : Nat) :
    w.readPage id (some limit) (some offset) = .ok (w.pageAt id limit offset) := by
  rw [World.readPage_eq known, validate_of_bounds positive bounded]
  rfl

theorem ceilDiv_of_pos {m limit : Nat} (positive : 1 ≤ limit) (pos : 0 < m) :
    (m - limit) ⌈/⌉ limit + 1 = m ⌈/⌉ limit := by
  rw [Nat.ceilDiv_eq_add_pred_div, Nat.ceilDiv_eq_add_pred_div]
  rcases Nat.lt_or_ge m limit with hlt | hge
  · have hone : (m + limit - 1) / limit = 1 := Nat.div_eq_of_lt_le (by omega) (by omega)
    rw [hone, show m - limit + limit - 1 = limit - 1 by omega, Nat.div_eq_of_lt (by omega)]
  · rw [show m + limit - 1 = m - limit + limit - 1 + limit by omega,
      Nat.add_div_right _ (by omega)]

section Paged

variable {offset : Nat} {page : ErrorPage}

theorem paged_iff_of_empty (read : w.readPage id (some limit) (some offset) = .ok page)
    (empty : page.errors = []) (pages : List ErrorPage) :
    Paged w id limit offset pages ↔ pages = [] := by
  constructor
  · intro h
    cases h with
    | done => rfl
    | more again filled =>
      rw [read] at again
      cases again
      exact absurd empty filled
  · rintro rfl
    exact .done read empty

theorem paged_iff_of_filled (read : w.readPage id (some limit) (some offset) = .ok page)
    (filled : page.errors ≠ []) (pages : List ErrorPage) :
    Paged w id limit offset pages ↔
      ∃ rest, Paged w id limit (offset + limit) rest ∧ pages = page :: rest := by
  constructor
  · intro h
    cases h with
    | done again empty =>
      rw [read] at again
      cases again
      exact absurd empty filled
    | more again _ next =>
      rw [read] at again
      cases again
      exact ⟨_, next, rfl⟩
  · rintro ⟨rest, next, rfl⟩
    exact .more read filled next

end Paged

/-- Each page takes its entries off those that are left, so that the pages come to an end. -/
theorem exists_pages_from (known : (w.jobs.get? id).isSome = true) (positive : 1 ≤ limit)
    (bounded : limit ≤ 1000) (offset : Nat) :
    ∃ pages, (∀ others, Paged w id limit offset others ↔ others = pages) ∧
      pages.flatMap (·.errors) = (w.errors.ofJob id).drop offset ∧
      pages.length = ((w.errors.ofJob id).length - offset) ⌈/⌉ limit := by
  have hread := readPage_of_bounds known positive bounded offset
  have herrors : (w.pageAt id limit offset).errors =
      ((w.errors.ofJob id).drop offset).take limit := rfl
  by_cases hend : (w.errors.ofJob id).length ≤ offset
  · have hempty : (w.pageAt id limit offset).errors = [] := by
      rw [herrors, List.drop_eq_nil_of_le hend, List.take_nil]
    refine ⟨[], paged_iff_of_empty hread hempty, (List.drop_eq_nil_of_le hend).symm, ?_⟩
    rw [Nat.sub_eq_zero_of_le hend, zero_ceilDiv]
    rfl
  · have hfilled : (w.pageAt id limit offset).errors ≠ [] := by
      rw [herrors, Ne, List.take_eq_nil_iff, List.drop_eq_nil_iff]
      omega
    obtain ⟨rest, honly, hwhole, hnumber⟩ :=
      exists_pages_from known positive bounded (offset + limit)
    refine ⟨w.pageAt id limit offset :: rest, ?_, ?_, ?_⟩
    · intro others
      rw [paged_iff_of_filled hread hfilled]
      simp only [honly, exists_eq_left]
    · rw [List.flatMap_cons, hwhole, herrors, ← List.drop_drop, List.take_append_drop]
    · rw [List.length_cons, hnumber, ← Nat.sub_sub, ceilDiv_of_pos positive (by omega)]
termination_by (w.errors.ofJob id).length - offset

theorem exists_partition (known : (w.jobs.get? id).isSome = true) (positive : 1 ≤ limit)
    (bounded : limit ≤ 1000) {entries : List ErrorEntry} (log : w.errors.entries = entries)
    (distinct : entries.Nodup) : ∃ pages, Partition w id limit entries pages := by
  obtain ⟨pages, only, whole, number⟩ := exists_pages_from known positive bounded 0
  have hjob : w.errors.ofJob id = entries.filter (·.jobId == id) := by
    rw [← log]
    rfl
  rw [List.drop_zero, hjob] at whole
  refine ⟨pages, only, whole, ?_, ?_⟩
  · rw [whole]
    exact distinct.filter _
  · rw [number, hjob]
    rfl

theorem eq_pageAt_of_readPage (known : (w.jobs.get? id).isSome = true)
    {limit offset : Option Int} {page : ErrorPage}
    (read : w.readPage id limit offset = .ok page) :
    ErrorPage.validate limit offset = .ok () ∧
      page = w.pageAt id (limit.getD ErrorPage.defaultLimit) (offset.getD 0) := by
  rw [World.readPage_eq known] at read
  cases hvalid : ErrorPage.validate limit offset with
  | error e =>
    rw [hvalid] at read
    cases read
  | ok _ =>
    rw [hvalid] at read
    cases read
    exact ⟨rfl, rfl⟩

theorem total_of_readPage (known : (w.jobs.get? id).isSome = true) {limit offset : Option Int}
    {page : ErrorPage} (read : w.readPage id limit offset = .ok page) :
    page.total = w.errors.count id := by
  obtain ⟨-, rfl⟩ := eq_pageAt_of_readPage known read
  rfl

theorem errors_prefix_of_readPage (known : (w.jobs.get? id).isSome = true)
    {limit offset : Option Int} {page : ErrorPage}
    (read : w.readPage id limit offset = .ok page) (further : List Incident) :
    ∃ later, (w.pass further).readPage id limit offset = .ok later ∧
      page.errors <+: later.errors := by
  obtain ⟨valid, rfl⟩ := eq_pageAt_of_readPage known read
  have hlater := World.readPage_eq (World.known_pass known further) limit offset
  rw [valid] at hlater
  refine ⟨_, hlater, ?_⟩
  have hjob : w.errors.ofJob id <+: (w.pass further).errors.ofJob id :=
    (w.entries_prefix further).filter _
  exact (hjob.drop _).take _

theorem errors_of_refused {candidates : List ErrorCandidate} {f : Failure}
    (refused : (w.answer (.saveErrors candidates)).1 = .error f) :
    (w.answer (.saveErrors candidates)).2.errors = w.errors := by
  rw [World.answer_saveErrors] at refused ⊢
  unfold ErrorLog.save at refused ⊢
  split at refused
  · cases refused
  · rename_i unavailable
    rw [if_neg unavailable]

/-- Whatever has happened at the stores, the log holds what was saved, numbered from 1, and the
pages of a job, whatever their length, are the job's own entries without loss or repetition, so many
as are needed for them, and each with the number of all of them. A page that was read is the
beginning of what is read in its place later. -/
theorem error_pages_partition (now : Instant) (capacity : Nat) (history : List Incident) :
    let w := (World.blank now capacity).pass history
    let entries := ErrorLog.numbered ((World.blank now capacity).saved history)
    w.errors.entries = entries ∧
    entries.map (·.id) = (List.range entries.length).map (fun k : Nat => (k : Int) + 1) ∧
    (∀ candidates f, (w.answer (.saveErrors candidates)).1 = .error f →
      (w.answer (.saveErrors candidates)).2.errors = w.errors) ∧
    ∀ id, (w.jobs.get? id).isSome = true →
      (∀ limit : Nat, 1 ≤ limit → limit ≤ 1000 → ∃ pages, Partition w id limit entries pages) ∧
      ∀ limit offset page, w.readPage id limit offset = .ok page →
        page.total = (entries.filter (·.jobId == id)).length ∧
        ∀ further, ∃ later, (w.pass further).readPage id limit offset = .ok later ∧
          page.errors <+: later.errors := by
  intro w entries
  have blank : (World.blank now capacity).errors.entries = ErrorLog.numbered [] := rfl
  have log : w.errors.entries = entries := World.entries_pass blank history
  have length : entries.length = ((World.blank now capacity).saved history).length :=
    List.length_mapIdx
  refine ⟨log, ?_, fun _ _ => errors_of_refused, ?_⟩
  · rw [length]
    exact ids_numbered _
  intro id known
  constructor
  · intro limit positive bounded
    exact exists_partition known positive bounded log (nodup_numbered _)
  · intro limit offset page read
    refine ⟨?_, errors_prefix_of_readPage known read⟩
    rw [total_of_readPage known read, ← log]
    rfl

end Paging

section TwoJobs

def flaw (job row : Nat) : ErrorCandidate := ⟨⟨job⟩, some row, "invalid Stock", none⟩

def twoJobs : List Incident :=
  [.call (.createJob (.started ⟨0⟩ ⟨0, 0⟩)), .call (.createJob (.started ⟨1⟩ ⟨0, 0⟩)),
    .call (.saveErrors [flaw 0 1, flaw 1 1, flaw 0 2]), .change (.supply .errors false),
    .call (.saveErrors [flaw 0 3]), .change (.wait ⟨1, 0⟩), .change (.supply .errors true),
    .call (.saveErrors [flaw 1 2, flaw 0 4])]

/-- The pages of the first job, and its second page when one more error has been saved. -/
theorem twoJobs_paged :
    (∃ pages, Paged ((World.blank ⟨0, 0⟩ 1).pass twoJobs) ⟨0⟩ 2 0 pages ∧ pages.length = 2 ∧
      (pages.flatMap (·.errors)).map (fun e => (e.id, e.rowNumber)) =
        [(1, some 1), (3, some 2), (5, some 4)]) ∧
    ∃ page later : ErrorPage,
      ((World.blank ⟨0, 0⟩ 1).pass twoJobs).readPage ⟨0⟩ (some 2) (some 2) = .ok page ∧
      (((World.blank ⟨0, 0⟩ 1).pass twoJobs).pass [.call (.saveErrors [flaw 0 5])]).readPage
        ⟨0⟩ (some 2) (some 2) = .ok later ∧
      page.total = 3 ∧ page.errors.length = 1 ∧ page.errors <+: later.errors := by
  obtain ⟨-, -, -, jobs⟩ := error_pages_partition ⟨0, 0⟩ 1 twoJobs
  obtain ⟨partitions, reads⟩ := jobs ⟨0⟩ rfl
  obtain ⟨pages, partition⟩ := partitions 2 (by decide) (by decide)
  refine ⟨⟨pages, (partition.only pages).mpr rfl, partition.number, ?_⟩, ?_⟩
  · rw [partition.whole]
    rfl
  · obtain ⟨total, later⟩ := reads (some 2) (some 2) _ rfl
    obtain ⟨found, hread, hprefix⟩ := later [.call (.saveErrors [flaw 0 5])]
    exact ⟨_, found, rfl, hread, total, rfl, hprefix⟩

end TwoJobs

end Concurrency

end CatalogIntake
