import CatalogIntake.Proofs.Concurrency.Evidence
import CatalogIntake.Proofs.Pipeline.Log

/-!
One consumer alone at the stores in memory. Between its calls, stores are switched off and on and
time passes, as somebody outside likes; what the consumer calls, and how it is answered, is kept.
The counters of the jobs have 64 bits, and wrap around.
-/

namespace CatalogIntake

open Concurrency Simulation

def Call.fills : Call → Bool
  | .insertBatch _ | .insertOne _ => true
  | _ => false

def Call.files : Call → Bool
  | .getJob _ | .increment .. | .completeIfDone _ => true
  | _ => false

inductive Weather
  | supply (supply : Supply) (available : Bool)
  | wait (now : Instant)

def Weather.pass (w : World) : Weather → World
  | .supply store value => w.setAvailable store value
  | .wait now => { w with now }

def Concurrency.World.isAvailable (w : World) : Supply → Bool
  | .products => w.products.available
  | .errors => w.errors.available
  | .progress => w.jobs.progressAvailable

theorem Concurrency.World.isAvailable_setAvailable (w : World) (supply : Supply) (value : Bool) :
    (w.setAvailable supply value).isAvailable supply = value := by
  cases supply <;> rfl

theorem Concurrency.World.isAvailable_setAvailable_of_ne (w : World) {supply other : Supply}
    (value : Bool) (apart : supply ≠ other) :
    (w.setAvailable supply value).isAvailable other = w.isAvailable other := by
  cases supply <;> cases other <;> first | rfl | exact absurd rfl apart

theorem Concurrency.World.isAvailable_answerIn (counters : Option Number.Width) (w : World)
    (c : Call) (supply : Supply) :
    (w.answerIn counters c).2.isAvailable supply = w.isAvailable supply := by
  obtain ⟨-, herrors, hprogress⟩ := w.answerIn_spares counters c
  cases supply with
  | products =>
    cases c with
    | insertBatch batch => exact Catalogue.available_insertBatch ..
    | insertOne product => exact Catalogue.available_insertOne ..
    | _ => rfl
  | errors =>
    exact (congrArg (·.available) herrors).trans (System.errorsAvailable_answer w c)
  | progress => exact hprogress

structure Bench where
  world : World
  calls : List Answered
  /-- What happens before each of the next calls. -/
  ahead : List (List Weather)

namespace Bench

def met (x : Bench) : World := (x.ahead.headD []).foldl Weather.pass x.world

def answer (c : Call) (x : Bench) : c.Answer × Bench :=
  let (answer, world) := x.met.answerIn (some .i64) c
  (answer, ⟨world, x.calls ++ [⟨c, answer⟩], x.ahead.tail⟩)

def opening (w : World) (ahead : List (List Weather)) : Bench := ⟨w, [], ahead⟩

variable {x y z : Bench}

theorem answer_of_fits (x : Bench) {c : Call} (fits : c.fits x.met.jobs = true) :
    x.answer c =
      ((x.met.answer c).1,
        ⟨(x.met.answer c).2, x.calls ++ [⟨c, (x.met.answer c).1⟩], x.ahead.tail⟩) := by
  unfold answer
  rw [x.met.answerIn_of_fits fits]

theorem pass_spares (w : World) (changes : List Weather) :
    (changes.foldl Weather.pass w).jobs.jobs = w.jobs.jobs ∧
      (changes.foldl Weather.pass w).errors.entries = w.errors.entries ∧
      (changes.foldl Weather.pass w).products.products = w.products.products := by
  induction changes generalizing w with
  | nil => exact ⟨rfl, rfl, rfl⟩
  | cons change rest ih =>
    obtain ⟨hjobs, herrors, hproducts⟩ := ih (change.pass w)
    rw [List.foldl_cons, hjobs, herrors, hproducts]
    rcases change with ⟨_ | _ | _, value⟩ | now <;> exact ⟨rfl, rfl, rfl⟩

@[simp] theorem jobs_met (x : Bench) : x.met.jobs.jobs = x.world.jobs.jobs := (pass_spares _ _).1

@[simp] theorem get?_met (x : Bench) (id : JobId) : x.met.jobs.get? id = x.world.jobs.get? id := by
  unfold JobTable.get?
  rw [jobs_met]

@[simp] theorem entries_met (x : Bench) : x.met.errors.entries = x.world.errors.entries :=
  (pass_spares _ _).2.1

@[simp] theorem products_met (x : Bench) : x.met.products.products = x.world.products.products :=
  (pass_spares _ _).2.2

structure Steady (supply : Supply) (x : Bench) : Prop where
  available : x.world.isAvailable supply = true
  kept : ∀ changes ∈ x.ahead, Weather.supply supply false ∉ changes

theorem isAvailable_pass (supply : Supply) (changes : List Weather) {w : World}
    (available : w.isAvailable supply = true) (kept : Weather.supply supply false ∉ changes) :
    (changes.foldl Weather.pass w).isAvailable supply = true := by
  induction changes generalizing w with
  | nil => exact available
  | cons change rest ih =>
    apply ih
    · cases change with
      | supply other value =>
        by_cases hother : other = supply
        · subst hother
          cases value with
          | true => exact w.isAvailable_setAvailable other true
          | false => exact absurd List.mem_cons_self kept
        · exact (w.isAvailable_setAvailable_of_ne value hother).trans available
      | wait now => exact available
    · exact fun hrest => kept (List.mem_cons_of_mem _ hrest)

theorem Steady.met {supply : Supply} (h : x.Steady supply) : x.met.isAvailable supply = true := by
  apply isAvailable_pass supply _ h.available
  cases hahead : x.ahead with
  | nil => exact List.not_mem_nil
  | cons changes rest =>
    apply h.kept
    rw [hahead]
    exact List.mem_cons_self

theorem Steady.answer {supply : Supply} (h : x.Steady supply) (c : Call) :
    (Bench.answer c x).2.Steady supply where
  available := (x.met.isAvailable_answerIn _ c supply).trans h.met
  kept changes hchanges := h.kept changes (List.mem_of_mem_tail hchanges)

def reported (x : Bench) : List ErrorCandidate := x.calls.flatMap Answered.reported

def isUnsaved (x : Bench) : Bool := x.calls.any Answered.isUnsaved

structure Stocked (x y : Bench) : Prop where
  jobs : y.world.jobs.jobs = x.world.jobs.jobs
  entries : y.world.errors.entries = x.world.errors.entries
  reported : y.reported = x.reported
  unsaved : y.isUnsaved = x.isUnsaved
  steady : ∀ supply, x.Steady supply → y.Steady supply

theorem Stocked.refl (x : Bench) : Stocked x x := ⟨rfl, rfl, rfl, rfl, fun _ h => h⟩

theorem Stocked.trans (first : Stocked x y) (second : Stocked y z) : Stocked x z where
  jobs := second.jobs.trans first.jobs
  entries := second.entries.trans first.entries
  reported := second.reported.trans first.reported
  unsaved := second.unsaved.trans first.unsaved
  steady supply h := second.steady supply (first.steady supply h)

theorem Stocked.answer (x : Bench) (c : Call) (fills : c.fills = true) :
    Stocked x (x.answer c).2 := by
  cases c with
  | insertBatch _ | insertOne _ =>
    exact
      { jobs := x.jobs_met
        entries := x.entries_met
        reported := by simp [Bench.reported, Bench.answer, Answered.reported]
        unsaved := by simp [Bench.isUnsaved, Bench.answer, Answered.isUnsaved]
        steady := fun _ h => h.answer _ }
  | _ => cases fills

theorem stocked_storeEach (jobId : JobId) (processed : Int) (errors : List ErrorCandidate)
    (rest : List (ProductRecord × Product)) (x : Bench) :
    Stocked x (Plan.run Bench.answer (storeEach jobId processed errors rest) x).2 := by
  induction rest generalizing processed errors x with
  | nil => exact .refl x
  | cons first rest ih =>
    obtain ⟨record, product⟩ := first
    unfold storeEach
    rw [Plan.run_call]
    apply (Stocked.answer x (.insertOne product) rfl).trans
    cases (x.answer (.insertOne product)).1 with
    | ok _ => exact ih ..
    | error f => exact ih ..

theorem stocked_storeMapped (jobId : JobId) (errors : List ErrorCandidate)
    (mapped : List (ProductRecord × Product)) (x : Bench) :
    Stocked x (Plan.run Bench.answer (storeMapped jobId errors mapped) x).2 := by
  cases mapped with
  | nil => exact .refl x
  | cons first rest =>
    unfold storeMapped
    rw [Plan.run_call]
    apply (Stocked.answer x (.insertBatch _) rfl).trans
    cases (x.answer (.insertBatch ((first :: rest).map (·.2)))).1 with
    | ok _ => exact .refl _
    | error f => exact stocked_storeEach ..

theorem stocked_storeChunk (status : JobStatus) (chunk : Chunk) (x : Bench) :
    Stocked x (Plan.run Bench.answer (storeChunk status chunk) x).2 := by
  unfold storeChunk
  split
  · exact stocked_storeMapped ..
  · exact .refl x

end Bench

end CatalogIntake
