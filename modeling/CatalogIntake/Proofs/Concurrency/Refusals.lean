import CatalogIntake.Proofs.Concurrency.Provenance
import CatalogIntake.Proofs.Producer.Cutting

/-!
How often the bus has refused chunks to a producer, as the history tells it, and as the producer
hears it between two of its points. A chunk that is refused has a place, behind those of its job
that have been taken.
-/

namespace CatalogIntake

namespace Point

variable {point next : Point} {place : Chunk → Nat} {refused refused' : Nat → Nat}

theorem refusal?_self (point : Point) : refusal? point point = none := by
  cases point <;> rfl

theorem Hears.of_silent (same : ∀ n, refused' n = refused n) (silent : refusal? point next = none) :
    point.Hears next place refused refused' where
  count := by
    intro n
    rw [silent, same]
    rfl
  closed := by
    rintro atEnd chunk attempts reason rfl rfl
    cases silent

end Point

namespace Producing

variable {settings : ImportSettings} {p next : Producing} {chunk : Chunk}

theorem Goes.silent (h : Goes settings p next) : p.point.refusal? next.point = none := by
  apply Point.refusal?_of_chunk?
  cases h with
  | sourceEnded at_ _ | taken at_ _ | nothingToPublish at_ _ | nothingToFlush at_ _ =>
    rw [at_]
    rfl

theorem Asks.silent {c : Call} {answer : c.Answer} (h : Asks settings p c answer next)
    (store : ∀ chunk, c ≠ .publish chunk) : p.point.refusal? next.point = none := by
  cases h with
  | published _ | notPublished _ | publishedAgain _ => exact absurd rfl (store _)
  | jobUnavailable at_ _ | jobGone at_ _ | processing at_ _ _ | cancelled at_ _ _
  | inactive at_ _ _ _ | paused at_ | logged at_ _ | uncounted at_ | counted at_ | notTotalled at_
  | totalled at_ | unchecked at_ | notDone at_ | completed at_ | unconfirmed at_ | confirmed at_
  | stopped at_ | failed at_ =>
    rw [at_]
    rfl

theorem Asks.silent_of_published (h : Asks settings p (.publish chunk) (.ok ()) next) :
    p.point.refusal? next.point = none := by
  cases h with
  | published at_ =>
    rw [at_]
    rfl

theorem Asks.hears_of_refused {place : Chunk → Nat} {refused refused' : Nat → Nat}
    (h : Asks settings p (.publish chunk) (.error (.of .busClosed)) next)
    (count : ∀ n, refused' n = refused n + if place chunk = n then 1 else 0) :
    p.point.Hears next.point place refused refused' := by
  cases h with
  | notPublished at_ =>
    rw [at_]
    refine ⟨fun n => ?_, ?_⟩
    · rw [count]
      simp [Producing.moveTo, Point.refusal?]
    · intro atEnd chunk' attempts' reason hpoint hnext
      cases hpoint
      exact (Point.failing.inj hnext).symm
  | publishedAgain at_ =>
    rw [at_]
    refine ⟨fun n => ?_, ?_⟩
    · rw [count]
      simp [Producing.moveTo, Point.refusal?]
    · intro _ _ _ _ _ hnext
      cases hnext

end Producing

namespace Concurrency

def placeBehind (taken : List Chunk) (chunk : Chunk) : Nat :=
  (taken.filter (·.jobId = chunk.jobId)).length

def Event.refused? (i : Nat) : Event → Option Chunk
  | asked k (.publish chunk) (.error _) => if k = i then some chunk else none
  | _ => none

/-- The places of the chunks that the bus has refused to the producer at `i`. -/
def refusedPlaces (i : Nat) : List Chunk → List Event → List Nat
  | _, [] => []
  | taken, e :: later =>
    ((e.refused? i).map (placeBehind taken)).toList ++
      refusedPlaces i (taken ++ e.taken?.toList) later

theorem refusedPlaces_concat (i : Nat) (taken : List Chunk) (history : List Event) (e : Event) :
    refusedPlaces i taken (history ++ [e]) = refusedPlaces i taken history ++
      ((e.refused? i).map (placeBehind (taken ++ history.filterMap Event.taken?))).toList := by
  induction history generalizing taken with
  | nil => simp [refusedPlaces]
  | cons first later ih =>
    have htaken : taken ++ first.taken?.toList ++ later.filterMap Event.taken? =
        taken ++ (first :: later).filterMap Event.taken? := by
      cases hfirst : first.taken? <;> simp [hfirst]
    rw [List.cons_append, refusedPlaces, ih, htaken, refusedPlaces, List.append_assoc]

namespace System

/-- How often the bus has refused, to the producer at `i`, the chunk behind so many others. -/
def refusals (s : System) (i : Nat) (place : Nat) : Nat :=
  (refusedPlaces i [] s.history).count place

variable {a : Action} {s s' t : System} {i k n : Nat} {p p' q q' : Producer}

theorem refusals_congr (history : t.history = s.history) : t.refusals i n = s.refusals i n := by
  unfold refusals
  rw [history]

theorem refusals_concat {e : Event} (history : t.history = s.history ++ [e]) :
    t.refusals i n = s.refusals i n +
      if (e.refused? i).map (placeBehind s.taken) = some n then 1 else 0 := by
  unfold refusals taken
  rw [history, refusedPlaces_concat, List.count_append, List.nil_append]
  cases e.refused? i with
  | none => simp
  | some chunk => simp [List.count_singleton]

theorem refusals_of_other {e : Event} (history : t.history = s.history ++ [e])
    (other : e.refused? i = none) : t.refusals i n = s.refusals i n := by
  rw [refusals_concat history, other]
  rfl

theorem refused?_asked_of_ne {c : Call} {answer : c.Answer} (other : i ≠ k) :
    (Event.asked k c answer).refused? i = none := by
  cases c with
  | publish chunk =>
    cases answer with
    | error f => exact if_neg other.symm
    | ok _ => rfl
  | _ => rfl

theorem refused?_asked_of_store {c : Call} {answer : c.Answer}
    (store : ∀ chunk, c ≠ .publish chunk) :
    (Event.asked k c answer).refused? i = none := by
  cases c with
  | publish chunk => exact absurd rfl (store chunk)
  | _ => rfl

theorem hears_of_set (producers : t.producers = s.producers) (at_ : s.producers[i]? = some p)
    (hq : s.producers[k]? = some q) (at' : (t.setProducer k q').producers[i]? = some p')
    (others : i ≠ k → ∀ n, t.refusals i n = s.refusals i n)
    (own : q.state.point.Hears q'.state.point (placeBehind s.taken) (s.refusals k)
      (t.refusals k)) :
    p.state.point.Hears p'.state.point (placeBehind s.taken) (s.refusals i)
      ((t.setProducer k q').refusals i) := by
  rw [getElem?_setProducer (producers ▸ hq), producers] at at'
  by_cases hik : i = k
  · subst hik
    rw [if_pos rfl] at at'
    obtain rfl := Option.some.inj at'
    obtain rfl := Option.some.inj (at_.symm.trans hq)
    exact own
  · rw [if_neg hik] at at'
    obtain rfl := Option.some.inj (at_.symm.trans at')
    exact .of_silent (others hik) (Point.refusal?_self _)

theorem Step.hears (step : Step s a s') (at_ : s.producers[i]? = some p)
    (at' : s'.producers[i]? = some p') :
    p.state.point.Hears p'.state.point (placeBehind s.taken) (s.refusals i) (s'.refusals i) := by
  have rested (history : s'.history = s.history) (state : p'.state = p.state) :
      p.state.point.Hears p'.state.point (placeBehind s.taken) (s.refusals i)
        (s'.refusals i) := by
    rw [state]
    exact .of_silent (fun _ => refusals_congr history) (Point.refusal?_self _)
  have same (producers : s'.producers = s.producers) : p'.state = p.state := by
    rw [producers] at at'
    rw [Option.some.inj (at'.symm.trans at_)]
  cases step with
  | read hq =>
    exact hears_of_set rfl at_ hq at' (fun _ _ => rfl)
      (.of_silent (fun _ => rfl) (Point.refusal?_self _))
  | go hq _ goes =>
    exact hears_of_set rfl at_ hq at' (fun _ _ => rfl) (.of_silent (fun _ => rfl) goes.silent)
  | @refused k q chunk state hq _ _ asks =>
    refine hears_of_set rfl at_ hq at'
      (fun hik n => refusals_of_other rfl (refused?_asked_of_ne hik)) ?_
    refine asks.hears_of_refused fun n => (refusals_concat rfl).trans ?_
    simp [Event.refused?, Outcome.fail]
  | @published k q q' chunk state admission bus hq _ _ _ asks moved =>
    refine hears_of_set (t := (s.setBus bus).record (.taken k chunk)) rfl at_ hq at'
      (fun _ n => refusals_of_other rfl rfl) (.of_silent (fun n => refusals_of_other rfl rfl) ?_)
    rw [moved]
    exact asks.silent_of_published
  | asked hq _ store _ asks =>
    exact hears_of_set rfl at_ hq at'
      (fun _ n => refusals_of_other rfl (refused?_asked_of_store store))
      (.of_silent (fun n => refusals_of_other rfl (refused?_asked_of_store store))
        (asks.silent store))
  | @received j w d admitted bus _ _ _ =>
    obtain ⟨waiting, hat⟩ := getElem?_letIn (s := s.setBus bus) admitted at_
    have hstate : p' = { p with waiting } := Option.some.inj (at'.symm.trans hat)
    exact rested (history_letIn _ _) (by rw [hstate])
  | left _ _ _ => exact rested rfl (same rfl)
  | thought _ _ _ => exact rested rfl (same rfl)
  | handled _ _ _ _ =>
    rw [same rfl]
    exact .of_silent (fun _ => refusals_of_other rfl rfl) (Point.refusal?_self _)
  | settled _ _ =>
    rw [same rfl]
    exact .of_silent (fun _ => refusals_of_other rfl rfl) (Point.refusal?_self _)
  | @started settings jobId source _ =>
    have hlt := (List.getElem?_eq_some_iff.mp at_).1
    have hat : (s.producers ++ [.start settings jobId source])[i]? = some p' := at'
    rw [List.getElem?_append_left hlt] at hat
    exact rested rfl (by rw [Option.some.inj (hat.symm.trans at_)])
  | supplied supply value => cases supply <;> exact rested rfl (same rfl)
  | _ => exact rested rfl (same rfl)

def Unrefused (s : System) : Prop :=
  ∀ {i : Nat}, s.producers[i]? = none → ∀ n, s.refusals i n = 0

theorem Unrefused.step (h : s.Unrefused) (step : Step s a s') : s'.Unrefused := by
  intro i absent' n
  have absent : s.producers[i]? = none := by
    by_contra hne
    obtain ⟨p, at_⟩ := Option.isSome_iff_exists.mp (Option.isSome_iff_ne_none.mpr hne)
    obtain ⟨p', later⟩ := step.later at_
    cases absent'.symm.trans later.at_
  refine Eq.trans ?_ (h absent n)
  cases step with
  | @refused k q _ _ hq _ _ _ =>
    refine refusals_of_other rfl (refused?_asked_of_ne ?_)
    rintro rfl
    rw [absent] at hq
    cases hq
  | asked _ _ store _ _ => exact refusals_of_other rfl (refused?_asked_of_store store)
  | published _ _ _ _ _ _ | handled _ _ _ _ | settled _ _ => exact refusals_of_other rfl rfl
  | received _ _ _ => exact refusals_congr (history_letIn _ _)
  | _ => rfl

theorem unrefused_opening (world : World) (workers : Nat) : (opening world workers).Unrefused :=
  fun _ _ => rfl

end System

end Concurrency

end CatalogIntake
