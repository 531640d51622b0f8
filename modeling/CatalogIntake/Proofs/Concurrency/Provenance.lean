import CatalogIntake.Proofs.Concurrency.Stocktaking
import CatalogIntake.Proofs.Pipeline.Diagnosis

/-!
What has been answered to whom, and that every text in the hands of a producer or of a worker comes
from it. Nothing is forgotten: a later system has the sources, the answers and the published chunks
of an earlier one.
-/

namespace CatalogIntake.Concurrency.System

variable {a : Action} {s s' : System} {i : Nat} {p p' : Producer} {chunk : Chunk} {c : Call}
  {answer : c.Answer}

def AnsweredTo (s : System) (i : Nat) (c : Call) (answer : c.Answer) : Prop :=
  .asked i c answer ∈ s.history

def AnsweredFor (s : System) (chunk : Chunk) (c : Call) (answer : c.Answer) : Prop :=
  ∃ j d, d.chunk = chunk ∧ .handled j d c answer ∈ s.history

theorem Step.mem_history {e : Event} (step : Step s a s') (h : e ∈ s.history) : e ∈ s'.history := by
  rcases step.history with history | ⟨e', history, -⟩
  · rw [history]
    exact h
  · rw [history]
    exact List.mem_append_left _ h

theorem Step.answeredTo (step : Step s a s') (h : s.AnsweredTo i c answer) :
    s'.AnsweredTo i c answer := step.mem_history h

theorem Step.answeredFor (step : Step s a s') (h : s.AnsweredFor chunk c answer) :
    s'.AnsweredFor chunk c answer := by
  obtain ⟨j, d, own, recorded⟩ := h
  exact ⟨j, d, own, step.mem_history recorded⟩

theorem Step.mem_published {id : JobId} (step : Step s a s') (h : chunk ∈ s.published id) :
    chunk ∈ s'.published id := by
  obtain ⟨taken, own⟩ := List.mem_filter.mp h
  obtain ⟨e, recorded, he⟩ := List.mem_filterMap.mp taken
  exact List.mem_filter.mpr ⟨List.mem_filterMap.mpr ⟨e, step.mem_history recorded, he⟩, own⟩

inductive Proceeds (s' : System) (i : Nat) (p p' : Producer) : Prop
  | rested (state : p'.state = p.state)
  | went (goes : Producing.Goes p.settings p.state p'.state)
  | asked {c : Call} {answer : c.Answer}
      (asks : Producing.Asks p.settings p.state c answer p'.state)
      (recorded : c.published? answer = none → s'.AnsweredTo i c answer)

structure Later (s' : System) (i : Nat) (p p' : Producer) : Prop where
  at_ : s'.producers[i]? = some p'
  source : p'.source = p.source
  jobId : p'.jobId = p.jobId
  proceeds : Proceeds s' i p p'

theorem later_of_set {t : System} {k : Nat} {q q' : Producer}
    (producers : t.producers = s.producers) (at_ : s.producers[i]? = some p)
    (hq : s.producers[k]? = some q) (source : q'.source = q.source) (jobId : q'.jobId = q.jobId)
    (proceeds : Proceeds (t.setProducer k q') k q q') :
    ∃ p', Later (t.setProducer k q') i p p' := by
  have hset := getElem?_setProducer (s := t) (q := q') (producers ▸ hq) i
  by_cases hik : i = k
  · subst hik
    obtain rfl : p = q := Option.some.inj (at_.symm.trans hq)
    exact ⟨q', hset.trans (if_pos rfl), source, jobId, proceeds⟩
  · exact ⟨p, (hset.trans (if_neg hik)).trans (producers ▸ at_), rfl, rfl, .rested rfl⟩

theorem Step.later (step : Step s a s') (at_ : s.producers[i]? = some p) :
    ∃ p', Later s' i p p' := by
  have recorded {e : Event} : e ∈ s.history ++ [e] := List.mem_append_right _ List.mem_cons_self
  cases step with
  | read hq => exact later_of_set rfl at_ hq rfl rfl (.rested rfl)
  | go hq _ goes => exact later_of_set rfl at_ hq rfl goes.jobId (.went goes)
  | refused hq _ _ asks =>
    exact later_of_set rfl at_ hq rfl asks.jobId (.asked asks fun _ => recorded)
  | published hq _ _ _ asks moved =>
    refine later_of_set rfl at_ hq (by rw [moved]; rfl) ?_ ?_
    · rw [moved]
      exact asks.jobId
    · rw [moved]
      exact .asked asks fun h => nomatch h
  | asked hq _ _ _ asks =>
    exact later_of_set rfl at_ hq rfl asks.jobId (.asked asks fun _ => recorded)
  | @received _ _ _ admitted bus _ _ _ =>
    obtain ⟨waiting, hat⟩ := getElem?_letIn (s := s.setBus bus) admitted at_
    exact ⟨{ p with waiting }, hat, rfl, rfl, .rested rfl⟩
  | started _ =>
    have hlt := (List.getElem?_eq_some_iff.mp at_).1
    exact ⟨p, (List.getElem?_append_left hlt).trans at_, rfl, rfl, .rested rfl⟩
  | _ => exact ⟨p, at_, rfl, rfl, .rested rfl⟩

/-- A producer has come on from where it was, or it has just started. -/
theorem Step.earlier (step : Step s a s') (at_ : s'.producers[i]? = some p') :
    (∃ p, s.producers[i]? = some p ∧ Later s' i p p') ∨
      ∃ settings jobId source, p' = .start settings jobId source := by
  rcases step.origin at_ with ⟨p, hp⟩ | ⟨-, settings, jobId, source, hstart, -⟩
  · obtain ⟨q, later⟩ := step.later hp
    obtain rfl : q = p' := Option.some.inj (later.at_.symm.trans at_)
    exact .inl ⟨p, hp, later⟩
  · exact .inr ⟨settings, jobId, source, hstart⟩

structure Traceable (s : System) : Prop where
  pending : ∀ {i : Nat} {p : Producer}, s.producers[i]? = some p →
    ∀ e ∈ p.state.run.pendingErrors, RowEvent.Rejects p.source e
  failing : ∀ {i : Nat} {p : Producer} {reason : String}, s.producers[i]? = some p →
    p.state.point = .failing reason → StopReason p.jobId p.source (s.AnsweredTo i) reason
  duties : ∀ {j : Nat} {w : Worker} {d : Delivery} {stage : Stage}, s.workers[j]? = some w →
    w.duty = .busy d stage → stage.Traced d.chunk (s.AnsweredFor d.chunk)

theorem Traceable.step (h : s.Traceable) (sound : s.Sound) (step : Step s a s') :
    s'.Traceable := by
  constructor
  case pending =>
    intro i p' at_
    rcases step.earlier at_ with ⟨p, hp, -, source, -, proceeds⟩ | ⟨settings, jobId, source, rfl⟩
    · rw [source]
      cases proceeds with
      | rested state =>
        rw [state]
        exact h.pending hp
      | went goes =>
        obtain ⟨job, himport⟩ := sound.imports hp
        exact goes.rejects (h.pending hp) himport.reads.suffix
      | asked asks _ => exact fun e he => h.pending hp e (asks.pending he)
    · exact fun e he => by cases he
  case failing =>
    intro i p' reason at_ hpoint
    rcases step.earlier at_ with
      ⟨p, hp, -, source, jobId, proceeds⟩ | ⟨settings, jobId, source, rfl⟩
    · obtain ⟨job, himport⟩ := sound.imports hp
      rw [source, jobId]
      cases proceeds with
      | rested state => exact (h.failing hp (state ▸ hpoint)).mono step.answeredTo
      | went goes => exact goes.stopReason himport.reads hpoint
      | asked asks recorded => exact asks.stopReason himport.reads recorded hpoint
    · cases hpoint
  case duties =>
    intro j w d stage at_ busy
    cases step.comes at_ busy with
    | stays hw hbusy => exact (h.duties hw hbusy).mono step.answeredFor
    | received _ => exact Stage.traced_loading _ _
    | goes hw hbusy goes => exact ((h.duties hw hbusy).goes goes).mono step.answeredFor
    | asks hw hbusy asks _ _ recorded =>
      exact ((h.duties hw hbusy).mono step.answeredFor).asks asks ⟨j, d, rfl, recorded⟩

theorem traceable_opening (world : World) (workers : Nat) : (opening world workers).Traceable where
  pending := fun hp => by cases hp
  failing := fun hp => by cases hp
  duties := by
    intro j w d stage at_ busy
    rw [duty_opening at_] at busy
    cases busy

end CatalogIntake.Concurrency.System
