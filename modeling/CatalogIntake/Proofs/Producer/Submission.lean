import CatalogIntake.Proofs.Producer.Calls

namespace CatalogIntake

open ProducerRun

def Answered.submission? : Answered → Option (Chunk × Outcome Unit)
  | ⟨.publish chunk, verdict⟩ => some (chunk, verdict)
  | _ => none

def submissionsOf (log : List Answered) : List (Chunk × Outcome Unit) :=
  log.filterMap Answered.submission?

/-- The bus gives these verdicts, one for each submission; `others` answers the other calls. -/
def Respondent.judging (others : Respondent) (verdicts : Nat → Outcome Unit) : Respondent
  | log, .publish _ => verdicts (submissionsOf log).length
  | log, c => others log c

def Judged (verdicts : Nat → Outcome Unit) (log : List Answered) : Prop :=
  (submissionsOf log).map Prod.snd = (List.range (submissionsOf log).length).map verdicts

theorem submissionsOf_append (log more : List Answered) :
    submissionsOf (log ++ more) = submissionsOf log ++ submissionsOf more := List.filterMap_append

section Verdicts

variable {verdicts : Nat → Outcome Unit} {log : List Answered} {α : Type}

theorem Judged.answer (h : Judged verdicts log) (others : Respondent) (c : Call) :
    Judged verdicts (log ++ [⟨c, others.judging verdicts log c⟩]) := by
  unfold Judged at *
  rw [submissionsOf_append]
  cases c with
  | publish chunk =>
    have hone : submissionsOf [⟨.publish chunk, others.judging verdicts log (.publish chunk)⟩] =
        [(chunk, verdicts (submissionsOf log).length)] := rfl
    rw [hone, List.map_append, h, List.length_append, List.length_singleton, List.range_succ,
      List.map_append]
    rfl
  | _ =>
    simp only [submissionsOf, List.filterMap_cons, Answered.submission?, List.filterMap_nil,
      List.append_nil]
    exact h

theorem Judged.run (h : Judged verdicts log) (others : Respondent) (p : Plan α) :
    Judged verdicts (Plan.run (others.judging verdicts).answer p log).2 := by
  induction p generalizing log with
  | done a => exact h
  | call c next ih => exact ih _ (h.answer others c)

end Verdicts

/-- What comes of a chunk that has been refused so often and may be submitted again so often, and by
which calls. -/
inductive Submits (chunk : Chunk) :
    (refusals retries : Nat) → (result : Outcome Unit) → (calls : List Answered) → Prop
  | accepted {refusals retries : Nat} :
      Submits chunk refusals retries (.ok ()) [⟨.publish chunk, .ok ()⟩]
  | exhausted {refusals : Nat} (f : Failure) :
      Submits chunk refusals 0
        (.error (f.during (.publishChunk chunk.number (.ofNat (refusals + 1)))))
        [⟨.publish chunk, .error f⟩]
  | again {refusals retries : Nat} {result : Outcome Unit} {calls : List Answered} (f : Failure)
      (pause : Outcome Unit) (rest : Submits chunk (refusals + 1) retries result calls) :
      Submits chunk refusals (retries + 1) result
        (⟨.publish chunk, .error f⟩ :: ⟨.pause, pause⟩ :: calls)

theorem submits_publishWithRetry (reply : Respondent) (chunk : Chunk) (refusals retries : Nat)
    (log : List Answered) : ∃ result calls,
      Plan.run reply.answer (publishWithRetry chunk refusals retries) log = (result, log ++ calls) ∧
      Submits chunk refusals retries result calls := by
  -- on the attempts that are left; the refusals so far only number the last of them
  induction retries generalizing refusals log with
  | zero =>
    unfold publishWithRetry
    rw [Plan.run_call]
    simp only [Respondent.answer]
    cases hverdict : reply log (.publish chunk) with
    | ok _ => exact ⟨_, _, rfl, .accepted⟩
    | error f => exact ⟨_, _, rfl, .exhausted f⟩
  | succ retries ih =>
    unfold publishWithRetry
    rw [Plan.run_call]
    simp only [Respondent.answer]
    cases hverdict : reply log (.publish chunk) with
    | ok _ => exact ⟨_, _, rfl, .accepted⟩
    | error f =>
      let refused : List Answered := log ++ [⟨.publish chunk, .error f⟩]
      obtain ⟨result, calls, hrun, hrest⟩ :=
        ih (refusals + 1) (refused ++ [⟨.pause, reply refused .pause⟩])
      refine ⟨result, _, hrun.trans ?_, .again f (reply refused .pause) hrest⟩
      rw [List.append_assoc, List.append_assoc]
      rfl

namespace Submits

variable {chunk : Chunk} {refusals retries : Nat} {result : Outcome Unit} {calls : List Answered}

/-- It ends with the first acceptance or with the last refusal that is allowed. -/
theorem submissions (h : Submits chunk refusals retries result calls) :
    ∃ (failures : List Failure) (verdict : Outcome Unit),
      submissionsOf calls = (failures.map Except.error ++ [verdict]).map (Prod.mk chunk) ∧
      (failures.length ≤ retries ∧ verdict = .ok () ∧ result = .ok () ∨
        failures.length = retries ∧ ∃ f, verdict = .error f ∧
          result =
            .error (f.during (.publishChunk chunk.number (.ofNat (refusals + retries + 1))))) := by
  induction h with
  | accepted => exact ⟨[], .ok (), rfl, .inl ⟨Nat.zero_le _, rfl, rfl⟩⟩
  | exhausted f => exact ⟨[], .error f, rfl, .inr ⟨rfl, f, rfl, rfl⟩⟩
  | @again refusals retries result calls f pause rest ih =>
    obtain ⟨failures, verdict, hcalls, hends⟩ := ih
    refine ⟨f :: failures, verdict, ?_, ?_⟩
    · show (chunk, .error f) :: submissionsOf calls = _
      rw [hcalls]
      rfl
    · rcases hends with ⟨hfew, hok⟩ | ⟨hall, g, hg, hresult⟩
      · exact .inl ⟨Nat.succ_le_succ hfew, hok⟩
      · have htimes : refusals + 1 + retries = refusals + (retries + 1) := by omega
        rw [htimes] at hresult
        exact .inr ⟨congrArg (· + 1) hall, g, hg, hresult⟩

theorem after_accepted (h : Submits chunk refusals retries result calls)
    {before after : List Answered} {other : Chunk}
    (split : calls = before ++ ⟨.publish other, .ok ()⟩ :: after) : after = [] := by
  induction h generalizing before with
  | accepted =>
    rcases before with _ | ⟨first, before⟩
    · exact (List.cons.inj split).2.symm
    · cases before <;> cases (List.cons.inj split).2
  | exhausted f =>
    rcases before with _ | ⟨first, before⟩
    · cases (List.cons.inj split).1
    · cases before <;> cases (List.cons.inj split).2
  | again f pause rest ih =>
    rcases before with _ | ⟨first, _ | ⟨second, before⟩⟩
    · cases (List.cons.inj split).1
    · cases (List.cons.inj (List.cons.inj split).2).1
    · exact ih (List.cons.inj (List.cons.inj split).2).2

theorem chunksOf_eq (h : Submits chunk refusals retries result calls) :
    chunksOf calls = result.toOption.toList.map fun _ => chunk := by
  induction h with
  | accepted => rfl
  | exhausted f => rfl
  | again f pause rest ih => exact ih

end Submits

/-- How a chunk is tried that may be submitted again so often, on a bus that gives these verdicts:
up to the first acceptance, or else until the retries are used up; then the last refusal is the
cause of the failure. The number of attempts that it names has 32 bits, too. -/
structure Retries (chunk : Chunk) (retries : UInt32) (verdicts : Nat → Outcome Unit)
    (result : Outcome Unit) (calls : List Answered) : Prop where
  accepted : ∀ k ≤ retries.toNat, (∀ i < k, verdicts i ≠ .ok ()) → verdicts k = .ok () →
    result = .ok () ∧ submissionsOf calls = (List.range (k + 1)).map fun i => (chunk, verdicts i)
  exhausted : (∀ i ≤ retries.toNat, verdicts i ≠ .ok ()) →
    ∃ f g, verdicts retries.toNat = .error f ∧
      result = .error g ∧ g = f.during (.publishChunk chunk.number (retries + 1)) ∧
      g.chain =
        s!"Failed to publish chunk {chunk.number} after {retries + 1} attempts" :: f.chain ∧
      submissionsOf calls =
        (List.range (retries.toNat + 1)).map fun i => (chunk, verdicts i)
  attempts : retries.toNat + 1 < 2 ^ 32 → (retries + 1).toNat = retries.toNat + 1
  /-- Nothing is called after an acceptance. -/
  last : ∀ before other after, calls = before ++ ⟨.publish other, .ok ()⟩ :: after → after = []

/-- The submissions of one chunk, told by the verdicts that the bus gives. -/
theorem Judged.submissionsOf_eq {chunk : Chunk} {verdicts : Nat → Outcome Unit}
    {calls : List Answered} {failures : List Failure} {verdict : Outcome Unit}
    (judged : Judged verdicts calls)
    (submissions :
      submissionsOf calls = (failures.map Except.error ++ [verdict]).map (Prod.mk chunk)) :
    submissionsOf calls = (List.range (failures.length + 1)).map (fun i => (chunk, verdicts i)) ∧
      (∀ i < failures.length, verdicts i ≠ .ok ()) ∧ verdicts failures.length = verdict := by
  have hlength : (submissionsOf calls).length = failures.length + 1 := by
    rw [submissions]
    simp
  have hverdicts : failures.map Except.error ++ [verdict] =
      (List.range (failures.length + 1)).map verdicts := by
    unfold Judged at judged
    rw [hlength, submissions, List.map_map] at judged
    exact (List.map_id _).symm.trans judged
  refine ⟨?_, ?_⟩
  · rw [submissions, hverdicts, List.map_map]
    rfl
  · rw [List.range_succ, List.map_append, List.map_singleton] at hverdicts
    obtain ⟨hfailures, hlast⟩ := List.append_inj' hverdicts rfl
    refine ⟨fun i hi hok => ?_, (List.cons.inj hlast).1.symm⟩
    have hmem : verdicts i ∈ failures.map Except.error := by
      rw [hfailures]
      exact List.mem_map_of_mem (List.mem_range.mpr hi)
    obtain ⟨f, -, hf⟩ := List.mem_map.mp hmem
    rw [hok] at hf
    cases hf

theorem Submits.retries {chunk : Chunk} {retries : UInt32} {verdicts : Nat → Outcome Unit}
    {result : Outcome Unit} {calls : List Answered}
    (h : Submits chunk 0 retries.toNat result calls) (judged : Judged verdicts calls) :
    Retries chunk retries verdicts result calls := by
  obtain ⟨failures, verdict, hsubmissions, hends⟩ := h.submissions
  obtain ⟨hcalls, hrefused, hverdict⟩ := judged.submissionsOf_eq hsubmissions
  refine ⟨?_, ?_, Nat.mod_eq_of_lt, fun _ _ _ => h.after_accepted⟩
  · intro k hk before here
    have hcount : failures.length = k := by
      rcases Nat.lt_trichotomy failures.length k with hlt | heq | hgt
      · rcases hends with ⟨-, hok, -⟩ | ⟨hall, -⟩
        · exact absurd (hverdict.trans hok) (before _ hlt)
        · omega
      · exact heq
      · exact absurd here (hrefused k hgt)
    rcases hends with ⟨-, -, hresult⟩ | ⟨-, f, hf, -⟩
    · exact ⟨hresult, hcount ▸ hcalls⟩
    · rw [hcount, here, hf] at hverdict
      cases hverdict
  · intro all
    rcases hends with ⟨hfew, hok, -⟩ | ⟨hcount, f, hf, hresult⟩
    · exact absurd (hverdict.trans hok) (all _ hfew)
    · rw [Nat.zero_add, UInt32.ofNat_add, UInt32.ofNat_toNat] at hresult
      exact ⟨f, _, hcount ▸ hverdict.trans hf, hresult, rfl, rfl, hcount ▸ hcalls⟩

/-- A bus that is closed for two submissions. -/
example :
    let reply : Respondent := Respondent.judging (fun _ _ => .error (.of .jobStoreUnavailable))
      fun i => if i = 2 then .ok () else .error (.of .busClosed)
    (Plan.run reply.answer (publishWithRetry ⟨⟨7⟩, 4, []⟩ 0 2) []).1 = .ok () ∧
      (Plan.run reply.answer (publishWithRetry ⟨⟨7⟩, 4, []⟩ 0 1) []).1 =
        .error ⟨[.publishChunk 4 2], .busClosed⟩ := ⟨rfl, rfl⟩

end CatalogIntake
