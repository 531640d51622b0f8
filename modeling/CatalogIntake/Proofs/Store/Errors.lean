import CatalogIntake.Store.Errors

namespace CatalogIntake.ErrorLog

theorem append_eq (entries : List ErrorEntry) (now : Instant) (candidates : List ErrorCandidate) :
    append entries now candidates = entries ++
      candidates.mapIdx fun k c => ErrorEntry.ofCandidate (entries.length + k + 1) now c := by
  induction candidates generalizing entries with
  | nil => simp [append]
  | cons candidate rest ih =>
    rw [append, ih, List.append_assoc, List.mapIdx_cons, List.length_append, List.length_singleton,
      List.singleton_append]
    congr 3
    funext k c
    congr 1
    push_cast
    omega

theorem count_append (entries added : List ErrorEntry) (available : Bool) (id : JobId) :
    count ⟨entries ++ added, available⟩ id =
      count ⟨entries, available⟩ id + (added.map (·.jobId)).count id := by
  unfold count ofJob
  rw [List.filter_append, List.length_append]
  congr 1
  rw [← List.countP_eq_length_filter, List.count_eq_countP, List.countP_map]
  rfl

theorem count_save (log : ErrorLog) (available : log.available = true)
    (candidates : List ErrorCandidate) (now : Instant) (id : JobId) :
    (log.save candidates now).2.count id =
      log.count id + (candidates.map (·.jobId)).count id := by
  have hids : (candidates.mapIdx fun k c =>
      ErrorEntry.ofCandidate (log.entries.length + k + 1) now c).map (·.jobId) =
        candidates.map (·.jobId) := by
    apply List.ext_getElem?
    intro k
    simp [Function.comp_def, ErrorEntry.ofCandidate]
  unfold save
  rw [if_pos available]
  simp only
  rw [append_eq, count_append, hids]

theorem available_save (log : ErrorLog) (candidates : List ErrorCandidate) (now : Instant) :
    (log.save candidates now).2.available = log.available := by
  unfold save
  split <;> rfl

end CatalogIntake.ErrorLog
