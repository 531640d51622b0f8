import CatalogIntake.Chunk
import CatalogIntake.Proofs.JobId

namespace CatalogIntake

namespace Json

theorem value_of_record {α : Type} {name : String} {fields : Fields α} {members : Members} {a : α}
    (h : record name fields (.object members) = .ok a) :
    (fields.ofMembers members).value = some a := by
  unfold record at h
  simp only at h
  split at h
  · cases h
  · rename_i hvalue
    cases h
    exact hvalue
  · cases h

namespace Fields

variable {α β : Type} (members : Members)

theorem value_seq (f : Fields (α → β)) (x : Fields α) :
    ((f <*> x).ofMembers members).value =
      (f.ofMembers members).value.bind fun g => (x.ofMembers members).value.map g := rfl

theorem value_map (g : α → β) (x : Fields α) :
    ((g <$> x).ofMembers members).value = (x.ofMembers members).value.map g := rfl

theorem value_required (name : String) (decode : Decoder α) :
    ((required name decode).ofMembers members).value =
      (lookup? name members).bind fun value => (decode value).toOption := by
  unfold required field
  simp only
  cases lookup? name members with
  | none => rfl
  | some value =>
    simp only [Option.bind_some]
    cases decode value <;> rfl

end Fields

theorem length_of_items {α : Type} {decode : Decoder α} {values : List Json} {items_ : List α}
    (h : items decode (.array values) = .ok items_) : items_.length = values.length := by
  have hmapM : values.mapM decode = .ok items_ := h
  clear h
  induction values generalizing items_ with
  | nil =>
    cases hmapM
    rfl
  | cons value rest ih =>
    rw [List.mapM_cons] at hmapM
    cases hvalue : decode value with
    | error e =>
      rw [hvalue] at hmapM
      cases hmapM
    | ok item =>
      cases hrest : rest.mapM decode with
      | error e =>
        rw [hvalue, hrest] at hmapM
        cases hmapM
      | ok more =>
        rw [hvalue, hrest] at hmapM
        cases hmapM
        exact congrArg (· + 1) (ih hrest)

end Json

theorem JobId.decode_text (id : JobId) : decode (.string id.text) = .ok id := by
  unfold decode
  simp only
  rw [read_text]
  rfl

namespace Chunk

theorem of_decode {c c' : Chunk} (h : decode c.toJson = .ok c') :
    c'.jobId = c.jobId ∧ c'.records.length = c.records.length := by
  have hvalue := Json.value_of_record h
  unfold fields at hvalue
  rw [Json.Fields.value_seq, Json.Fields.value_seq, Json.Fields.value_map,
    Json.Fields.value_required, Json.Fields.value_required, Json.Fields.value_required] at hvalue
  simp only [Json.lookup?, List.filter_cons, List.filter_nil, String.reduceBEq, if_true,
    Bool.false_eq_true, if_false, List.getLast?_singleton, Option.map_some, Option.bind_some,
    JobId.decode_text] at hvalue
  cases hnumber : Json.int32 (.integer c.number) with
  | error e =>
    rw [hnumber] at hvalue
    cases hvalue
  | ok number =>
    cases hrecords : Json.items ProductRecord.decode
        (.array (c.records.map ProductRecord.toJson)) with
    | error e =>
      rw [hnumber, hrecords] at hvalue
      cases hvalue
    | ok records =>
      rw [hnumber, hrecords] at hvalue
      cases hvalue
      exact ⟨rfl, (Json.length_of_items hrecords).trans (List.length_map _)⟩

end Chunk

end CatalogIntake
