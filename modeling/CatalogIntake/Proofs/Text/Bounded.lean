import CatalogIntake.Text.Bounded
import CatalogIntake.Proofs.Text.Utf8
import Mathlib.Data.List.Basic

namespace CatalogIntake.Text

structure Cut (limit : Nat) (full kept : String) : Prop where
  bounded : kept.length ≤ limit
  filled : limit ≤ full.length → kept.length = limit
  beginning : kept.toList <+: full.toList
  whole : full.length ≤ limit → kept = full

theorem truncate_of_le {s : String} {limit : Nat} (h : s.length ≤ limit) :
    truncate s limit = s := by
  rw [truncate, List.take_of_length_le (by rwa [String.length_toList]), String.ofList_toList]

theorem cut_truncate (limit : Nat) (full : String) : Cut limit full (truncate full limit) where
  bounded := by
    rw [← String.length_toList, toList_truncate]
    exact List.length_take_le _ _
  filled h := by
    rw [← String.length_toList, toList_truncate]
    exact List.length_take_of_le (by rwa [String.length_toList])
  beginning := by
    rw [toList_truncate]
    exact List.take_prefix _ _
  whole := truncate_of_le

theorem boundedErrorMessage_boundedErrorMessage (s : String) :
    boundedErrorMessage (boundedErrorMessage s) = boundedErrorMessage s :=
  (truncate_truncate s _ _).trans (by rw [Nat.min_self]; rfl)

/-- The places where characters begin, counted in octets from the place of the first. -/
def beginnings (place : Nat) : List Char → List Nat
  | [] => []
  | c :: rest => place :: beginnings (place + (String.utf8EncodeChar c).length) rest

theorem le_of_mem_beginnings {cs : List Char} {place found : Nat}
    (h : found ∈ beginnings place cs) : place ≤ found := by
  induction cs generalizing place with
  | nil => cases h
  | cons c rest ih =>
    rcases List.mem_cons.mp h with rfl | h
    · exact Nat.le_refl _
    · exact Nat.le_trans (Nat.le_add_right _ _) (ih h)

theorem take_of_no_beginning {cs : List Char} {limit place : Nat}
    (h : (beginnings place cs)[limit]? = none) : cs.take limit = cs := by
  induction cs generalizing limit place with
  | nil => rw [List.take_nil]
  | cons c rest ih =>
    cases limit with
    | zero => cases h
    | succ limit => rw [List.take_succ_cons, ih (List.getElem?_cons_succ ▸ h)]

theorem octets_take {cs : List Char} {limit place found : Nat}
    (h : (beginnings place cs)[limit]? = some found) :
    Utf8.octets (cs.take limit) = (Utf8.octets cs).take (found - place) := by
  induction cs generalizing limit place with
  | nil => cases h
  | cons c rest ih =>
    cases limit with
    | zero =>
      obtain rfl : place = found := Option.some.inj h
      simp
    | succ limit =>
      have hrest : (beginnings (place + (String.utf8EncodeChar c).length) rest)[limit]? =
          some found := List.getElem?_cons_succ ▸ h
      have hle := le_of_mem_beginnings (List.mem_of_getElem? hrest)
      have hfirst : (String.utf8EncodeChar c).take (found - place) = String.utf8EncodeChar c :=
        List.take_of_length_le (by omega)
      rw [List.take_succ_cons, Utf8.octets_cons, Utf8.octets_cons, ih hrest, List.take_append,
        hfirst, Nat.sub_add_eq]

/-- Counted in octets, a text is cut where the character after the last one kept begins. -/
theorem encode_truncate (s : String) (limit : Nat) :
    Utf8.encode (truncate s limit) =
      match (beginnings 0 s.toList)[limit]? with
      | some place => (Utf8.encode s).take place
      | none => Utf8.encode s := by
  rw [Utf8.encode_eq, Utf8.encode_eq, toList_truncate]
  split
  · rename_i place h
    exact octets_take h
  · rename_i h
    rw [take_of_no_beginning h]

end CatalogIntake.Text
