namespace CatalogIntake.Text

def errorMessageLimit : Nat := 1000

def rowDataLimit : Nat := 2000

def truncate (s : String) (limit : Nat) : String := String.ofList (s.toList.take limit)

def boundedErrorMessage (s : String) : String := truncate s errorMessageLimit

def boundedRowData (s : String) : String := truncate s rowDataLimit

@[simp] theorem toList_truncate (s : String) (limit : Nat) :
    (truncate s limit).toList = s.toList.take limit := by
  simp [truncate]

theorem truncate_truncate (s : String) (m n : Nat) :
    truncate (truncate s m) n = truncate s (min m n) := by
  simp [truncate, List.take_take, Nat.min_comm]

end CatalogIntake.Text
