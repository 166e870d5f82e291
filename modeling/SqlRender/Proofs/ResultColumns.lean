import SqlRender.Proofs.Duplicates
import SqlRender.Row

/-!
# The columns of a row

A row is made by setting one column after the other, where a name that is there already in
other letter case stands for the same column.  So the row has a column for each of the different
names, spelled as at first and in the order in which they came first, and with the value that
was set last: `Row.columns_ofList`.
-/

namespace SqlRender

theorem Text.sameIgnoringCase_comm (s t : String) :
  sameIgnoringCase s t = sameIgnoringCase t s
  := Bool.beq_comm

/-- Names that are the same are the same as other names. -/
theorem Text.sameIgnoringCase_congr {s t : String} (h : sameIgnoringCase s t = true) (u : String) :
  sameIgnoringCase s u = sameIgnoringCase t u
  := by
  rw [sameIgnoringCase, sameIgnoringCase_iff.mp h]
  rfl

namespace Row

open Text (sameIgnoringCase sameIgnoringCase_comm sameIgnoringCase_congr)

/-! ### Setting one column -/

section

variable (name : String) (v : Value)

/-- A column that is set keeps its name, and a further column comes last. -/
theorem map_fst_put (columns : List (String × Value)) :
  (put name v columns).map Prod.fst
    = if (columns.map Prod.fst).any (sameIgnoringCase name) then columns.map Prod.fst
      else columns.map Prod.fst ++ [name]
  := by
  induction columns with
  | nil => rfl
  | cons c rest ih =>
    rw [put, sameIgnoringCase_comm]
    split
    · next h => simp [h]
    · next h =>
      rw [Bool.not_eq_true] at h
      simp only [List.map_cons, ih, List.any_cons, h, Bool.false_or]
      split <;> rfl

/-- A column that is set has the new value, and every other one its old value. -/
theorem find?_put (columns : List (String × Value)) (wanted : String) :
  ((put name v columns).find? fun c => sameIgnoringCase c.1 wanted).map Prod.snd
    = if sameIgnoringCase name wanted then some v
      else (columns.find? fun c => sameIgnoringCase c.1 wanted).map Prod.snd
  := by
  induction columns with
  | nil => cases h : sameIgnoringCase name wanted <;> simp [put, h]
  | cons c rest ih =>
    rw [put]
    split
    · next h =>
      rw [← sameIgnoringCase_congr h]
      cases hwanted : sameIgnoringCase c.1 wanted <;> simp [hwanted]
    · next h =>
      cases hwanted : sameIgnoringCase c.1 wanted with
      | false => simpa [hwanted] using ih
      | true =>
        have hname : sameIgnoringCase name wanted = false := by
          rw [sameIgnoringCase_comm, ← sameIgnoringCase_congr hwanted]
          rwa [Bool.not_eq_true] at h
        simp [hwanted, hname]

variable {name}

/-- A column of another name stays where it is. -/
theorem getElem?_put {columns : List (String × Value)} {i : Nat} {c : String × Value}
    (h : columns[i]? = some c) (hother : sameIgnoringCase c.1 name = false) :
  (put name v columns)[i]? = some c
  := by
  induction columns generalizing i with
  | nil => cases h
  | cons first rest ih =>
    rw [put]
    cases i with
    | zero =>
      obtain rfl : first = c := Option.some.inj h
      simp [hother]
    | succ i =>
      split
      · exact h
      · apply ih h

end

theorem names_set (row : Row) (name : String) (v : Value) :
  (row.set name v).names
    = if row.names.any (sameIgnoringCase name) then row.names else row.names ++ [name]
  := map_fst_put name v row.columns

theorem get?_set (row : Row) (name : String) (v : Value) (wanted : String) :
  (row.set name v).get? wanted
    = if sameIgnoringCase name wanted then some v else row.get? wanted
  := find?_put name v row.columns wanted

/-! ### Setting columns one after the other -/

theorem ofList_concat (pairs : List (String × Value)) (p : String × Value) :
  ofList (pairs ++ [p]) = (ofList pairs).set p.1 p.2
  := by
  rw [ofList, List.foldl_append]
  rfl

/-- The names of a row are the different names that were set, each as it was set first. -/
theorem names_ofList (pairs : List (String × Value)) :
  (ofList pairs).names = (pairs.map Prod.fst).eraseDupsBy sameIgnoringCase
  := by
  induction pairs using List.reverseRecOn with
  | nil => rfl
  | append_singleton pairs p ih =>
    rw [ofList_concat, names_set, ih, List.map_append]
    exact (List.eraseDupsBy_concat sameIgnoringCase _ _).symm

/-- A column has the value that was set last under its name. -/
theorem get?_ofList (pairs : List (String × Value)) (name : String) :
  (ofList pairs).get? name
    = (pairs.reverse.find? fun p => sameIgnoringCase p.1 name).map Prod.snd
  := by
  induction pairs using List.reverseRecOn with
  | nil => rfl
  | append_singleton pairs p ih =>
    rw [ofList_concat, get?_set, ih, List.reverse_append, List.reverse_singleton,
      List.singleton_append, List.find?_cons]
    cases sameIgnoringCase p.1 name <;> rfl

/-- Of a row whose columns were set one after the other: its names are the different ones that
were set, spelled and ordered as at first; a name finds the value that was set last under it in
any letter case; and setting a further column leaves the values and the places of all others. -/
theorem columns_ofList (pairs : List (String × Value)) :
  (ofList pairs).names.Pairwise (fun m n => sameIgnoringCase m n = false)
    ∧ (ofList pairs).names = (pairs.map Prod.fst).eraseDupsBy sameIgnoringCase
    ∧ (∀ name, (ofList pairs).get? name
      = (pairs.reverse.find? fun p => sameIgnoringCase p.1 name).map Prod.snd)
    ∧ ∀ name v other, sameIgnoringCase other name = false →
      ((ofList pairs).set name v).get? other = (ofList pairs).get? other
        ∧ ∀ (i : Nat) w, (ofList pairs).columns[i]? = some (other, w) →
          ((ofList pairs).set name v).columns[i]? = some (other, w)
  := by
  have hnames := names_ofList pairs
  refine ⟨?_, hnames, get?_ofList pairs, ?_⟩
  · rw [hnames]
    apply List.pairwise_eraseDupsBy sameIgnoringCase_comm
  · intro name v other hother
    constructor
    · rw [get?_set, sameIgnoringCase_comm, hother]
      rfl
    · intro i w hcolumn
      exact getElem?_put v hcolumn hother

/-- The identifier and the age of an account, and the identifier again. -/
def repeatedColumns : List (String × Value) :=
  [("id", .int 1), ("age", .int 2), ("ID", .int 9)]

/-- The identifier is replaced in its place, and a further one leaves the age where it is. -/
theorem columns_ofList_repeatedColumns :
  (ofList repeatedColumns).names = ["id", "age"]
    ∧ (ofList repeatedColumns).get? "Id" = some (.int 9)
    ∧ Text.sameIgnoringCase "age" "iD" = false
    ∧ (ofList repeatedColumns).columns[1]? = some ("age", .int 2)
    ∧ ((ofList repeatedColumns).set "iD" .null).get? "age" = some (.int 2)
    ∧ ((ofList repeatedColumns).set "iD" .null).columns[1]? = some ("age", .int 2)
  := by
  obtain ⟨-, hnames, hvalues, hset⟩ := columns_ofList repeatedColumns
  have hother : Text.sameIgnoringCase "age" "iD" = false := by decide
  obtain ⟨hvalue, hplace⟩ := hset "iD" .null "age" hother
  refine ⟨hnames.trans ?_, (hvalues "Id").trans ?_, hother, ?_, hvalue.trans ?_, hplace 1 _ ?_⟩
  all_goals rfl

end Row

end SqlRender
