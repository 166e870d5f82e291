import Mathlib.Data.List.Induction

/-!
# Lists without duplicates

`List.eraseDupsBy` keeps the first of the entries that are the same under a relation.
-/

namespace SqlRender.List

variable {α : Type} {r : α → α → Bool}

/-- A further entry is a duplicate if it is one of an entry that has been kept. -/
theorem eraseDupsBy_concat (r : α → α → Bool) (as : List α) (a : α) :
  (as ++ [a]).eraseDupsBy r =
    if (as.eraseDupsBy r).any (r a) then as.eraseDupsBy r else as.eraseDupsBy r ++ [a]
  := by
  -- the entries kept so far are an argument of the loop, so the induction is for all of them
  have hloop : ∀ bs, List.eraseDupsBy.loop r (as ++ [a]) bs =
      if (List.eraseDupsBy.loop r as bs).any (r a) then List.eraseDupsBy.loop r as bs
      else List.eraseDupsBy.loop r as bs ++ [a] := by
    induction as with
    | nil =>
      intro bs
      cases h : bs.any (r a) <;> simp [List.eraseDupsBy.loop, h]
    | cons b rest ih =>
      intro bs
      cases h : bs.any (r b) <;> simp only [List.cons_append, List.eraseDupsBy.loop, h, ih]
  exact hloop []

/-- No two of the entries that are kept are the same. -/
theorem pairwise_eraseDupsBy (hcomm : ∀ a b, r a b = r b a) (as : List α) :
  (as.eraseDupsBy r).Pairwise fun a b => r a b = false
  := by
  induction as using List.reverseRecOn with
  | nil => exact List.Pairwise.nil
  | append_singleton as a ih =>
    rw [eraseDupsBy_concat]
    split
    · exact ih
    · next h =>
      refine List.pairwise_append.mpr ⟨ih, List.pairwise_singleton _ a, fun b hb c hc => ?_⟩
      rw [List.mem_singleton.mp hc, hcomm]
      simpa using fun hsame => h (List.any_eq_true.mpr ⟨b, hb, hsame⟩)

end SqlRender.List
