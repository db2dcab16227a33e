/-!
# Walks

A walk starts from some items and goes on to the items that each of them leads to. Items are told
apart by a mark, and an item whose mark has been met is passed over, so a walk over finitely many
marks ends however the items lead back to each other.
-/

namespace Clientwright

/-- How to walk: the mark of an item, what it leads to, and every mark that counts. -/
structure Walk (α : Type) where
  mark : α → String
  next : α → List α
  marks : List String

namespace Walk

variable {α : Type}

/-- The marks that have not been met. -/
def unmet (w : Walk α) (met : List String) : List String :=
  w.marks.filter fun m => !met.contains m

theorem unmet_cons (w : Walk α) (m : String) (met : List String) :
    w.unmet (m :: met) = (w.unmet met).filter (· != m) := by
  simp only [unmet, List.filter_filter]
  congr 1
  funext x
  by_cases h : x = m <;> simp [h]

theorem length_unmet_cons_lt (w : Walk α) (met : List String) {m : String} (hm : m ∈ w.marks)
    (h : m ∉ met) : (w.unmet (m :: met)).length < (w.unmet met).length := by
  rw [unmet_cons]
  refine List.length_filter_lt_length_iff_exists.mpr ⟨m, ?_, by simp⟩
  simpa [unmet, h] using hm

/-- Walks on from the items that wait, in order, and gives the items met from here on. -/
def reachFrom (w : Walk α) (met : List String) : List α → List α
  | [] => []
  | a :: waiting =>
    if _h : w.mark a ∈ w.marks ∧ w.mark a ∉ met then
      a :: w.reachFrom (w.mark a :: met) (w.next a ++ waiting)
    else w.reachFrom met waiting
termination_by waiting => ((w.unmet met).length, waiting.length)
decreasing_by
  · have ⟨marked, fresh⟩ := _h
    exact Prod.Lex.left _ _ (w.length_unmet_cons_lt met marked fresh)
  · exact Prod.Lex.right _ (Nat.lt_succ_self _)

/-- The items that a walk from the given ones meets, each mark once. -/
def reach (w : Walk α) (start : List α) : List α := w.reachFrom [] start

end Walk

end Clientwright
