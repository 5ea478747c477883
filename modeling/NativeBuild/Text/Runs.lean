/-!
# Maximal runs

Cutting a list at separators and throwing the separators away. `runs sep l` lists the maximal
non-empty runs of elements that are no separators, in order; so separators in a row, or at an end,
separate nothing. Words of a text and components of a path are both runs.
-/

namespace NativeBuild.Text

variable {α : Type}

/-- The **maximal runs** of elements between separators. -/
def runs (sep : α → Bool) : List α → List (List α)
  | [] => []
  | c :: r =>
    if sep c then runs sep r
    else
      match r with
      | [] => [[c]]
      | d :: _ =>
        if sep d then [c] :: runs sep r
        else
          match runs sep r with
          | [] => [[c]]
          | w :: ws => (c :: w) :: ws

@[simp] theorem runs_nil (sep : α → Bool) : runs sep [] = [] := rfl

theorem runs_cons_sep {sep : α → Bool} {c : α} (h : sep c = true) (r : List α) :
    runs sep (c :: r) = runs sep r := by
  cases r <;> simp [runs, h]

/-- Does `part` occur somewhere in the list? -/
def occursIn [BEq α] (part : List α) : List α → Bool
  | [] => part.isEmpty
  | c :: r => part.isPrefixOf (c :: r) || occursIn part r

end NativeBuild.Text
