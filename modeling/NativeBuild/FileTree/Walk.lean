import NativeBuild.FileTree.Resolve
import NativeBuild.Traced

/-!
# Walking a tree

A walk visits everything below a directory: each directory's entries by name, and what lies in an
entry before its next sibling. That is the order in which the tree lists its entries, so a walk that
follows no links is a selection from the list. A walk that follows links goes, at each link, where
the link leads: a file is met under the name of the link, and a directory is walked in the place of
the link.

Two things stop a walk that follows links. A link may lead nowhere, and a link may lead back to a
directory that the walk is in, which would have no end. Directories that are entered by their own
names are not tested in this way. Even so every walk ends: a link on the way to a link counts for
both, so each directory walked in the place of a link has at least one link less left to follow than
the one before it.

Directories and links are reached by paths, and a path may be too long. So each walk is given a
condition on the names on the way, and stops where it has to enter a directory or follow a link that
does not meet it.
-/

namespace NativeBuild

/-- Why a walk stopped. The names are those on the way from where it began. -/
inductive WalkFault where
  /-- The link cannot be followed, or the directory cannot be entered. -/
  | broken (entry : List Name) (fault : Fault)
  /-- The link leads back to a directory that the walk is in. -/
  | loop (link : List Name) (ancestor : List Name)
  deriving DecidableEq, Repr

/-- A directory that a walk is in: where it lies in the tree, and the names by which the walk came
there. -/
structure Standing where
  place : Location
  trail : List Name
  deriving DecidableEq, Repr

/-- A walk notes the files it meets by the names on the way to them. -/
abbrev Walked := Traced (List Name) WalkFault

namespace Tree

/-- The directories from `l` down to the location `d` below it, the deepest first. -/
def standings (l : Location) (trail : List Name) (d : List Name) : List Standing :=
  ((List.range (d.length + 1)).map fun k => ⟨l ++ d.take k, trail ++ d.take k⟩).reverse

/-- Spending links never gains any. -/
theorem links_le_of_follow {t : Tree} {last : Bool} {links : Nat} {l : Location}
    {steps : List Path.Step} {a : Arrival} (h : t.follow last links l steps = .ok a) :
    a.links ≤ links := by
  fun_induction Tree.follow t last links l steps <;> simp_all <;> grind

/-- Going through a link spends one at least. -/
theorem links_lt_of_throughLink {t : Tree} {links left : Nat} {l there : Location} {target : Path}
    (h : t.throughLink links l target = .ok (there, left)) : left < links := by
  unfold throughLink at h
  split at h
  · simp at h
  · split at h
    · simp at h
    · split at h
      · rename_i hf
        simp only [Except.ok.injEq, Prod.mk.injEq] at h
        exact Nat.lt_succ_of_le (h.2 ▸ links_le_of_follow hf)
      · simp at h
      · simp at h

/-- The walk below the directory at `l`, which it reached by the names `trail`, with the directories
above it `outer` and `links` links left. -/
def walkBelow (t : Tree) (reachable : List Name → Bool) (links : Nat) (l : Location)
    (trail : List Name) (outer : List Standing) : Walked Unit :=
  (t.below l).forM fun x =>
    match x.2 with
    | .file _ _ => Traced.note (trail ++ x.1)
    -- what the directory holds is below `l` too, so it comes by itself
    | .dir => if reachable (trail ++ x.1) then pure ()
      else Traced.fail (.broken (trail ++ x.1) .nameTooLong)
    | .link target =>
      let inside := standings l trail x.1.dropLast ++ outer
      let link := trail ++ x.1
      if reachable link then
        match h : t.throughLink links (l ++ x.1.dropLast) target with
        | .error e => Traced.fail (.broken link e)
        | .ok (there, left) =>
          if t.isDir there then
            -- of the directories that the walk is in, the deepest is the one that is named
            match inside.find? (·.place = there) with
            | some s => Traced.fail (.loop link s.trail)
            | none =>
              have : left < links := links_lt_of_throughLink h
              walkBelow t reachable left there link inside
          else Traced.note link
      else Traced.fail (.broken link .nameTooLong)
termination_by links

/-- The walk below a directory, with or without following links. -/
def walk (t : Tree) (reachable : List Name → Bool) (followLinks : Bool) (l : Location)
    (links : Nat) : Walked Unit :=
  if followLinks then t.walkBelow reachable links l [] []
  else
    (t.below l).forM fun x =>
      match x.2 with
      | .file _ _ => Traced.note x.1
      | .dir => if reachable x.1 then pure () else Traced.fail (.broken x.1 .nameTooLong)
      | .link _ => pure ()

end Tree

end NativeBuild
