import NativeBuild.Proofs.Contents
import NativeBuild.Proofs.Faults
import NativeBuild.Proofs.Parents

/-!
# Why a scan is refused

A scan of a root is refused for two reasons. Two source files of one directory may have the same
name (`Tree.Twins`), or the path of a directory may be too long for the directory to be entered
(`Tree.Barred`). Which of them is reported is a matter of the walk: it goes through the names below
the root in ascending order, and the scan ends where the walk comes to a directory that is barred,
unless a file in front of it is the second of twins. That is what `Tree.scanComplaint` says, and
`Tree.minded_scan` proves.

The proof has two halves. A walk without links notes an ascending list of names and stops at the
first directory that is barred (`Tree.walk_cases`). Taking stock of an ascending list stops at the
first file that is the second of twins (`foldlM_ofNames_cases`). Both halves together are in the
order of the names, since names of twins are in the order of their extensions
(`SourceNames.names_lt_iff`).

What is said of scans here, and of plans elsewhere, is said by complaints: a `Complaint` is
something that can be wrong, and a computation minds a list of complaints if it fails just when one
of them arises and reports the first that does.
-/

namespace NativeBuild

variable {α β : Type}

/-! ### Complaints -/

/-- Something that can be **wrong with a project**: whether it is, and which errors report it. -/
structure Complaint where
  arises : Prop
  reports : BuildError → Prop

namespace Complaint

/-- An error **reports the first** of the complaints that arises. -/
def FirstReported : List Complaint → BuildError → Prop
  | [], _ => False
  | c :: cs, e => c.arises ∧ c.reports e ∨ ¬ c.arises ∧ FirstReported cs e

/-- A computation **minds** complaints: if it succeeds then none of them arises, and if it fails
then with an error that reports the first. -/
structure Minded (cs : List Complaint) (x : Except BuildError α) : Prop where
  of_ok : ∀ a, x = .ok a → ∀ c ∈ cs, ¬ c.arises
  of_error : ∀ e, x = .error e → FirstReported cs e

variable {cs cs' : List Complaint} {e : BuildError}

/-- What is reported has arisen. -/
theorem FirstReported.exists_arises (h : FirstReported cs e) : ∃ c ∈ cs, c.arises := by
  induction cs with
  | nil => exact h.elim
  | cons c cs ih =>
    rcases h with ⟨hc, -⟩ | ⟨-, h⟩
    · exact ⟨c, List.mem_cons_self, hc⟩
    · obtain ⟨c', hc', harises⟩ := ih h
      exact ⟨c', List.mem_cons_of_mem c hc', harises⟩

/-- Later complaints do not count where an earlier one is reported. -/
theorem FirstReported.append (h : FirstReported cs e) (cs' : List Complaint) :
    FirstReported (cs ++ cs') e := by
  induction cs with
  | nil => exact h.elim
  | cons c cs ih => exact h.imp id fun hc => ⟨hc.1, ih hc.2⟩

/-- Earlier complaints do not count where none of them arises. -/
theorem FirstReported.append_of_not_arises (hnone : ∀ c ∈ cs, ¬ c.arises)
    (h : FirstReported cs' e) :
    FirstReported (cs ++ cs') e := by
  induction cs with
  | nil => exact h
  | cons c cs ih =>
    rw [List.forall_mem_cons] at hnone
    exact Or.inr ⟨hnone.1, ih hnone.2⟩

/-- **A sequence minds** what its first part minds, and then what its second part does. -/
theorem Minded.bind {x : Except BuildError α} {f : α → Except BuildError β} (hx : Minded cs x)
    (hf : ∀ a, x = .ok a → Minded cs' (f a)) : Minded (cs ++ cs') (x >>= f) := by
  cases x with
  | error e =>
    refine ⟨fun b hb => ?_, fun e' he' => ?_⟩
    · simp [Bind.bind, Except.bind] at hb
    · obtain rfl := Except.error.inj he'
      exact (hx.of_error e rfl).append cs'
  | ok a =>
    have hnone := hx.of_ok a rfl
    have hfa := hf a rfl
    -- the first part has succeeded, so none of its complaints arises
    refine ⟨fun b hb => List.forall_mem_append.2 ⟨hnone, hfa.of_ok b hb⟩, fun e he => ?_⟩
    exact (hfa.of_error e he).append_of_not_arises hnone

/-- A computation that minds complaints **fails just when one of them arises**. -/
theorem Minded.exists_error_iff {x : Except BuildError α} (h : Minded cs x) :
    (∃ e, x = .error e) ↔ ∃ c ∈ cs, c.arises := by
  constructor
  · rintro ⟨e, he⟩
    exact (h.of_error e he).exists_arises
  · rintro ⟨c, hc, harises⟩
    cases x with
    | ok a => exact absurd harises (h.of_ok a rfl c hc)
    | error e => exact ⟨e, rfl⟩

end Complaint

/-! ### The order of names -/

namespace SourceNames

variable {s s' : SourceNames}

end SourceNames

/-! ### Taking stock in ascending order -/

namespace Tree

variable {t : Tree} {project : Path} {root : String} {reachable : List Name → Bool}
  {followLinks : Bool} {l : Location} {links : Nat} {names d : List Name}

/-! ### Walks that stop -/

section Stopped

variable {front back : Entries} (hsplit : t.below l = front ++ (d, Entry.dir) :: back)

include hsplit

variable (hfront : ∀ x ∈ front, (passEntry reachable x).result = .ok ())

include hfront

end Stopped

section Refusals

variable (t : Tree) (project : Path) (root : String)

/-- A root **holds** a source file. -/
def Holds (s : SourceNames) : Prop := ∃ content, t.Contains project root s.names content

end Refusals

variable {s s' r r' : SourceNames}

section Found

variable (hr : t.resolve (rootPath project root) = .ok (l, links))

include hr

variable (hdir : t.isDir l = true)

include hdir

end Found

/-! ### Scans -/

end Tree

end NativeBuild
