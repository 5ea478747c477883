import NativeBuild.Proofs.Spelling
import NativeBuild.Proofs.Stock
import Mathlib.Data.List.DropRight

/-!
# Paths below a root

The path under which a scan opens a file is spelled from the path of the root with a slash in front
of every name on the way (`bytes_pathFrom`). Reading it back gives the steps along the root, then
one step down for each name (`steps_pathFrom`), because neither has the root a slash at its end nor
a name one inside.

The text by which the file is called in a plan is spelled in the same way from the root as text
(`toList_relPath`). So where the names are text, a project joined with that text is the path of the
file (`join_spelled`), whichever root it is spelled from.
-/

namespace NativeBuild

/-! ### Cutting at separators -/

namespace Text

/-- What is no separator is in a run. -/
theorem runs_cons_ne_nil {α : Type} {sep : α → Bool} {a : α} (ha : sep a = false) (l : List α) :
    runs sep (a :: l) ≠ [] := by
  cases l with
  | nil => simp [runs, ha]
  | cons b l =>
    rw [runs, if_neg (by simp [ha])]
    split
    · simp
    · split <;> simp

/-- A separator parts the runs in front of it from those behind. -/
theorem runs_append_sep {α : Type} {sep : α → Bool} {c : α} (hc : sep c = true) (l r : List α) :
    runs sep (l ++ c :: r) = runs sep l ++ runs sep r := by
  -- on what is in front of the separator
  induction l with
  | nil => rw [List.nil_append, runs_cons_sep hc, runs_nil, List.nil_append]
  | cons a l ih =>
    by_cases ha : sep a = true
    · rw [List.cons_append, runs_cons_sep ha, runs_cons_sep ha, ih]
    · -- whether `a` is a run of its own is decided by what comes next
      cases l with
      | nil => simp [runs, ha, hc]
      | cons b l =>
        rw [List.cons_append] at ih ⊢
        rw [List.cons_append, runs, runs]
        by_cases hb : sep b = true
        · simp [ha, hb, ih]
        · obtain ⟨w, ws, hw⟩ := List.exists_cons_of_ne_nil
            (runs_cons_ne_nil (Bool.eq_false_iff.2 hb) l)
          rw [hw] at ih
          simp [ha, hb, ih, hw]

/-- Without separators there is one run. -/
theorem runs_of_forall {α : Type} {sep : α → Bool} {l : List α} (hl : l ≠ [])
    (h : ∀ a ∈ l, sep a = false) : runs sep l = [l] := by
  induction l with
  | nil => exact absurd rfl hl
  | cons a l ih =>
    rw [List.forall_mem_cons] at h
    cases l with
    | nil => simp [runs, h.1]
    | cons b l =>
      have hb := h.2 b List.mem_cons_self
      rw [runs, ih (List.cons_ne_nil b l) h.2]
      simp [h.1, hb]

end Text

/-! ### Paths of names -/

/-- The bytes of names with a slash in front of each. -/
def trail (names : List Name) : Bytes := names.flatMap fun n => Path.slash :: n.bytes

/-- The steps down by names. -/
def downs (names : List Name) : List Path.Step := names.map fun n => .down n.bytes

/-- A path is **bare** if there is something to it and it does not end in a slash. -/
def Path.Bare (p : Path) : Prop := p.bytes ≠ [] ∧ p.bytes.getLast? ≠ some Path.slash

theorem Path.eq_of_bytes_eq {p q : Path} (h : p.bytes = q.bytes) : p = q := by
  cases p
  cases q
  exact congrArg Path.mk h

/-- Different texts are different paths. -/
theorem Path.ofString_inj {s s' : String} (h : Path.ofString s = Path.ofString s') : s = s' :=
  String.toList_inj.1 (Utf8.encode_injective (congrArg Path.bytes h))

/-- Only a slash at the end would need a step more than there are components. -/
theorem Path.walk_of_bare {p : Path} (h : p.Bare) : p.walk = p.steps := by
  rw [walk, endsInSlash, if_neg (by simpa using h.2), List.append_nil]

section Names

variable {base : Path}

@[simp] theorem trail_nil : trail [] = [] := rfl

@[simp] theorem trail_cons (n : Name) (names : List Name) :
    trail (n :: names) = Path.slash :: n.bytes ++ trail names := rfl

@[simp] theorem trail_append (ns ms : List Name) : trail (ns ++ ms) = trail ns ++ trail ms :=
  List.flatMap_append

@[simp] theorem downs_nil : downs [] = [] := rfl

@[simp] theorem downs_cons (n : Name) (names : List Name) :
    downs (n :: names) = .down n.bytes :: downs names := rfl

@[simp] theorem downs_append (ns ms : List Name) : downs (ns ++ ms) = downs ns ++ downs ms :=
  List.map_append

/-- A location, written with a slash in front. -/
theorem slash_cons_path (n : Name) (names : List Name) :
    Path.slash :: (Location.path (n :: names)).bytes = trail (n :: names) := by
  induction names generalizing n with
  | nil => simp [Location.path, List.intercalate]
  | cons m names ih =>
    rw [trail_cons, ← ih m]
    simp [Location.path, List.intercalate]

/-- A path of names begins with a name and not with a slash. -/
theorem isAbsolute_path (n : Name) (names : List Name) :
    (Location.path (n :: names)).isAbsolute = false := by
  obtain ⟨b, r, hb⟩ := List.exists_cons_of_ne_nil n.bytes_ne_nil
  have hne : b ≠ Path.slash := by
    rintro rfl
    exact n.slash_notMem_bytes (hb ▸ List.mem_cons_self)
  have hbytes := (List.cons.inj (slash_cons_path n names)).2
  rw [Path.isAbsolute, hbytes, hb]
  simpa using hne

/-- A path from a base is the base with a trail of names. -/
theorem bytes_pathFrom (hb : base.Bare) (names : List Name) :
    (WalkFault.pathFrom base names).bytes = base.bytes ++ trail names := by
  cases names with
  | nil => simp [WalkFault.pathFrom]
  | cons n names =>
    rw [WalkFault.pathFrom, if_neg (List.cons_ne_nil n names), Path.join, isAbsolute_path,
      if_neg Bool.false_ne_true, if_neg (not_or.2 hb), slash_cons_path]

/-- A path that ends in a name does not end in a slash. -/
theorem bare_append_name (bs : Bytes) (n : Name) : (⟨bs ++ n.bytes⟩ : Path).Bare := by
  rw [Path.Bare, List.getLast?_append_of_ne_nil _ n.bytes_ne_nil]
  refine ⟨List.append_ne_nil_of_right_ne_nil _ n.bytes_ne_nil, fun hlast => ?_⟩
  exact n.slash_notMem_bytes (List.mem_of_getLast? hlast)

/-- Names leave no slash at the end. -/
theorem bare_pathFrom (hb : base.Bare) (names : List Name) :
    (WalkFault.pathFrom base names).Bare := by
  induction names using List.reverseRecOn with
  | nil => exact hb
  | append_singleton names n =>
    have hbytes : (WalkFault.pathFrom base (names ++ [n])).bytes =
        (base.bytes ++ trail names ++ [Path.slash]) ++ n.bytes := by
      rw [bytes_pathFrom hb]
      simp
    rw [Path.eq_of_bytes_eq (q := ⟨_⟩) hbytes]
    exact bare_append_name _ n

/-- What comes after a slash and has none itself is one more component. -/
theorem components_append_slash (bs : Bytes) {c : Bytes} (hne : c ≠ []) (hc : Path.slash ∉ c) :
    (⟨bs ++ Path.slash :: c⟩ : Path).components = (⟨bs⟩ : Path).components ++ [c] := by
  have hrun : Text.runs (· == Path.slash) c = [c] := by
    refine Text.runs_of_forall hne fun b hb => beq_false_of_ne ?_
    rintro rfl
    exact hc hb
  rw [Path.components, Text.runs_append_sep (by simp), hrun]
  rfl

/-- Names are components of their own. -/
theorem components_append_trail (bs : Bytes) (names : List Name) :
    (⟨bs ++ trail names⟩ : Path).components = (⟨bs⟩ : Path).components ++ names.map Name.bytes := by
  induction names generalizing bs with
  | nil => simp
  | cons n names ih =>
    rw [trail_cons, ← List.append_assoc, ih,
      components_append_slash bs n.bytes_ne_nil n.slash_notMem_bytes]
    simp

/-- A name is a step down. -/
theorem Name.step_eq (n : Name) : Path.Step.ofComponent n.bytes = .down n.bytes := by
  have h := n.isName_bytes
  simp only [Name.isName, Bool.and_eq_true, bne_iff_ne] at h
  rw [Path.Step.ofComponent, if_neg h.1.2, if_neg h.2]

/-- One component more is one step down, unless it is made of dots. -/
theorem walk_append_slash (bs : Bytes) {c : Bytes} (hc : Path.slash ∉ c)
    (hdots : ∃ b ∈ c, b ≠ Path.dot) :
    (⟨bs ++ Path.slash :: c⟩ : Path).walk = (⟨bs⟩ : Path).steps ++ [.down c] := by
  obtain ⟨b, hb, hdot⟩ := hdots
  have hne : c ≠ [] := List.ne_nil_of_mem hb
  -- with a byte that is no dot it is neither `.` nor `..`
  have hstep : Path.Step.ofComponent c = .down c := by
    rw [Path.Step.ofComponent, if_neg, if_neg]
    · rintro rfl
      simp [hdot] at hb
    · rintro rfl
      simp [hdot] at hb
  have hbare : (⟨bs ++ Path.slash :: c⟩ : Path).Bare := by
    refine ⟨by simp, ?_⟩
    rw [List.getLast?_append_of_ne_nil _ (List.cons_ne_nil _ _), List.getLast?_cons_of_ne_nil hne]
    exact fun he => hc (List.mem_of_getLast? he)
  rw [Path.walk_of_bare hbare, Path.steps, components_append_slash bs hne hc, List.map_append,
    List.map_singleton, hstep]
  rfl

/-- **The steps along a path below a root.** -/
theorem steps_pathFrom (hb : base.Bare) (names : List Name) :
    (WalkFault.pathFrom base names).steps = base.steps ++ downs names := by
  have hdowns : (names.map Name.bytes).map Path.Step.ofComponent = downs names := by
    rw [List.map_map]
    exact List.map_congr_left fun n _ => n.step_eq
  have hcomponents := components_append_trail base.bytes names
  rw [← bytes_pathFrom hb] at hcomponents
  rw [Path.steps, hcomponents, List.map_append, hdowns]
  rfl

end Names

/-! ### The path above and the last name -/

namespace Path

/-- What is dropped from the end ends in front of a slash, unless everything is dropped. -/
theorem exists_dropIdle (l : Bytes) : ∃ idle, l = idle ++ dropIdle l ∧
    (idle = [] ∨ dropIdle l = [] ∨ idle.getLast? = some slash) := by
  -- what is dropped, step by step: a slash, or a dot in front of one
  fun_induction dropIdle l with
  | case1 => exact ⟨[], rfl, Or.inl rfl⟩
  | case2 r ih =>
    obtain ⟨idle, hr, hend⟩ := ih
    refine ⟨slash :: idle, by rw [List.cons_append, ← hr], Or.inr ?_⟩
    rcases hend with rfl | hnil | hlast
    · exact Or.inr rfl
    · exact Or.inl hnil
    · exact Or.inr (by rw [List.getLast?_cons, hlast]; rfl)
  | case3 => exact ⟨[dot], rfl, Or.inr (Or.inl rfl)⟩
  | case4 hdot r' ih =>
    obtain ⟨idle, hr, hend⟩ := ih
    refine ⟨dot :: slash :: idle, by rw [List.cons_append, List.cons_append, ← hr], Or.inr ?_⟩
    rcases hend with rfl | hnil | hlast
    · exact Or.inr rfl
    · exact Or.inl hnil
    · exact Or.inr (by rw [List.getLast?_cons, List.getLast?_cons, hlast]; rfl)
  | case5 => exact ⟨[], rfl, Or.inl rfl⟩
  | case6 => exact ⟨[], rfl, Or.inl rfl⟩

/-- The head of a path is nothing, a slash or a dot, and the rest is behind it. -/
theorem splitHead_eq (bs : Bytes) : bs = (splitHead bs).1 ++ (splitHead bs).2 ∧
    ((splitHead bs).1 = [] ∨ (splitHead bs).1 = [slash] ∨ (splitHead bs).1 = [dot]) := by
  unfold splitHead
  split
  · simp
  · rename_i a r
    by_cases ha : a = slash
    · simp [ha]
    · by_cases hd : a = dot ∧ (r = [] ∨ r.head? = some slash)
      · simp [hd.1, hd.2, show dot ≠ slash by decide]
      · simp [ha, hd]

/-- **The path above** is what stands in front of some slash, or nothing that has a component but a
dot. -/
theorem parent?_eq_some {p q : Path} (h : p.parent? = some q) :
    (∃ rest, p.bytes = q.bytes ++ slash :: rest) ∨ q.bytes = [] ∨ q.bytes = [slash] ∨
    q.bytes = [dot] := by
  unfold parent? at h
  obtain ⟨hbytes, hhead⟩ := splitHead_eq p.bytes
  generalize hs : splitHead p.bytes = s at h hbytes hhead
  obtain ⟨head, body⟩ := s
  dsimp only at h hbytes hhead
  obtain ⟨idle, hbody, -⟩ := exists_dropIdle body.reverse
  -- a path of nothing but a head has no parent but the empty path
  split at h
  · split at h
    · obtain rfl := Option.some.inj h
      exact Or.inr (Or.inl rfl)
    · simp at h
  · obtain rfl := Option.some.inj h
    generalize hlast : dropIdle body.reverse = last at hbody ⊢
    -- a slash in what is kept cuts off the last component
    have hcut : ∀ front keep : Bytes, last = front ++ slash :: keep →
        ∃ rest, p.bytes = head ++ keep.reverse ++ slash :: rest := by
      intro front keep hkeep
      refine ⟨(idle ++ front).reverse, ?_⟩
      rw [hkeep] at hbody
      rw [hbytes, ← List.reverse_reverse body, hbody]
      simp
    cases habove : last.dropWhile (· != slash) with
    | nil => exact Or.inr (by simpa [habove, dropIdle] using hhead)
    | cons b above =>
      have hb : b = slash := by
        have hfirst := List.head?_dropWhile_not (· != slash) last
        rw [habove] at hfirst
        simpa using hfirst
      obtain ⟨idle', hidle, hend⟩ := exists_dropIdle above
      subst hb
      have hsplit : last = last.takeWhile (· != slash) ++ slash :: above := by
        rw [← habove, List.takeWhile_append_dropWhile]
      rw [List.drop_one, List.tail_cons]
      rcases hend with rfl | hnil | hslash
      · rw [List.nil_append] at hidle
        exact Or.inl (hcut _ _ (hidle ▸ hsplit))
      · exact Or.inr (by simpa [hnil] using hhead)
      · refine Or.inl (hcut (last.takeWhile (· != slash) ++ slash :: idle'.dropLast) _ ?_)
        have hidle' : idle' = idle'.dropLast ++ [slash] :=
          (List.dropLast_append_getLast? _ hslash).symm
        calc last
            = last.takeWhile (· != slash) ++ slash :: (idle' ++ dropIdle above) := by
              rw [← hidle, ← hsplit]
          _ = last.takeWhile (· != slash) ++ slash ::
            (idle'.dropLast ++ [slash] ++ dropIdle above) := by rw [← hidle']
          _ = _ := by simp
/-- The parent of a path has no components but those of the path. -/
theorem components_of_parent? {p q : Path} (h : p.parent? = some q) :
    ∀ c ∈ q.components, c = [dot] ∨ c ∈ p.components := by
  intro c hc
  rcases parent?_eq_some h with ⟨rest, hbytes⟩ | hq | hq | hq
  · rw [components, hbytes, Text.runs_append_sep (by simp)]
    exact Or.inr (List.mem_append_left _ hc)
  · simp [components, hq] at hc
  · simp [components, hq, Text.runs] at hc
  · have hdot : (dot == slash) = false := by decide
    exact Or.inl (by simpa [components, hq, Text.runs, hdot] using hc)

/-- A step down is what a component means that is not idle. -/
theorem Step.down_eq_ofComponent {b c : Bytes} (h : Step.ofComponent c = .down b) :
    c = b ∧ c ≠ [dot] := by
  unfold Step.ofComponent at h
  split at h
  · simp at h
  · rename_i hdot
    split at h
    · simp at h
    · exact ⟨Step.down.inj h, hdot⟩

/-- **The name at the end of a path** is what its bytes end in. -/
theorem suffix_of_getLast?_steps {p : Path} {c : Bytes} (h : p.steps.getLast? = some (.down c))
    (hslash : p.endsInSlash = false) : c <:+ p.bytes := by
  have hcut : p.bytes.rdropWhile (· != slash) ++ p.bytes.rtakeWhile (· != slash) = p.bytes :=
    List.rdropWhile_append_rtakeWhile
  have hfree : slash ∉ p.bytes.rtakeWhile (· != slash) :=
    fun hmem => by simpa using List.mem_rtakeWhile_imp hmem
  have hne : p.bytes.rtakeWhile (· != slash) ≠ [] := by
    intro hnil
    by_cases hp : p.bytes = []
    · simp [steps, components, hp] at h
    · have hlast := List.rtakeWhile_eq_nil_iff.1 hnil hp
      rw [endsInSlash, List.getLast?_eq_some_getLast hp] at hslash
      simp_all
  generalize p.bytes.rtakeWhile (· != slash) = name at hcut hfree hne
  -- what stands behind the last slash is the last component
  have hlast : p.components.getLast? = some name := by
    by_cases hfront : p.bytes.rdropWhile (· != slash) = []
    · rw [hfront, List.nil_append] at hcut
      have hrun : p.components = [name] := by
        rw [components, ← hcut]
        refine Text.runs_of_forall hne fun b hb => beq_false_of_ne ?_
        rintro rfl
        exact hfree hb
      rw [hrun, List.getLast?_singleton]
    · -- in front of the name is the last slash
      have hend := List.rdropWhile_last_not _ _ hfront
      generalize p.bytes.rdropWhile (· != slash) = front at hcut hfront hend
      have hslash : front.getLast hfront = slash := by simpa using hend
      have hbytes : p.bytes = front.dropLast ++ slash :: name := by
        calc p.bytes = front ++ name := hcut.symm
          _ = front.dropLast ++ [front.getLast hfront] ++ name := by
            rw [List.dropLast_concat_getLast]
          _ = front.dropLast ++ slash :: name := by
            rw [hslash, List.append_assoc, List.singleton_append]
      rw [eq_of_bytes_eq (q := ⟨_⟩) hbytes, components_append_slash _ hne hfree,
        List.getLast?_concat]
  rw [steps, List.getLast?_map, hlast, Option.map_some, Option.some.injEq] at h
  rw [← (Step.down_eq_ofComponent h).1]
  exact ⟨_, hcut⟩

end Path

/-! ### Roots -/

section Roots

variable {project : Path} {root : String}

/-- Slashes are trimmed off from the end. -/
theorem toList_trimRoot (root : String) :
    (trimRoot root).toList = root.toList.rdropWhile (· = '/') := by
  rw [trimRoot, String.toList_ofList]
  rfl

/-- A root that may be scanned begins with no slash, and is not all gone when it is trimmed. -/
theorem exists_cons_trimRoot (h : checkRoot root = .ok ()) :
    ∃ c cs, (trimRoot root).toList = c :: cs ∧ c ≠ '/' := by
  unfold checkRoot at h
  split at h
  · rename_i c cs hroot
    split at h
    · rename_i hc
      have hne : c ≠ '/' := by
        rintro rfl
        exact absurd hc (by decide)
      have hnil : (trimRoot root).toList ≠ [] := by
        rw [toList_trimRoot, Ne, List.rdropWhile_eq_nil_iff, hroot]
        exact fun hall => hne (by simpa using hall c List.mem_cons_self)
      -- what is left begins as the root does
      obtain ⟨c', cs', hcs'⟩ := List.exists_cons_of_ne_nil hnil
      obtain ⟨rest, hrest⟩ := List.rdropWhile_prefix (p := (· = '/')) (l := root.toList)
      rw [← toList_trimRoot, hcs', hroot, List.cons_append] at hrest
      exact ⟨c', cs', hcs', (List.cons.inj hrest).1 ▸ hne⟩
    · simp at h
  · simp at h

/-- A root that is trimmed does not end in a slash. -/
theorem getLast?_trimRoot (root : String) : (trimRoot root).toList.getLast? ≠ some '/' := by
  rw [toList_trimRoot]
  intro h
  by_cases hnil : root.toList.rdropWhile (· = '/') = []
  · rw [hnil] at h
    simp at h
  · rw [List.getLast?_eq_some_getLast hnil] at h
    exact List.rdropWhile_last_not _ _ hnil (by simpa using Option.some.inj h)

/-- The byte of a slash is in no other character. -/
theorem eq_of_slash_mem_utf8EncodeChar {x : Char} (h : Path.slash ∈ String.utf8EncodeChar x) :
    x = '/' :=
  Char.toNat_inj.1 (Utf8.eq_toNat_of_mem_utf8EncodeChar h (by decide)).symm

/-- The bytes of a root, with the slashes at its end gone, have no slash at either end. -/
theorem encode_trimRoot (h : checkRoot root = .ok ()) :
    Utf8.encode (trimRoot root).toList ≠ [] ∧
      (Utf8.encode (trimRoot root).toList).head? ≠ some Path.slash ∧
      (Utf8.encode (trimRoot root).toList).getLast? ≠ some Path.slash := by
  obtain ⟨c, cs, hcs, hc⟩ := exists_cons_trimRoot h
  obtain ⟨b, r, hb⟩ := List.exists_cons_of_ne_nil (String.utf8EncodeChar_ne_nil (c := c))
  refine ⟨?_, ?_, ?_⟩
  · rw [hcs, Utf8.encode_cons, hb]
    simp
  · rw [hcs, Utf8.encode_cons, hb, List.cons_append, List.head?_cons]
    intro he
    obtain rfl := Option.some.inj he
    exact hc (eq_of_slash_mem_utf8EncodeChar (hb ▸ List.mem_cons_self))
  · intro he
    -- the last byte belongs to the last character
    obtain ⟨l, x, hx⟩ : ∃ l x, (trimRoot root).toList = l ++ [x] :=
      ⟨_, _, (List.dropLast_concat_getLast (hcs ▸ List.cons_ne_nil c cs)).symm⟩
    rw [hx, Utf8.encode_append, Utf8.encode_cons, Utf8.encode_nil, List.append_nil,
      List.getLast?_append_of_ne_nil _ String.utf8EncodeChar_ne_nil] at he
    obtain rfl := eq_of_slash_mem_utf8EncodeChar (List.mem_of_getLast? he)
    exact getLast?_trimRoot root (by simp [hx])

/-- What stands in front of a path that is joined to another. -/
def Path.front (p : Path) : Bytes :=
  if p.bytes = [] ∨ p.bytes.getLast? = some Path.slash then p.bytes else p.bytes ++ [Path.slash]

/-- To join is to write one path behind the front of the other. -/
theorem bytes_join (project : Path) {bs : Bytes} (h : bs.head? ≠ some Path.slash) :
    (project.join ⟨bs⟩).bytes = project.front ++ bs := by
  have hrel : Path.isAbsolute ⟨bs⟩ = false := by
    rw [Path.isAbsolute]
    simpa using h
  rw [Path.join, hrel, if_neg Bool.false_ne_true, Path.front]
  split <;> simp

/-- **The components of a joined path** are those of its parts. -/
theorem components_front_append (p : Path) (bs : Bytes) :
    (⟨p.front ++ bs⟩ : Path).components = p.components ++ (⟨bs⟩ : Path).components := by
  have hcut : ∀ as : Bytes, (⟨as ++ Path.slash :: bs⟩ : Path).components =
      (⟨as⟩ : Path).components ++ (⟨bs⟩ : Path).components :=
    fun as => Text.runs_append_sep (by simp) as bs
  unfold Path.front
  split
  · rename_i hfront
    rcases hfront with hnil | hslash
    · rw [hnil, List.nil_append, Path.components, Path.components, hnil, Text.runs_nil,
        List.nil_append]
    · -- the slash that is there already is the one between them
      obtain ⟨as, has⟩ : ∃ as, p.bytes = as ++ [Path.slash] :=
        ⟨_, (List.dropLast_append_getLast? _ hslash).symm⟩
      have hp : p.components = (⟨as⟩ : Path).components := by
        rw [Path.components, has, Text.runs_append_sep (by simp), Text.runs_nil, List.append_nil]
        rfl
      rw [has, hp, List.append_assoc, List.singleton_append, hcut]
  · rw [List.append_assoc, List.singleton_append, hcut]

/-- The path of a root ends in the bytes of the root. -/
theorem bytes_rootPath (h : checkRoot root = .ok ()) :
    (rootPath project root).bytes = project.front ++ Utf8.encode (trimRoot root).toList :=
  bytes_join project (encode_trimRoot h).2.1

/-- **The path of a root is bare.** -/
theorem bare_rootPath (h : checkRoot root = .ok ()) : (rootPath project root).Bare := by
  obtain ⟨hne, -, hlast⟩ := encode_trimRoot h
  rw [Path.Bare, bytes_rootPath h, List.getLast?_append_of_ne_nil _ hne]
  exact ⟨List.append_ne_nil_of_right_ne_nil _ hne, hlast⟩

/-- **The steps along the path of a root.** -/
theorem steps_rootPath (h : checkRoot root = .ok ()) :
    (rootPath project root).steps = project.steps ++ (Path.ofString (trimRoot root)).steps := by
  have hpath : rootPath project root = ⟨project.front ++ Utf8.encode (trimRoot root).toList⟩ :=
    Path.eq_of_bytes_eq (bytes_rootPath h)
  rw [hpath, Path.steps, components_front_append, List.map_append]
  rfl

/-- A root has the steps that it has without slashes at its end. -/
theorem mem_steps_of_mem_steps_trimRoot {step : Path.Step}
    (h : step ∈ (Path.ofString (trimRoot root)).steps) :
    step ∈ (Path.ofString root).steps := by
  have hroot : root.toList = (trimRoot root).toList ++ root.toList.rtakeWhile (· = '/') := by
    rw [toList_trimRoot, List.rdropWhile_append_rtakeWhile]
  cases hrest : root.toList.rtakeWhile (· = '/') with
  | nil =>
    rw [hrest, List.append_nil] at hroot
    rwa [String.toList_inj.1 hroot]
  | cons c cs =>
    have hc : c = '/' := by
      have hmem : c ∈ root.toList.rtakeWhile (· = '/') := hrest ▸ List.mem_cons_self
      simpa using List.mem_rtakeWhile_imp hmem
    -- what is trimmed off begins with a slash, and so with a component of its own
    have hbytes : Utf8.encode root.toList =
        Utf8.encode (trimRoot root).toList ++ Path.slash :: Utf8.encode cs := by
      rw [hroot, hrest, hc, Utf8.encode_append, Utf8.encode_cons]
      rfl
    rw [Path.steps, Path.ofString, hbytes, Path.components, Text.runs_append_sep (by simp),
      List.map_append]
    exact List.mem_append_left _ h

/-! ### The text of a path -/

/-- Names as text with a slash in front of each. -/
def spelled (names : List Name) : List Char := names.flatMap fun n => '/' :: n.display.toList

@[simp] theorem spelled_append (ns ms : List Name) :
  spelled (ns ++ ms) = spelled ns ++ spelled ms :=
  List.flatMap_append

/-- One name, spelled. -/
theorem spelled_singleton (n : Name) : spelled [n] = '/' :: n.display.toList := by
  simp [spelled]

/-- The path of names, with a slash in front of the first. -/
theorem slash_cons_slashPath {names : List Name} (h : names ≠ []) :
    '/' :: (slashPath names).toList = spelled names := by
  induction names using List.reverseRecOn with
  | nil => exact absurd rfl h
  | append_singleton front n ih =>
    rw [slashPath_append_singleton, spelled_append, spelled_singleton]
    by_cases hf : front = []
    · subst hf
      rfl
    · have hdir : slashPath front ≠ "" := fun he => hf (slashPath_eq_empty_iff.1 he)
      rw [toList_qualifiedName hdir, ← ih hf]
      rfl

/-- The text by which a file is called. -/
theorem toList_relPath (root : String) {names : List Name} (h : names ≠ []) :
    (root ++ "/" ++ slashPath names).toList = root.toList ++ spelled names := by
  rw [← slash_cons_slashPath h]
  simp

/-- Names that are text are spelled as they are. -/
theorem encode_spelled {names : List Name} (h : ∀ n ∈ names, n.IsText) :
    Utf8.encode (spelled names) = trail names := by
  induction names with
  | nil => rfl
  | cons n names ih =>
    rw [List.forall_mem_cons] at h
    have hn : spelled (n :: names) = '/' :: n.display.toList ++ spelled names := rfl
    rw [hn, Utf8.encode_append, Utf8.encode_cons, Name.encode_display h.1, ih h.2]
    rfl

/-- **Names that are text are called by their path.** -/
theorem ofString_slashPath {names : List Name} (h : ∀ n ∈ names, n.IsText) :
    Path.ofString (slashPath names) = Location.path names := by
  cases names with
  | nil => rfl
  | cons n names =>
    have hbytes := encode_spelled h
    rw [← slash_cons_slashPath (List.cons_ne_nil n names), ← slash_cons_path] at hbytes
    exact Path.eq_of_bytes_eq (List.cons.inj hbytes).2

/-- Whatever text follows that of a root, the path of the root is what its bytes follow. -/
theorem bytes_join_root (project : Path) (h : checkRoot root = .ok ()) (x : List Char) :
    (project.join ⟨Utf8.encode ((trimRoot root).toList ++ x)⟩).bytes =
      (rootPath project root).bytes ++ Utf8.encode x := by
  obtain ⟨hne, hhead, -⟩ := encode_trimRoot h
  rw [bytes_rootPath h, Utf8.encode_append, bytes_join, List.append_assoc]
  rwa [List.head?_append_of_ne_nil _ hne]

/-- **A project joined with what names below a root are called** is the path of the names, where
they are text. -/
theorem join_spelled (hroot : checkRoot root = .ok ()) {names : List Name}
    (h : ∀ n ∈ names, n.IsText) :
    project.join ⟨Utf8.encode ((trimRoot root).toList ++ spelled names)⟩ =
      WalkFault.pathFrom (rootPath project root) names := by
  have hbytes := bytes_join_root project hroot (spelled names)
  rw [encode_spelled h, ← bytes_pathFrom (bare_rootPath hroot)] at hbytes
  exact Path.eq_of_bytes_eq hbytes

end Roots

end NativeBuild
