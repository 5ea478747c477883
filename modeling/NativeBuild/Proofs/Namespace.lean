import NativeBuild.Fragment
import NativeBuild.Proofs.Stem
import NativeBuild.Proofs.Targets
import Mathlib.Data.List.Flatten

/-!
# The names in a fragment

`make` has one space of variables and one of files. Where two targets have a variable or an output
in common the later one silently takes the place of the earlier, so a plan must not let that happen:
whatever bytes the files and directories of a project are named with.

Targets of a plan differ in their kind or in their name (`pairwise_targets_of_plan`). Everything
else that is named after a target determines both:

* a variable of a target, `eq_of_mem_targetVariables`;
* its output path, `Target.outputPath_inj`.

The variables that every fragment has begin with a capital letter and those of targets do not.
`assignedVariables` lists all that a fragment assigns. A variable consists of letters, digits and
underscores, so a line that assigns one begins with such a character, and the lines that do are one
for each variable, in the same order (`filter_beginsVariable_lines`). Hence one line assigns each of
them and no other line does (`exists_assigning_line`). `plan_unambiguous` puts the parts together.
-/

namespace NativeBuild

/-! ### Words of a line -/

/-- Where a list goes over from elements that have a property to one that has not. -/
theorem append_cons_inj_of_forall {α : Type} {p : α → Bool} {l₁ l₂ r₁ r₂ : List α} {a b : α}
    (h₁ : ∀ x ∈ l₁, p x = true) (h₂ : ∀ x ∈ l₂, p x = true) (ha : p a = false) (hb : p b = false)
    (h : l₁ ++ a :: r₁ = l₂ ++ b :: r₂) : l₁ = l₂ ∧ a :: r₁ = b :: r₂ := by
  have htake := congrArg (List.takeWhile p) h
  have hdrop := congrArg (List.dropWhile p) h
  rw [List.takeWhile_append_of_pos h₁, List.takeWhile_append_of_pos h₂,
    List.takeWhile_cons_of_neg (by simp [ha]), List.takeWhile_cons_of_neg (by simp [hb]),
    List.append_nil, List.append_nil] at htake
  rw [List.dropWhile_append_of_pos h₁, List.dropWhile_append_of_pos h₂,
    List.dropWhile_cons_of_neg (by simp [ha]), List.dropWhile_cons_of_neg (by simp [hb])] at hdrop
  exact ⟨htake, hdrop⟩

/-- The first word of a line, and what follows it. -/
theorem append_space_inj {u v r s : List Char} (hu : ' ' ∉ u) (hv : ' ' ∉ v)
    (h : u ++ ' ' :: r = v ++ ' ' :: s) : u = v ∧ r = s := by
  have hne : ∀ w : List Char, ' ' ∉ w → ∀ c ∈ w, decide (c ≠ ' ') = true := by
    intro w hw c hc
    rw [decide_eq_true_eq]
    rintro rfl
    exact hw hc
  obtain ⟨huv, hrs⟩ := append_cons_inj_of_forall (hne u hu) (hne v hv) (by decide) (by decide) h
  exact ⟨huv, (List.cons.inj hrs).2⟩

/-! ### Output paths -/

namespace Target

/-- The characters of an output, between its directory and its ending. -/
theorem toList_outputPath (x : Target) : x.outputPath.toList =
    match x.kind with
    | .archive => "$(LIBDIR)/".toList ++ (x.name.toList ++ ".a".toList)
    | .module => "$(MODDIR)/".toList ++ (x.name.toList ++ "$(SOEXT)".toList) := by
  unfold outputPath
  cases x.kind <;> simp

/-- **An output path determines its target.** -/
theorem outputPath_inj {x y : Target} (h : x.outputPath = y.outputPath) :
    x.kind = y.kind ∧ x.name = y.name := by
  have hl := congrArg String.toList h
  rw [toList_outputPath, toList_outputPath] at hl
  cases hx : x.kind <;> cases hy : y.kind <;> rw [hx, hy] at hl
  · exact ⟨rfl, String.toList_inj.1 (List.append_cancel_right (List.append_cancel_left hl))⟩
  -- the directories are different variables
  · simp at hl
  · simp at hl
  · exact ⟨rfl, String.toList_inj.1 (List.append_cancel_right (List.append_cancel_left hl))⟩

end Target

/-! ### Variables -/

namespace Fragment

/-- The variables of a target. -/
def targetVariables (x : Target) : List String := endings.map (x.stem ++ ·)

/-- The variables that the fragment of a plan assigns, in order. -/
def assignedVariables (p : BuildPlan) : List String :=
  defaults.map Prod.fst ++ p.targets.flatMap targetVariables ++ [manifestVariable]

theorem nodup_targetVariables (x : Target) : (targetVariables x).Nodup := by
  refine List.Nodup.map_on (fun e he e' he' h => ?_) (by decide)
  exact (append_ending_inj he he' h).2

/-- A variable of two targets is one of the same kind and name. -/
theorem eq_of_mem_targetVariables {x y : Target} {v : String} (hx : v ∈ targetVariables x)
    (hy : v ∈ targetVariables y) : x.kind = y.kind ∧ x.name = y.name := by
  obtain ⟨e, he, rfl⟩ := List.mem_map.1 hx
  obtain ⟨e', he', h⟩ := List.mem_map.1 hy
  exact Target.stem_inj (append_ending_inj he' he h).1.symm

/-- The variables of a target begin with a small letter. -/
theorem head?_of_mem_targetVariables {x : Target} {v : String} (hv : v ∈ targetVariables x) :
    v.toList.head? = some 'l' ∨ v.toList.head? = some 'm' := by
  obtain ⟨e, -, rfl⟩ := List.mem_map.1 hv
  rw [String.toList_append, Target.toList_stem]
  cases x.kind
  · exact Or.inl rfl
  · exact Or.inr rfl

/-- The variables of every fragment do not. -/
theorem head?_of_mem_fixed : ∀ v ∈ defaults.map Prod.fst ++ [manifestVariable],
    v.toList.head? ≠ some 'l' ∧ v.toList.head? ≠ some 'm' := by
  decide

/-- Targets that differ in kind or name have no variable in common. -/
theorem nodup_flatMap_targetVariables {ts : List Target}
    (h : ts.Pairwise fun x y => x.kind ≠ y.kind ∨ x.name ≠ y.name) :
    (ts.flatMap targetVariables).Nodup := by
  rw [List.nodup_flatMap]
  refine ⟨fun x _ => nodup_targetVariables x, h.imp fun {x y} hxy v hx hy => ?_⟩
  obtain ⟨hkind, hname⟩ := eq_of_mem_targetVariables hx hy
  exact hxy.elim (· hkind) (· hname)

/-- Nor do they share one with the defaults or the manifest. -/
theorem nodup_assignedVariables {p : BuildPlan}
    (h : p.targets.Pairwise fun x y => x.kind ≠ y.kind ∨ x.name ≠ y.name) :
    (assignedVariables p).Nodup := by
  -- the manifest stands last, but belongs to the variables that are always there
  have hperm : (assignedVariables p).Perm
      ((defaults.map Prod.fst ++ [manifestVariable]) ++ p.targets.flatMap targetVariables) := by
    rw [assignedVariables, List.append_assoc, List.append_assoc]
    exact List.Perm.append_left _ List.perm_append_comm
  rw [hperm.nodup_iff, List.nodup_append]
  refine ⟨by decide, nodup_flatMap_targetVariables h, ?_⟩
  -- a variable of a target and one that is always there differ in their first letter
  rintro v hfixed w hw rfl
  obtain ⟨x, -, hx⟩ := List.mem_flatMap.1 hw
  obtain ⟨hl, hm⟩ := head?_of_mem_fixed v hfixed
  exact (head?_of_mem_targetVariables hx).elim hl hm

/-! ### The lines that assign them -/

/-- A line **assigns** a variable, as a default or at once. -/
def Assigns (line var : String) : Prop :=
  ∃ rest, line = var ++ " ?=" ++ rest ∨ line = var ++ " :=" ++ rest

theorem assigns_iff {line var : String} : Assigns line var ↔
    (var ++ " ?=").toList <+: line.toList ∨ (var ++ " :=").toList <+: line.toList := by
  -- a text that begins with another goes on with a text
  have hsplit : ∀ front : String, front.toList <+: line.toList ↔ ∃ rest, line = front ++ rest := by
    intro front
    constructor
    · rintro ⟨r, hr⟩
      exact ⟨String.ofList r, String.toList_inj.1 (by simp [← hr])⟩
    · rintro ⟨rest, rfl⟩
      exact ⟨rest.toList, by simp⟩
  rw [Assigns, exists_or, hsplit, hsplit]

instance (line var : String) : Decidable (Assigns line var) := decidable_of_iff _ assigns_iff.symm

/-- An assignment assigns its variable. -/
theorem assigns_assignment (var : String) (values : List String) :
    Assigns (assignment var values) var :=
  ⟨_, Or.inr rfl⟩

/-- The defaults assign one variable each. -/
theorem forall₂_assigns_defaults :
    List.Forall₂ Assigns (defaults.map fun x => x.1 ++ " ?= " ++ x.2) (defaults.map Prod.fst) := by
  rw [List.forall₂_map_left_iff, List.forall₂_map_right_iff, List.forall₂_same]
  intro x _
  exact ⟨" " ++ x.2, Or.inl (String.toList_inj.1 (by simp))⟩

/-- So do the assignments of a target. -/
theorem forall₂_assigns_assignments (x : Target) :
    List.Forall₂ Assigns (assignments x) (targetVariables x) := by
  have hlinker : Assigns (x.stem ++ "_LINKER := " ++ x.linker.makeVariable) (x.stem ++ "_LINKER") :=
    ⟨" " ++ x.linker.makeVariable, Or.inr (String.toList_inj.1 (by simp))⟩
  exact .cons (assigns_assignment _ _) (.cons (assigns_assignment _ _) (.cons hlinker
    (.cons (assigns_assignment _ _) .nil)))

theorem forall₂_flatMap_assigns (ts : List Target) :
    List.Forall₂ Assigns (ts.flatMap assignments) (ts.flatMap targetVariables) := by
  induction ts with
  | nil => exact .nil
  | cons x ts ih =>
    rw [List.flatMap_cons, List.flatMap_cons]
    exact List.rel_append (forall₂_assigns_assignments x) ih

/-- The lines of a fragment that assign its variables. -/
def assigningLines (p : BuildPlan) : List String :=
  (defaults.map fun x => x.1 ++ " ?= " ++ x.2) ++ p.targets.flatMap assignments ++
    [assignment manifestVariable (p.modules.map Target.name)]

/-- They assign **the variables of the fragment**, in this order. -/
theorem forall₂_assigningLines (p : BuildPlan) :
    List.Forall₂ Assigns (assigningLines p) (assignedVariables p) := by
  refine List.rel_append (List.rel_append forall₂_assigns_defaults ?_) ?_
  · exact forall₂_flatMap_assigns p.targets
  · exact .cons (assigns_assignment _ _) .nil

/-! ### The lines that assign nothing -/

/-- Does a text begin with a character of variables? -/
def beginsVariable (line : String) : Bool :=
  line.toList.head?.any fun c => decide (IsVariableChar c)

/-- The variables of a fragment consist of **characters of variables**, and of one at least. -/
theorem isVariable_of_mem {p : BuildPlan} {v : String} (hv : v ∈ assignedVariables p) :
    v ≠ "" ∧ ∀ c ∈ v.toList, IsVariableChar c := by
  have hfixed : ∀ v ∈ defaults.map Prod.fst ++ [manifestVariable],
      v ≠ "" ∧ v.toList.all (fun c => decide (IsVariableChar c)) = true := by decide
  -- the variables of a target are its stem with one of four endings
  have hending : ∀ e ∈ endings, e.toList.all (fun c => decide (IsVariableChar c)) = true := by
    decide
  simp only [List.all_eq_true, decide_eq_true_eq] at hfixed hending
  rcases List.mem_append.1 hv with hv | hv
  · rcases List.mem_append.1 hv with hv | hv
    · exact hfixed v (List.mem_append_left _ hv)
    · obtain ⟨x, -, hx⟩ := List.mem_flatMap.1 hv
      obtain ⟨e, he, rfl⟩ := List.mem_map.1 hx
      refine ⟨fun hnil => ?_, fun c hc => ?_⟩
      · have hhead := head?_of_mem_targetVariables hx
        simp [hnil] at hhead
      · rw [String.toList_append, List.mem_append] at hc
        exact hc.elim (Target.isVariableChar_of_mem_stem x c) (hending e he c)
  · exact hfixed v (List.mem_append_right _ hv)

/-- A line that assigns a variable begins with it. -/
theorem beginsVariable_of_assigns {line v : String} (hne : v ≠ "")
    (hchars : ∀ c ∈ v.toList, IsVariableChar c) (h : Assigns line v) :
    beginsVariable line = true := by
  obtain ⟨c, r, hv⟩ := List.exists_cons_of_ne_nil (mt String.toList_eq_nil_iff.1 hne)
  have hc : IsVariableChar c := hchars c (hv ▸ List.mem_cons_self)
  obtain ⟨rest, rfl | rfl⟩ := h
  · simp [beginsVariable, hv, hc]
  · simp [beginsVariable, hv, hc]

/-- **A line assigns one variable**, since the variable ends at the first blank. -/
theorem eq_of_assigns {line v w : String} (hv : ∀ c ∈ v.toList, IsVariableChar c)
    (hw : ∀ c ∈ w.toList, IsVariableChar c) (h : Assigns line v) (h' : Assigns line w) : v = w := by
  have htake : ∀ u : String, (∀ c ∈ u.toList, IsVariableChar c) → Assigns line u →
      line.toList.takeWhile (fun c => decide (IsVariableChar c)) = u.toList := by
    rintro u hu ⟨rest, rfl | rfl⟩
    all_goals
      simp only [String.toList_append, List.append_assoc]
      rw [List.takeWhile_append_of_pos fun c hc => decide_eq_true (hu c hc)]
      exact List.append_right_eq_self.2 rfl
  exact String.toList_inj.1 ((htake v hv h).symm.trans (htake w hw h'))

/-- A stem begins with a letter. -/
theorem beginsVariable_stem_append (x : Target) (rest : String) :
    beginsVariable (x.stem ++ rest) = true := by
  have hl : IsVariableChar 'l' := by decide
  have hm : IsVariableChar 'm' := by decide
  rw [beginsVariable, String.toList_append, Target.toList_stem]
  cases x.kind <;> simp [TargetKind.mark, hl, hm]

/-- Paths begin with a dollar sign, and the other lines of a rule with a tab. -/
theorem not_beginsVariable_linkRule (x : Target) :
    ∀ line ∈ linkRule x, ¬ beginsVariable line = true := by
  have hdollar : ¬ IsVariableChar '$' := by decide
  have htab : ¬ IsVariableChar '\t' := by decide
  rw [linkRule, Target.outputPath]
  cases x.kind <;> simp [beginsVariable, makeDirectory, hdollar, htab]

/-- What is set for a source begins with the path of an object. -/
theorem not_beginsVariable_overrideLines (s : TargetSource) :
    ∀ line ∈ overrideLines s, ¬ beginsVariable line = true := by
  have hdollar : ¬ IsVariableChar '$' := by decide
  intro line hline
  obtain ⟨y, -, rfl⟩ := List.mem_map.1 hline
  rw [SourceFile.objectPath]
  simp [beginsVariable, hdollar]

/-- The lines of a stanza that begin with a variable are the assignments of the target. -/
theorem filter_beginsVariable_stanza (x : Target) :
    (stanza x ++ [""]).filter beginsVariable = assignments x := by
  have hhash : ¬ IsVariableChar '#' := by decide
  -- of a stanza only the assignments begin with a variable
  have hassign : ∀ line ∈ assignments x, beginsVariable line = true := by
    simp [assignments, assignment, String.append_assoc, beginsVariable_stem_append]
  have hoverride : (x.sources.flatMap overrideLines).filter beginsVariable = [] := by
    refine List.filter_eq_nil_iff.2 fun line hline => ?_
    obtain ⟨s, -, hs⟩ := List.mem_flatMap.1 hline
    exact not_beginsVariable_overrideLines s line hs
  have hrule : (linkRule x).filter beginsVariable = [] :=
    List.filter_eq_nil_iff.2 (not_beginsVariable_linkRule x)
  have hcomment : ¬ beginsVariable ("# " ++ x.kind.word ++ " " ++ x.name) = true := by
    simp [beginsVariable, hhash]
  rw [stanza, List.cons_append, List.filter_cons_of_neg hcomment, List.filter_append,
    List.filter_append, List.filter_append, List.filter_eq_self.2 hassign, hoverride, hrule]
  simp [beginsVariable]

/-- **The lines that begin with a variable** are those that assign one. -/
theorem filter_beginsVariable_lines (p : BuildPlan) (written : Timestamp) :
    (lines p written).filter beginsVariable = assigningLines p := by
  have hhash : ¬ IsVariableChar '#' := by decide
  have hcapital : IsVariableChar 'E' := by decide
  -- part by part: header, defaults, rules, stanzas and the manifest
  have hheader : (header written).filter beginsVariable = [] :=
    List.filter_eq_nil_iff.2 (by simp [header, beginsVariable, hhash])
  have hdefaults :
      defaultLines.filter beginsVariable = defaults.map fun x => x.1 ++ " ?= " ++ x.2 := by
    decide +kernel
  have hrules : (compileRules.flatMap CompileRule.lines).filter beginsVariable = [] := by
    decide +kernel
  have hmanifest :
      beginsVariable (assignment manifestVariable (p.modules.map Target.name)) = true := by
    simp [beginsVariable, assignment, manifestVariable, hcapital]
  rw [lines, List.filter_append, List.filter_append, List.filter_append, List.filter_append,
    hheader, hdefaults, hrules, List.filter_flatMap, List.append_nil, List.nil_append,
    assigningLines]
  simp only [filter_beginsVariable_stanza, List.filter_cons_of_pos hmanifest, List.filter_nil]

/-- Lines that assign other variables do not assign a given one. -/
theorem filter_assigns_eq_nil {ls vs : List String} (h : List.Forall₂ Assigns ls vs) {v : String}
    (hv : v ∉ vs) (hchars : ∀ u ∈ v :: vs, ∀ c ∈ u.toList, IsVariableChar c) :
    ls.filter (Assigns · v) = [] := by
  induction h with
  | nil => rfl
  | @cons line w ls vs hline _ ih =>
    obtain ⟨hvchars, hvschars⟩ := List.forall_mem_cons.1 hchars
    obtain ⟨hwchars, hrest⟩ := List.forall_mem_cons.1 hvschars
    obtain ⟨hne, hnotMem⟩ := not_or.1 (mt List.mem_cons.2 hv)
    have hnot : ¬ Assigns line v := fun h => hne (eq_of_assigns hvchars hwchars h hline)
    rw [List.filter_cons_of_neg (by simpa using hnot)]
    exact ih hnotMem (List.forall_mem_cons.2 ⟨hvchars, hrest⟩)

/-- Of lines that each assign one of different variables, one assigns a given variable. -/
theorem exists_filter_assigns_eq {ls vs : List String} (h : List.Forall₂ Assigns ls vs)
    (hnodup : vs.Nodup) (hchars : ∀ v ∈ vs, ∀ c ∈ v.toList, IsVariableChar c) {v : String}
    (hv : v ∈ vs) : ∃ line, ls.filter (Assigns · v) = [line] := by
  -- on the lines and the variables that they assign, in step
  induction h with
  | nil => exact absurd hv List.not_mem_nil
  | @cons line w ls vs hline hrest ih =>
    rw [List.nodup_cons] at hnodup
    rcases List.mem_cons.1 hv with rfl | hmem
    · -- the variable does not occur again, so no other line assigns it
      refine ⟨line, ?_⟩
      rw [List.filter_cons_of_pos (by simpa using hline),
        filter_assigns_eq_nil hrest hnodup.1 hchars]
    · have hne : v ≠ w := fun he => hnodup.1 (he ▸ hmem)
      have hnot : ¬ Assigns line v :=
        fun h => hne (eq_of_assigns (hchars v hv) (hchars w List.mem_cons_self) h hline)
      rw [List.filter_cons_of_neg (by simpa using hnot)]
      exact ih hnodup.2 (List.forall_mem_cons.1 hchars).2 hmem

/-- **One line of a fragment assigns a variable**, and no other line does. -/
theorem exists_assigning_line {p : BuildPlan} (h : (assignedVariables p).Nodup)
    (written : Timestamp) {v : String} (hv : v ∈ assignedVariables p) :
    ∃ line, (lines p written).filter (Assigns · v) = [line] := by
  obtain ⟨hne, hchars⟩ := isVariable_of_mem hv
  have hbegins : ∀ line, decide (Assigns line v) = true → beginsVariable line = true :=
    fun line hline => beginsVariable_of_assigns hne hchars (of_decide_eq_true hline)
  obtain ⟨line, hline⟩ := exists_filter_assigns_eq (forall₂_assigningLines p) h
    (fun v hv => (isVariable_of_mem hv).2) hv
  refine ⟨line, ?_⟩
  rw [← hline, ← filter_beginsVariable_lines p written, List.filter_filter]
  refine List.filter_congr fun l _ => ?_
  rw [Bool.eq_iff_iff, Bool.and_eq_true]
  exact ⟨fun hl => ⟨hl, hbegins l hl⟩, And.left⟩

end Fragment

/-! ### Plans are unambiguous -/

/-- A plan is **unambiguous** if nothing that is named after a target is named after two of them:
not in the plan, nor in the table of its archives, nor in its fragment. -/
structure BuildPlan.Unambiguous (p : BuildPlan) : Prop where
  nodup_archives : (p.archives.map Target.name).Nodup
  nodup_modules : (p.modules.map Target.name).Nodup
  /-- Each target is found by its kind and name. -/
  find?_eq : ∀ x ∈ p.targets, p.find? x.kind x.name = some x
  /-- The table has one entry for each archive, which holds what the archive brings. -/
  entries_eq : (ArchiveTable.ofTargets p.archives).entries =
    p.archives.map fun a => (a.name, ⟨a.outputPath, a.linker, a.ldflags⟩)
  nodup_assignedVariables : (Fragment.assignedVariables p).Nodup
  /-- The variables are those that lines of the fragment assign. -/
  assigned : ∀ written, ∃ ls, List.Sublist ls (Fragment.lines p written) ∧
    List.Forall₂ Fragment.Assigns ls (Fragment.assignedVariables p)
  /-- One line assigns each of them, and no other line does. Where no line holds a line feed, these
  are the lines of the text. -/
  assigned_once : ∀ written, ∀ v ∈ Fragment.assignedVariables p,
    ∃ line, (Fragment.lines p written).filter (Fragment.Assigns · v) = [line]
  nodup_outputs : (p.targets.map Target.outputPath).Nodup

section Plan

variable {t : Tree} {project : Path} {config : Config} {p : BuildPlan}

/-- A target of a plan is among those of its kind. -/
theorem mem_ofKind_of_mem_targets (h : (t.plan project config).result = .ok p) {x : Target}
    (hx : x ∈ p.targets) : x ∈ p.ofKind x.kind := by
  rcases List.mem_append.1 hx with hx | hx
  · rw [kind_of_mem_plan h .archive hx]
    exact hx
  · rw [kind_of_mem_plan h .module hx]
    exact hx

/-- The targets of a plan differ in kind or in name. -/
theorem pairwise_targets_of_plan (h : (t.plan project config).result = .ok p) :
    p.targets.Pairwise fun x y => x.kind ≠ y.kind ∨ x.name ≠ y.name := by
  have hnames : ∀ kind, (p.ofKind kind).Pairwise fun x y => x.kind ≠ y.kind ∨ x.name ≠ y.name :=
    fun kind => (List.pairwise_map.1 (nodup_names_of_plan h kind)).imp Or.inr
  -- an archive and a module may have one name, but are of two kinds
  refine List.pairwise_append.2 ⟨hnames .archive, hnames .module, fun x hx y hy => Or.inl ?_⟩
  rw [kind_of_mem_plan h .archive hx, kind_of_mem_plan h .module hy]
  exact TargetKind.noConfusion

/-- No two targets of a plan are linked to one file, since the output path tells kind and name. -/
theorem nodup_outputs_of_plan (h : (t.plan project config).result = .ok p) :
    (p.targets.map Target.outputPath).Nodup := by
  refine List.pairwise_map.2 ((pairwise_targets_of_plan h).imp fun {x y} hxy he => ?_)
  obtain ⟨hkind, hname⟩ := Target.outputPath_inj he
  exact hxy.elim (· hkind) (· hname)

/-- **Plans are unambiguous.** -/
theorem plan_unambiguous (h : (t.plan project config).result = .ok p) : p.Unambiguous where
  nodup_archives := nodup_names_of_plan h .archive
  nodup_modules := nodup_names_of_plan h .module
  find?_eq x hx :=
    (find?_key_eq_some_iff (nodup_names_of_plan h x.kind)).2 ⟨mem_ofKind_of_mem_targets h hx, rfl⟩
  entries_eq := ArchiveTable.entries_ofTargets (fun _ => kind_of_mem_plan h .archive)
    (nodup_names_of_plan h .archive)
  nodup_assignedVariables := Fragment.nodup_assignedVariables (pairwise_targets_of_plan h)
  assigned written := ⟨_, Fragment.filter_beginsVariable_lines p written ▸ List.filter_sublist,
    Fragment.forall₂_assigningLines p⟩
  assigned_once written _ := Fragment.exists_assigning_line
    (Fragment.nodup_assignedVariables (pairwise_targets_of_plan h)) written
  nodup_outputs := nodup_outputs_of_plan h

/-- The small project. -/
theorem smallProject_unambiguous :
    (SmallProject.tree.plan (.ofString ".") .default).result = .ok SmallProject.plan ∧
      SmallProject.plan.Unambiguous :=
  ⟨SmallProject.plan_eq, plan_unambiguous SmallProject.plan_eq⟩

end Plan

end NativeBuild
