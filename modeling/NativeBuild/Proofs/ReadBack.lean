import NativeBuild.Proofs.Lines

/-!
# Reading a fragment back

A fragment lists the sources, the objects, the driver and the link flags of every target, and last
the modules. A reader who looks for the lines that begin with a variable and `:=` and cuts what
follows at blanks (`Fragment.readings`) should find each list once and as it was. This holds exactly
of the plans that have no blanks in the paths of their sources, nor in the runtime where it is
needed (`readings_iff`).

Any other line has something else behind its first word: what stands in front of the first space is
a comment sign, a command, or an object or output with a colon (`isAssignment`), and then no `:=`
follows.

`plan_reads_back` puts this together with what is known about the lines of a fragment. Projects for
which it fails are in `UnquotedProject`.
-/

namespace NativeBuild

namespace Text

/-- **Words are read back** from a text with a space in front of each. -/
theorem words_flatMap {vs : List String} (h : ∀ v ∈ vs, IsWord v) :
    (words (vs.flatMap fun v => ' ' :: v.toList)).map String.ofList = vs := by
  -- from the end, since the last value is a run of its own
  induction vs using List.reverseRecOn with
  | nil => rfl
  | append_singleton vs v ih =>
    rw [List.forall_mem_append, List.forall_mem_singleton] at h
    have hne : v.toList ≠ [] :=
      fun he => h.2.1 (String.toList_inj.1 (he.trans String.toList_empty.symm))
    have hrun : runs isBlank v.toList = [v.toList] := runs_of_forall hne h.2.2
    have hfront := ih h.1
    rw [words] at hfront ⊢
    rw [List.flatMap_append, List.flatMap_singleton, runs_append_sep rfl, hrun,
      List.map_append, hfront]
    simp

end Text

open Text

namespace Fragment

variable {p : BuildPlan} {x : Target} {var : String}

/-! ### The reader -/

/-- The words that a line assigns to a variable, if it begins with the variable and `:=`. -/
def readLine? (var : String) (line : List Char) : Option (List String) :=
  ((var ++ " :=").toList.isPrefixOf? line).map fun rest => (words rest).map String.ofList

/-- **What is read for a variable** in a text, line by line. -/
def readings (text var : String) : List (List String) :=
  (Text.lines text.toList).filterMap (readLine? var)

/-! ### Which lines assign -/

/-- Does `:=` follow the first word of a line? -/
def isAssignment (line : List Char) : Bool := [' ', ':', '='].isPrefixOf (line.dropWhile (· ≠ ' '))

/-- The first word of a line is not looked at, only what follows it. -/
theorem isAssignment_append (first : List Char) (h : ' ' ∉ first) (rest : List Char) :
    isAssignment (first ++ ' ' :: rest) = [':', '='].isPrefixOf rest := by
  have hdrop : (first ++ ' ' :: rest).dropWhile (· ≠ ' ') = ' ' :: rest := by
    induction first with
    | nil => simp
    | cons c first ih =>
      rw [List.mem_cons, not_or] at h
      rw [List.cons_append, List.dropWhile_cons_of_pos (by simpa using Ne.symm h.1), ih h.2]
  rw [isAssignment, hdrop, List.isPrefixOf]
  simp

/-- A line that assigns nothing is read as nothing. -/
theorem readLine?_eq_none {line : List Char} (hvar : ' ' ∉ var.toList)
    (h : isAssignment line = false) :
    readLine? var line = none := by
  rw [readLine?, Option.map_eq_none_iff]
  by_contra hne
  obtain ⟨rest, hrest⟩ := Option.ne_none_iff_exists'.1 hne
  -- the line would begin with the variable
  have hline : var.toList ++ ' ' :: (':' :: '=' :: rest) = line := by
    have := List.isPrefixOf?_eq_some_iff_append_eq.1 hrest
    simpa using this
  rw [← hline, isAssignment_append _ hvar] at h
  simp [List.isPrefixOf] at h

theorem readLine?_assignment {var' : String} {values : List String} (hvar : ' ' ∉ var.toList)
    (hvar' : ' ' ∉ var'.toList) (hwords : ∀ v ∈ values, IsWord v) :
    readLine? var (assignment var' values).toList = if var' = var then some values else none := by
  rw [readLine?, toList_assignment]
  split
  · rename_i he
    subst he
    have hrest : (var' ++ " :=").toList.isPrefixOf?
        (var'.toList ++ ' ' :: ':' :: '=' :: values.flatMap fun v => ' ' :: v.toList) =
          some (values.flatMap fun v => ' ' :: v.toList) :=
      List.isPrefixOf?_eq_some_iff_append_eq.2 (by simp)
    rw [hrest, Option.map_some, words_flatMap hwords]
  · rename_i hne
    rw [Option.map_eq_none_iff]
    by_contra hsome
    obtain ⟨rest, hrest⟩ := Option.ne_none_iff_exists'.1 hsome
    have hline := List.isPrefixOf?_eq_some_iff_append_eq.1 hrest
    -- two variables in front of one line end at the same space
    have htake := congrArg (List.takeWhile (· ≠ ' ')) hline
    have hall : ∀ s : String, ' ' ∉ s.toList → ∀ c ∈ s.toList, decide (c ≠ ' ') = true := by
      intro s hs c hc
      rw [decide_eq_true_eq]
      rintro rfl
      exact hs hc
    rw [String.toList_append, List.append_assoc, List.takeWhile_append_of_pos (hall var hvar),
      List.takeWhile_append_of_pos (hall var' hvar')] at htake
    exact hne (String.toList_inj.1 (by simpa using htake.symm))

/-- Of such lines nothing is read. -/
theorem filterMap_readLine?_eq_nil {ls : List String} (hvar : ' ' ∉ var.toList)
    (h : ∀ l ∈ ls, isAssignment l.toList = false) :
    (ls.map String.toList).filterMap (readLine? var) = [] := by
  rw [List.filterMap_map, List.filterMap_eq_nil_iff]
  exact fun l hl => readLine?_eq_none hvar (h l hl)

/-- Of assignments those are read that are to the variable. -/
theorem filterMap_readLine?_assignments (ys : List (String × List String)) (hvar : ' ' ∉ var.toList)
    (h : ∀ y ∈ ys, ' ' ∉ y.1.toList ∧ ∀ v ∈ y.2, IsWord v) :
    ((ys.map fun y => assignment y.1 y.2).map String.toList).filterMap (readLine? var) =
      (ys.filter fun y => y.1 = var).map Prod.snd := by
  -- line by line
  induction ys with
  | nil => rfl
  | cons y ys ih =>
    rw [List.forall_mem_cons] at h
    have hread := readLine?_assignment hvar h.1.1 h.1.2
    rw [List.map_cons, List.map_cons]
    by_cases hy : y.1 = var
    · rw [if_pos hy] at hread
      rw [List.filterMap_cons_some hread, ih h.2, List.filter_cons_of_pos (by simpa using hy),
        List.map_cons]
    · rw [if_neg hy] at hread
      rw [List.filterMap_cons_none hread, ih h.2, List.filter_cons_of_neg (by simpa using hy)]

/-! ### The lists of a fragment -/

/-- The variables of a target have no spaces. -/
theorem space_notMem_of_mem_listing {y : String × List String} (hy : y ∈ listing x) :
    ' ' ∉ y.1.toList := by
  have hstem : ' ' ∉ x.stem.toList := fun h => absurd (x.lacks_stem ' ' h) (by decide)
  rw [listing] at hy
  simp only [List.mem_cons, List.not_mem_nil, or_false] at hy
  rcases hy with rfl | rfl | rfl | rfl
  all_goals simp [hstem]

/-- The rules for the extensions assign nothing. -/
theorem isAssignment_compileRule {r : CompileRule} (h : ' ' ∉ r.compiler.toList) {line : String}
    (hline : line ∈ r.lines) : isAssignment line.toList = false := by
  simp only [CompileRule.lines, List.mem_cons, List.not_mem_nil, or_false] at hline
  -- the target of the rule, the directory, the recipe and the empty line
  rcases hline with rfl | rfl | rfl | rfl
  · have hrule := isAssignment_append "$(OBJDIR)/%.o:".toList (by decide) ("%." ++ r.ext).toList
    simpa [List.isPrefixOf] using hrule
  · decide_cbv
  · have hcompiler : ' ' ∉ '\t' :: r.compiler.toList := by simpa using h
    have hrule :=
      isAssignment_append _ hcompiler ("$(GLOBAL_CPPFLAGS) $(FILE_CPPFLAGS) $(GLOBAL_" ++ r.flags ++
      ") $(PLATFORM_" ++ r.flags ++ ") $(COVERAGE_" ++ r.flags ++ ") $(SANITIZER_" ++ r.flags ++
      ") $(FILE_" ++ r.flags ++ ") -c $< -o $@").toList
    simpa [List.isPrefixOf] using hrule
  · rfl

/-- The lines that every fragment begins with assign nothing. -/
theorem isAssignment_of_mem_front {written : Timestamp} {line : String}
    (h : line ∈ header written ++ defaultLines ++ compileRules.flatMap CompileRule.lines) :
    isAssignment line.toList = false := by
  -- defaults are given with `?=`
  have hdefaults : ∀ line ∈ defaultLines, isAssignment line.toList = false := by decide_cbv
  have hcompilers : ∀ r ∈ compileRules, ' ' ∉ r.compiler.toList := by decide_cbv
  rcases List.mem_append.1 h with h | h
  · rcases List.mem_append.1 h with h | h
    · simp only [header, List.mem_cons, List.not_mem_nil, or_false] at h
      rcases h with rfl | rfl | rfl
      · decide_cbv
      · have hwritten :=
          isAssignment_append ['#'] (by decide) ("Generated at: " ++ written.text).toList
        simpa [List.isPrefixOf] using hwritten
      · rfl
    · exact hdefaults line h
  · obtain ⟨r, hr, hline⟩ := List.mem_flatMap.1 h
    exact isAssignment_compileRule (hcompilers r hr) hline

/-- A word with a colon behind it is a word. -/
theorem space_notMem_append_colon {s : String} (h : Lacks isBlank s) : ' ' ∉ s.toList ++ [':'] := by
  intro hm
  rcases List.mem_append.1 hm with hm | hm
  · exact absurd (h ' ' hm) (by decide)
  · exact absurd hm (by decide)

/-- What is set for a source is no assignment of its own. -/
theorem isAssignment_overrideLines {s : TargetSource} (h : Lacks isBlank s.file.objectPath)
    {line : String} (hline : line ∈ overrideLines s) : isAssignment line.toList = false := by
  obtain ⟨y, hy, rfl⟩ := List.mem_map.1 hline
  -- the object and a colon are the first word, and a name of a variable comes next
  have hvar :=
    isAssignment_append _ (space_notMem_append_colon h)
      (y.1 ++ " := " ++ " ".intercalate y.2).toList
  have hname : y.1.toList.head? = some 'F' := by
    have hmem := (List.mem_filter.1 hy).1
    simp only [FileFlags.overrides, List.mem_cons, List.not_mem_nil, or_false] at hmem
    rcases hmem with rfl | rfl | rfl
    all_goals simp
  obtain ⟨cs, hcs⟩ := List.head?_eq_some_iff.1 hname
  have hline : (s.file.objectPath ++ ": " ++ y.1 ++ " := " ++ " ".intercalate y.2).toList =
      (s.file.objectPath.toList ++ [':']) ++ ' ' ::
        (y.1 ++ " := " ++ " ".intercalate y.2).toList := by simp
  rw [hline, hvar]
  simp [hcs, List.isPrefixOf]

/-- Nor are the rules for the targets. -/
theorem isAssignment_linkRule (h : Lacks isBlank x.outputPath) {line : String}
    (hline : line ∈ linkRule x) :
    isAssignment line.toList = false := by
  have houtput : ' ' ∉ x.outputPath.toList ++ [':'] := space_notMem_append_colon h
  -- archives and modules share the line that makes the directory
  have hdirectory : isAssignment makeDirectory.toList = false := by decide_cbv
  unfold linkRule at hline
  split at hline
  · simp only [List.mem_cons, List.not_mem_nil, or_false] at hline
    rcases hline with rfl | rfl | rfl | rfl
    · have hrule := isAssignment_append _ houtput ("$(" ++ x.stem ++ "_OBJECTS)").toList
      simpa [List.isPrefixOf] using hrule
    · exact hdirectory
    · have hrule := isAssignment_append "\t$(AR)".toList (by decide)
        ("rcs $@ " ++ ("$(" ++ x.stem ++ "_OBJECTS)")).toList
      simpa [List.isPrefixOf] using hrule
    · decide_cbv
  · simp only [List.mem_cons, List.not_mem_nil, or_false] at hline
    rcases hline with rfl | rfl | rfl
    · have hrule := isAssignment_append _ houtput
        ("$(" ++ x.stem ++ "_OBJECTS)" ++ String.join (x.prerequisites.map (" " ++ ·))).toList
      simpa [List.isPrefixOf] using hrule
    · exact hdirectory
    · have hstem : ' ' ∉ ("\t$(" ++ x.stem ++ "_LINKER)").toList := by
        have hlacks : ' ' ∉ x.stem.toList := fun h => absurd (x.lacks_stem ' ' h) (by decide)
        simp [hlacks]
      have hrule :=
        isAssignment_append _ hstem ("-shared -o $@ " ++ ("$(" ++ x.stem ++ "_OBJECTS)") ++ " $(" ++
        x.stem ++ "_LDFLAGS) " ++ sharedLinkFlags).toList
      simpa [List.isPrefixOf] using hrule

theorem space_notMem_manifestVariable : ' ' ∉ manifestVariable.toList := by decide

/-- Plans whose lists hold nothing but words, and whose objects and outputs are words too. -/
structure Wordy (p : BuildPlan) : Prop where
  listings : ∀ y ∈ listings p, ∀ v ∈ y.2, IsWord v
  objectPath : ∀ s ∈ p.sources, Lacks isBlank s.file.objectPath
  outputPath : ∀ x ∈ p.targets, Lacks isBlank x.outputPath

/-- **What is read in a stanza** is what it lists. -/
theorem filterMap_readLine?_stanza (hp : Wordy p) (hx : x ∈ p.targets) (hvar : ' ' ∉ var.toList) :
    ((stanza x ++ [""]).map String.toList).filterMap (readLine? var) =
      ((listing x).filter fun y => y.1 = var).map Prod.snd := by
  have hassign : ((assignments x).map String.toList).filterMap (readLine? var) =
      ((listing x).filter fun y => y.1 = var).map Prod.snd := by
    rw [assignments_eq]
    exact filterMap_readLine?_assignments _ hvar fun y hy =>
      ⟨space_notMem_of_mem_listing hy, hp.listings y (mem_listing_of_mem_targets hx hy)⟩
  -- in front of the assignments is a comment, and behind them are rules
  have hcomment :
      ((["# " ++ x.kind.word ++ " " ++ x.name]).map String.toList).filterMap
      (readLine? var) = [] := by
    refine filterMap_readLine?_eq_nil hvar fun line hline => ?_
    rw [List.mem_singleton.1 hline]
    have hfirst := isAssignment_append ['#'] (by decide) (x.kind.word ++ " " ++ x.name).toList
    cases hkind : x.kind with
    | archive => simpa [hkind, TargetKind.word, List.isPrefixOf] using hfirst
    | module => simpa [hkind, TargetKind.word, List.isPrefixOf] using hfirst
  have hrules :
      ((x.sources.flatMap overrideLines ++ linkRule x ++ [""]).map String.toList).filterMap
      (readLine? var) = [] := by
    refine filterMap_readLine?_eq_nil hvar fun line hline => ?_
    rcases List.mem_append.1 hline with hline | hline
    · rcases List.mem_append.1 hline with hline | hline
      · obtain ⟨s, hs, hline⟩ := List.mem_flatMap.1 hline
        exact isAssignment_overrideLines (hp.objectPath s (List.mem_flatMap.2 ⟨x, hx, hs⟩)) hline
      · exact isAssignment_linkRule (hp.outputPath x hx) hline
    · rw [List.mem_singleton.1 hline]
      rfl
  have hparts : stanza x ++ [""] = ["# " ++ x.kind.word ++ " " ++ x.name] ++
      (assignments x ++ (x.sources.flatMap overrideLines ++ linkRule x ++ [""])) := by
    simp [stanza]
  rw [hparts, List.map_append, List.map_append, List.filterMap_append, List.filterMap_append,
    hcomment, hassign, hrules, List.nil_append, List.append_nil]

/-- **What is read in the lines of a fragment** is what the fragment lists. -/
theorem filterMap_readLine?_lines (hp : Wordy p) (written : Timestamp) (hvar : ' ' ∉ var.toList) :
    ((lines p written).map String.toList).filterMap (readLine? var) =
      ((listings p).filter fun y => y.1 = var).map Prod.snd := by
  -- nothing is read before the stanzas
  have hfront : ((header written ++ defaultLines ++ compileRules.flatMap CompileRule.lines).map
      String.toList).filterMap (readLine? var) = [] :=
    filterMap_readLine?_eq_nil hvar fun _ => isAssignment_of_mem_front
  have hstanzas :
      ((p.targets.flatMap fun x => stanza x ++ [""]).map String.toList).filterMap (readLine? var) =
      ((p.targets.flatMap listing).filter fun y => y.1 = var).map Prod.snd := by
    rw [List.map_flatMap, List.filterMap_flatMap, List.filter_flatMap, List.map_flatMap]
    exact List.flatMap_congr fun x hx => filterMap_readLine?_stanza hp hx hvar
  have hmanifest : (([assignment manifestVariable (p.modules.map Target.name)]).map
      String.toList).filterMap (readLine? var) =
        ([(manifestVariable, p.modules.map Target.name)].filter fun y => y.1 = var).map
          Prod.snd := by
    refine filterMap_readLine?_assignments [(manifestVariable, p.modules.map Target.name)] hvar
      fun y hy => ⟨?_, hp.listings y (List.mem_append_right _ hy)⟩
    rw [List.mem_singleton.1 hy]
    exact space_notMem_manifestVariable
  rw [lines, List.map_append, List.map_append, List.filterMap_append, List.filterMap_append, hfront,
    hstanzas, hmanifest, listings, List.filter_append, List.map_append, List.nil_append]

/-- The variables of the lists are assigned once. -/
theorem nodup_listings {t : Tree} {project : Path} {config : Config}
    (h : (t.plan project config).result = .ok p) : ((listings p).map Prod.fst).Nodup := by
  have hnodup := nodup_assignedVariables (pairwise_targets_of_plan h)
  have hkeys :
      (listings p).map Prod.fst = p.targets.flatMap targetVariables ++ [manifestVariable] := by
    rw [listings, List.map_append, List.map_flatMap]
    rfl
  rw [hkeys]
  rw [assignedVariables, List.append_assoc] at hnodup
  exact (List.nodup_append.1 hnodup).2.1

theorem space_notMem_of_mem_listings {y : String × List String} (hy : y ∈ listings p) :
    ' ' ∉ y.1.toList := by
  rcases List.mem_append.1 hy with hy | hy
  · obtain ⟨x, -, hy⟩ := List.mem_flatMap.1 hy
    exact space_notMem_of_mem_listing hy
  · rw [List.mem_singleton.1 hy]
    exact space_notMem_manifestVariable

/-- **A plan without blanks is of words**: what it lists comes from paths, names and flags. -/
theorem wordy_of_avoids {t : Tree} {project : Path} {config : Config}
    (h : (t.plan project config).result = .ok p) (ha : p.Avoids config.runtime isBlank) :
    Wordy p where
  listings y hy v hv := by
    rcases List.mem_append.1 hy with hy | hy
    · obtain ⟨x, hx, hy⟩ := List.mem_flatMap.1 hy
      have hsource : ∀ s ∈ x.sources, s ∈ p.sources := fun s hs => List.mem_flatMap.2 ⟨x, hx, hs⟩
      simp only [listing, List.mem_cons, List.not_mem_nil, or_false] at hy
      -- sources, objects, the linker and its flags
      rcases hy with rfl | rfl | rfl | rfl
      · obtain ⟨s, hs, rfl⟩ := List.mem_map.1 hv
        obtain ⟨root, l, links, names, ho⟩ := Tree.exists_originates_of_plan h (hsource s hs)
        refine ⟨?_, ha.relPath s (hsource s hs)⟩
        rw [ho.relPath_eq]
        simp
      · obtain ⟨s, hs, rfl⟩ := List.mem_map.1 hv
        refine ⟨?_, SourceFile.lacks_objectPath (fun _ hb => hb) (ha.relPath s (hsource s hs))⟩
        rw [SourceFile.objectPath]
        simp
      · rw [List.mem_singleton.1 hv]
        cases x.linker <;> decide
      · exact ha.ldflags h (fun _ hb => hb) hx v hv
    · rw [List.mem_singleton.1 hy] at hv
      obtain ⟨x, hx, rfl⟩ := List.mem_map.1 hv
      have hx : x ∈ p.targets := List.mem_append_right _ hx
      exact ⟨(exists_source_of_mem_targets h hx).1, ha.name h hx⟩
  objectPath s hs := SourceFile.lacks_objectPath (fun _ hb => hb) (ha.relPath s hs)
  outputPath x hx := ha.outputPath h (fun _ hb => hb) hx

/-- **When the lists of a fragment are read back.** -/
theorem readings_iff {t : Tree} {project : Path} {config : Config}
    (h : (t.plan project config).result = .ok p) (written : Timestamp) :
    (∀ y ∈ listings p, readings (text p written) y.1 = [y.2]) ↔
    p.Avoids config.runtime isBlank := by
  constructor
  · intro hread
    refine avoids_of_listings h fun y hy v hv => ?_
    -- what was read are words
    have hmem : y.2 ∈ readings (text p written) y.1 := by
      rw [hread y hy]
      exact List.mem_cons_self
    obtain ⟨line, -, hline⟩ := List.mem_filterMap.1 hmem
    obtain ⟨rest, -, hrest⟩ := Option.map_eq_some_iff.1 hline
    obtain ⟨w, hw, rfl⟩ := List.mem_map.1 (hrest ▸ hv)
    exact (isWord_of_mem_words hw).2
  · intro ha y hy
    have hlines : Text.lines (text p written).toList = (lines p written).map String.toList :=
      (lines_text_iff h written).2 (ha.of_blank isBlank_of_isNewline)
    rw [readings, hlines, filterMap_readLine?_lines (wordy_of_avoids h ha) written
      (space_notMem_of_mem_listings hy), filter_key_eq (nodup_listings h) hy]
    rfl

end Fragment

/-! ### Plans that are read back -/

section Plan

open Fragment

variable {t : Tree} {project : Path} {config : Config} {p : BuildPlan}

/-- **What a fragment says can be read back** as far as nothing in it would have to be quoted. -/
theorem plan_reads_back (h : (t.plan project config).result = .ok p) (written : Timestamp) :
    ((∀ y ∈ listings p, readings (text p written) y.1 = [y.2]) ↔ p.Avoids config.runtime isBlank) ∧
      (Text.lines (text p written).toList = (Fragment.lines p written).map String.toList ↔
        p.Avoids config.runtime isNewline) ∧
      ((∃ line ∈ Fragment.lines p written, Continued line) ↔ p.Continues) :=
  ⟨readings_iff h written, lines_text_iff h written, exists_continued_iff h written⟩

/-- The small project is read back. -/
theorem smallProject_reads_back :
    (SmallProject.tree.plan (.ofString ".") .default).result = .ok SmallProject.plan ∧
      (∀ y ∈ listings SmallProject.plan, readings (text SmallProject.plan ⟨0, 0⟩) y.1 = [y.2]) ∧
      Text.lines (text SmallProject.plan ⟨0, 0⟩).toList =
        (Fragment.lines SmallProject.plan ⟨0, 0⟩).map String.toList ∧
      ¬ ∃ line ∈ Fragment.lines SmallProject.plan ⟨0, 0⟩, Continued line := by
  have havoids : SmallProject.plan.Avoids "-lstdc++" isBlank := ⟨by decide, fun _ => by decide⟩
  -- there is no backslash in the plan
  have hcontinues : ¬ SmallProject.plan.Continues := by
    have hnames : ∀ x ∈ SmallProject.plan.targets, ¬ Continued x.name := by decide
    have hflags : ∀ x ∈ SmallProject.plan.targets, ∀ v ∈ x.ldflags, ¬ Continued v := by decide
    have hsources : ∀ s ∈ SmallProject.plan.sources, ∀ y ∈ s.flags.overrides, y.2 = [] := by decide
    intro h
    cases h with
    | name hx hcont => exact hnames _ hx hcont
    | ldflags hx hv hcont => exact hflags _ hx _ (List.mem_of_getLast? hv) hcont
    | override hs hy hv _ =>
      rw [hsources _ hs _ hy] at hv
      simp at hv
  obtain ⟨hread, hlines, hcont⟩ := plan_reads_back SmallProject.plan_eq ⟨0, 0⟩
  exact ⟨SmallProject.plan_eq, hread.2 havoids, hlines.2 (havoids.of_blank isBlank_of_isNewline),
    fun h => hcontinues (hcont.1 h)⟩

end Plan

/-! ### A backslash and a space -/

namespace UnquotedProject

open SmallProject Fragment

/-- A source with a backslash among its link flags. -/
def tree : Tree where
  entries := [([src], .dir), ([src, file], text "// @ldflags: -lm \\\n")]
  ascending := by
    unfold Ascending
    decide_cbv
  closed := closed_of_dropLast (by decide_cbv)

/-- The plan that has a flag with a backslash at its end. -/
def plan : BuildPlan where
  archives := []
  modules := [⟨.module, "a", [source "src/a.c" "a" "c"], .plain, ["-lm", "\\"], [], []⟩]

theorem plan_eq : (tree.plan (.ofString ".") .default).result = .ok plan := by cbv

/-- A source with a space in its name. -/
def spacedTree : Tree where
  entries := [([src], .dir), ([src, name "a b.c"], text "")]
  ascending := by
    unfold Ascending
    decide_cbv
  closed := closed_of_dropLast (by decide_cbv)

/-- The plan that has a source with a blank in its name. -/
def spacedPlan : BuildPlan where
  archives := []
  modules := [⟨.module, "a b", [source "src/a b.c" "a b" "c"], .plain, [], [], []⟩]

theorem spacedPlan_eq : (spacedTree.plan (.ofString ".") .default).result = .ok spacedPlan := by cbv

/-- **A backslash among the flags joins two lines, and a name with a space is not read back.** -/
theorem misread : ((tree.plan (.ofString ".") .default).result = .ok plan ∧
      ∃ line ∈ Fragment.lines plan ⟨0, 0⟩, Continued line) ∧
    (spacedTree.plan (.ofString ".") .default).result = .ok spacedPlan ∧
      ∃ y ∈ listings spacedPlan, readings (Fragment.text spacedPlan ⟨0, 0⟩) y.1 ≠ [y.2] := by
  refine ⟨⟨plan_eq, (exists_continued_iff plan_eq _).2 ?_⟩, spacedPlan_eq, ?_⟩
  · exact .ldflags List.mem_cons_self rfl (by decide)
  · -- if all lists were read back, no source would have a blank in its path
    by_contra hnone
    have hread :
        ∀ y ∈ listings spacedPlan, readings (Fragment.text spacedPlan ⟨0, 0⟩) y.1 = [y.2] := by
      intro y hy
      by_contra hne
      exact hnone ⟨y, hy, hne⟩
    have hlacks : ∀ s ∈ spacedPlan.sources, Lacks isBlank s.file.relPath :=
      ((readings_iff spacedPlan_eq _).1 hread).relPath
    exact absurd hlacks (by decide)

end UnquotedProject

end NativeBuild
