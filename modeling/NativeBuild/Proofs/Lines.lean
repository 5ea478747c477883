import NativeBuild.Proofs.Values

/-!
# The lines of a fragment

A fragment is rendered line by line, but what becomes of it is text, and `make` cuts the text into
lines again. Nothing is quoted, so a line feed in a name or a backslash at the end of a line would
change what it finds.

* `lines_text_iff`: the lines of the text are those that were written if and only if no source has a
  line feed in its path, nor the runtime where it is needed;
* `exists_continued_iff`: the lines that end in a backslash, so that `make` takes the next line for
  a part of them. It happens to the comment over a target and the list of modules by a name, to the
  link flags of a target by the last of them, and to the flags of an object by the last of a kind.

Nothing else can do harm: stems are spelled in letters, digits and underscores, tokens of directives
have no blanks, and compile flags have none but spaces. `listings` is what a fragment lists,
variable by variable.
-/

namespace NativeBuild

namespace Text

/-! ### Lines -/

/-- A line ends at its line feed. -/
theorem lines_append_newline {l : List Char} (h : '\n' ∉ l) (rest : List Char) :
    lines (l ++ '\n' :: rest) = l :: lines rest := by
  induction l with
  | nil => simp [lines]
  | cons c l ih =>
    rw [List.mem_cons, not_or] at h
    rw [List.cons_append, lines, if_neg (Ne.symm h.1), ih h.2]

/-- Lines are read off the front of a text. -/
theorem lines_unlines_append {ls : List (List Char)} (h : ∀ l ∈ ls, '\n' ∉ l) (rest : List Char) :
    lines (unlines ls ++ rest) = ls ++ lines rest := by
  induction ls with
  | nil => rfl
  | cons l ls ih =>
    rw [List.forall_mem_cons] at h
    have hcons : unlines (l :: ls) ++ rest = l ++ '\n' :: (unlines ls ++ rest) := by simp [unlines]
    rw [hcons, lines_append_newline h.1, ih h.2]
    rfl

/-- Lines are read back from what they are put together to. -/
theorem lines_unlines {ls : List (List Char)} (h : ∀ l ∈ ls, '\n' ∉ l) :
    lines (unlines ls) = ls := by
  have hall := lines_unlines_append h []
  rwa [List.append_nil, lines, List.append_nil] at hall

/-- A line feed at the end opens no line but an empty one. -/
theorem lines_append_feed (text : List Char) : lines (text ++ ['\n']) = lines text ∨
    lines (text ++ ['\n']) = lines text ++ [[]] := by
  -- on the text; only its last line makes a difference
  induction text with
  | nil => exact .inr rfl
  | cons c text ih =>
    rw [List.cons_append, lines, lines]
    by_cases hc : c = '\n'
    · rw [if_pos hc, if_pos hc]
      exact ih.imp (congrArg _) (congrArg _)
    · rw [if_neg hc, if_neg hc]
      rcases ih with ih | ih
      · exact .inl (by rw [ih])
      · rw [ih]
        cases lines text with
        | nil => exact .inl rfl
        | cons l ls => exact .inr rfl

/-- No line has a line feed in it. -/
theorem newline_notMem_of_mem_lines {cs l : List Char} (h : l ∈ lines cs) : '\n' ∉ l := by
  -- on the characters, each of which ends a line or goes to the front of one
  induction cs generalizing l with
  | nil => exact absurd h List.not_mem_nil
  | cons c r ih =>
    rw [lines] at h
    split at h
    · rcases List.mem_cons.1 h with rfl | h
      · exact List.not_mem_nil
      · exact ih h
    · rename_i hc
      -- the character is the first of a line that goes on, or of one that it is alone on
      split at h
      · rw [List.mem_singleton.1 h, List.mem_singleton]
        exact Ne.symm hc
      · rename_i l' ls hls
        rcases List.mem_cons.1 h with rfl | h
        · rw [List.mem_cons, not_or]
          exact ⟨Ne.symm hc, ih (hls ▸ List.mem_cons_self)⟩
        · exact ih (hls ▸ List.mem_cons_of_mem _ h)

/-- Is it a line feed? -/
def isNewline (c : Char) : Bool := c = '\n'

/-- Line feeds are blanks. -/
theorem isBlank_of_isNewline (c : Char) (h : isNewline c = true) : isBlank c = true := by
  obtain rfl : c = '\n' := by simpa [isNewline] using h
  rfl

theorem lacks_newline_iff {s : String} : Lacks isNewline s ↔ '\n' ∉ s.toList := by
  simp only [Lacks, isNewline, decide_eq_false_iff_not]
  exact ⟨fun h hm => h _ hm rfl, fun h c hc he => h (he ▸ hc)⟩

/-- What all values lack is not in the list of them either. -/
theorem lacks_intercalate {bad : Char → Bool} (hspace : bad ' ' = false) {vs : List String}
    (h : ∀ v ∈ vs, Lacks bad v) : Lacks bad (" ".intercalate vs) := by
  induction vs with
  | nil => exact fun c hc => absurd hc (by simp)
  | cons v vs ih =>
    rw [List.forall_mem_cons] at h
    cases vs with
    | nil => simpa using h.1
    | cons w vs =>
      rw [String.intercalate_cons_cons, lacks_append, lacks_append]
      exact ⟨⟨h.1, by simpa [Lacks] using hspace⟩, ih h.2⟩

end Text

open Text

namespace Fragment

variable {p : BuildPlan} {x : Target} {var : String}

/-! ### What a fragment lists -/

/-- What the stanza of a target lists, by variables. -/
def listing (x : Target) : List (String × List String) :=
  [(x.stem ++ "_SOURCES", x.sources.map (·.file.relPath)),
    (x.stem ++ "_OBJECTS", x.sources.map (·.file.objectPath)),
    (x.stem ++ "_LINKER", [x.linker.makeVariable]), (x.stem ++ "_LDFLAGS", x.ldflags)]

/-- **What a fragment lists**, by variables. -/
def listings (p : BuildPlan) : List (String × List String) :=
  p.targets.flatMap listing ++ [(manifestVariable, p.modules.map Target.name)]

theorem assignments_eq (x : Target) :
    assignments x = (listing x).map fun y => assignment y.1 y.2 := by
  have hlinker : x.stem ++ "_LINKER := " ++ x.linker.makeVariable =
      assignment (x.stem ++ "_LINKER") [x.linker.makeVariable] :=
    String.toList_inj.1 (by simp [assignment])
  rw [assignments, hlinker]
  rfl

/-- The characters of an assignment. -/
theorem toList_assignment (var : String) (values : List String) : (assignment var values).toList =
    var.toList ++ ' ' :: ':' :: '=' :: values.flatMap fun v => ' ' :: v.toList := by
  simp [assignment, String.toList_join, List.flatMap_map]

theorem mem_listing_of_mem_targets {p : BuildPlan} {x : Target} (hx : x ∈ p.targets)
    {y : String × List String} (hy : y ∈ listing x) : y ∈ listings p :=
  List.mem_append_left _ (List.mem_flatMap.2 ⟨x, hx, hy⟩)

/-- Each list of a plan stands on a line of its own. -/
theorem assignment_mem_lines {y : String × List String} (hy : y ∈ listings p)
    (written : Timestamp) :
    assignment y.1 y.2 ∈ lines p written := by
  rw [lines]
  rcases List.mem_append.1 hy with hy | hy
  · obtain ⟨x, hx, hy⟩ := List.mem_flatMap.1 hy
    have hassign : assignment y.1 y.2 ∈ assignments x := by
      rw [assignments_eq]
      exact List.mem_map_of_mem (f := fun y => assignment y.1 y.2) hy
    refine List.mem_append_left _ (List.mem_append_right _ (List.mem_flatMap.2 ⟨x, hx, ?_⟩))
    refine List.mem_append_left _ (List.mem_cons_of_mem _ ?_)
    exact List.mem_append_left _ (List.mem_append_left _ hassign)
  · rw [List.mem_singleton.1 hy]
    exact List.mem_append_right _ List.mem_cons_self

/-- A plan avoids what none of its lists has. -/
theorem avoids_of_listings {t : Tree} {project : Path} {config : Config} {bad : Char → Bool}
    (h : (t.plan project config).result = .ok p) (hall : ∀ y ∈ listings p, ∀ v ∈ y.2, Lacks bad v) :
    p.Avoids config.runtime bad where
  relPath s hs := by
    obtain ⟨x, hx, hs⟩ := List.mem_flatMap.1 hs
    have hlist : (x.stem ++ "_SOURCES", x.sources.map (·.file.relPath)) ∈ listings p :=
      mem_listing_of_mem_targets hx (by simp [listing])
    exact hall _ hlist _ (List.mem_map_of_mem hs)
  runtime := by
    -- the runtime is a flag of the target that has the source
    rintro ⟨s, hs, hext⟩
    obtain ⟨x, hx, hs⟩ := List.mem_flatMap.1 hs
    by_cases hne : config.runtime = ""
    · rw [hne]
      exact fun c hc => absurd hc (by simp)
    · have hlist : (x.stem ++ "_LDFLAGS", x.ldflags) ∈ listings p :=
        mem_listing_of_mem_targets hx (by simp [listing])
      exact hall _ hlist _ (runtime_mem_ldflags h hx hs hext hne)

/-! ### Line feeds -/

/-- Numbers are written with digits. -/
theorem newline_notMem_padded (width n : Nat) : '\n' ∉ (Timestamp.padded width n).toList := by
  intro h
  rw [Timestamp.padded, String.toList_ofList, List.mem_append] at h
  have hdigit : '\n'.isDigit = true := by
    rcases h with h | h
    · exact absurd (List.eq_of_mem_replicate h) (by decide)
    · exact Nat.isDigit_of_mem_toDigits (by omega) (by omega) h
  exact absurd hdigit (by decide)

theorem newline_notMem_written (written : Timestamp) : '\n' ∉ written.text.toList := by
  have hyear : ∀ year : Int, '\n' ∉ (Timestamp.yearText year).toList := by
    intro year
    unfold Timestamp.yearText
    split
    · simp [newline_notMem_padded]
    · split
      · simp [newline_notMem_padded]
      · exact newline_notMem_padded _ _
  simp [Timestamp.text, hyear, newline_notMem_padded]

/-- An assignment is one line if its variable and its values are. -/
theorem newline_notMem_assignment {values : List String} (hvar : '\n' ∉ var.toList)
    (h : ∀ v ∈ values, '\n' ∉ v.toList) : '\n' ∉ (assignment var values).toList := by
  rw [toList_assignment]
  simpa [hvar] using h

/-- The lines of a rule for an extension. -/
theorem newline_notMem_compileRule {r : CompileRule} (hext : '\n' ∉ r.ext.toList)
    (hcompiler : '\n' ∉ r.compiler.toList) (hflags : '\n' ∉ r.flags.toList) :
    ∀ line ∈ r.lines, '\n' ∉ line.toList := by
  simp [CompileRule.lines, makeDirectory, hext, hcompiler, hflags]

/-- Stems are words, whatever the name. -/
theorem newline_notMem_stem (x : Target) : '\n' ∉ x.stem.toList :=
  lacks_newline_iff.1 (x.lacks_stem.of_blank isBlank_of_isNewline)

/-- The lines of the rule for a target. -/
theorem newline_notMem_linkRule (houtput : '\n' ∉ x.outputPath.toList)
    (hpre : ∀ v ∈ x.prerequisites, '\n' ∉ v.toList) : ∀ line ∈ linkRule x, '\n' ∉ line.toList := by
  have hstem := newline_notMem_stem x
  unfold linkRule
  split
  · simp [makeDirectory, houtput, hstem]
  · simpa [makeDirectory, sharedLinkFlags, houtput, hstem, String.toList_join] using hpre

/-- The lines that set the flags of a source. -/
theorem newline_notMem_overrideLines {s : TargetSource} (hobject : '\n' ∉ s.file.objectPath.toList)
    (hflags : ∀ y ∈ s.flags.overrides, ∀ v ∈ y.2, Lacks isNewline v) :
    ∀ line ∈ overrideLines s, '\n' ∉ line.toList := by
  intro line hline
  obtain ⟨y, hy, rfl⟩ := List.mem_map.1 hline
  have hmem := (List.mem_filter.1 hy).1
  have hvalue : '\n' ∉ (" ".intercalate y.2).toList :=
    lacks_newline_iff.1 (lacks_intercalate rfl (hflags y hmem))
  have hname : '\n' ∉ y.1.toList := by
    simp only [FileFlags.overrides, List.mem_cons, List.not_mem_nil, or_false] at hmem
    rcases hmem with rfl | rfl | rfl
    all_goals simp
  simp only [String.toList_append, List.mem_append, hobject, hname, hvalue]
  simp

/-- A plan is **unbroken** if nothing that its fragment is made of has a line feed. -/
structure Unbroken (p : BuildPlan) : Prop where
  name : ∀ x ∈ p.targets, Lacks isNewline x.name
  relPath : ∀ s ∈ p.sources, Lacks isNewline s.file.relPath
  ldflags : ∀ x ∈ p.targets, ∀ v ∈ x.ldflags, Lacks isNewline v
  prerequisites : ∀ x ∈ p.targets, ∀ v ∈ x.prerequisites, Lacks isNewline v
  flags : ∀ s ∈ p.sources, ∀ y ∈ s.flags.overrides, ∀ v ∈ y.2, Lacks isNewline v

theorem Unbroken.objectPath (hp : Unbroken p) {s : TargetSource} (hs : s ∈ p.sources) :
    '\n' ∉ s.file.objectPath.toList :=
  lacks_newline_iff.1 (SourceFile.lacks_objectPath isBlank_of_isNewline (hp.relPath s hs))

/-- In a plan that is unbroken, so are all that it lists. -/
theorem newline_notMem_listing (hp : Unbroken p) (hx : x ∈ p.targets) {y : String × List String}
    (hy : y ∈ listing x) : '\n' ∉ y.1.toList ∧ ∀ v ∈ y.2, '\n' ∉ v.toList := by
  have hstem := newline_notMem_stem x
  rw [listing] at hy
  simp only [List.mem_cons, List.not_mem_nil, or_false] at hy
  have hsource : ∀ s ∈ x.sources, s ∈ p.sources := fun s hs => List.mem_flatMap.2 ⟨x, hx, hs⟩
  -- sources, objects, the linker and its flags
  rcases hy with rfl | rfl | rfl | rfl
  · refine ⟨by simp [hstem], List.forall_mem_map.2 fun s hs => ?_⟩
    exact lacks_newline_iff.1 (hp.relPath s (hsource s hs))
  · refine ⟨by simp [hstem], List.forall_mem_map.2 fun s hs => ?_⟩
    exact hp.objectPath (hsource s hs)
  · refine ⟨by simp [hstem], List.forall_mem_singleton.2 ?_⟩
    cases x.linker <;> simp [Linker.makeVariable]
  · refine ⟨by simp [hstem], fun v hv => ?_⟩
    exact lacks_newline_iff.1 (hp.ldflags x hx v hv)

/-- **The lines of a fragment** are lines if its plan is unbroken. -/
theorem newline_notMem_lines (hp : Unbroken p) (written : Timestamp) :
    ∀ line ∈ lines p written, '\n' ∉ line.toList := by
  intro line hline
  simp only [lines, List.mem_append] at hline
  -- the parts of the fragment: header, defaults, rules, stanzas and the manifest
  rcases hline with (((hline | hline) | hline) | hline) | hline
  · simp only [header, List.mem_cons, List.not_mem_nil, or_false] at hline
    rcases hline with rfl | rfl | rfl
    · simp
    · simp [newline_notMem_written]
    · simp
  · have hdefaults : ∀ line ∈ defaultLines, '\n' ∉ line.toList := by simp [defaultLines, defaults]
    exact hdefaults line hline
  · have hrules : ∀ r ∈ compileRules, '\n' ∉ r.ext.toList ∧ '\n' ∉ r.compiler.toList ∧
        '\n' ∉ r.flags.toList := by simp [compileRules]
    obtain ⟨r, hr, hline⟩ := List.mem_flatMap.1 hline
    obtain ⟨hext, hcompiler, hflags⟩ := hrules r hr
    exact newline_notMem_compileRule hext hcompiler hflags line hline
  · obtain ⟨x, hx, hline⟩ := List.mem_flatMap.1 hline
    rw [List.mem_append, stanza, List.mem_cons, List.mem_append, List.mem_append,
      List.mem_singleton] at hline
    rcases hline with (rfl | (hline | hline) | hline) | rfl
    · have hname := lacks_newline_iff.1 (hp.name x hx)
      cases hkind : x.kind <;> simp [TargetKind.word, hname]
    · rw [assignments_eq] at hline
      obtain ⟨y, hy, rfl⟩ := List.mem_map.1 hline
      obtain ⟨hvar, hvalues⟩ := newline_notMem_listing hp hx hy
      exact newline_notMem_assignment hvar hvalues
    · obtain ⟨s, hs, hline⟩ := List.mem_flatMap.1 hline
      have hsp : s ∈ p.sources := List.mem_flatMap.2 ⟨x, hx, hs⟩
      exact newline_notMem_overrideLines (hp.objectPath hsp) (hp.flags s hsp) line hline
    · have houtput := Target.lacks_outputPath isBlank_of_isNewline (hp.name x hx)
      exact newline_notMem_linkRule (lacks_newline_iff.1 houtput)
        (fun v hv => lacks_newline_iff.1 (hp.prerequisites x hx v hv)) line hline
    · simp
  · rw [List.mem_singleton.1 hline]
    refine newline_notMem_assignment (by decide) fun v hv => ?_
    obtain ⟨x, hx, rfl⟩ := List.mem_map.1 hv
    exact lacks_newline_iff.1 (hp.name x (List.mem_append_right _ hx))

/-- Compile flags have no line feeds. -/
theorem lacks_newline_overrides {t : Tree} {project : Path} {config : Config}
    (h : (t.plan project config).result = .ok p) {s : TargetSource} (hs : s ∈ p.sources) :
    ∀ y ∈ s.flags.overrides, ∀ v ∈ y.2, Lacks isNewline v := by
  obtain ⟨root, l, links, names, ho⟩ := Tree.exists_originates_of_plan h hs
  intro y hy v hv
  obtain ⟨k, -, hvalues⟩ := FileFlags.exists_kind_of_mem_overrides (ho.flags_eq ▸ hy)
  intro c hc
  rcases eq_space_of_mem_values (hvalues ▸ hv) hc with rfl | hblank
  · rfl
  · by_contra hne
    rw [isBlank_of_isNewline c (by simpa using hne)] at hblank
    exact Bool.noConfusion hblank

/-- A plan that avoids line feeds is unbroken. -/
theorem unbroken_of_avoids {t : Tree} {project : Path} {config : Config}
    (h : (t.plan project config).result = .ok p) (ha : p.Avoids config.runtime isNewline) :
    Unbroken p where
  name _ hx := ha.name h hx
  relPath := ha.relPath
  ldflags _ hx v hv := (ha.ldflags h isBlank_of_isNewline hx v hv).2
  prerequisites _ hx v hv := ha.prerequisites h isBlank_of_isNewline hx v hv
  flags _ hs := lacks_newline_overrides h hs

theorem toList_text (p : BuildPlan) (written : Timestamp) :
    (text p written).toList = unlines ((lines p written).map String.toList) := by
  simp [text, unlines, String.toList_join, List.flatMap_map]

/-- The lines of an unbroken plan are read back. -/
theorem lines_text (hp : Unbroken p) (written : Timestamp) :
    Text.lines (text p written).toList = (lines p written).map String.toList := by
  rw [toList_text]
  exact lines_unlines (List.forall_mem_map.2 (newline_notMem_lines hp written))

/-- **When the lines of the text are those that were written.** -/
theorem lines_text_iff {t : Tree} {project : Path} {config : Config}
    (h : (t.plan project config).result = .ok p) (written : Timestamp) :
    Text.lines (text p written).toList = (lines p written).map String.toList ↔
      p.Avoids config.runtime isNewline := by
  constructor
  · intro hlines
    refine avoids_of_listings h fun y hy v hv => lacks_newline_iff.2 fun hmem => ?_
    -- the value stands on a line of the text
    have hline : (assignment y.1 y.2).toList ∈ Text.lines (text p written).toList := by
      rw [hlines]
      exact List.mem_map_of_mem (assignment_mem_lines hy written)
    refine newline_notMem_of_mem_lines hline ?_
    rw [toList_assignment]
    refine List.mem_append_right _ ?_
    simp only [List.mem_cons, List.mem_flatMap]
    exact Or.inr (Or.inr (Or.inr ⟨v, hv, Or.inr hmem⟩))
  · intro ha
    exact lines_text (unbroken_of_avoids h ha) written

/-! ### Lines that are continued -/

/-- A line is **continued** if it ends in a backslash: `make` takes the next line for a part of
it. -/
def Continued (line : String) : Prop := line.toList.getLast? = some '\\'

instance (line : String) : Decidable (Continued line) := inferInstanceAs (Decidable (_ = _))

/-- The end of a line decides whether it goes on. -/
theorem continued_append {s u : String} (h : u ≠ "") : Continued (s ++ u) ↔ Continued u := by
  have hne : u.toList ≠ [] := fun he => h (String.toList_inj.1 (he.trans String.toList_empty.symm))
  rw [Continued, String.toList_append, List.getLast?_append_of_ne_nil _ hne, Continued]

theorem continued_append_of_not {s u : String} (h : ¬ Continued s) : Continued (s ++ u) ↔
    Continued u := by
  by_cases hu : u = ""
  · subst hu
    rw [String.append_empty]
    exact iff_of_false h (by decide)
  · exact continued_append hu

/-- Behind a line that is not continued, of some values the last one decides. -/
theorem continued_append_join {s : String} (h : ¬ Continued s) {vs : List String} :
    Continued (s ++ String.join (vs.map (" " ++ ·))) ↔ ∃ v, vs.getLast? = some v ∧ Continued v := by
  rcases List.eq_nil_or_concat' vs with rfl | ⟨front, v, rfl⟩
  · rw [continued_append_of_not h]
    exact iff_of_false (by decide) (by simp)
  · have hlast : s ++ String.join ((front ++ [v]).map (" " ++ ·)) =
        s ++ String.join (front.map (" " ++ ·)) ++ " " ++ v :=
      String.toList_inj.1 (by simp [String.toList_join])
    rw [hlast, continued_append_of_not ((continued_append (by decide)).not.2 (by decide))]
    simp

/-- **An assignment is continued** exactly if its last value is. -/
theorem continued_assignment {values : List String} :
    Continued (assignment var values) ↔ ∃ v, values.getLast? = some v ∧ Continued v :=
  continued_append_join ((continued_append (by decide)).not.2 (by decide))

/-- The last of some values decides for them. -/
theorem continued_intercalate {vs : List String} :
    Continued (" ".intercalate vs) ↔ ∃ v, vs.getLast? = some v ∧ Continued v := by
  induction vs with
  | nil => exact iff_of_false (by decide) (by simp)
  | cons v vs ih =>
    cases vs with
    | nil => simp
    | cons w vs =>
      rw [String.intercalate_cons_cons,
        continued_append_of_not ((continued_append (by decide)).not.2 (by decide)), ih,
        List.getLast?_cons_cons]

/-- **The flags of an object are continued** exactly if the last of a kind is. -/
theorem exists_continued_overrideLines {s : TargetSource} :
    (∃ line ∈ overrideLines s, Continued line) ↔
    ∃ y ∈ s.flags.overrides, ∃ v, y.2.getLast? = some v ∧ Continued v := by
  have hline : ∀ y : String × List String,
      Continued (s.file.objectPath ++ ": " ++ y.1 ++ " := " ++ " ".intercalate y.2) ↔
        ∃ v, y.2.getLast? = some v ∧ Continued v := fun y => by
    rw [continued_append_of_not ((continued_append (by decide)).not.2 (by decide)),
      continued_intercalate]
  constructor
  · rintro ⟨line, hmem, hcont⟩
    obtain ⟨y, hy, rfl⟩ := List.mem_map.1 hmem
    exact ⟨y, (List.mem_filter.1 hy).1, (hline y).1 hcont⟩
  · rintro ⟨y, hy, v, hv, hcont⟩
    -- flags of which one is the last are some flags
    have hne : y.2 ≠ [] := by
      intro he
      simp [he] at hv
    exact ⟨_, List.mem_map.2 ⟨y, List.mem_filter.2 ⟨hy, by simpa using hne⟩, rfl⟩,
      (hline y).2 ⟨v, hv, hcont⟩⟩

theorem not_continued_defaultLines : ∀ line ∈ defaultLines, ¬ Continued line := by
  have hvalues : ∀ y ∈ defaults, y.2 ≠ "" ∧ ¬ Continued y.2 := by decide
  intro line hline
  rcases List.mem_append.1 hline with hline | hline
  · obtain ⟨y, hy, rfl⟩ := List.mem_map.1 hline
    obtain ⟨hne, hvalue⟩ := hvalues y hy
    rw [continued_append hne]
    exact hvalue
  · rw [List.mem_singleton.1 hline]
    decide

/-- The rules for the extensions end as they should. -/
theorem not_continued_compileRule {r : CompileRule} (hr : r ∈ compileRules) :
    ∀ line ∈ r.lines, ¬ Continued line := by
  have hexts : ∀ r ∈ compileRules, r.ext ≠ "" ∧ ¬ Continued r.ext := by decide
  obtain ⟨hne, hext⟩ := hexts r hr
  simp only [CompileRule.lines, List.forall_mem_cons]
  refine ⟨?_, by decide, ?_, by decide, fun _ hl => absurd hl List.not_mem_nil⟩
  · rw [continued_append hne]
    exact hext
  · rw [continued_append (by decide)]
    decide

/-- And so do those for the targets, whatever is in the plan. -/
theorem not_continued_linkRule {t : Tree} {project : Path} {config : Config}
    (h : (t.plan project config).result = .ok p) (hx : x ∈ p.targets) :
    ∀ line ∈ linkRule x, ¬ Continued line := by
  have hobjects : ¬ Continued ("$(" ++ x.stem ++ "_OBJECTS)") :=
    (continued_append (by decide)).not.2 (by decide)
  have houtput : ∀ a : Target, ¬ Continued a.outputPath := by
    intro a
    unfold Target.outputPath
    split
    · exact (continued_append (by decide)).not.2 (by decide)
    · exact (continued_append (by decide)).not.2 (by decide)
  -- the words that do not depend on the plan
  have hfixed : ¬ Continued makeDirectory ∧ ¬ Continued "\t$(RANLIB) $@" ∧
      ¬ Continued sharedLinkFlags ∧
      sharedLinkFlags ≠ "" := by decide
  obtain ⟨hdirectory, hranlib, hshared, hne⟩ := hfixed
  unfold linkRule
  split
  · simp only [List.forall_mem_cons]
    refine ⟨?_, hdirectory, ?_, hranlib, fun _ hl => absurd hl List.not_mem_nil⟩
    · rw [continued_append_of_not ((continued_append (by decide)).not.2 (by decide))]
      exact hobjects
    · rw [continued_append_of_not (by decide)]
      exact hobjects
  · simp only [List.forall_mem_cons]
    refine ⟨?_, hdirectory, ?_, fun _ hl => absurd hl List.not_mem_nil⟩
    · -- prerequisites are outputs of archives
      obtain ⟨as, -, -, hpre, -⟩ := flags_of_mem_targets h hx
      have hfront : ¬ Continued (x.outputPath ++ ": " ++ ("$(" ++ x.stem ++ "_OBJECTS)")) := by
        rw [continued_append_of_not ((continued_append (by decide)).not.2 (by decide))]
        exact hobjects
      rw [continued_append_join hfront, hpre]
      rintro ⟨v, hv, hcont⟩
      obtain ⟨a, -, rfl⟩ := List.mem_map.1 (List.mem_of_getLast? hv)
      exact houtput a hcont
    · rw [continued_append hne]
      exact hshared

/-- Of what a target lists only the last link flag can be continued. -/
theorem exists_continued_assignments {t : Tree} {project : Path} {config : Config}
    (h : (t.plan project config).result = .ok p) (hx : x ∈ p.targets) :
    (∃ line ∈ assignments x, Continued line) ↔ ∃ v, x.ldflags.getLast? = some v ∧ Continued v := by
  -- a path ends in an extension, and an object in `.o`
  have hsource : ∀ s ∈ x.sources, ¬ Continued s.file.relPath ∧ ¬ Continued s.file.objectPath := by
    intro s hs
    obtain ⟨root, l, links, names, ho⟩ :=
      Tree.exists_originates_of_plan h (List.mem_flatMap.2 ⟨x, hx, hs⟩)
    have hext : s.file.ext ∈ sourceExtensions := by
      rw [ho.file_eq]
      exact names.ext_mem
    have hall : ∀ ext ∈ sourceExtensions, ext ≠ "" ∧ ¬ Continued ext := by decide
    obtain ⟨hne, hnot⟩ := hall _ hext
    rw [SourceFile.objectPath_eq ho.relPath_eq, continued_append (by decide)]
    refine ⟨?_, by decide⟩
    rw [ho.relPath_eq, continued_append hne]
    exact hnot
  have hlinker : ¬ Continued x.linker.makeVariable := by
    cases x.linker <;> decide
  simp only [assignments_eq, List.mem_map, exists_exists_and_eq_and, continued_assignment]
  constructor
  · rintro ⟨y, hy, v, hv, hcont⟩
    have hmem := List.mem_of_getLast? hv
    simp only [listing, List.mem_cons, List.not_mem_nil, or_false] at hy
    -- of the four lists only the flags may end in a backslash
    rcases hy with rfl | rfl | rfl | rfl
    · obtain ⟨s, hs, rfl⟩ := List.mem_map.1 hmem
      exact absurd hcont (hsource s hs).1
    · obtain ⟨s, hs, rfl⟩ := List.mem_map.1 hmem
      exact absurd hcont (hsource s hs).2
    · rw [List.mem_singleton.1 hmem] at hcont
      exact absurd hcont hlinker
    · exact ⟨v, hv, hcont⟩
  · intro hflag
    exact ⟨(x.stem ++ "_LDFLAGS", x.ldflags), by simp [listing], hflag⟩

end Fragment

/-- What makes a line of the fragment of a plan **continued**. -/
inductive BuildPlan.Continues (p : BuildPlan) : Prop where
  | name {x : Target} (hx : x ∈ p.targets) (h : Fragment.Continued x.name)
  | ldflags {x : Target} (hx : x ∈ p.targets) {v : String} (hv : x.ldflags.getLast? = some v)
      (h : Fragment.Continued v)
  | override {s : TargetSource} (hs : s ∈ p.sources) {y : String × List String} (hy : y ∈
    s.flags.overrides)
      {v : String} (hv : y.2.getLast? = some v) (h : Fragment.Continued v)

section Plan

open Fragment

variable {t : Tree} {project : Path} {config : Config} {p : BuildPlan} {x : Target}

/-- A stanza is continued by its name, its flags or those of a source. -/
theorem exists_continued_stanza (h : (t.plan project config).result = .ok p) (hx : x ∈ p.targets) :
    (∃ line ∈ stanza x ++ [""], Continued line) ↔ Continued x.name ∨
      (∃ v, x.ldflags.getLast? = some v ∧ Continued v) ∨
      ∃ s ∈ x.sources, ∃ y ∈ s.flags.overrides, ∃ v, y.2.getLast? = some v ∧ Continued v := by
  have hcomment : Continued ("# " ++ x.kind.word ++ " " ++ x.name) ↔ Continued x.name :=
    continued_append_of_not ((continued_append (by decide)).not.2 (by decide))
  have hlink := not_continued_linkRule h hx
  rw [← hcomment, ← exists_continued_assignments h hx]
  simp only [← exists_continued_overrideLines]
  constructor
  · rintro ⟨line, hline, hcont⟩
    rw [List.mem_append, stanza, List.mem_cons, List.mem_append, List.mem_append,
      List.mem_singleton] at hline
    -- the parts of a stanza, from its comment to the empty line behind it
    rcases hline with (rfl | (hline | hline) | hline) | rfl
    · exact Or.inl hcont
    · exact Or.inr (Or.inl ⟨line, hline, hcont⟩)
    · obtain ⟨s, hs, hline⟩ := List.mem_flatMap.1 hline
      exact Or.inr (Or.inr ⟨s, hs, line, hline, hcont⟩)
    · exact absurd hcont (hlink line hline)
    · exact absurd hcont (by decide)
  · have hparts : stanza x ++ [""] = ("# " ++ x.kind.word ++ " " ++ x.name) ::
        (assignments x ++ (x.sources.flatMap overrideLines ++ (linkRule x ++ [""]))) := by
      simp [stanza]
    rw [hparts]
    rintro (hcont | ⟨line, hline, hcont⟩ | ⟨s, hs, line, hline, hcont⟩)
    · exact ⟨_, List.mem_cons_self, hcont⟩
    · exact ⟨line, List.mem_cons_of_mem _ (List.mem_append_left _ hline), hcont⟩
    · refine ⟨line, List.mem_cons_of_mem _ (List.mem_append_right _ (List.mem_append_left _ ?_)),
        hcont⟩
      exact List.mem_flatMap.2 ⟨s, hs, hline⟩

/-- **Which lines of a fragment are continued.** -/
theorem exists_continued_iff (h : (t.plan project config).result = .ok p) (written : Timestamp) :
    (∃ line ∈ lines p written, Continued line) ↔ p.Continues := by
  constructor
  · rintro ⟨line, hline, hcont⟩
    simp only [Fragment.lines, List.mem_append] at hline
    rcases hline with (((hline | hline) | hline) | hline) | hline
    · simp only [header, List.mem_cons, List.not_mem_nil, or_false] at hline
      rcases hline with rfl | rfl | rfl
      · exact absurd hcont (by decide)
      · rw [Timestamp.text, ← String.append_assoc, continued_append (by decide)] at hcont
        exact absurd hcont (by decide)
      · exact absurd hcont (by decide)
    · exact absurd hcont (not_continued_defaultLines line hline)
    · obtain ⟨r, hr, hline⟩ := List.mem_flatMap.1 hline
      exact absurd hcont (not_continued_compileRule hr line hline)
    · obtain ⟨x, hx, hline⟩ := List.mem_flatMap.1 hline
      rcases (exists_continued_stanza h hx).1 ⟨line, hline, hcont⟩ with
        hname | ⟨v, hv, hcont⟩ | ⟨s, hs, y, hy, v, hv, hcont⟩
      · exact .name hx hname
      · exact .ldflags hx hv hcont
      · exact .override (List.mem_flatMap.2 ⟨x, hx, hs⟩) hy hv hcont
    · rw [List.mem_singleton.1 hline, continued_assignment] at hcont
      obtain ⟨v, hv, hcont⟩ := hcont
      obtain ⟨x, hx, rfl⟩ := List.mem_map.1 (List.mem_of_getLast? hv)
      exact .name (List.mem_append_right _ hx) hcont
  · -- what continues a line is in one of the stanzas
    intro hcontinues
    have hstanza : ∀ x ∈ p.targets, ∀ line ∈ stanza x ++ [""], line ∈ lines p written := by
      intro x hx line hline
      rw [Fragment.lines]
      exact List.mem_append_left _ (List.mem_append_right _ (List.mem_flatMap.2 ⟨x, hx, hline⟩))
    have hfound : ∃ x ∈ p.targets, ∃ line ∈ stanza x ++ [""], Continued line := by
      cases hcontinues with
      | name hx hcont => exact ⟨_, hx, (exists_continued_stanza h hx).2 (Or.inl hcont)⟩
      | ldflags hx hv hcont =>
        exact ⟨_, hx, (exists_continued_stanza h hx).2 (Or.inr (Or.inl ⟨_, hv, hcont⟩))⟩
      | override hs hy hv hcont =>
        obtain ⟨x, hx, hs⟩ := List.mem_flatMap.1 hs
        exact ⟨x, hx,
          (exists_continued_stanza h hx).2 (Or.inr (Or.inr ⟨_, hs, _, hy, _, hv, hcont⟩))⟩
    obtain ⟨x, hx, line, hline, hcont⟩ := hfound
    exact ⟨line, hstanza x hx line hline, hcont⟩

end Plan

end NativeBuild
