import NativeBuild.Proofs.Apart
import NativeBuild.Proofs.Namespace

/-!
# Objects and their sources

An object is called by the path of its source without the extension, so two sources that differ in
the extension alone would be compiled to one object. A plan has no such sources, where names are
text (`Tree.plan_objects`): next to a source there is no file that differs from it in the extension
alone, and two sources of one object are the same file with the same flags, even if they are found
below different roots.

A source comes from a scan (`Originates`), and each scan keeps the names of a directory apart. What
two roots have in common is the text in front of the last name: it leads from the top to one
directory, whichever root it is spelled from (`Originates.follow_dirs`), so that a file that is
found there from one root would have been met from the other as well (`Originates.last_eq`).

In a fragment the lines that set flags are told from all others by what they begin with and by how
they are read, up to the first space and up to the next one (`Fragment.overrideLine_inj`). So a line
that sets a variable of an object comes from a source of that object
(`Fragment.overrideLine_mem_lines_iff`), and these have the same flags.
-/

namespace NativeBuild

/-! ### The text of a source -/

namespace SourceNames

variable (s : SourceNames)

/-- The stem of a name has no slash in it. -/
theorem slash_notMem_stem : '/' ∉ s.stem.toList := by
  intro h
  refine s.last.slash_notMem_display ?_
  rw [s.display_last]
  simp [h]

theorem slash_notMem_encode {ext : String} (hext : ext ∈ sourceExtensions) :
    Path.slash ∉ Utf8.encode (s.stem ++ "." ++ ext).toList := by
  have hall : ∀ ext ∈ sourceExtensions, '/' ∉ ext.toList := by decide_cbv
  intro h
  have hslash : '/' ∈ (s.stem ++ "." ++ ext).toList := Utf8.ascii_mem_of_mem_encode h (by decide)
  simp [s.slash_notMem_stem, hall ext hext] at hslash

/-- The text in front of the last name, as it is called from a root. -/
def front (root : String) : List Char := (trimRoot root).toList ++ spelled s.dirs

/-- The text of the source file without its extension and the dot before it. -/
def stemText (root : String) : String := String.ofList (s.front root ++ '/' :: s.stem.toList)

/-- The path of a source, seen from the project. -/
theorem relPath_discovered (base : Path) (root : String) :
    (s.discovered base (trimRoot root)).file.relPath = s.stemText root ++ "." ++ s.ext := by
  have h := toList_relPath (trimRoot root) (show s.names ≠ [] by simp [names])
  rw [names, spelled_append, spelled_singleton, s.display_last] at h
  refine String.toList_inj.1 (h.trans ?_)
  simp [stemText, front]

/-- A text is cut in one way at its last slash. -/
theorem front_eq_of_stemText_eq {s' : SourceNames} {root root' : String}
    (h : s.stemText root = s'.stemText root') :
    s.front root = s'.front root' ∧ s.stem = s'.stem := by
  rw [stemText, stemText, String.ofList_inj] at h
  obtain ⟨hfront, hstem⟩ := append_slash_inj h s.slash_notMem_stem s'.slash_notMem_stem
  exact ⟨hfront, String.toList_inj.1 hstem⟩

end SourceNames

/-- No file with an extension is called by dots alone. -/
theorem exists_ne_dot_of_mem_sourceExtensions (stem : String) {ext : String}
    (hext : ext ∈ sourceExtensions) :
    ∃ b ∈ Utf8.encode (stem ++ "." ++ ext).toList, b ≠ Path.dot := by
  have hall : ∀ ext ∈ sourceExtensions, ∃ b ∈ Utf8.encode ext.toList, b ≠ Path.dot := by decide_cbv
  obtain ⟨b, hb, hne⟩ := hall ext hext
  refine ⟨b, ?_, hne⟩
  rw [(bytes_split_of_sourceExtension stem hext).1]
  simp [hb]

/-- The object of a source is named after it, without its extension. -/
theorem SourceFile.objectPath_eq {f : SourceFile} {stem : String}
    (h : f.relPath = stem ++ "." ++ f.ext) :
    f.objectPath = "$(OBJDIR)/" ++ stem ++ ".o" := by
  have hext : f.ext.toList.isSuffixOf? f.relPath.toList = some (stem.toList ++ ['.']) :=
    List.isSuffixOf?_eq_some_iff_append_eq.2 (by rw [h]; simp)
  have hdot : ['.'].isSuffixOf? (stem.toList ++ ['.']) = some stem.toList :=
    List.isSuffixOf?_eq_some_iff_append_eq.2 rfl
  rw [objectPath, stemPath, hext]
  dsimp only
  rw [hdot, Option.getD_some, String.ofList_toList]

/-- **One compile rule for each extension**, with the driver that files of the extension need. -/
theorem filter_compileRules {f : SourceFile} (h : f.ext ∈ sourceExtensions) :
    ∃ r, Fragment.compileRules.filter (fun r => r.ext = f.ext) = [r] ∧
      r.compiler = f.linker.makeVariable := by
  rw [SourceFile.linker]
  generalize f.ext = ext at *
  have hall : ∀ ext ∈ sourceExtensions, ∃ r ∈ Fragment.compileRules,
      Fragment.compileRules.filter (fun r => r.ext = ext) = [r] ∧
        r.compiler = ((Linker.ofExtension? ext).getD .plain).makeVariable := by decide_cbv
  obtain ⟨r, -, hr⟩ := hall ext h
  exact ⟨r, hr⟩

/-- The sources of all targets of a plan. -/
def BuildPlan.sources (p : BuildPlan) : List TargetSource := p.targets.flatMap Target.sources

/-! ### Lines that set flags -/

/-- The flags that are set for the object of a source: each variable with its text. -/
def TargetSource.overrideTexts (s : TargetSource) : List (String × String) :=
  (s.flags.overrides.filter fun x => x.2 ≠ []).map fun x => (x.1, " ".intercalate x.2)

/-- The variables are different ones. -/
theorem FileFlags.nodup_overrides (flags : FileFlags) : (flags.overrides.map Prod.fst).Nodup := by
  simp [FileFlags.overrides]

/-- No variable is set twice for a source. -/
theorem TargetSource.nodup_overrideTexts (s : TargetSource) :
    (s.overrideTexts.map Prod.fst).Nodup := by
  rw [overrideTexts, List.map_map]
  exact (List.filter_sublist.map Prod.fst).nodup s.flags.nodup_overrides

namespace Fragment

/-- The line that sets a variable for an object. -/
def overrideLine (object : String) (o : String × String) : String :=
  object ++ ": " ++ o.1 ++ " := " ++ o.2

/-- The lines that set the flags of a source, as they are spelled. -/
theorem overrideLines_eq (s : TargetSource) :
    overrideLines s = s.overrideTexts.map (overrideLine s.file.objectPath) := by
  rw [overrideLines, TargetSource.overrideTexts, List.map_map]
  rfl

/-- The variables that are set have no space in them. -/
theorem space_notMem_of_mem_overrideTexts {s : TargetSource} {o : String × String}
    (ho : o ∈ s.overrideTexts) : ' ' ∉ o.1.toList := by
  obtain ⟨z, hz, rfl⟩ := List.mem_map.1 ho
  have hmem := (List.mem_filter.1 hz).1
  simp only [FileFlags.overrides, List.mem_cons, List.not_mem_nil, or_false] at hmem
  rcases hmem with rfl | rfl | rfl
  all_goals simp

/-- **A line that sets flags** gives its object, its variable and its text. -/
theorem overrideLine_inj {object object' : String} {o o' : String × String}
    (hobject : ' ' ∉ object.toList) (hobject' : ' ' ∉ object'.toList)
    (ho : ' ' ∉ o.1.toList) (ho' : ' ' ∉ o'.1.toList)
    (h : overrideLine object o = overrideLine object' o') : object = object' ∧ o = o' := by
  -- the object ends at the first space, and the variable at the next one
  have hwords : ∀ (a : String) (b : String × String), (overrideLine a b).toList =
      (a.toList ++ [':']) ++ ' ' :: (b.1.toList ++ ' ' :: ':' :: '=' :: ' ' :: b.2.toList) := by
    intro a b
    simp [overrideLine]
  have hcolon : ∀ cs : List Char, ' ' ∉ cs → ' ' ∉ cs ++ [':'] := by
    intro cs hcs
    simpa using hcs
  have hlist := congrArg String.toList h
  rw [hwords, hwords] at hlist
  obtain ⟨hfirst, hrest⟩ := append_space_inj (hcolon _ hobject) (hcolon _ hobject') hlist
  obtain ⟨hvar, htext⟩ := append_space_inj ho ho' hrest
  simp only [List.cons.injEq, true_and] at htext
  exact ⟨String.toList_inj.1 (List.append_cancel_right hfirst),
    Prod.ext (String.toList_inj.1 hvar) (String.toList_inj.1 htext)⟩

/-- The lines of the compile rules set no variable. -/
theorem overrideLine_notMem_rules (object : String) (o : String × String) :
    overrideLine object o ∉ compileRules.flatMap CompileRule.lines := by
  have hrules : ∀ line ∈ compileRules.flatMap CompileRule.lines,
      ¬ " := ".toList <:+: line.toList := by decide +kernel
  refine fun h => hrules _ h ⟨(object ++ ": " ++ o.1).toList, o.2.toList, ?_⟩
  simp [overrideLine]

/-- A line that begins with the directory of the objects belongs to a compile rule, or it sets flags
of a source: the other lines that begin with a dollar sign name what is linked. -/
theorem mem_rules_or_mem_overrideLines {p : BuildPlan} {written : Timestamp} {line : String}
    (h : line ∈ lines p written) (hobject : "$(OBJDIR)/".toList <+: line.toList) :
    line ∈ compileRules.flatMap CompileRule.lines ∨ ∃ s ∈ p.sources, line ∈ overrideLines s := by
  have hdollar : ¬ beginsVariable line = true := by
    have hnot : ¬ IsVariableChar '$' := by decide
    obtain ⟨rest, hline⟩ := hobject
    simp [beginsVariable, ← hline, hnot]
  by_cases hassign : line ∈ assigningLines p
  · rw [← filter_beginsVariable_lines p written] at hassign
    exact absurd (List.mem_filter.1 hassign).2 hdollar
  rw [lines, List.mem_append, List.mem_append, List.mem_append, List.mem_append] at h
  rcases h with (((h | h) | h) | h) | h
  · simp only [header, List.mem_cons, List.not_mem_nil, or_false] at h
    rcases h with rfl | rfl | rfl <;> simp at hobject
  · rw [defaultLines, List.mem_append, List.mem_singleton] at h
    rcases h with h | rfl
    · exact absurd (List.mem_append_left _ (List.mem_append_left _ h)) hassign
    · simp at hobject
  · exact Or.inl h
  · obtain ⟨x, hx, h⟩ := List.mem_flatMap.1 h
    rw [stanza, List.mem_append, List.mem_cons, List.mem_append, List.mem_append] at h
    rcases h with (rfl | (h | h) | h) | h
    · simp at hobject
    · refine absurd (List.mem_append_left _ (List.mem_append_right _ ?_)) hassign
      exact List.mem_flatMap.2 ⟨x, hx, h⟩
    · obtain ⟨s, hs, h⟩ := List.mem_flatMap.1 h
      exact Or.inr ⟨s, List.mem_flatMap.2 ⟨x, hx, hs⟩, h⟩
    · -- the path of a target begins with another directory
      have hrule : ∀ line ∈ linkRule x, ¬ "$(OBJDIR)/".toList <+: line.toList := by
        rw [linkRule, Target.outputPath]
        cases x.kind <;> simp [makeDirectory]
      exact absurd hobject (hrule line h)
    · rw [List.mem_singleton.1 h] at hobject
      simp at hobject
  · exact absurd (List.mem_append_right _ h) hassign

/-- The lines that set flags of a source are among those of the fragment. -/
theorem mem_lines_of_mem_overrideLines {p : BuildPlan} {s : TargetSource} (hs : s ∈ p.sources)
    {line : String} (h : line ∈ overrideLines s) (written : Timestamp) :
    line ∈ lines p written := by
  obtain ⟨x, hx, hsx⟩ := List.mem_flatMap.1 hs
  have hstanza : line ∈ stanza x ++ [""] :=
    List.mem_append_left _ (List.mem_cons_of_mem _ (List.mem_append_left _
      (List.mem_append_right _ (List.mem_flatMap.2 ⟨s, hsx, h⟩))))
  exact List.mem_append_left _ (List.mem_append_right _ (List.mem_flatMap.2 ⟨x, hx, hstanza⟩))

/-- **The lines that set flags of a source** are those that its flags call for, where objects have
no spaces and sources of one object have the same flags. -/
theorem overrideLine_mem_lines_iff {p : BuildPlan}
    (hspace : ∀ s ∈ p.sources, ' ' ∉ s.file.objectPath.toList)
    (hflags : ∀ s ∈ p.sources, ∀ s' ∈ p.sources,
      s.file.objectPath = s'.file.objectPath → s.flags = s'.flags)
    {s : TargetSource} (hs : s ∈ p.sources) {o : String × String} (ho : ' ' ∉ o.1.toList)
    (written : Timestamp) :
    overrideLine s.file.objectPath o ∈ lines p written ↔ o ∈ s.overrideTexts := by
  constructor
  · intro h
    have hobject : "$(OBJDIR)/".toList <+: (overrideLine s.file.objectPath o).toList := by
      simp [overrideLine, SourceFile.objectPath]
    rcases mem_rules_or_mem_overrideLines h hobject with h | ⟨s', hs', h⟩
    · exact absurd h (overrideLine_notMem_rules _ _)
    · rw [overrideLines_eq] at h
      obtain ⟨o', ho', hline⟩ := List.mem_map.1 h
      obtain ⟨hsame, rfl⟩ := overrideLine_inj (hspace s' hs') (hspace s hs)
        (space_notMem_of_mem_overrideTexts ho') ho hline
      -- the line may come from another source, but then from one of the same object
      rwa [TargetSource.overrideTexts, hflags s hs s' hs' hsame.symm]
  · intro h
    refine mem_lines_of_mem_overrideLines hs ?_ written
    rw [overrideLines_eq]
    exact List.mem_map_of_mem h

end Fragment

/-! ### Where sources come from -/

/-- The sources of a target come from its inventory, and their flags from their directives. -/
theorem mem_sources_targets {inv : Inventory} {kind : TargetKind} {runtime : String}
    {directivesOf : SourceFile → Logged DirectiveSet} {x : Target}
    (hx : x ∈ inv.targets kind runtime directivesOf) {s : TargetSource} (hs : s ∈ x.sources) :
    s.file ∈ inv.files ∧ s.flags = .ofDirectives (answer (directivesOf s.file)) := by
  obtain ⟨c, hc, rfl⟩ := List.mem_map.1 hx
  rw [Group.ofCluster, Target.sources_addFiles, Target.empty, List.nil_append] at hs
  obtain ⟨y, hy, rfl⟩ := List.mem_map.1 hs
  -- the clusters are made of the files with their directives
  have hmem : y ∈ declared directivesOf inv.files := by
    rw [← flatMap_clusters (declared directivesOf inv.files)]
    exact List.mem_flatMap.2 ⟨c, hc, hy⟩
  obtain ⟨f, hf, rfl⟩ := List.mem_map.1 hmem
  exact ⟨hf, rfl⟩

namespace Tree

variable {t : Tree} {project : Path} {config : Config} {followLinks : Bool} {p : BuildPlan}

/-- A source of a target **originates** from names that lead to it from a root of which a scan has
taken stock. -/
structure Originates (t : Tree) (project : Path) (followLinks : Bool) (root : String) (l : Location)
    (links : Nat) (names : SourceNames) (s : TargetSource) : Prop where
  checked : checkRoot root = .ok ()
  scanned : ∃ invs, (t.scan project root followLinks).result = .ok invs
  resolves : t.resolve (rootPath project root) = .ok (l, links)
  isDir : t.isDir l = true
  fileAt : t.FileAt followLinks links l names.names
  file_eq : s.file = (names.discovered (rootPath project root) (trimRoot root)).file
  flags_eq : s.flags = .ofDirectives (answer (t.directivesAt s.file.path))

/-- Each source originates in the root that its target is of. -/
theorem exists_originates_of_targetsOf {root : String} {kind : TargetKind} {ts : List Target}
    (h : (t.targetsOf project config root kind).result = .ok ts) {s : TargetSource}
    (hs : s ∈ ts.flatMap Target.sources) :
    ∃ l links names, t.Originates project config.followLinks root l links names s := by
  obtain ⟨invs, hscan, -, rfl⟩ := targetsOf_eq_ok_iff.1 h
  obtain ⟨x, hx, hsx⟩ := List.mem_flatMap.1 hs
  obtain ⟨inv, hinv, hxinv⟩ := List.mem_flatMap.1 hx
  obtain ⟨hfile, hflags⟩ := mem_sources_targets hxinv hsx
  obtain ⟨hroot, ⟨-, rfl⟩ | ⟨l, links, hr, hdir, -⟩⟩ := scan_eq_ok_iff.1 hscan
  · exact absurd hinv List.not_mem_nil
  · obtain ⟨names, hnames, -, hf⟩ := (stocked_iff_of_scan hscan hr hdir).1 ⟨inv, hinv, rfl, hfile⟩
    exact ⟨l, links, names, hroot, ⟨invs, hscan⟩, hr, hdir, hnames, hf.symm, hflags⟩

/-- **Every source of a plan** originates from a root. -/
theorem exists_originates_of_plan (h : (t.plan project config).result = .ok p) {s : TargetSource}
    (hs : s ∈ p.sources) :
    ∃ root l links names, t.Originates project config.followLinks root l links names s := by
  obtain ⟨-, -, harchives, ms, hms, hmodules⟩ := plan_eq_ok_iff.1 h
  have hlinked : p.modules.flatMap Target.sources = ms.flatMap Target.sources := by
    rw [hmodules, List.flatMap_map]
    exact List.flatMap_congr fun m _ => (m.link_frame _).2.2.1
  rw [BuildPlan.sources, BuildPlan.targets, List.flatMap_append, List.mem_append, hlinked] at hs
  rcases hs with hs | hs
  · exact ⟨_, exists_originates_of_targetsOf harchives hs⟩
  · exact ⟨_, exists_originates_of_targetsOf hms hs⟩

/-! ### What lies next to a source -/

/-- A **regular file** lies at a path: what the path names is a file and no link to one. -/
def HoldsFile (t : Tree) (path : Path) : Prop := ∃ k left content mode,
  t.follow false linkLimit [] path.walk = .ok ⟨.occupied k, left⟩ ∧
  t.get? k = some (.file content mode)

/-- A path that ends in no slash is followed step by step. -/
theorem follow_of_resolve {path : Path} {l : Location} {links : Nat} (hb : path.Bare)
    (h : t.resolve path = .ok (l, links)) :
    t.follow true linkLimit [] path.steps = .ok ⟨.occupied l, links⟩ := by
  rw [← Path.walk_of_bare hb]
  exact (resolve_eq_ok_iff.1 h).2

/-- One step down to a file is a name of the directory. -/
theorem get?_of_follow_down {links left : Nat} {l k : Location} {c content : Bytes} {mode : Nat}
    (h : t.follow false links l [.down c] = .ok ⟨.occupied k, left⟩)
    (hk : t.get? k = some (.file content mode)) :
    ∃ n : Name, n.bytes = c ∧ t.get? (l ++ [n]) = some (.file content mode) := by
  obtain ⟨-, -, n, e, hn, rfl, -⟩ := follow_down_eq_ok_iff.1 h
  exact ⟨n, Name.bytes_of_ofBytes? hn, hk⟩

namespace Originates

variable {root : String} {l : Location} {links : Nat} {names : SourceNames} {s : TargetSource}

/-- The path of a source is its stem and its extension. -/
theorem relPath_eq (h : t.Originates project followLinks root l links names s) :
    s.file.relPath = names.stemText root ++ "." ++ s.file.ext := by
  rw [h.file_eq, names.relPath_discovered]
  rfl

/-- **The directory of a source** is where the text in front of its last name leads from the top. -/
theorem follow_dirs (h : t.Originates project followLinks root l links names s)
    (htext : t.NamesAreText) :
    ∃ q left, t.Leads links l names.dirs q left ∧ t.isDir q = true ∧
      (followLinks = false → q = l ++ names.dirs) ∧ t.FileAt followLinks left q [names.last] ∧
      (∀ n ∈ names.dirs, n.IsText) ∧
      t.follow true linkLimit [] (project.join ⟨Utf8.encode (names.front root)⟩).steps =
        .ok ⟨.occupied q, left⟩ := by
  obtain ⟨q, left, hd, hq, hdown, hfile⟩ := exists_of_fileAt h.fileAt
  have hdirs : ∀ n ∈ names.dirs, n.IsText :=
    isText_of_leads htext.waysAreText hd hq
  refine ⟨q, left, hd, hq, hdown, hfile, hdirs, ?_⟩
  rw [SourceNames.front, join_spelled h.checked hdirs, steps_pathFrom (bare_rootPath h.checked),
    follow_append (Or.inl rfl), follow_of_resolve (bare_rootPath h.checked) h.resolves]
  exact hd

/-- **A source has its directory to itself**, as far as files of its name go. -/
theorem last_eq (h : t.Originates project followLinks root l links names s) {q : Location}
    {left : Nat} (hd : t.Leads links l names.dirs q left)
    (hdown : followLinks = false → q = l ++ names.dirs) (names' : SourceNames)
    (hstem : names.stem = names'.stem) (hfile : t.FileAt followLinks left q [names'.last]) :
    names.last = names'.last ∧ names.ext = names'.ext := by
  obtain ⟨invs, hscan⟩ := h.scanned
  -- the other file, as the scan would find it next to this one: with the same stem the two would
  -- clash
  let beside : SourceNames := { names' with dirs := names.dirs }
  have hlast : names.last = names'.last := by
    by_contra hne
    refine not_clash_of_scan hscan h.resolves h.isDir names beside ⟨fun he => hne ?_, h.fileAt, ?_,
      rfl, hstem⟩
    · simpa [SourceNames.names, beside] using he
    · exact hfile.append hd hdown
  refine ⟨hlast, ?_⟩
  -- the last name is the stem and the extension
  have hdisplay : names.last.display = names'.last.display := by rw [hlast]
  rw [names.display_last, names'.display_last, hstem] at hdisplay
  simpa using hdisplay

/-- **Next to a source** there is no file that differs from it in the extension alone. -/
theorem ext_eq_of_holdsFile (h : t.Originates project followLinks root l links names s)
    (htext : t.NamesAreText) {ext : String} (hext : ext ∈ sourceExtensions)
    (hholds : t.HoldsFile (project.join (.ofString (names.stemText root ++ "." ++ ext)))) :
    names.ext = ext := by
  obtain ⟨q, left, hd, hq, hdown, -, hdirs, hfront⟩ := h.follow_dirs htext
  obtain ⟨k, left', content, mode, hfollow, hk⟩ := hholds
  -- the path leads to the directory of the source, and on by one name
  have hsteps : (project.join (.ofString (names.stemText root ++ "." ++ ext))).walk =
      (project.join ⟨Utf8.encode (names.front root)⟩).steps ++
        [.down (Utf8.encode (names.stem ++ "." ++ ext).toList)] := by
    have htoList : (names.stemText root ++ "." ++ ext).toList =
        (trimRoot root).toList ++
          (spelled names.dirs ++ '/' :: (names.stem ++ "." ++ ext).toList) := by
      simp [SourceNames.stemText, SourceNames.front]
    have hbytes : (project.join (.ofString (names.stemText root ++ "." ++ ext))).bytes =
        (project.join ⟨Utf8.encode (names.front root)⟩).bytes ++
          Path.slash :: Utf8.encode (names.stem ++ "." ++ ext).toList := by
      rw [Path.ofString, htoList, bytes_join_root project h.checked, SourceNames.front,
        bytes_join_root project h.checked, Utf8.encode_append, List.append_assoc]
      rfl
    rw [← walk_append_slash _ (names.slash_notMem_encode hext)
      (exists_ne_dot_of_mem_sourceExtensions _ hext)]
    exact congrArg Path.walk (Path.eq_of_bytes_eq hbytes)
  rw [hsteps, follow_append (Or.inr (List.cons_ne_nil _ _)), hfront] at hfollow
  obtain ⟨n, hn, hget⟩ := get?_of_follow_down hfollow hk
  have hfile : t.FileAt followLinks left q [n] :=
    ⟨q ++ [n], left, content, mode, leads_singleton_iff.2 ⟨hq, Or.inl ⟨_, hget, by simp, rfl, rfl⟩⟩,
      hget, fun _ => rfl⟩
  exact (h.last_eq hd hdown ⟨names.dirs, n, names.stem, ext, hn, names.stem_ne, hext⟩ rfl hfile).2

/-- The path of a source is the project joined with the text by which it is called. -/
theorem path_eq (h : t.Originates project followLinks root l links names s)
    (htext : t.NamesAreText) :
    s.file.path = project.join (.ofString s.file.relPath) := by
  obtain ⟨q, left, hd, hq, hdown, hfile, hdirs, hfront⟩ := h.follow_dirs htext
  have hall : ∀ n ∈ names.names, n.IsText :=
    List.forall_mem_append.2 ⟨hdirs, List.forall_mem_singleton.2 names.isText_last⟩
  rw [h.file_eq, Path.ofString, SourceNames.discovered,
    toList_relPath _ (by simp [SourceNames.names]), join_spelled h.checked hall]

/-- **Sources of one object are the same**, whichever roots they originate from. -/
theorem eq_of_stemText_eq (h : t.Originates project followLinks root l links names s)
    (htext : t.NamesAreText) {root' : String} {l' : Location} {links' : Nat} {names' : SourceNames}
    {s' : TargetSource} (h' : t.Originates project followLinks root' l' links' names' s')
    (he : names.stemText root = names'.stemText root') :
    s.file.relPath = s'.file.relPath ∧ s.flags = s'.flags := by
  obtain ⟨hfront, hstem⟩ := names.front_eq_of_stemText_eq he
  obtain ⟨q, left, hd, hq, hdown, -, -, hfollow⟩ := h.follow_dirs htext
  obtain ⟨q', left', -, -, -, hfile', -, hfollow'⟩ := h'.follow_dirs htext
  rw [← hfront, hfollow] at hfollow'
  obtain ⟨rfl, rfl⟩ : q = q' ∧ left = left' := by simpa using hfollow'
  have hext : s.file.ext = s'.file.ext := by
    rw [h.file_eq, h'.file_eq]
    exact (h.last_eq hd hdown names' hstem hfile').2
  have hrel : s.file.relPath = s'.file.relPath := by
    rw [h.relPath_eq, h'.relPath_eq, he, hext]
  refine ⟨hrel, ?_⟩
  rw [h.flags_eq, h'.flags_eq, h.path_eq htext, h'.path_eq htext, hrel]

end Originates

/-- **Every object has one source and one compile rule.** Its flags are set in the fragment as the
source declares them: where no path of a source has a space, the lines that set a variable for an
object are those of its source, so that no two of them give it different texts. -/
theorem plan_objects (htext : t.NamesAreText) (h : (t.plan project config).result = .ok p) :
    (∀ s ∈ p.sources, ∃ stem, s.file.relPath = stem ++ "." ++ s.file.ext ∧
      s.file.objectPath = "$(OBJDIR)/" ++ stem ++ ".o" ∧
      (∃ r, Fragment.compileRules.filter (fun r => r.ext = s.file.ext) = [r] ∧
        r.compiler = s.file.linker.makeVariable) ∧
      ∀ ext ∈ sourceExtensions, ext ≠ s.file.ext →
        ¬ t.HoldsFile (project.join (.ofString (stem ++ "." ++ ext)))) ∧
    (∀ s ∈ p.sources, ∀ s' ∈ p.sources, s.file.objectPath = s'.file.objectPath →
      s.file.relPath = s'.file.relPath ∧ s.flags = s'.flags ∧
      Fragment.overrideLines s = Fragment.overrideLines s' ∧
      ∀ a ∈ s.flags.overrides, ∀ b ∈ s'.flags.overrides, a.1 = b.1 → a.2 = b.2) ∧
    ((∀ s ∈ p.sources, ' ' ∉ s.file.relPath.toList) → ∀ written, ∀ s ∈ p.sources, ∀ var text,
      ' ' ∉ var.toList →
        (Fragment.overrideLine s.file.objectPath (var, text) ∈ Fragment.lines p written ↔
          (var, text) ∈ s.overrideTexts) ∧
        ∀ text', Fragment.overrideLine s.file.objectPath (var, text) ∈ Fragment.lines p written →
          Fragment.overrideLine s.file.objectPath (var, text') ∈ Fragment.lines p written →
          text = text') := by
  -- one object means one stem, and one stem means one file
  have hsame : ∀ s ∈ p.sources, ∀ s' ∈ p.sources, s.file.objectPath = s'.file.objectPath →
      s.file.relPath = s'.file.relPath ∧ s.flags = s'.flags := by
    intro s hs s' hs' he
    obtain ⟨root, l, links, names, ho⟩ := exists_originates_of_plan h hs
    obtain ⟨root', l', links', names', ho'⟩ := exists_originates_of_plan h hs'
    refine ho.eq_of_stemText_eq htext ho' ?_
    rw [SourceFile.objectPath_eq ho.relPath_eq, SourceFile.objectPath_eq ho'.relPath_eq] at he
    simpa using he
  refine ⟨?_, ?_, ?_⟩
  · intro s hs
    obtain ⟨root, l, links, names, ho⟩ := exists_originates_of_plan h hs
    have hext : s.file.ext = names.ext := by
      rw [ho.file_eq]
      rfl
    refine ⟨names.stemText root, ho.relPath_eq, SourceFile.objectPath_eq ho.relPath_eq,
      filter_compileRules (hext ▸ names.ext_mem), fun ext hmem hne hholds => hne ?_⟩
    rw [hext]
    exact (ho.ext_eq_of_holdsFile htext hmem hholds).symm
  · intro s hs s' hs' he
    obtain ⟨hrel, hflags⟩ := hsame s hs s' hs' he
    refine ⟨hrel, hflags, by rw [Fragment.overrideLines, Fragment.overrideLines, he, hflags], ?_⟩
    rw [hflags]
    exact fun a ha b hb hab =>
      congrArg Prod.snd (List.inj_on_of_nodup_map s'.flags.nodup_overrides ha hb hab)
  · intro hspace written s hs var text hvar
    have hobject : ∀ s ∈ p.sources, ' ' ∉ s.file.objectPath.toList := by
      intro s hs
      obtain ⟨root, l, links, names, ho⟩ := exists_originates_of_plan h hs
      have hstem := hspace s hs
      rw [ho.relPath_eq] at hstem
      rw [SourceFile.objectPath_eq ho.relPath_eq]
      simp only [String.toList_append, List.mem_append, not_or] at hstem ⊢
      exact ⟨⟨by decide, hstem.1.1⟩, by decide⟩
    have hlines : ∀ text,
        Fragment.overrideLine s.file.objectPath (var, text) ∈ Fragment.lines p written ↔
          (var, text) ∈ s.overrideTexts := fun text =>
      Fragment.overrideLine_mem_lines_iff hobject (fun s hs s' hs' he => (hsame s hs s' hs' he).2)
        hs hvar written
    refine ⟨hlines text, fun text' hline hline' => ?_⟩
    have hnodup := s.nodup_overrideTexts
    exact congrArg Prod.snd
      (List.inj_on_of_nodup_map hnodup ((hlines text).1 hline) ((hlines text').1 hline') rfl)

end Tree

/-- The small project. -/
theorem smallProject_objects :
    SmallProject.tree.NamesAreText ∧
      (SmallProject.tree.plan (.ofString ".") .default).result = .ok SmallProject.plan ∧
      (∀ s ∈ SmallProject.plan.sources, ∃ stem, s.file.relPath = stem ++ "." ++ s.file.ext ∧
        s.file.objectPath = "$(OBJDIR)/" ++ stem ++ ".o" ∧
        (∃ r, Fragment.compileRules.filter (fun r => r.ext = s.file.ext) = [r] ∧
          r.compiler = s.file.linker.makeVariable) ∧
        ∀ ext ∈ sourceExtensions, ext ≠ s.file.ext →
          ¬ SmallProject.tree.HoldsFile
            ((Path.ofString ".").join (.ofString (stem ++ "." ++ ext)))) ∧
      (∀ s ∈ SmallProject.plan.sources, ∀ s' ∈ SmallProject.plan.sources,
        s.file.objectPath = s'.file.objectPath →
        s.file.relPath = s'.file.relPath ∧ s.flags = s'.flags ∧
        Fragment.overrideLines s = Fragment.overrideLines s' ∧
        ∀ a ∈ s.flags.overrides, ∀ b ∈ s'.flags.overrides, a.1 = b.1 → a.2 = b.2) ∧
      ∀ written, ∀ s ∈ SmallProject.plan.sources, ∀ var text, ' ' ∉ var.toList →
        (Fragment.overrideLine s.file.objectPath (var, text) ∈
            Fragment.lines SmallProject.plan written ↔ (var, text) ∈ s.overrideTexts) ∧
        ∀ text',
          Fragment.overrideLine s.file.objectPath (var, text) ∈
            Fragment.lines SmallProject.plan written →
          Fragment.overrideLine s.file.objectPath (var, text') ∈
            Fragment.lines SmallProject.plan written → text = text' := by
  have htext : SmallProject.tree.NamesAreText := Tree.namesAreText_of_entries (by decide_cbv)
  obtain ⟨hobject, hsame, hlines⟩ := Tree.plan_objects htext SmallProject.plan_eq
  exact ⟨htext, SmallProject.plan_eq, hobject, hsame, hlines (by decide_cbv)⟩

end NativeBuild
