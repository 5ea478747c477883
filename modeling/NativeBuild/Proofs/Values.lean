import NativeBuild.Proofs.Dependencies
import NativeBuild.Proofs.Objects
import NativeBuild.Proofs.Window

/-!
# What the values of a plan are made of

The texts that a fragment is rendered from come from three places: names of files and directories,
tokens of directives, and the configuration. Only the tokens are cut at blanks, so only of them it
is certain that they are words. Everything else is a word as far as the names and the runtime are.

* `exists_words_of_mem_directivesAt`: the values of directives are put together from words;
* `exists_source_of_mem_targets`: the name of a target is part of the path of its first source;
* `FlagOrigin`, `flagOrigin_of_mem_ldflags`: a link flag is a token, the runtime, or the output of
  an archive.

`BuildPlan.Avoids` says that the paths of the sources and, where it is needed, the runtime do
without some characters. Then so does whatever else a plan consists of, if the characters are blank
(`BuildPlan.Avoids.name`, `BuildPlan.Avoids.ldflags`, `BuildPlan.Avoids.prerequisites`).
-/

namespace NativeBuild

namespace Text

/-! ### Words -/

/-- A text **lacks** some characters. -/
def Lacks (bad : Char → Bool) (s : String) : Prop := ∀ c ∈ s.toList, bad c = false

/-- A **word**: a text without blanks. -/
def IsWord (s : String) : Prop := s ≠ "" ∧ Lacks isBlank s

instance (bad : Char → Bool) (s : String) : Decidable (Lacks bad s) :=
  List.decidableBAll _ _

instance (s : String) : Decidable (IsWord s) := inferInstanceAs (Decidable (_ ∧ _))

variable {bad : Char → Bool}

/-- A text lacks what both its parts lack. -/
@[simp] theorem lacks_append {s t : String} : Lacks bad (s ++ t) ↔ Lacks bad s ∧ Lacks bad t := by
  rw [Lacks, String.toList_append, List.forall_mem_append]
  rfl

/-- Without blanks there is nothing that is blank. -/
theorem Lacks.of_blank (hbad : ∀ c, bad c = true → isBlank c = true) {s : String}
    (h : Lacks isBlank s) :
    Lacks bad s := by
  intro c hc
  by_contra hne
  have hblank := hbad c (by simpa using hne)
  rw [h c hc] at hblank
  exact Bool.noConfusion hblank

/-- What is cut at separators has none left. -/
theorem ne_nil_of_mem_runs {α : Type} {sep : α → Bool} {l w : List α} (h : w ∈ runs sep l) :
    w ≠ [] ∧ ∀ a ∈ w, sep a = false := by
  -- on the list, whose elements go to the runs from the back
  induction l generalizing w with
  | nil => exact absurd h List.not_mem_nil
  | cons a r ih =>
    by_cases ha : sep a = true
    · rw [runs_cons_sep ha] at h
      exact ih h
    · have ha : sep a = false := Bool.eq_false_iff.2 ha
      have hsingle : [a] ≠ [] ∧ ∀ b ∈ [a], sep b = false := by simp [ha]
      rw [runs.eq_def] at h
      dsimp only at h
      rw [if_neg (Bool.eq_false_iff.1 ha)] at h
      -- what follows decides whether `a` is a run of its own, or begins the next one
      split at h
      · rwa [List.mem_singleton.1 h]
      · split at h
        · rcases List.mem_cons.1 h with rfl | h
          · exact hsingle
          · exact ih h
        · split at h
          · rwa [List.mem_singleton.1 h]
          · rename_i v vs hruns
            rcases List.mem_cons.1 h with rfl | h
            · have hv := (ih (hruns ▸ List.mem_cons_self)).2
              exact ⟨List.cons_ne_nil _ _, List.forall_mem_cons.2 ⟨ha, hv⟩⟩
            · exact ih (hruns ▸ List.mem_cons_of_mem _ h)

/-- What a text is cut into is words. -/
theorem isWord_of_mem_words {cs w : List Char} (h : w ∈ words cs) : IsWord (String.ofList w) := by
  obtain ⟨hne, hall⟩ := ne_nil_of_mem_runs h
  refine ⟨fun he => hne ?_, ?_⟩
  · simpa using congrArg String.toList he
  · rwa [Lacks, String.toList_ofList]

/-- Words are put together with spaces. -/
theorem mem_unwords {ws : List (List Char)} {c : Char} (h : c ∈ unwords ws) :
    c = ' ' ∨ ∃ w ∈ ws, c ∈ w := by
  -- on the words, with a space between two of them
  induction ws with
  | nil => exact absurd h List.not_mem_nil
  | cons w ws ih =>
    cases ws with
    | nil => exact Or.inr ⟨w, List.mem_cons_self, h⟩
    | cons v ws =>
      rw [unwords, List.mem_append, List.mem_cons] at h
      rcases h with h | rfl | h
      · exact Or.inr ⟨w, List.mem_cons_self, h⟩
      · exact Or.inl rfl
      · obtain hspace | ⟨u, hu, hc⟩ := ih h
        · exact Or.inl hspace
        · exact Or.inr ⟨u, List.mem_cons_of_mem _ hu, hc⟩

end Text

open Text

/-! ### Stems -/

/-- No variable has a blank in it. -/
theorem isBlank_of_isVariableChar {c : Char} (h : IsVariableChar c) : isBlank c = false := by
  rw [Bool.eq_false_iff]
  intro hblank
  simp only [isBlank, Bool.or_eq_true, Bool.and_eq_true, decide_eq_true_eq, beq_iff_eq] at hblank
  rcases h with h | h | h | rfl
  · change 65 ≤ c.toNat ∧ c.toNat ≤ 90 at h
    omega
  · change 97 ≤ c.toNat ∧ c.toNat ≤ 122 at h
    omega
  · change 48 ≤ c.toNat ∧ c.toNat ≤ 57 at h
    omega
  · exact absurd hblank (by decide)

/-- **Stems have no blanks**, whatever the name of the target. -/
theorem Target.lacks_stem (x : Target) : Lacks isBlank x.stem :=
  fun c hc => isBlank_of_isVariableChar (x.isVariableChar_of_mem_stem c hc)

/-! ### Directives -/

/-- The values of a directive come from the words of its line. -/
theorem exists_words_of_ofLine? {line : List Char} {d : Directive}
    (h : Directive.ofLine? line = some d) :
    ∃ cs, d = .ofWords d.kind (words cs) := by
  rw [Directive.ofLine?] at h
  split at h
  · simp at h
  · rename_i word rest _
    obtain ⟨k, -, rfl⟩ := Option.map_eq_some_iff.1 h
    exact ⟨_, by rw [Directive.kind_ofWords, valueWords]⟩

/-- And so they do in what is read. -/
theorem exists_words_of_read {path : Path} {text : List Char} {ds : DirectiveSet}
    (h : DirectiveSet.read path text = .ok ds) {d : Directive} (hd : d ∈ ds.entries) :
    ∃ cs, d = .ofWords d.kind (words cs) := by
  rw [DirectiveSet.read, DirectiveSet.ofText] at h
  rcases DirectiveSet.addAll_spec .empty (declarations text) with ⟨ds', hds, hmem⟩ | ⟨n, e, herr, -⟩
  · rw [hds] at h
    obtain rfl := Except.ok.inj h
    obtain hnone | ⟨n, hn⟩ := hmem d hd
    · exact absurd hnone List.not_mem_nil
    · obtain ⟨⟨m, line⟩, -, hline⟩ := List.mem_filterMap.1 hn
      obtain ⟨d', hd', heq⟩ := Option.map_eq_some_iff.1 hline
      obtain ⟨-, rfl⟩ := Prod.mk.inj heq
      exact exists_words_of_ofLine? hd'
  · rw [herr] at h
    exact absurd h (by simp)

/-- **The directives of a file are put together from words**, whatever is in the file. -/
theorem exists_words_of_mem_directivesAt (t : Tree) (path : Path) {d : Directive}
    (hd : d ∈ (answer (t.directivesAt path)).entries) : ∃ cs, d = .ofWords d.kind (words cs) := by
  unfold Tree.directivesAt at hd
  cases hread : t.readBytes path with
  | error fault =>
    -- a file that cannot be read has none
    rw [hread] at hd
    exact absurd hd List.not_mem_nil
  | ok bytes =>
    rw [hread] at hd
    dsimp only at hd
    rw [answer, Traced.result_ofExcept] at hd
    -- nor does one that is refused
    cases hds : DirectiveSet.read path (Utf8.decodeLossy bytes) with
    | error e =>
      rw [hds] at hd
      exact absurd hd List.not_mem_nil
    | ok ds =>
      rw [hds] at hd
      exact exists_words_of_read hds hd

/-- The values of a kind are those of its directive. -/
theorem exists_directive_of_mem_values {ds : DirectiveSet} {k : DirectiveKind} {v : String}
    (h : v ∈ ds.values k) : ∃ d ∈ ds.entries, d.kind = k ∧ v ∈ d.values := by
  unfold DirectiveSet.values at h
  cases hget : ds.get? k with
  | none => simp [hget] at h
  | some d =>
    rw [hget] at h
    exact ⟨d, List.mem_of_find?_eq_some hget, by simpa using List.find?_some hget, h⟩

/-- A token of a directive is a word. -/
theorem isWord_of_mem_values {t : Tree} {path : Path} {k : DirectiveKind}
    (hk : k.isTokenized = true) {v : String}
    (h : v ∈ (answer (t.directivesAt path)).values k) : IsWord v := by
  obtain ⟨d, hd, rfl, hv⟩ := exists_directive_of_mem_values h
  obtain ⟨cs, hcs⟩ := exists_words_of_mem_directivesAt t path hd
  -- flags and references are kept word by word
  have htokens : ∃ w ∈ words cs, String.ofList w = v := by
    rw [hcs] at hv
    cases hkind : d.kind with
    | ldflags =>
      rw [hkind] at hv
      exact List.mem_map.1 hv
    | reflibs =>
      rw [hkind] at hv
      exact List.mem_map.1 hv
    | _ => simp [hkind, DirectiveKind.isTokenized] at hk
  obtain ⟨w, hw, rfl⟩ := htokens
  exact isWord_of_mem_words hw

/-- A compile flag has no blanks but the spaces between its words. -/
theorem eq_space_of_mem_values {t : Tree} {path : Path} {k : DirectiveKind} {v : String}
    (h : v ∈ (answer (t.directivesAt path)).values k) {c : Char} (hc : c ∈ v.toList) :
    c = ' ' ∨ isBlank c = false := by
  obtain ⟨d, hd, rfl, hv⟩ := exists_directive_of_mem_values h
  by_cases hk : d.kind.isTokenized = true
  · exact Or.inr ((isWord_of_mem_values hk h).2 c hc)
  · obtain ⟨cs, hcs⟩ := exists_words_of_mem_directivesAt t path hd
    -- other values are one text, with single spaces
    have hjoined : v = String.ofList (unwords (words cs)) := by
      rw [hcs] at hv
      cases hkind : d.kind with
      | ldflags => simp [hkind, DirectiveKind.isTokenized] at hk
      | reflibs => simp [hkind, DirectiveKind.isTokenized] at hk
      | _ =>
        rw [hkind, Directive.ofWords, Directive.values] at hv
        split at hv
        · exact absurd hv List.not_mem_nil
        · exact List.mem_singleton.1 hv
    rw [hjoined, String.toList_ofList] at hc
    rcases mem_unwords hc with hspace | ⟨w, hw, hcw⟩
    · exact Or.inl hspace
    · exact Or.inr ((ne_nil_of_mem_runs hw).2 c hcw)

/-- The variables of an object are set to the values of the compile kinds. -/
theorem FileFlags.exists_kind_of_mem_overrides {ds : DirectiveSet} {y : String × List String}
    (hy : y ∈ (ofDirectives ds).overrides) :
    ∃ k : DirectiveKind, k.isTokenized = false ∧ y.2 = ds.values k := by
  simp only [overrides, ofDirectives, List.mem_cons, List.not_mem_nil, or_false] at hy
  rcases hy with rfl | rfl | rfl
  all_goals exact ⟨_, rfl, rfl⟩

section Plan

variable {t : Tree} {project : Path} {config : Config} {p : BuildPlan} {x : Target}

/-! ### Names -/

/-- **A target is called like one of its sources.** -/
theorem exists_source_of_mem_targetsOf {root : String} {kind : TargetKind} {ts : List Target}
    (h : (t.targetsOf project config root kind).result = .ok ts) (hx : x ∈ ts) :
    x.name ≠ "" ∧ ∃ s ∈ x.sources, ∃ front : String,
      s.file.relPath = front ++ "/" ++ x.name ++ "." ++ s.file.ext := by
  obtain ⟨invs, hscan, -, rfl⟩ := Tree.targetsOf_eq_ok_iff.1 h
  obtain ⟨inv, hinv, hxinv⟩ := List.mem_flatMap.1 hx
  obtain ⟨c, hc, rfl⟩ := List.mem_map.1 hxinv
  -- the target is named after the first file of a cluster
  have hname : (Group.ofCluster ⟨inv.dir, kind, config.runtime⟩ c).target.name =
      qualifiedName inv.dir c.1.1.name := by
    rw [Group.ofCluster, Target.name_addFiles]
    rfl
  have hsource : ⟨c.1.1, .ofDirectives c.1.2⟩ ∈
      (Group.ofCluster ⟨inv.dir, kind, config.runtime⟩ c).target.sources := by
    rw [Group.ofCluster, Target.sources_addFiles]
    exact List.mem_append_right _ List.mem_cons_self
  have hfile : c.1.1 ∈ inv.files := (mem_sources_targets hxinv hsource).1
  obtain ⟨hroot, ⟨-, rfl⟩ | ⟨l, links, hr, hdir, -⟩⟩ := Tree.scan_eq_ok_iff.1 hscan
  · exact absurd hinv List.not_mem_nil
  · obtain ⟨names, -, hdirs, hf⟩ :=
      (Tree.stocked_iff_of_scan hscan hr hdir).1 ⟨inv, hinv, rfl, hfile⟩
    have hstem : names.stem = c.1.1.name := congrArg SourceFile.name hf
    rw [hname]
    refine ⟨fun he => names.stem_ne ?_, _, hsource, trimRoot root, ?_⟩
    · rw [qualifiedName] at he
      split at he
      · rw [hstem, he]
      · simp at he
    · -- the directories and the stem are what the target is called by
      have hspelled : spelled names.dirs ++ '/' :: names.stem.toList =
          '/' :: (qualifiedName inv.dir c.1.1.name).toList := by
        rw [← hdirs, ← hstem]
        by_cases hd : names.dirs = []
        · simp [hd, qualifiedName, slashPath, spelled]
        · rw [toList_qualifiedName (fun he => hd (slashPath_eq_empty_iff.1 he)),
            ← slash_cons_slashPath hd]
          rfl
      have htext :
          names.stemText root = trimRoot root ++ "/" ++ qualifiedName inv.dir c.1.1.name := by
        refine String.toList_inj.1 ?_
        rw [SourceNames.stemText, SourceNames.front, String.toList_ofList, List.append_assoc,
          hspelled]
        simp
      have hrel : c.1.1.relPath = names.stemText root ++ "." ++ c.1.1.ext := by
        rw [← hf, names.relPath_discovered]
        rfl
      exact hrel.trans (by rw [htext])

/-- **The name of a target** is what the path of its first source is between the root and the
extension. -/
theorem exists_source_of_mem_targets (h : (t.plan project config).result = .ok p)
    (hx : x ∈ p.targets) :
    x.name ≠ "" ∧ ∃ s ∈ x.sources, ∃ front : String,
      s.file.relPath = front ++ "/" ++ x.name ++ "." ++ s.file.ext := by
  obtain ⟨-, -, harchives, ms, hms, hmodules⟩ := Tree.plan_eq_ok_iff.1 h
  rcases List.mem_append.1 hx with hx | hx
  · exact exists_source_of_mem_targetsOf harchives hx
  · obtain ⟨y, hy, rfl⟩ := List.mem_map.1 (hmodules ▸ hx)
    rw [Target.name_link, (y.link_frame _).2.2.1]
    exact exists_source_of_mem_targetsOf hms hy

/-! ### Flags -/

/-- Where a **link flag** comes from. -/
inductive FlagOrigin (p : BuildPlan) (runtime : String) : String → Prop where
  | token {v : String} (h : IsWord v) : FlagOrigin p runtime v
  | runtime {s : TargetSource} (hs : s ∈ p.sources) (h : s.file.IsExtended) (hne : runtime ≠ "") :
      FlagOrigin p runtime runtime
  | archive {a : Target} (ha : a ∈ p.archives) : FlagOrigin p runtime a.outputPath

/-- The archives that a target takes over, and what it has from them. -/
theorem flags_of_mem_targets (h : (t.plan project config).result = .ok p) (hx : x ∈ p.targets) :
    ∃ as, (∀ a ∈ as, a ∈ p.archives) ∧ (x ∈ p.archives → as = []) ∧
      x.prerequisites = as.map Target.outputPath ∧
      x.ldflags = (t.ownFlags config.runtime x ++ as.flatMap fun a => a.outputPath ::
        a.ldflags).eraseDups := by
  obtain ⟨-, -, harchives, ms, hms, hmodules⟩ := Tree.plan_eq_ok_iff.1 h
  rcases List.mem_append.1 hx with hx | hx
  · obtain ⟨-, -, -, hflags, hpre⟩ := unlinked_of_targetsOf harchives hx
    exact ⟨[], by simp, fun _ => rfl, hpre, by simpa using hflags⟩
  · obtain ⟨y, hy, rfl⟩ := List.mem_map.1 (hmodules ▸ hx)
    obtain ⟨-, hmem, -, hpre, hflags⟩ := link_of_targetsOf h hms hy rfl
    have hown : t.ownFlags config.runtime (y.link (.ofTargets p.archives)) =
        t.ownFlags config.runtime y := by
      rw [Tree.ownFlags, Target.files_link, Tree.ownFlags]
    refine ⟨_, hmem, fun ha => ?_, hpre, hown ▸ hflags⟩
    -- an archive is no module
    have hkind := kind_of_mem_plan h .archive ha
    rw [kind_of_mem_plan h .module hx] at hkind
    exact TargetKind.noConfusion hkind

/-- The flags of its own that a target has are words, or the runtime. -/
theorem flagOrigin_of_mem_ownFlags (hx : x ∈ p.targets) {v : String}
    (hv : v ∈ t.ownFlags config.runtime x) : FlagOrigin p config.runtime v := by
  obtain ⟨y, hy, hv⟩ := List.mem_flatMap.1 hv
  obtain ⟨f, hf, rfl⟩ := List.mem_map.1 hy
  obtain ⟨s, hs, rfl⟩ := List.mem_map.1 hf
  rcases List.mem_append.1 hv with htoken | hruntime
  · exact .token (isWord_of_mem_values rfl htoken)
  · split at hruntime
    · rename_i hneeded
      rw [List.mem_singleton.1 hruntime]
      exact .runtime (List.mem_flatMap.2 ⟨x, hx, hs⟩)
        (SourceFile.linker_eq_extended_iff.1 hneeded.1) hneeded.2
    · exact absurd hruntime List.not_mem_nil

/-- **The link flags of a plan** are tokens, the runtime, and outputs of archives. -/
theorem flagOrigin_of_mem_ldflags (h : (t.plan project config).result = .ok p) (hx : x ∈ p.targets)
    {v : String} (hv : v ∈ x.ldflags) : FlagOrigin p config.runtime v := by
  -- archives have only their own, and modules take over what archives have
  have harchive : ∀ a ∈ p.archives, ∀ v ∈ a.ldflags, FlagOrigin p config.runtime v := by
    intro a ha v hv
    have hat : a ∈ p.targets := List.mem_append_left _ ha
    obtain ⟨as, -, hnil, -, hflags⟩ := flags_of_mem_targets h hat
    rw [hflags, hnil ha, List.mem_eraseDups, List.flatMap_nil, List.append_nil] at hv
    exact flagOrigin_of_mem_ownFlags hat hv
  obtain ⟨as, hmem, -, -, hflags⟩ := flags_of_mem_targets h hx
  rw [hflags, List.mem_eraseDups, List.mem_append] at hv
  rcases hv with hv | hv
  · exact flagOrigin_of_mem_ownFlags hx hv
  · obtain ⟨a, ha, hv⟩ := List.mem_flatMap.1 hv
    rcases List.mem_cons.1 hv with rfl | hv
    · exact .archive (hmem a ha)
    · exact harchive a (hmem a ha) v hv

/-- What a source brings is among the flags of its target. -/
theorem mem_ldflags_of_mem_broughtFlags (h : (t.plan project config).result = .ok p)
    (hx : x ∈ p.targets) {s : TargetSource} (hs : s ∈ x.sources) {v : String}
    (hv : v ∈ Target.broughtFlags config.runtime (s.file, answer (t.directivesOf s.file))) :
    v ∈ x.ldflags := by
  obtain ⟨as, -, -, -, hflags⟩ := flags_of_mem_targets h hx
  rw [hflags, List.mem_eraseDups]
  have hfile : s.file ∈ x.files := List.mem_map_of_mem hs
  exact List.mem_append_left _ (List.mem_flatMap.2 ⟨_, List.mem_map_of_mem hfile, hv⟩)

/-- The runtime is among the flags wherever a source needs it. -/
theorem runtime_mem_ldflags (h : (t.plan project config).result = .ok p) (hx : x ∈ p.targets)
    {s : TargetSource} (hs : s ∈ x.sources) (hext : s.file.IsExtended) (hne : config.runtime ≠ "") :
    config.runtime ∈ x.ldflags := by
  refine mem_ldflags_of_mem_broughtFlags h hx hs ?_
  rw [Target.broughtFlags, if_pos ⟨SourceFile.linker_eq_extended_iff.2 hext, hne⟩]
  exact List.mem_append_right _ (List.mem_singleton.2 rfl)

end Plan

/-! ### Objects and outputs -/

/-- The stem of a path is a part of it. -/
theorem SourceFile.mem_of_mem_stemPath {f : SourceFile} {c : Char} (h : c ∈ f.stemPath) :
    c ∈ f.relPath.toList := by
  unfold stemPath at h
  split at h
  · rename_i front hfront
    -- what is cut off is the extension and the dot in front of it
    cases hdot : ['.'].isSuffixOf? front with
    | none =>
      rw [hdot] at h
      exact h
    | some stem =>
      rw [hdot, Option.getD_some] at h
      rw [← List.isSuffixOf?_eq_some_iff_append_eq.1 hfront,
        ← List.isSuffixOf?_eq_some_iff_append_eq.1 hdot]
      exact List.mem_append_left _ (List.mem_append_left _ h)
  · exact h

section Blank

variable {bad : Char → Bool} (hbad : ∀ c, bad c = true → isBlank c = true)

include hbad

/-- What is put around the path of a source has no blanks. -/
theorem SourceFile.lacks_objectPath {f : SourceFile} (h : Lacks bad f.relPath) :
    Lacks bad f.objectPath := by
  rw [objectPath]
  simp only [lacks_append]
  refine ⟨⟨.of_blank hbad (by decide), fun c hc => ?_⟩, .of_blank hbad (by decide)⟩
  rw [String.toList_ofList] at hc
  exact h c (mem_of_mem_stemPath hc)

/-- What is put around the name of a target has no blanks. -/
theorem Target.lacks_outputPath {x : Target} (h : Lacks bad x.name) : Lacks bad x.outputPath := by
  unfold outputPath
  split
  all_goals
    simp only [lacks_append]
    exact ⟨⟨.of_blank hbad (by decide), h⟩, .of_blank hbad (by decide)⟩

end Blank

/-! ### Plans that avoid characters -/

/-- A plan **avoids** some characters if they occur neither in the path of a source nor in the
runtime, as far as that is needed. -/
structure BuildPlan.Avoids (p : BuildPlan) (runtime : String) (bad : Char → Bool) : Prop where
  relPath : ∀ s ∈ p.sources, Lacks bad s.file.relPath
  runtime : (∃ s ∈ p.sources, s.file.IsExtended) → Lacks bad runtime

namespace BuildPlan.Avoids

variable {t : Tree} {project : Path} {config : Config} {p : BuildPlan} {x : Target}
  {bad : Char → Bool}

theorem of_blank (ha : p.Avoids config.runtime isBlank)
    (hbad : ∀ c, bad c = true → isBlank c = true) :
    p.Avoids config.runtime bad where
  relPath s hs := (ha.relPath s hs).of_blank hbad
  runtime hext := (ha.runtime hext).of_blank hbad

theorem name (ha : p.Avoids config.runtime bad) (h : (t.plan project config).result = .ok p)
    (hx : x ∈ p.targets) : Lacks bad x.name := by
  obtain ⟨-, s, hs, front, hrel⟩ := exists_source_of_mem_targets h hx
  have hlacks := ha.relPath s (List.mem_flatMap.2 ⟨x, hx, hs⟩)
  rw [hrel] at hlacks
  simp only [lacks_append] at hlacks
  exact hlacks.1.1.2

theorem outputPath (ha : p.Avoids config.runtime bad) (h : (t.plan project config).result = .ok p)
    (hbad : ∀ c, bad c = true → isBlank c = true) (hx : x ∈ p.targets) : Lacks bad x.outputPath :=
  Target.lacks_outputPath hbad (ha.name h hx)

/-- **The flags avoid it**: they are words, the runtime or outputs. -/
theorem ldflags (ha : p.Avoids config.runtime bad) (h : (t.plan project config).result = .ok p)
    (hbad : ∀ c, bad c = true → isBlank c = true) (hx : x ∈ p.targets) :
    ∀ v ∈ x.ldflags, v ≠ "" ∧ Lacks bad v := by
  intro v hv
  cases flagOrigin_of_mem_ldflags h hx hv with
  | token hword => exact ⟨hword.1, hword.2.of_blank hbad⟩
  | runtime hs hext hne => exact ⟨hne, ha.runtime ⟨_, hs, hext⟩⟩
  | archive harchive =>
    refine ⟨fun he => ?_, ha.outputPath h hbad (List.mem_append_left _ harchive)⟩
    have hl := congrArg String.toList he
    rw [Target.toList_outputPath] at hl
    split at hl
    · simp at hl
    · simp at hl

theorem prerequisites (ha : p.Avoids config.runtime bad)
    (h : (t.plan project config).result = .ok p) (hbad : ∀ c, bad c = true → isBlank c = true)
    (hx : x ∈ p.targets) :
    ∀ v ∈ x.prerequisites, Lacks bad v := by
  obtain ⟨as, hmem, -, hpre, -⟩ := flags_of_mem_targets h hx
  intro v hv
  obtain ⟨a, haas, rfl⟩ := List.mem_map.1 (hpre ▸ hv)
  exact ha.outputPath h hbad (List.mem_append_left _ (hmem a haas))

end BuildPlan.Avoids

end NativeBuild
