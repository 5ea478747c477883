import NativeBuild.Proofs.Objects
import NativeBuild.Proofs.ReadBack

/-!
# Rendering loses nothing

Two plans with the same fragment are the same as far as a fragment shows them (`text_determines`).
Nothing in the text says where a stanza ends or how many there are, so this is a matter of telling
its lines apart. The lemma that goes through by induction is `stanza_append_inj`: a stanza can be
read off the front of whatever lines follow it. In a stanza

* the comment gives the kind and the name, and with them the stem of all variables;
* four assignments follow, and words are read back from them;
* the lines that set flags of objects are those that begin with the directory of the objects
  (`isOverride`), which no rule begins with, and each of them gives its object, its variable and its
  text (`overrideLine_inj`);
* the rule has as many lines as the kind says, and for a module it gives the prerequisites.

A stanza begins with a comment sign and the list of modules does not, so the last stanza is known.

Two things are not shown: the archives that a target refers to, which only stand among its link
flags, and how the flags of an object were divided.
-/

namespace NativeBuild

open Text

/-- Lists are equal if their images are, where no two elements have the same image. -/
theorem eq_of_map_eq {α β : Type} {f : α → β} {as bs : List α}
    (hf : ∀ a ∈ as, ∀ b ∈ bs, f a = f b → a = b) (h : as.map f = bs.map f) : as = bs := by
  -- element by element, since each has one origin in the other list
  induction as generalizing bs with
  | nil => exact (List.map_eq_nil_iff.1 h.symm).symm
  | cons a as ih =>
    cases bs with
    | nil => exact absurd h (List.cons_ne_nil _ _)
    | cons b bs =>
      rw [List.map_cons, List.map_cons, List.cons.injEq] at h
      have hhead := hf a List.mem_cons_self b List.mem_cons_self h.1
      have htail :=
        ih (fun a' ha b' hb => hf a' (List.mem_cons_of_mem _ ha) b' (List.mem_cons_of_mem _ hb)) h.2
      rw [hhead, htail]

/-- Each driver has a variable of its own. -/
theorem Linker.makeVariable_inj {l m : Linker} (h : l.makeVariable = m.makeVariable) : l = m := by
  cases l <;> cases m <;> first | rfl | exact absurd h (by decide)

/-! ### What a fragment shows -/

/-- What a fragment **shows** of a target. -/
structure TargetView where
  kind : TargetKind
  name : String
  /-- The paths of the sources. -/
  sources : List String
  /-- The objects of the sources. -/
  objects : List String
  /-- What is set for each of the objects. -/
  overrides : List (List (String × String))
  linker : Linker
  ldflags : List String
  /-- What has to be there before a module is linked. -/
  prerequisites : List String
  deriving DecidableEq, Repr

namespace Target

/-- The view of a target. An archive is linked whatever its prerequisites are. -/
def view (x : Target) : TargetView where
  kind := x.kind
  name := x.name
  sources := x.sources.map (·.file.relPath)
  objects := x.sources.map (·.file.objectPath)
  overrides := x.sources.map TargetSource.overrideTexts
  linker := x.linker
  ldflags := x.ldflags
  prerequisites := if x.kind = .module then x.prerequisites else []

/-- A target of **words**: none of its lists holds a blank, compile flags have none but spaces, and
no two of its sources have one object. -/
structure OfWords (x : Target) : Prop where
  name : IsWord x.name
  relPath : ∀ s ∈ x.sources, IsWord s.file.relPath
  ldflags : ∀ v ∈ x.ldflags, IsWord v
  prerequisites : ∀ v ∈ x.prerequisites, IsWord v
  flags : ∀ s ∈ x.sources, ∀ y ∈ s.flags.overrides, ∀ v ∈ y.2, ∀ c ∈ v.toList,
    isBlank c = true → c = ' '
  nodup_objects : (x.sources.map (·.file.objectPath)).Nodup

/-- Objects are words, as sources are. -/
theorem OfWords.isWord_objectPath {x : Target} (hx : x.OfWords) {s : TargetSource}
    (hs : s ∈ x.sources) :
    IsWord s.file.objectPath := by
  refine ⟨?_, SourceFile.lacks_objectPath (fun _ hb => hb) (hx.relPath s hs).2⟩
  rw [SourceFile.objectPath]
  simp

end Target

namespace Fragment

variable {x y : Target}

/-! ### Lists of words -/

/-- Words that are written one after another, with a space in front of each, can be told apart. -/
theorem flatMap_space_inj {as bs : List String} (ha : ∀ v ∈ as, IsWord v) (hb : ∀ v ∈ bs, IsWord v)
    (h : (as.flatMap fun v => ' ' :: v.toList) = bs.flatMap fun v => ' ' :: v.toList) :
    as = bs := by
  rw [← words_flatMap ha, ← words_flatMap hb, h]

/-- **An assignment determines its values**, if these are words. -/
theorem assignment_inj {var : String} {as bs : List String} (ha : ∀ v ∈ as, IsWord v)
    (hb : ∀ v ∈ bs, IsWord v) (h : assignment var as = assignment var bs) : as = bs := by
  have hlist := congrArg String.toList h
  rw [toList_assignment, toList_assignment] at hlist
  have hrest := List.append_cancel_left hlist
  simp only [List.cons.injEq, true_and] at hrest
  exact flatMap_space_inj ha hb hrest

/-- **The four assignments** of a target give what they assign. -/
theorem assignments_inj (hx : x.OfWords) (hy : y.OfWords) (hstem : x.stem = y.stem)
    (h : assignments x = assignments y) :
    x.view.sources = y.view.sources ∧ x.view.objects = y.view.objects ∧ x.linker = y.linker ∧
      x.ldflags = y.ldflags := by
  rw [assignments_eq, assignments_eq, listing, listing, hstem] at h
  simp only [List.map_cons, List.map_nil, List.cons.injEq, and_true] at h
  -- with one stem the variables are the same, so the lines differ in their values only
  obtain ⟨hsources, hobjects, hlinker, hldflags⟩ := h
  have hdriver : ∀ l : Linker, ∀ v ∈ [l.makeVariable], IsWord v := by
    intro l
    cases l <;> decide
  refine ⟨?_, ?_, ?_, ?_⟩
  · exact assignment_inj (List.forall_mem_map.2 hx.relPath) (List.forall_mem_map.2 hy.relPath)
      hsources
  · exact assignment_inj (List.forall_mem_map.2 fun _ => hx.isWord_objectPath)
      (List.forall_mem_map.2 fun _ => hy.isWord_objectPath) hobjects
  · exact Linker.makeVariable_inj
      (List.singleton_inj.1 (assignment_inj (hdriver _) (hdriver _) hlinker))
  · exact assignment_inj hx.ldflags hy.ldflags hldflags

/-! ### Flags of objects -/

/-- What a target sets, object by object. -/
def settings (x : Target) : List (String × (String × String)) :=
  x.sources.flatMap fun s => s.overrideTexts.map fun o => (s.file.objectPath, o)

/-- What is set for the sources, line by line. -/
theorem flatMap_overrideLines (x : Target) :
    x.sources.flatMap overrideLines = (settings x).map fun z => overrideLine z.1 z.2 := by
  rw [settings, List.map_flatMap]
  refine List.flatMap_congr fun s _ => ?_
  rw [overrideLines_eq, List.map_map]
  rfl

/-- Neither an object nor a variable has a space in it. -/
theorem space_notMem_of_mem_settings (hx : x.OfWords) {z : String × (String × String)}
    (hz : z ∈ settings x) :
    ' ' ∉ z.1.toList ∧ ' ' ∉ z.2.1.toList := by
  obtain ⟨s, hs, hz⟩ := List.mem_flatMap.1 hz
  obtain ⟨o, ho, rfl⟩ := List.mem_map.1 hz
  refine ⟨fun hspace => ?_, space_notMem_of_mem_overrideTexts ho⟩
  exact absurd ((hx.isWord_objectPath hs).2 ' ' hspace) (by decide)

theorem settings_inj (hx : x.OfWords) (hy : y.OfWords)
    (h : x.sources.flatMap overrideLines = y.sources.flatMap overrideLines) :
    settings x = settings y := by
  rw [flatMap_overrideLines, flatMap_overrideLines] at h
  refine eq_of_map_eq (fun z hz w hw heq => ?_) h
  obtain ⟨hz₁, hz₂⟩ := space_notMem_of_mem_settings hx hz
  obtain ⟨hw₁, hw₂⟩ := space_notMem_of_mem_settings hy hw
  obtain ⟨hobject, hoverride⟩ := overrideLine_inj hz₁ hw₁ hz₂ hw₂ heq
  exact Prod.ext hobject hoverride

/-- What is set for one of different objects. -/
theorem filter_settings (hx : x.OfWords) {s : TargetSource} (hs : s ∈ x.sources) :
    ((settings x).filter fun z => z.1 = s.file.objectPath).map Prod.snd = s.overrideTexts := by
  have hpiece : ∀ s' ∈ x.sources, ∀ z ∈ s'.overrideTexts.map fun o => (s'.file.objectPath, o),
      decide (z.1 = s.file.objectPath) = decide (s'.file.objectPath = s.file.objectPath) := by
    intro s' _ z hz
    obtain ⟨o, -, rfl⟩ := List.mem_map.1 hz
    rfl
  -- no other source has this object, so what is kept comes from one source
  rw [settings, filter_flatMap_of_alike hpiece, filter_key_eq hx.nodup_objects hs,
    List.flatMap_singleton, List.map_map]
  exact List.map_id _

/-- With the objects known the settings are those of each source. -/
theorem overrides_inj (hx : x.OfWords) (hy : y.OfWords) (hobjects : x.view.objects = y.view.objects)
    (h : x.sources.flatMap overrideLines = y.sources.flatMap overrideLines) :
    x.view.overrides = y.view.overrides := by
  have hsettings := settings_inj hx hy h
  -- what is set for an object can be looked up under it
  have hlook : ∀ {z : Target}, z.OfWords → z.view.overrides = z.view.objects.map fun object =>
      ((settings z).filter fun w => w.1 = object).map Prod.snd := by
    intro z hz
    change z.sources.map TargetSource.overrideTexts = (z.sources.map _).map _
    rw [List.map_map]
    exact List.map_congr_left fun s hs => (filter_settings hz hs).symm
  rw [hlook hx, hlook hy, hobjects, hsettings]

/-! ### Stanzas -/

/-- Does a line begin with the directory of the objects? -/
def isOverride (line : String) : Bool := "$(OBJDIR)/".toList.isPrefixOf line.toList

/-- The lines that set something are known by how they begin. -/
theorem isOverride_overrideLines {line : String} (h : line ∈ x.sources.flatMap overrideLines) :
    isOverride line = true := by
  obtain ⟨s, -, hline⟩ := List.mem_flatMap.1 h
  rw [overrideLines_eq] at hline
  obtain ⟨o, -, rfl⟩ := List.mem_map.1 hline
  rw [isOverride, List.isPrefixOf_iff_prefix]
  refine ⟨(String.ofList s.file.stemPath ++ ".o: " ++ o.1 ++ " := " ++ o.2).toList, ?_⟩
  simp [overrideLine, SourceFile.objectPath]

/-- A rule begins with the output of its target, which is no object. -/
theorem exists_linkRule_eq_cons (x : Target) :
    ∃ line rest, linkRule x = line :: rest ∧ isOverride line = false := by
  cases hkind : x.kind with
  | archive =>
    refine ⟨_, _, by rw [linkRule, hkind], ?_⟩
    simp [isOverride, Target.outputPath, hkind, List.isPrefixOf]
  | module =>
    refine ⟨_, _, by rw [linkRule, hkind], ?_⟩
    simp [isOverride, Target.outputPath, hkind, List.isPrefixOf]

/-- **A rule is as long as its kind says**, and for a module it gives the prerequisites. -/
theorem linkRule_append_inj (hx : x.OfWords) (hy : y.OfWords) (hkind : x.kind = y.kind)
    (hname : x.name = y.name) {r s : List String} (h : linkRule x ++ r = linkRule y ++ s) :
    x.view.prerequisites = y.view.prerequisites ∧ r = s := by
  -- the rules have as many lines as each other, so they end at the same place
  have hlength : (linkRule x).length = (linkRule y).length := by
    rw [linkRule, linkRule, hkind]
    cases y.kind <;> rfl
  obtain ⟨hrule, hrest⟩ := List.append_inj h hlength
  refine ⟨?_, hrest⟩
  have houtput : x.outputPath = y.outputPath := by
    rw [Target.outputPath, Target.outputPath, hkind, hname]
  have hstem : x.stem = y.stem := by rw [Target.stem, Target.stem, hkind, hname]
  cases hk : y.kind with
  | archive => simp [Target.view, hkind, hk]
  | module =>
    have hkx : x.kind = .module := hkind.trans hk
    simp only [Target.view, hkx, hk, if_pos]
    -- the prerequisites stand in the first line, behind the output and the objects
    rw [linkRule, linkRule, hkx, hk, houtput, hstem] at hrule
    have hfirst := congrArg String.toList (List.cons.inj hrule).1
    simp only [String.toList_append, String.toList_join, List.append_cancel_left_eq] at hfirst
    refine flatMap_space_inj hx.prerequisites hy.prerequisites ?_
    simpa [List.flatMap_map] using hfirst

/-- The words for the two kinds begin with different letters. -/
theorem comment_inj {k k' : TargetKind} {name name' : String}
    (h : "# " ++ k.word ++ " " ++ name = "# " ++ k'.word ++ " " ++ name') :
    k = k' ∧ name = name' := by
  have hlist := congrArg String.toList h
  cases k <;> cases k'
  all_goals simp [TargetKind.word] at hlist
  all_goals exact ⟨rfl, String.toList_inj.1 hlist⟩

/-- **A stanza can be read off the front of any lines.** -/
theorem stanza_append_inj (hx : x.OfWords) (hy : y.OfWords) {r s : List String}
    (h : stanza x ++ r = stanza y ++ s) : x.view = y.view ∧ r = s := by
  rw [stanza, stanza, List.cons_append, List.cons_append, List.cons.injEq] at h
  obtain ⟨hcomment, hbody⟩ := h
  obtain ⟨hkind, hname⟩ := comment_inj hcomment
  have hstem : x.stem = y.stem := by rw [Target.stem, Target.stem, hkind, hname]
  -- the assignments
  rw [List.append_assoc, List.append_assoc, List.append_assoc, List.append_assoc] at hbody
  obtain ⟨hassign, hbody⟩ := List.append_inj hbody rfl
  obtain ⟨hsources, hobjects, hlinker, hldflags⟩ := assignments_inj hx hy hstem hassign
  -- the flags of objects end where the rule begins
  obtain ⟨line, rest, hrule, hline⟩ := exists_linkRule_eq_cons x
  obtain ⟨line', rest', hrule', hline'⟩ := exists_linkRule_eq_cons y
  rw [hrule, hrule', List.cons_append, List.cons_append] at hbody
  obtain ⟨hoverride, hbody⟩ := append_cons_inj_of_forall (fun _ => isOverride_overrideLines)
    (fun _ => isOverride_overrideLines) hline hline' hbody
  have hoverrides := overrides_inj hx hy hobjects hoverride
  -- the rule
  rw [← List.cons_append, ← List.cons_append, ← hrule, ← hrule'] at hbody
  obtain ⟨hprerequisites, hrest⟩ := linkRule_append_inj hx hy hkind hname hbody
  refine ⟨?_, hrest⟩
  have hview : ∀ z : Target, z.view = ⟨z.kind, z.name, z.view.sources, z.view.objects,
      z.view.overrides, z.linker, z.ldflags, z.view.prerequisites⟩ := fun _ => rfl
  rw [hview x, hview y, hkind, hname, hsources, hobjects, hoverrides, hlinker, hldflags,
    hprerequisites]

/-! ### Fragments -/

/-- A stanza begins with a comment. -/
theorem head?_comment (k : TargetKind) (name : String) :
    ("# " ++ k.word ++ " " ++ name).toList.head? = some '#' := by
  simp

/-- The manifest does not. -/
theorem head?_assignment_manifest (values : List String) :
    (assignment manifestVariable values).toList.head? = some 'E' := by
  rw [toList_assignment, manifestVariable]
  rfl

/-- **Stanzas are read one after another**, up to a line that is no comment. -/
theorem map_view_eq_of_stanzas {xs ys : List Target} (hxs : ∀ x ∈ xs, x.OfWords)
    (hys : ∀ y ∈ ys, y.OfWords)
    {a b : String} (ha : a.toList.head? ≠ some '#') (hb : b.toList.head? ≠ some '#')
    (h : (xs.flatMap fun x => stanza x ++ [""]) ++
      [a] = (ys.flatMap fun y => stanza y ++ [""]) ++ [b]) :
    xs.map Target.view = ys.map Target.view := by
  have hstanza : ∀ (z : Target) (zs : List Target) (c : String),
      ((z :: zs).flatMap fun x => stanza x ++ [""]) ++ [c] =
        stanza z ++ ("" :: ((zs.flatMap fun x => stanza x ++ [""]) ++ [c])) := by
    intro z zs c
    simp
  -- stanza by stanza, until a line is none
  induction xs generalizing ys with
  | nil =>
    cases ys with
    | nil => rfl
    | cons y ys =>
      rw [hstanza] at h
      -- a line that is no comment would be the comment of a stanza
      have hline : a = _ := (List.cons.inj h).1
      exact absurd (hline ▸ head?_comment _ _) ha
  | cons x xs ih =>
    cases ys with
    | nil =>
      rw [hstanza] at h
      have hline : _ = b := (List.cons.inj h).1
      exact absurd (hline ▸ head?_comment _ _) hb
    | cons y ys =>
      rw [List.forall_mem_cons] at hxs hys
      rw [hstanza, hstanza] at h
      obtain ⟨hview, hrest⟩ := stanza_append_inj hxs.1 hys.1 h
      rw [List.map_cons, List.map_cons, hview, ih hxs.2 hys.2 (List.cons.inj hrest).2]

theorem unbroken_of_ofWords {p : BuildPlan} (hp : ∀ x ∈ p.targets, x.OfWords) : Unbroken p where
  name x hx := (hp x hx).name.2.of_blank isBlank_of_isNewline
  relPath s hs := by
    obtain ⟨x, hx, hs⟩ := List.mem_flatMap.1 hs
    exact ((hp x hx).relPath s hs).2.of_blank isBlank_of_isNewline
  ldflags x hx v hv := ((hp x hx).ldflags v hv).2.of_blank isBlank_of_isNewline
  prerequisites x hx v hv := ((hp x hx).prerequisites v hv).2.of_blank isBlank_of_isNewline
  flags s hs y hy v hv c hc := by
    obtain ⟨x, hx, hs⟩ := List.mem_flatMap.1 hs
    -- a line feed is a blank, but no space
    by_contra hne
    rw [Bool.not_eq_false] at hne
    obtain rfl := (hp x hx).flags s hs y hy v hv c hc (isBlank_of_isNewline c hne)
    exact absurd hne (by decide)

/-- The archives of a plan come first, by their kind. -/
theorem filter_kind_targets {p : BuildPlan} (harchives : ∀ x ∈ p.archives, x.kind = .archive)
    (hmodules : ∀ x ∈ p.modules, x.kind = .module) :
    ((p.targets.map Target.view).filter fun v => v.kind = .archive) = p.archives.map Target.view ∧
      ((p.targets.map Target.view).filter fun v => v.kind = .module) =
        p.modules.map Target.view := by
  -- a list of targets of one kind stays as a whole or not at all
  have hpart : ∀ {k k' : TargetKind} {xs : List Target}, (∀ x ∈ xs, x.kind = k) →
      (xs.map Target.view).filter (fun v => v.kind = k') = if k = k' then xs.map Target.view
      else [] := by
    intro k k' xs hxs
    split
    · refine List.filter_eq_self.2 (List.forall_mem_map.2 fun x hx => decide_eq_true ?_)
      exact (hxs x hx).trans ‹_›
    · refine List.filter_eq_nil_iff.2 (List.forall_mem_map.2 fun x hx => ?_)
      rw [decide_eq_true_eq]
      exact fun he => ‹¬ k = k'› ((hxs x hx).symm.trans he)
  rw [BuildPlan.targets, List.map_append, List.filter_append, List.filter_append, hpart harchives,
    hpart hmodules, hpart harchives, hpart hmodules]
  simp

end Fragment

open Fragment

/-- A plan **of words**: its archives are archives, its modules are modules, and all of them are
targets of words. -/
structure BuildPlan.OfWords (p : BuildPlan) : Prop where
  archives : ∀ x ∈ p.archives, x.kind = .archive
  modules : ∀ x ∈ p.modules, x.kind = .module
  targets : ∀ x ∈ p.targets, x.OfWords

/-- **Rendering loses nothing.** Plans of words with the same fragment, written at the same time,
have as many archives and modules, and each of them has the same kind, name, sources, objects,
driver and link flags, the same text of flags for each object and, if it is a module, the same
prerequisites. -/
theorem text_determines {p q : BuildPlan} (hp : p.OfWords) (hq : q.OfWords) {written : Timestamp}
    (h : text p written = text q written) :
    p.archives.map Target.view = q.archives.map Target.view ∧
      p.modules.map Target.view = q.modules.map Target.view := by
  -- the lines of both are the same, and so are their stanzas
  have hlines : Fragment.lines p written = Fragment.lines q written := by
    have htext := congrArg (fun s => Text.lines s.toList) h
    rw [lines_text (unbroken_of_ofWords hp.targets),
      lines_text (unbroken_of_ofWords hq.targets)] at htext
    exact eq_of_map_eq (fun _ _ _ _ => String.toList_inj.1) htext
  rw [Fragment.lines, Fragment.lines, List.append_assoc, List.append_assoc _ _ [_]] at hlines
  have hstanzas := List.append_cancel_left hlines
  have hlast : ∀ values, (assignment manifestVariable values).toList.head? ≠ some '#' := by
    intro values
    rw [head?_assignment_manifest]
    decide
  have hviews := map_view_eq_of_stanzas hp.targets hq.targets (hlast _) (hlast _) hstanzas
  obtain ⟨hpa, hpm⟩ := filter_kind_targets hp.archives hp.modules
  obtain ⟨hqa, hqm⟩ := filter_kind_targets hq.archives hq.modules
  rw [← hpa, ← hpm, ← hqa, ← hqm, hviews]
  exact ⟨rfl, rfl⟩

namespace SmallProject

/-- A source that is compiled with some flags. -/
def flaggedSource (cflags : List String) : TargetSource :=
  ⟨(source "src/app.c" "app" "c").file, ⟨[], cflags, []⟩⟩

/-- A module of this source. -/
def flaggedModule (cflags reflibs : List String) : Target :=
  ⟨.module, "app", [flaggedSource cflags], .extended, ["$(LIBDIR)/z.a", "-lm", "-lstdc++"], reflibs,
    ["$(LIBDIR)/z.a"]⟩

def flaggedPlan (cflags reflibs : List String) : BuildPlan :=
  ⟨plan.archives, [flaggedModule cflags reflibs]⟩

/-- The plan is of words as long as the flags have no blanks but spaces. -/
theorem flaggedPlan_ofWords (cflags reflibs : List String)
    (h : ∀ v ∈ cflags, ∀ c ∈ v.toList, Text.isBlank c = true → c = ' ') :
    (flaggedPlan cflags reflibs).OfWords := by
  have harchive : ∀ x ∈ plan.archives, x.kind = .archive ∧ x.OfWords := by
    refine List.forall_mem_singleton.2 ⟨rfl, by decide, by decide, by decide, by decide, ?_,
      by decide⟩
    simp [FileFlags.overrides, source]
  have hmodule : (flaggedModule cflags reflibs).OfWords := by
    refine ⟨?_, ?_, ?_, ?_, ?_, ?_⟩
    · simp only [flaggedModule]
      decide
    · simp only [flaggedModule, flaggedSource, List.forall_mem_singleton]
      decide
    · simp only [flaggedModule]
      decide
    · simp only [flaggedModule]
      decide
    · simpa [flaggedModule, flaggedSource, FileFlags.overrides] using h
    · simp [flaggedModule]
  refine ⟨fun x hx => (harchive x hx).1, ?_, ?_⟩
  · exact List.forall_mem_singleton.2 rfl
  · intro x hx
    rcases List.mem_append.1 hx with hx | hx
    · exact (harchive x hx).2
    · exact List.mem_singleton.1 hx ▸ hmodule

end SmallProject

/-- How flags were divided is not shown, nor what is referred to; everything else is. -/
theorem flaggedPlan_text_determines :
    (SmallProject.flaggedPlan ["-O2", "-g"] ["z"]).OfWords ∧
      (SmallProject.flaggedPlan ["-O2 -g"] []).OfWords ∧
      text (SmallProject.flaggedPlan ["-O2", "-g"] ["z"]) ⟨0, 0⟩ =
        text (SmallProject.flaggedPlan ["-O2 -g"] []) ⟨0, 0⟩ ∧
      (SmallProject.flaggedPlan ["-O2", "-g"] ["z"]).modules.map Target.view =
        (SmallProject.flaggedPlan ["-O2 -g"] []).modules.map Target.view := by
  have hp := SmallProject.flaggedPlan_ofWords ["-O2", "-g"] ["z"] (by simp [isBlank])
  have hq := SmallProject.flaggedPlan_ofWords ["-O2 -g"] [] (by simp [isBlank])
  -- two flags and one that holds a space are printed alike
  have hjoin : " ".intercalate ["-O2", "-g"] = " ".intercalate ["-O2 -g"] := by decide
  have hoverride : overrideLines (SmallProject.flaggedSource ["-O2", "-g"]) =
      overrideLines (SmallProject.flaggedSource ["-O2 -g"]) := by
    simp [overrideLines, SmallProject.flaggedSource, FileFlags.overrides, hjoin]
  have hstanza : stanza (SmallProject.flaggedModule ["-O2", "-g"] ["z"]) =
      stanza (SmallProject.flaggedModule ["-O2 -g"] []) := by
    simp only [stanza, assignments, linkRule, Target.stem, Target.outputPath,
      SmallProject.flaggedModule, List.flatMap_singleton, hoverride]
    rfl
  have htext : text (SmallProject.flaggedPlan ["-O2", "-g"] ["z"]) ⟨0, 0⟩ =
      text (SmallProject.flaggedPlan ["-O2 -g"] []) ⟨0, 0⟩ := by
    simp only [text, Fragment.lines, BuildPlan.targets, SmallProject.flaggedPlan,
      List.flatMap_append, List.flatMap_singleton, hstanza]
    rfl
  exact ⟨hp, hq, htext, (text_determines hp hq htext).2⟩

end NativeBuild
