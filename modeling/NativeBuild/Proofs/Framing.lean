import NativeBuild.Plan.Json
import NativeBuild.Proofs.Encoding
import NativeBuild.Proofs.JsonReading
import NativeBuild.Proofs.Lines
import NativeBuild.Proofs.Targets

/-!
# Targets are read back in either framing

A list of targets is written either as one array, laid out over many lines, or with one line for
each target. `writeTargets_read_back` says that nothing is lost in either: the array is read as the
list it was, and of the other text every line is read as its target, because a line feed stands at
the end of each line and nowhere else.

That strings and brackets come back is the business of `read?_spells`. Here it is shown of every
record that it is read from its fields (`record?_ofFields`), so that each kind of record is a short
proof. A source is written to its end only if its path is a text; that is the one thing that is
asked of a target (`Target.PathsAreText`).
-/

namespace NativeBuild

/-! ### Records -/

namespace Json

/-- **What is written is read**: texts, words, lists of texts, and the enumerations. -/
@[simp] theorem text?_ofText (s : String) : (ofText s).text? = some s := rfl

@[simp] theorem word?_ofText (s : String) : (ofText s).word? = some s := rfl

/-- A list is read item by item when each item is read. -/
theorem mapM_map_eq_some {α β : Type} {write : α → β} {read : β → Option α} {l : List α}
    (h : ∀ x ∈ l, read (write x) = some x) : (l.map write).mapM read = some l := by
  induction l with
  | nil => rfl
  | cons x l ih =>
    rw [List.forall_mem_cons] at h
    rw [List.map_cons, List.mapM_cons, h.1, ih h.2]
    rfl

@[simp] theorem texts?_ofTexts (ss : List String) : (ofTexts ss).texts? = some ss :=
  mapM_map_eq_some fun _ _ => rfl

/-- **A record is read from its fields.** -/
theorem record?_ofFields {fields : List (String × Json)} {names : List String} (h : names.Nodup)
    (hnames : fields.map Prod.fst = names) :
    (ofFields fields).record? names = some (fields.map fun x => some x.2) := by
  subst hnames
  have hnames : (fields.map fun x => (some x.1, x.2)).filterMap Prod.fst = fields.map Prod.fst := by
    rw [List.filterMap_map, ← List.filterMap_eq_map]
    rfl
  have hkept : (fields.map Prod.fst).filter (· ∈ fields.map Prod.fst) = fields.map Prod.fst :=
    List.filter_eq_self.2 fun _ => decide_eq_true
  have hsome : (fields.map fun x => ((some x.1 : Option String), x.2)).all (·.1.isSome) = true := by
    simp
  -- no field is missing and none stands there twice, so each is looked up under its name
  rw [ofFields, record?, hnames, hkept, if_pos ⟨hsome, h⟩, List.map_map]
  refine congrArg some (List.map_congr_left fun x hx => ?_)
  have hfind := (find?_key_eq_some_iff h).2 ⟨hx, rfl⟩
  simp [List.find?_map, Function.comp_def, hfind]

end Json

@[simp] theorem TargetKind.ofWord?_word (k : TargetKind) : ofWord? k.word = some k := by
  cases k <;> rfl

@[simp] theorem Linker.ofWord?_word (l : Linker) : ofWord? l.word = some l := by cases l <;> rfl

/-- The path of a text has the text. -/
@[simp] theorem Path.text?_ofString (s : String) : (ofString s).text? = some s := by
  rw [text?, ofString, Utf8.decode?_encode, Option.map_some, String.ofList_toList]

/-- A path that is a text is the path of that text. -/
theorem Path.ofString_of_text? {p : Path} {s : String} (h : p.text? = some s) : ofString s = p := by
  obtain ⟨cs, hcs, rfl⟩ := Option.map_eq_some_iff.1 h
  rw [ofString, String.toList_ofList, Utf8.encode_of_decode? hcs]

/-- A source file is read back if its path is text, and so is a source with its flags. -/
theorem SourceFile.ofJson?_toJson {f : SourceFile} (h : f.path.text? ≠ none) :
    ofJson? f.toJson = some f := by
  obtain ⟨s, hs⟩ := Option.ne_none_iff_exists'.1 h
  have hrecord : f.toJson.record? ["path", "rel_path", "name", "ext"] = _ :=
    Json.record?_ofFields (by decide) rfl
  rw [ofJson?, hrecord]
  change (do return SourceFile.mk (.ofString (← f.path.text?)) f.relPath f.name f.ext) = some f
  rw [hs]
  change some (SourceFile.mk (.ofString s) f.relPath f.name f.ext) = some f
  rw [Path.ofString_of_text? hs]

theorem FileFlags.ofJson?_toJson (flags : FileFlags) : ofJson? flags.toJson = some flags := by
  have hrecord : flags.toJson.record? ["cppflags", "cflags", "cxxflags"] = _ :=
    Json.record?_ofFields (by decide) rfl
  rw [ofJson?, hrecord]
  simp

theorem TargetSource.ofJson?_toJson {s : TargetSource} (h : s.file.path.text? ≠ none) :
    ofJson? s.toJson = some s := by
  have hrecord : s.toJson.record? ["file", "flags"] = _ := Json.record?_ofFields (by decide) rfl
  rw [ofJson?, hrecord]
  simp [SourceFile.ofJson?_toJson h, FileFlags.ofJson?_toJson]

namespace Target

/-- The sources of the target lie **at paths that are texts**. -/
def PathsAreText (t : Target) : Prop := ∀ s ∈ t.sources, s.file.path.text? ≠ none

/-- **A target is read from its value.** -/
theorem ofJson?_toJson {t : Target} (h : t.PathsAreText) : ofJson? t.toJson = some t := by
  have hrecord : t.toJson.record? fieldNames = _ := Json.record?_ofFields (by decide) rfl
  have hsources : (t.sources.map TargetSource.toJson).mapM TargetSource.ofJson? = some t.sources :=
    Json.mapM_map_eq_some fun s hs => TargetSource.ofJson?_toJson (h s hs)
  rw [ofJson?, hrecord]
  simp [Json.items?, hsources]

/-- A target of which all paths are text is textual as a value. -/
theorem textual_toJson {t : Target} (h : t.PathsAreText) : t.toJson.Textual := by
  -- the fields are texts and lists of texts, but for the sources
  refine Json.textual_ofFields ?_
  simp only [List.forall_mem_cons, Json.textual_ofText, Json.textual_ofTexts]
  refine ⟨trivial, trivial, ?_, by simp⟩
  rw [Json.Textual, Json.textualItems_iff, List.forall_mem_map]
  intro s hs
  have hfile : s.file.toJson.Textual := by
    refine Json.textual_ofFields ?_
    simp [Json.textual_ofText, Json.Textual, h s hs]
  have hflags : s.flags.toJson.Textual := by
    refine Json.textual_ofFields ?_
    simp [Json.textual_ofTexts]
  refine Json.textual_ofFields ?_
  simp [hfile, hflags]

/-- Whatever spells the value of a target is read as the target. -/
theorem read?_of_spells {t : Target} (h : t.PathsAreText) {l : Json.Layout} {cs : List Char}
    (hcs : Json.Spells l t.toJson cs) : read? cs = some t := by
  have hread : Json.read? (cs ++ []) = some t.toJson := Json.read?_spells hcs rfl
  rw [List.append_nil] at hread
  rw [read?, hread]
  exact ofJson?_toJson h

end Target

/-! ### Lists of targets -/

/-- The line of a target. -/
def Target.line (t : Target) : List Char := t.toJson.compact.text

/-- A target is printed on one line, which spells its value. -/
theorem Target.compact_spells {t : Target} (h : t.PathsAreText) :
    t.toJson.compact = .of t.line ∧ Json.Spells .compact t.toJson t.line := by
  obtain ⟨cs, hcs, hspells⟩ := Json.render_spells .compact 0 t.toJson (textual_toJson h)
  have hline : t.line = cs := congrArg Json.Draft.text hcs
  rw [hline]
  exact ⟨hcs, hspells⟩

/-- The lines of the targets are what is written, each with a line feed. -/
theorem writeLines_eq {ts : List Target} (h : ∀ t ∈ ts, t.PathsAreText) :
    writeLines ts = .of (Text.unlines (ts.map Target.line)) := by
  induction ts with
  | nil => rfl
  | cons t ts ih =>
    rw [List.forall_mem_cons] at h
    rw [writeLines, (Target.compact_spells h.1).1, ih h.2]
    simp [Text.unlines]

/-- There are as many line feeds as lines. -/
theorem count_newline_unlines {ls : List (List Char)} (h : ∀ l ∈ ls, '\n' ∉ l) :
    (Text.unlines ls).count '\n' = ls.length := by
  induction ls with
  | nil => rfl
  | cons l ls ih =>
    rw [List.forall_mem_cons] at h
    have hcons : Text.unlines (l :: ls) = l ++ '\n' :: Text.unlines ls := by simp [Text.unlines]
    rw [hcons, List.count_append, List.count_eq_zero.2 h.1, List.count_cons_self, ih h.2,
      List.length_cons]
    omega

/-- **The array of targets is read back**, with the line feed behind it. -/
theorem writePretty_read_back {ts : List Target} (h : ∀ t ∈ ts, t.PathsAreText) :
    (writePretty ts).complete = true ∧
      (Json.read? (writePretty ts).text).bind BuildPlan.targetsOfJson? = some ts := by
  have htextual : (Json.array (ts.map Target.toJson)).Textual := by
    rw [Json.Textual, Json.textualItems_iff, List.forall_mem_map]
    exact fun t ht => Target.textual_toJson (h t ht)
  obtain ⟨cs, hcs, hspells⟩ := Json.render_spells .indented 0 _ htextual
  have hpretty : writePretty ts = .of (cs ++ ['\n']) := by
    rw [writePretty, Json.pretty, hcs]
    rfl
  refine ⟨hpretty ▸ rfl, ?_⟩
  rw [hpretty]
  change (Json.read? (cs ++ ['\n'])).bind BuildPlan.targetsOfJson? = some ts
  rw [Json.read?_spells hspells rfl]
  exact Json.mapM_map_eq_some fun t ht => Target.ofJson?_toJson (h t ht)

/-- **Targets are read back in either framing.** Of targets with any strings, at paths that are
texts, both ways of writing come to their end. In the one with a line for each there are as many
line feeds as targets, and its lines are read as the targets, in order; in the other the array is
read as their list. -/
theorem writeTargets_read_back (ts : List Target) (h : ∀ t ∈ ts, t.PathsAreText) :
    ((writeLines ts).complete = true ∧
      (writeLines ts).text.count '\n' = ts.length ∧
      (Text.lines (writeLines ts).text).mapM Target.read? = some ts) ∧
    (writePretty ts).complete = true ∧
      (Json.read? (writePretty ts).text).bind BuildPlan.targetsOfJson? = some ts := by
  refine ⟨?_, writePretty_read_back h⟩
  -- no line feed stands inside a line, so the text is cut where it was put together
  have hnewline : ∀ line ∈ ts.map Target.line, '\n' ∉ line := by
    rw [List.forall_mem_map]
    exact fun t ht => (Target.compact_spells (h t ht)).2.line rfl
  rw [writeLines_eq h]
  refine ⟨rfl, ?_, ?_⟩
  · exact (count_newline_unlines hnewline).trans (List.length_map _)
  · change (Text.lines (Text.unlines (ts.map Target.line))).mapM Target.read? = some ts
    rw [Text.lines_unlines hnewline]
    exact Json.mapM_map_eq_some fun t ht =>
      Target.read?_of_spells (h t ht) (Target.compact_spells (h t ht)).2

/-- Targets whose strings have quotes, backslashes, line feeds and other controls in them. -/
def oddTargets : List Target :=
  [⟨.module, "a\"\n", [SmallProject.source "src/a\"\n.c" "a\"\n" "c"], .plain, ["-D\\u0031", "\t"],
    ["é"], []⟩, ⟨.archive, "\x07\x7f", [], .extended, [], [], ["$(LIBDIR)/\r"]⟩]

theorem oddTargets_pathsAreText : ∀ t ∈ oddTargets, t.PathsAreText := by
  simp [oddTargets, Target.PathsAreText, SmallProject.source]

/-- Two targets with quotes, line feeds and other characters in need of escapes are read back. -/
theorem oddTargets_read_back : (∀ t ∈ oddTargets, t.PathsAreText) ∧
    ((writeLines oddTargets).complete = true ∧
      (writeLines oddTargets).text.count '\n' = 2 ∧
      (Text.lines (writeLines oddTargets).text).mapM Target.read? = some oddTargets) ∧
    (writePretty oddTargets).complete = true ∧
      (Json.read? (writePretty oddTargets).text).bind BuildPlan.targetsOfJson? = some oddTargets :=
  ⟨oddTargets_pathsAreText, writeTargets_read_back oddTargets oddTargets_pathsAreText⟩

end NativeBuild
