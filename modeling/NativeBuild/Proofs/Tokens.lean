import NativeBuild.Proofs.Eligible
import NativeBuild.Proofs.Layout
import NativeBuild.Proofs.Lines

/-!
# Directives have no line breaks

The reader of directives ends a line at a line feed only. A carriage return, a form feed or one of
the line separators of Unicode may stand inside of a value, and if it got into the fragment, who
reads that would see two lines. It does not: values are cut at blanks, and all of these are blanks.

So whatever text is read, its directives are **worded** (`DirectiveSet.Worded`): link kinds carry
words, and a compile kind carries at most one text, which is words with single spaces between them.
From there it goes into plans: what the directives of a source give to its own flags and to the link
flags of its target has no line break (`plan_lacks_line_breaks`).
-/

namespace NativeBuild

open Text

/-! ### Words with spaces between them -/

namespace Text

/-- **Line breaks**: line feed, vertical tab, form feed, carriage return, and those of Unicode. -/
def isLineBreak (c : Char) : Bool := c ∈ ['\n', '\x0b', '\x0c', '\r', '\u0085', '\u2028', '\u2029']

/-- Whatever breaks a line is blank. -/
theorem isBlank_of_isLineBreak (c : Char) (h : isLineBreak c = true) : isBlank c = true := by
  simp only [isLineBreak, List.mem_cons, List.not_mem_nil, or_false, decide_eq_true_eq] at h
  rcases h with rfl | rfl | rfl | rfl | rfl | rfl | rfl <;> decide

/-- A text is **made of words** if it is words, at least one, with one space between each two. -/
def IsWorded (s : String) : Prop :=
  ∃ ws : List String, ws ≠ [] ∧ (∀ w ∈ ws, IsWord w) ∧ s = " ".intercalate ws

variable {s : String}

/-- So a word breaks none. -/
theorem IsWord.lacks_isLineBreak (h : IsWord s) : Lacks isLineBreak s :=
  h.2.of_blank isBlank_of_isLineBreak

/-- A space is no line break. -/
theorem IsWorded.lacks_isLineBreak (h : IsWorded s) : Lacks isLineBreak s := by
  obtain ⟨ws, -, hwords, rfl⟩ := h
  exact lacks_intercalate (by decide) fun w hw => (hwords w hw).lacks_isLineBreak

/-- Words with single spaces between them. -/
theorem isWorded_unwords {cs : List Char} (h : words cs ≠ []) :
    IsWorded (String.ofList (unwords (words cs))) := by
  refine ⟨(words cs).map String.ofList, by simpa using h,
    List.forall_mem_map.2 fun w hw => isWord_of_mem_words hw, ?_⟩
  exact ofList_unwords _

end Text

/-! ### Values of directives -/

/-- What a directive adds, by its words. -/
theorem Directive.values_ofWords (k : DirectiveKind) (ws : List (List Char)) :
    (ofWords k ws).values =
    if k.isTokenized = true then ws.map String.ofList
    else if String.ofList (unwords ws) = "" then [] else [String.ofList (unwords ws)] := by
  cases k <;> rfl

namespace DirectiveSet

/-- Directives are **worded** if there is at most one of each kind, link kinds carry words, and a
compile kind carries at most one text, which is made of words. -/
structure Worded (ds : DirectiveSet) : Prop where
  nodup : (ds.entries.map Directive.kind).Nodup
  isWord : ∀ k, k.isTokenized = true → ∀ v ∈ ds.values k, IsWord v
  length_le : ∀ k, k.isTokenized = false → (ds.values k).length ≤ 1
  isWorded : ∀ k, k.isTokenized = false → ∀ v ∈ ds.values k, v ≠ "" ∧ IsWorded v

variable {ds : DirectiveSet}

/-- The values of a kind are those of the directive of this kind. -/
theorem values_eq_of_words (hwords : ∀ d ∈ ds.entries, ∃ cs, d = .ofWords d.kind (words cs))
    (k : DirectiveKind) :
    ds.values k = [] ∨ ∃ cs, ds.values k = (Directive.ofWords k (words cs)).values := by
  rw [values]
  cases hget : ds.get? k with
  | none => exact .inl rfl
  | some d =>
    obtain ⟨cs, hcs⟩ := hwords d (List.mem_of_find?_eq_some hget)
    have hkind : d.kind = k := by simpa using List.find?_some hget
    exact .inr ⟨cs, by rw [← hkind, ← hcs]⟩

/-- **Directives that are put together from words** are worded. -/
theorem worded_of_words (hwords : ∀ d ∈ ds.entries, ∃ cs, d = .ofWords d.kind (words cs)) :
    ds.Worded where
  nodup := ds.nodup
  isWord k hk v hv := by
    -- a kind has no values, or those of one directive
    rcases values_eq_of_words hwords k with h | ⟨cs, h⟩
    · exact absurd (h ▸ hv) List.not_mem_nil
    · rw [h, Directive.values_ofWords, if_pos hk] at hv
      obtain ⟨w, hw, rfl⟩ := List.mem_map.1 hv
      exact isWord_of_mem_words hw
  length_le k hk := by
    rcases values_eq_of_words hwords k with h | ⟨cs, h⟩
    · rw [h]
      exact Nat.zero_le 1
    · rw [h, Directive.values_ofWords, if_neg (Bool.eq_false_iff.1 hk)]
      split <;> simp
  isWorded k hk v hv := by
    rcases values_eq_of_words hwords k with h | ⟨cs, h⟩
    · exact absurd (h ▸ hv) List.not_mem_nil
    · rw [h, Directive.values_ofWords, if_neg (Bool.eq_false_iff.1 hk)] at hv
      split at hv
      · exact absurd hv List.not_mem_nil
      · rename_i hne
        obtain rfl := List.mem_singleton.1 hv
        -- without words the text would be empty
        exact ⟨hne, isWorded_unwords fun hnil => hne (by rw [hnil]; rfl)⟩

/-- What a text declares, if it is read. -/
theorem worded_of_read {path : Path} {text : List Char} (h : read path text = .ok ds) : ds.Worded :=
  worded_of_words fun _ hd => exists_words_of_read h hd

end DirectiveSet

/-! ### Plans -/

section Plan

variable {t : Tree} {project : Path} {config : Config} {p : BuildPlan} {x : Target}

/-- The answer is what the directives are. -/
theorem result_eq_ok_of_answered {directivesOf : SourceFile → Logged DirectiveSet}
    {files : List SourceFile} (h : Answered directivesOf files) {f : SourceFile} (hf : f ∈ files) :
    (directivesOf f).result = .ok (answer (directivesOf f)) := by
  obtain ⟨ds, hds⟩ := h f hf
  rw [answer, hds]

/-- **All sources of a plan have been read** for their directives. -/
theorem answered_of_mem_targets (h : (t.plan project config).result = .ok p) (hx : x ∈ p.targets) :
    Answered t.directivesOf x.files := by
  obtain ⟨-, -, harchives, ms, hms, hmodules⟩ := Tree.plan_eq_ok_iff.1 h
  rcases List.mem_append.1 hx with hx | hx
  · exact (unlinked_of_targetsOf harchives hx).2.1
  · obtain ⟨y, hy, rfl⟩ := List.mem_map.1 (hmodules ▸ hx)
    rw [Target.files_link]
    exact (unlinked_of_targetsOf hms hy).2.1

/-- **Directives bring no line break into a plan.** What is read of a text is worded; and for every
source of a plan what its directives say of its own flags, and what they say of the link flags of
its target, has no line break. -/
theorem plan_lacks_line_breaks :
    (∀ path text ds, DirectiveSet.read path text = .ok ds →
      ds.entries = (declarations text).map Prod.snd ∧ ds.Worded) ∧
    ∀ (t : Tree) project config p, (t.plan project config).result = .ok p → ∀ x ∈ p.targets,
      ∀ s ∈ x.sources,
      ∃ ds, (t.directivesAt s.file.path).result = .ok ds ∧ s.flags = .ofDirectives ds ∧ ds.Worded ∧
        (∀ y ∈ s.flags.overrides, Lacks isLineBreak (" ".intercalate y.2)) ∧
        ∀ v ∈ ds.values .ldflags, v ∈ x.ldflags ∧ Lacks isLineBreak v := by
  refine ⟨fun path text ds h => ?_, fun t project config p h x hx s hs => ?_⟩
  · exact ⟨(DirectiveSet.read_eq_ok_iff.1 h).2, DirectiveSet.worded_of_read h⟩
  · have hfile : s.file ∈ x.files := List.mem_map_of_mem hs
    have hread := result_eq_ok_of_answered (answered_of_mem_targets h hx) hfile
    obtain ⟨_, _, _, _, ho⟩ := Tree.exists_originates_of_plan h (List.mem_flatMap.2 ⟨x, hx, hs⟩)
    -- the directives of a source are worded, since they have been read from a text
    have hworded : (answer (t.directivesAt s.file.path)).Worded :=
      DirectiveSet.worded_of_words fun _ hd => exists_words_of_mem_directivesAt t s.file.path hd
    refine ⟨_, hread, ho.flags_eq, hworded, fun y hy => ?_, fun v hv => ?_⟩
    · obtain ⟨k, hk, hvalues⟩ := FileFlags.exists_kind_of_mem_overrides (ho.flags_eq ▸ hy)
      rw [hvalues]
      exact lacks_intercalate (by decide) fun v hv =>
        (hworded.isWorded k hk v hv).2.lacks_isLineBreak
    · have hbrought :
          v ∈ Target.broughtFlags config.runtime (s.file, answer (t.directivesOf s.file)) :=
        List.mem_append_left _ hv
      exact ⟨mem_ldflags_of_mem_broughtFlags h hx hs hbrought,
        (hworded.isWord .ldflags rfl v hv).lacks_isLineBreak⟩

end Plan

/-! ### A source with line breaks inside of values -/

namespace OddBreaks

/-- A vertical tab, a form feed and a carriage return are no ends of lines to the reader. -/
def text : List Char := "// @cflags: -O2\x0b-g\n// @ldflags: -lm\x0c-lz\r\n".toList

/-- What is read from it. -/
def directives : DirectiveSet := ⟨[.cflags "-O2 -g", .ldflags ["-lm", "-lz"]], by decide⟩

def tree : Tree where
  entries := [([SmallProject.src], .dir),
    ([SmallProject.src, SmallProject.app], .file (Utf8.encode text) 0o644)]
  ascending := by
    unfold Ascending
    decide_cbv
  closed := SmallProject.closed_of_dropLast (by decide_cbv)

/-- Its plan. -/
def plan : BuildPlan where
  archives := []
  modules :=
    [⟨.module, "app",
      [⟨⟨.ofString "./src/app.c", "src/app.c", "app", "c"⟩, .ofDirectives directives⟩], .plain,
      ["-lm", "-lz"], [], []⟩]

theorem read_text : DirectiveSet.read (.ofString "./src/app.c") text = .ok directives := by cbv

theorem plan_eq : (tree.plan (.ofString ".") .default).result = .ok plan := by cbv

end OddBreaks

/-- A source whose value is broken in odd ways: none of the breaks is left. -/
theorem oddBreaks_lacks_line_breaks :
    DirectiveSet.read (.ofString "./src/app.c") OddBreaks.text = .ok OddBreaks.directives ∧
      OddBreaks.directives.Worded ∧
      (OddBreaks.tree.plan (.ofString ".") .default).result = .ok OddBreaks.plan ∧
      ∀ x ∈ OddBreaks.plan.targets, ∀ s ∈ x.sources, ∀ y ∈ s.flags.overrides,
        Lacks isLineBreak (" ".intercalate y.2) := by
  obtain ⟨hread, hplan⟩ := plan_lacks_line_breaks
  refine ⟨OddBreaks.read_text, (hread _ _ _ OddBreaks.read_text).2, OddBreaks.plan_eq,
    fun x hx s hs => ?_⟩
  obtain ⟨-, -, -, -, hflags, -⟩ := hplan _ _ _ _ OddBreaks.plan_eq x hx s hs
  exact hflags

end NativeBuild
