import NativeBuild.Proofs.Padding

/-!
# Lines may be spaced otherwise

The reader of directives sees each line without the blanks around it, and a blank line says nothing
to it. So it does not matter how the lines of a text are spaced:

* blanks other than line feeds may be added or taken away at both ends of any line (`Respaced`), and
  a line feed may have a carriage return before it (`withReturns`);
* a blank line may be put in anywhere (`insertLine`), also within a block and behind the code. It
  counts as a line, so a complaint about a line from there on names the next number.

`DirectiveSet.read_respaced` says so. A text is cut at its line feeds here, by `List.splitOn`, which
unlike `Text.lines` also counts what follows a line feed at the very end; what follows it is blank,
so nothing is declared there (`declarations_eq`).

What a line adds to the declarations is one list whatever follows it
(`exists_declarationsFrom_cons`), and so declarations of lines that come one after the other are put
together: those behind the code are none, and those before it go on from the state that the lines
before leave (`declarationsFrom_append_of_inWindow`, `declarationsFrom_append_of_not_inWindow`).
-/

namespace NativeBuild

open Text

/-! ### Declarations with the numbers of their lines -/

/-- The **declarations of lines**, with the numbers of these; `n` is the number of the first one,
and `b` says whether a block is open before it. -/
def declarationsFrom (b : Bool) (n : Nat) (ls : List (List Char)) : List (Nat × Directive) :=
  (commentLinesFrom b n ls).filterMap fun x => (Directive.ofLine? x.2).map fun d => (x.1, d)

section Lines

variable {b : Bool} {n : Nat} {raw : List Char} {ls ls' rest : List (List Char)}

theorem declarationsFrom_nil (b : Bool) (n : Nat) : declarationsFrom b n [] = [] := rfl

/-- From a line of code on nothing is declared. -/
theorem declarationsFrom_cons_of_isCode (h : IsCode (trim raw)) :
    declarationsFrom false n (raw :: rest) = [] := by
  rcases role_cases false (trim raw) with ⟨-, hnot, -⟩ | ⟨-, -, hnot, -⟩ | ⟨hrole, -⟩
  · exact absurd ⟨rfl, h⟩ hnot
  · exact absurd ⟨rfl, h⟩ hnot
  · rw [declarationsFrom, commentLinesFrom, hrole]
    rfl

/-- **What a line adds** that is no code: some declarations, with its number, and it changes the
block state. -/
theorem exists_declarationsFrom_cons (h : ¬ (b = false ∧ IsCode (trim raw))) :
    ∃ ds : List Directive, ∀ n rest, declarationsFrom b n (raw :: rest) =
      ds.map (fun d => (n, d)) ++ declarationsFrom (blockAfter b (trim raw)) (n + 1) rest := by
  rcases role_cases b (trim raw) with ⟨hrole, -, -⟩ | ⟨hrole, hafter, -, -⟩ | ⟨-, hcode⟩
  · -- a comment declares what stands on it
    refine ⟨(Directive.ofLine? (trim raw)).toList, fun n rest => ?_⟩
    rw [declarationsFrom, commentLinesFrom, hrole]
    dsimp only
    rw [List.filterMap_cons]
    cases Directive.ofLine? (trim raw) <;> rfl
  · -- a neutral line adds nothing
    refine ⟨[], fun n rest => ?_⟩
    rw [declarationsFrom, commentLinesFrom, hrole, hafter]
    rfl
  · exact absurd hcode h

/-- A **blank line** adds nothing, in a block or outside. -/
theorem declarationsFrom_cons_of_blank (h : ∀ c ∈ raw, isBlank c = true) :
    declarationsFrom b n (raw :: rest) = declarationsFrom b (n + 1) rest := by
  rw [declarationsFrom, commentLinesFrom, trim_eq_nil h]
  cases b <;> rfl

/-- The number of the first line is counted from. -/
theorem declarationsFrom_succ (b : Bool) (n : Nat) (ls : List (List Char)) :
    declarationsFrom b (n + 1) ls = (declarationsFrom b n ls).map fun x => (x.1 + 1, x.2) := by
  induction ls generalizing b n with
  | nil => rfl
  | cons raw rest ih =>
    by_cases hcode : b = false ∧ IsCode (trim raw)
    · obtain ⟨rfl, hcode⟩ := hcode
      rw [declarationsFrom_cons_of_isCode hcode, declarationsFrom_cons_of_isCode hcode,
        List.map_nil]
    · obtain ⟨ds, hds⟩ := exists_declarationsFrom_cons hcode
      rw [hds, hds, ih, List.map_append, List.map_map]
      rfl

/-- **The blanks around lines** do not matter. -/
theorem declarationsFrom_congr (h : ls.map trim = ls'.map trim) :
    declarationsFrom b n ls = declarationsFrom b n ls' := by
  have hread : commentLinesFrom b n ls = commentLinesFrom b n ls' := by
    -- both readers go through the same trimmed lines
    induction ls generalizing ls' b n with
    | nil => rw [List.map_eq_nil_iff.1 h.symm]
    | cons raw rest ih =>
      obtain ⟨raw', rest', rfl, hraw, hrest⟩ := List.map_eq_cons_iff.1 h.symm
      rw [commentLinesFrom, commentLinesFrom, hraw]
      cases LineRole.of b (trim raw) with
      | comment b' => exact congrArg _ (ih hrest.symm)
      | neutral => exact ih hrest.symm
      | code => rfl
  rw [declarationsFrom, hread, declarationsFrom]

/-- Declarations are numbered from that of the first line on, and no further than there are
lines. -/
theorem bounds_of_mem_declarationsFrom {x : Nat × Directive} (h : x ∈ declarationsFrom b n ls) :
    n ≤ x.1 ∧ x.1 < n + ls.length := by
  obtain ⟨⟨m, line⟩, hread, hx⟩ := List.mem_filterMap.1 h
  obtain ⟨d, -, rfl⟩ := Option.map_eq_some_iff.1 hx
  obtain ⟨i, rfl, -, hline, -⟩ := mem_commentLinesFrom_iff.1 hread
  have hi : i < ls.length := by
    have hlt := (List.getElem?_eq_some_iff.1 hline).1
    rwa [List.length_map] at hlt
  exact ⟨Nat.le_add_right n i, Nat.add_lt_add_left hi n⟩

/-! ### Lines that come one after the other -/

/-- **Before the code** lines declare what they declare, and those behind go on from the state in
which they leave the reader. -/
theorem declarationsFrom_append_of_inWindow (h : InWindow b (ls.map trim) ls.length)
    (rest : List (List Char)) :
    declarationsFrom b n (ls ++ rest) = declarationsFrom b n ls ++
      declarationsFrom (inBlock b (ls.map trim) ls.length) (n + ls.length) rest := by
  -- on the lines; the state before the first of them and its number change on the way
  induction ls generalizing b n with
  | nil => rfl
  | cons raw ls ih =>
    rw [List.map_cons, List.length_cons, inWindow_succ] at h
    obtain ⟨ds, hds⟩ := exists_declarationsFrom_cons h.1
    have hstate : inBlock b ((raw :: ls).map trim) (raw :: ls).length =
        inBlock (blockAfter b (trim raw)) (ls.map trim) ls.length := rfl
    rw [List.cons_append, hds, hds, ih h.2, hstate, List.append_assoc, List.length_cons]
    congr 3
    omega

/-- **Behind the code** nothing is declared. -/
theorem declarationsFrom_append_of_not_inWindow (h : ¬ InWindow b (ls.map trim) ls.length)
    (rest : List (List Char)) :
    declarationsFrom b n (ls ++ rest) = declarationsFrom b n ls := by
  -- on the lines, up to the first that is code
  induction ls generalizing b n with
  | nil =>
    -- before any line there is no code
    refine absurd (fun j hj line hline => ?_) h
    exact absurd hline (by simp)
  | cons raw ls ih =>
    by_cases hcode : b = false ∧ IsCode (trim raw)
    · obtain ⟨rfl, hcode⟩ := hcode
      rw [List.cons_append, declarationsFrom_cons_of_isCode hcode,
        declarationsFrom_cons_of_isCode hcode]
    · rw [List.map_cons, List.length_cons, inWindow_succ, and_iff_right hcode] at h
      obtain ⟨ds, hds⟩ := exists_declarationsFrom_cons hcode
      rw [List.cons_append, hds, hds, ih h]

/-- A blank line at the end adds nothing. -/
theorem declarationsFrom_append_blank (h : ∀ c ∈ raw, isBlank c = true) :
    declarationsFrom b n (ls ++ [raw]) = declarationsFrom b n ls := by
  by_cases hwindow : InWindow b (ls.map trim) ls.length
  · rw [declarationsFrom_append_of_inWindow hwindow, declarationsFrom_cons_of_blank h,
      declarationsFrom_nil, List.append_nil]
  · exact declarationsFrom_append_of_not_inWindow hwindow [raw]

/-- The number of a line when a line has been put in before the line `k`. -/
def renumber (k m : Nat) : Nat := if k ≤ m then m + 1 else m

/-- **A blank line between two lines** shifts the numbers of what comes behind it. -/
theorem declarationsFrom_insert_blank (h : ∀ c ∈ raw, isBlank c = true) :
    declarationsFrom b n (ls ++ raw :: rest) =
      (declarationsFrom b n (ls ++ rest)).map (Prod.map (renumber (n + ls.length)) id) := by
  have hfront : (declarationsFrom b n ls).map (Prod.map (renumber (n + ls.length)) id) =
      declarationsFrom b n ls := by
    refine (List.map_congr_left fun x hx => ?_).trans (List.map_id _)
    have hlt := (bounds_of_mem_declarationsFrom hx).2
    rw [Prod.map, renumber, if_neg (by omega)]
    rfl
  by_cases hwindow : InWindow b (ls.map trim) ls.length
  · -- behind the blank line all numbers go up by one
    have hback : ∀ b',
        (declarationsFrom b' (n + ls.length) rest).map (Prod.map (renumber (n + ls.length)) id) =
        declarationsFrom b' (n + ls.length + 1) rest := by
      intro b'
      rw [declarationsFrom_succ]
      refine List.map_congr_left fun x hx => ?_
      rw [Prod.map, renumber, if_pos (bounds_of_mem_declarationsFrom hx).1]
      rfl
    rw [declarationsFrom_append_of_inWindow hwindow, declarationsFrom_append_of_inWindow hwindow,
      declarationsFrom_cons_of_blank h, List.map_append, hfront, hback]
  · rw [declarationsFrom_append_of_not_inWindow hwindow,
      declarationsFrom_append_of_not_inWindow hwindow, hfront]

end Lines

/-! ### Texts cut at their line feeds -/

section Cut

variable {text text' : List Char}

/-- What is behind the last line feed counts as a line here, also if nothing is. -/
theorem splitOn_eq_lines (text : List Char) :
    text.splitOn '\n' = lines text ∨ text.splitOn '\n' = lines text ++ [[]] := by
  -- on the text; the two cuts differ in the empty line at the end, if there is one
  induction text with
  | nil => exact .inr rfl
  | cons c text ih =>
    rw [List.splitOn_cons_eq_if_modifyHead, lines]
    by_cases hc : c = '\n'
    · rw [if_pos (beq_iff_eq.2 hc), if_pos hc]
      exact ih.imp (congrArg _) (congrArg _)
    · rw [if_neg (by simpa using hc), if_neg hc]
      rcases ih with ih | ih
      · rw [ih]
        cases hlines : lines text with
        | nil => exact absurd (ih.trans hlines) (List.splitOn_ne_nil _ _)
        | cons l ls => exact .inl rfl
      · rw [ih]
        cases lines text with
        | nil => exact .inl rfl
        | cons l ls => exact .inr rfl

/-- **The declarations of a text** are those of what it is cut into at line feeds. -/
theorem declarations_eq (text : List Char) :
    declarations text = declarationsFrom false 1 (text.splitOn '\n') := by
  have hlines : declarations text = declarationsFrom false 1 (lines text) := rfl
  rcases splitOn_eq_lines text with h | h
  · rw [hlines, h]
  · rw [hlines, h, declarationsFrom_append_blank (by simp)]

/-! ### Texts spaced otherwise -/

/-- A line is **spaced otherwise** if it is the same between blanks at its ends. -/
inductive LineRespaced : List Char → List Char → Prop where
  | intro {front back front' back' : List Char} (inside : List Char)
      (hfront : ∀ c ∈ front, isBlank c = true) (hback : ∀ c ∈ back, isBlank c = true)
      (hfront' : ∀ c ∈ front', isBlank c = true) (hback' : ∀ c ∈ back', isBlank c = true) :
      LineRespaced (front ++ inside ++ back) (front' ++ inside ++ back')

/-- A text is **spaced otherwise** if its lines are, one by one. -/
def Respaced (text text' : List Char) : Prop :=
  List.Forall₂ LineRespaced (text.splitOn '\n') (text'.splitOn '\n')

/-- The text with a **carriage return** before each line feed. -/
def withReturns (text : List Char) : List Char :=
  text.flatMap fun c => if c = '\n' then ['\r', '\n'] else [c]

/-- The text with a line **put in** before that of the number `n`; lines count from one. -/
def insertLine (n : Nat) (line text : List Char) : List Char :=
  ['\n'].intercalate ((text.splitOn '\n').take (n - 1) ++ line :: (text.splitOn '\n').drop (n - 1))

/-- A line is trimmed to the same text. -/
theorem LineRespaced.trim_eq {line line' : List Char} (h : LineRespaced line line') :
    trim line = trim line' := by
  obtain ⟨inside, hfront, hback, hfront', hback'⟩ := h
  rw [trim_append_right _ hback, trim_append_left hfront, trim_append_right _ hback',
    trim_append_left hfront']

/-- **Blanks at the ends of lines do not matter.** -/
theorem Respaced.declarations_eq (h : Respaced text text') :
    declarations text = declarations text' := by
  have htrim : (text.splitOn '\n').map trim = (text'.splitOn '\n').map trim := by
    refine List.forall₂_eq_eq_eq ▸ ?_
    rw [List.forall₂_map_left_iff, List.forall₂_map_right_iff]
    exact h.imp fun _ _ => LineRespaced.trim_eq
  rw [NativeBuild.declarations_eq, declarationsFrom_congr htrim, ← NativeBuild.declarations_eq]

/-- Carriage returns come to stand at the ends of lines. -/
theorem splitOn_withReturns (text : List Char) :
    List.Forall₂ (fun line line' => line' = line ∨ line' = line ++ ['\r'])
    (text.splitOn '\n') ((withReturns text).splitOn '\n') := by
  -- on the text; a line feed ends a line in both, with a carriage return in front of it in one
  induction text with
  | nil => exact .cons (.inl rfl) .nil
  | cons c text ih =>
    rw [withReturns, List.flatMap_cons, ← withReturns]
    by_cases hc : c = '\n'
    · have hsplit : (['\r', '\n'] ++ withReturns text).splitOn '\n' = ['\r'] ::
          (withReturns text).splitOn '\n' :=
        List.splitOn_append_cons_self ['\r'] (withReturns text)
      rw [if_pos hc, hsplit, List.splitOn_cons_eq_if_modifyHead, if_pos (beq_iff_eq.2 hc)]
      exact .cons (.inr rfl) ih
    · have hc' : ¬ (c == '\n') = true := by simpa using hc
      rw [if_neg hc, List.singleton_append, List.splitOn_cons_eq_if_modifyHead,
        List.splitOn_cons_eq_if_modifyHead, if_neg hc', if_neg hc']
      -- the character goes to the first line of either text
      generalize text.splitOn '\n' = ls at ih
      generalize (withReturns text).splitOn '\n' = ls' at ih
      cases ih with
      | nil => exact .nil
      | cons hline hrest => exact .cons (hline.imp (congrArg _) (congrArg _)) hrest

/-- Carriage returns are such blanks. -/
theorem respaced_withReturns (text : List Char) : Respaced text (withReturns text) := by
  have hself : ∀ line back : List Char, (∀ c ∈ back, isBlank c = true) →
      LineRespaced line (line ++ back) := by
    intro line back hback
    have hspaced := @LineRespaced.intro [] [] [] back line (by simp) (by simp) (by simp) hback
    simpa using hspaced
  refine (splitOn_withReturns text).imp fun line line' hline => ?_
  rcases hline with rfl | rfl
  · simpa using hself line' [] (by simp)
  · exact hself line ['\r'] (by simp [isBlank])

/-- No piece between line feeds has one in it. -/
theorem newline_notMem_of_mem_splitOn {line : List Char} (h : line ∈ text.splitOn '\n') :
    '\n' ∉ line := by
  rcases splitOn_eq_lines text with hlines | hlines
  · exact newline_notMem_of_mem_lines (hlines ▸ h)
  · rw [hlines, List.mem_append, List.mem_singleton] at h
    rcases h with h | rfl
    · exact newline_notMem_of_mem_lines h
    · exact List.not_mem_nil

/-- **A blank line that is put in** shifts the numbers from there on. -/
theorem declarations_insertLine {n : Nat} {line : List Char} (hblank : ∀ c ∈ line, isBlank c = true)
    (hline : '\n' ∉ line) : declarations (insertLine n line text) =
      (declarations text).map (Prod.map (renumber n) id) := by
  -- the text is cut at the place of the new line
  have hcut : (insertLine n line text).splitOn '\n' =
      (text.splitOn '\n').take (n - 1) ++ line :: (text.splitOn '\n').drop (n - 1) := by
    refine List.splitOn_intercalate '\n' (fun l hl => ?_) (by simp)
    rcases List.mem_append.1 hl with hl | hl
    · exact newline_notMem_of_mem_splitOn (List.mem_of_mem_take hl)
    · rcases List.mem_cons.1 hl with rfl | hl
      · exact hline
      · exact newline_notMem_of_mem_splitOn (List.mem_of_mem_drop hl)
  rw [declarations_eq, declarations_eq, hcut, declarationsFrom_insert_blank hblank,
    List.take_append_drop, List.length_take]
  -- the number is that of a line of the text, or there is none with this number or a later one
  refine List.map_congr_left fun x hx => ?_
  obtain ⟨hle, hlt⟩ := bounds_of_mem_declarationsFrom hx
  have hnumber : renumber (1 + min (n - 1) (text.splitOn '\n').length) x.1 = renumber n x.1 := by
    unfold renumber
    split <;> split <;> omega
  rw [Prod.map, Prod.map, hnumber]

end Cut

/-! ### What is read -/

namespace DirectiveSet

/-- Numbers go through to the complaint. -/
theorem addAll_map (f : Nat → Nat) (s : DirectiveSet) (ds : List (Nat × Directive)) :
    s.addAll (ds.map (Prod.map f id)) = (s.addAll ds).mapError fun r => ⟨f r.line, r.kind⟩ := by
  induction ds generalizing s with
  | nil => rfl
  | cons x ds ih =>
    obtain ⟨n, d⟩ := x
    rw [List.map_cons, Prod.map, addAll, addAll]
    dsimp only [id]
    split
    · exact ih _
    · rfl

/-- **The answer of the reader** depends on the declarations alone; when their numbers change, so
does that of the line that a complaint names. -/
theorem read_of_declarations_eq {text text' : List Char} {f : Nat → Nat}
    (h : declarations text' = (declarations text).map (Prod.map f id)) (path : Path) :
    (∀ s, read path text = .ok s → read path text' = .ok s) ∧
      ∀ e, read path text = .error e → ∃ k kind, e = .duplicateDirective path k kind ∧
        read path text' = .error (.duplicateDirective path (f k) kind) := by
  rw [read, read, ofText, ofText, h, addAll_map]
  cases empty.addAll (declarations text) with
  | ok s =>
    refine ⟨fun s' hs => hs, fun e he => ?_⟩
    exact absurd he (by simp)
  | error r =>
    refine ⟨fun s hs => absurd hs (by simp), ?_⟩
    rintro e ⟨⟩
    exact ⟨r.line, r.kind, rfl, rfl⟩

/-- **How lines are spaced does not matter.** The reader gives the same answer if line feeds become
carriage returns with line feeds, or if blanks are added or taken away at the ends of lines. If a
blank line is put in, it reads the same directives, and of a complaint only the number of the line
changes, if that is behind. -/
theorem read_respaced (path : Path) (text : List Char) :
    read path (withReturns text) = read path text ∧
    (∀ text', Respaced text text' → read path text' = read path text) ∧
    ∀ n line, (∀ c ∈ line, isBlank c = true) → '\n' ∉ line →
      (∀ s, read path text = .ok s → read path (insertLine n line text) = .ok s) ∧
      ∀ e, read path text = .error e → ∃ k kind, e = .duplicateDirective path k kind ∧
        read path (insertLine n line text) =
          .error (.duplicateDirective path (if n ≤ k then k + 1 else k) kind) := by
  have hrespaced : ∀ text', Respaced text text' → read path text' = read path text := by
    intro text' h
    rw [read, read, ofText, ofText, h.declarations_eq]
  refine ⟨hrespaced _ (respaced_withReturns text), hrespaced, fun n line hblank hline => ?_⟩
  exact read_of_declarations_eq (declarations_insertLine hblank hline) path

/-- A file that declares flags in a block, and again behind it. -/
def repeatedFlags : List Char := "/* @cflags: -O2\n*/\n// @CFlags: -g\n".toList

/-- The same file, indented, with a carriage return and other blanks at the ends of its lines. -/
def repeatedFlagsRespaced : List Char := "\t/* @cflags: -O2\r\n  */\x0b\n// @CFlags: -g \n  ".toList

/-- However it is spaced the complaint is about the third line, which is the fourth behind a blank
line in the block. -/
theorem repeatedFlags_respaced : Respaced repeatedFlags repeatedFlagsRespaced ∧
    read (.ofString "a.c") repeatedFlagsRespaced =
      .error (.duplicateDirective (.ofString "a.c") 3 .cflags) ∧
    read (.ofString "a.c") (insertLine 2 "\t\r".toList repeatedFlags) =
      .error (.duplicateDirective (.ofString "a.c") 4 .cflags) ∧
    read (.ofString "a.c") (insertLine 4 "\t\r".toList repeatedFlags) =
      .error (.duplicateDirective (.ofString "a.c") 3 .cflags) := by
  obtain ⟨-, hrespaced, hinsert⟩ := read_respaced (.ofString "a.c") repeatedFlags
  have hread :
      read (.ofString "a.c") repeatedFlags =
        .error (.duplicateDirective (.ofString "a.c") 3 .cflags) := by
    have hdeclared : declarations repeatedFlags = [(1, .cflags "-O2"), (3, .cflags "-g")] := by
      decide +kernel
    rw [read, ofText, hdeclared]
    rfl
  have hspaced : Respaced repeatedFlags repeatedFlagsRespaced := by
    have hcut : repeatedFlags.splitOn '\n' =
        [[] ++ "/* @cflags: -O2".toList ++ [], [] ++ "*/".toList ++ [],
          [] ++ "// @CFlags: -g".toList ++ [], [] ++ [] ++ []] := by decide +kernel
    have hcut' : repeatedFlagsRespaced.splitOn '\n' =
        ["\t".toList ++ "/* @cflags: -O2".toList ++ "\r".toList,
          "  ".toList ++ "*/".toList ++ "\x0b".toList, [] ++ "// @CFlags: -g".toList ++ " ".toList,
          "  ".toList ++ [] ++ []] := by decide +kernel
    rw [Respaced, hcut, hcut']
    refine .cons ?_ (.cons ?_ (.cons ?_ (.cons ?_ .nil)))
    all_goals
      exact .intro _ (by simp [isBlank]) (by simp [isBlank]) (by simp [isBlank])
        (by simp [isBlank])
  have hblank : ∀ c ∈ "\t\r".toList, isBlank c = true := by simp [isBlank]
  refine ⟨hspaced, by rw [hrespaced _ hspaced, hread], ?_, ?_⟩
  · obtain ⟨k, kind, heq, hread'⟩ := (hinsert 2 _ hblank (by decide)).2 _ hread
    obtain ⟨-, rfl, rfl⟩ := BuildError.duplicateDirective.inj heq
    exact hread'
  · obtain ⟨k, kind, heq, hread'⟩ := (hinsert 4 _ hblank (by decide)).2 _ hread
    obtain ⟨-, rfl, rfl⟩ := BuildError.duplicateDirective.inj heq
    exact hread'

end DirectiveSet

end NativeBuild
