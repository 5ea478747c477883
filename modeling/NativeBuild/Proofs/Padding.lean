import NativeBuild.Proofs.Comments
import NativeBuild.Proofs.Eligible
import NativeBuild.Proofs.Lines
import NativeBuild.Proofs.Paths

/-!
# What surrounds a declaration

On a line of a comment a declaration stands between the marks of the comment and blanks. The reader
cuts off the blanks at the ends, looks for `*/` and finds the leftmost `@word:` in what is left;
here that is said of the line as it was written:

* blanks at either end change neither the words of a text nor whether it holds a `*/`
  (`words_append_blanks`, `staysOpen_trim`);
* a `*/` behind a value is none of its words (`valueWords_append_end`);
* what stands in front of a declaration is passed over if it has no `@`, and blanks behind the line
  belong to the value (`declaration?_append_left`, `declaration?_append_right`);
* so a line declares the same with the blanks around it as without (`Directive.ofLine?_trim`).

`declaredIn` is the reader without the numbers of the lines: each line adds the directive that it
declares, as it was written, and what a few lines declare can be told before it is known what
follows them (`Declare`).
-/

namespace NativeBuild

namespace Text

/-! ### Blanks at the ends of a text -/

section Blanks

variable {l r : List Char}

/-- Blanks in front are trimmed off. -/
theorem trim_append_left (hl : ∀ c ∈ l, isBlank c = true) (cs : List Char) :
    trim (l ++ cs) = trim cs := by
  rw [trim, trimStart, List.dropWhile_append_of_pos hl]
  rfl

theorem trimEnd_append_right (cs : List Char) (hr : ∀ c ∈ r, isBlank c = true) :
    trimEnd (cs ++ r) = trimEnd cs := by
  induction cs with
  | nil => rw [List.nil_append, trimEnd_eq_nil_iff.2 hr, trimEnd]
  | cons c cs ih => rw [List.cons_append, trimEnd_cons, trimEnd_cons, ih]

/-- A text that begins with no blank is trimmed at its end. -/
theorem trim_cons_of_not_blank {c : Char} (hc : isBlank c = false) (cs : List Char) :
    trim (c :: cs) = c :: trimEnd cs := by
  rw [trim, trimStart, List.dropWhile_cons_of_neg (by simp [hc]), trimEnd_cons_of_not_blank hc]

/-- And so are blanks at the end. -/
theorem trim_append_right (cs : List Char) (hr : ∀ c ∈ r, isBlank c = true) :
    trim (cs ++ r) = trim cs := by
  -- blanks are passed over until the first character that is none; from there on the end alone is
  -- trimmed
  induction cs with
  | nil =>
    have hnil := trim_append_left hr []
    rwa [List.append_nil] at hnil
  | cons c cs ih =>
    by_cases hc : isBlank c = true
    · have hblank : ∀ x ∈ [c], isBlank x = true := List.forall_mem_singleton.2 hc
      have hskip := fun cs => trim_append_left hblank cs
      rw [← List.singleton_append, List.append_assoc, hskip, hskip, ih]
    · have hc : isBlank c = false := Bool.eq_false_iff.2 hc
      rw [List.cons_append, trim_cons_of_not_blank hc, trim_cons_of_not_blank hc,
        trimEnd_append_right cs hr]

/-- Of blanks nothing is left. -/
theorem trim_eq_nil (hl : ∀ c ∈ l, isBlank c = true) : trim l = [] := by
  have hnil := trim_append_left hl []
  rwa [List.append_nil] at hnil

/-- Blanks in front make no word. -/
theorem words_append_left (hl : ∀ c ∈ l, isBlank c = true) (cs : List Char) :
    words (l ++ cs) = words cs := by
  induction l with
  | nil => rfl
  | cons c l ih =>
    rw [List.forall_mem_cons] at hl
    rw [List.cons_append, words, runs_cons_sep hl.1]
    exact ih hl.2

/-- A **gap** sets words apart. -/
theorem words_append_gap (cs : List Char) {gap : List Char} (hne : gap ≠ [])
    (hgap : ∀ c ∈ gap, isBlank c = true)
    (more : List Char) : words (cs ++ (gap ++ more)) = words cs ++ words more := by
  obtain ⟨c, gap, rfl⟩ := List.exists_cons_of_ne_nil hne
  rw [List.forall_mem_cons] at hgap
  have hmore : words (gap ++ more) = words more := words_append_left hgap.2 more
  rw [List.cons_append, words, runs_append_sep hgap.1]
  exact congrArg (words cs ++ ·) hmore

/-- Nor do blanks at the end. -/
theorem words_append_right (cs : List Char) (hr : ∀ c ∈ r, isBlank c = true) :
    words (cs ++ r) = words cs := by
  by_cases hne : r = []
  · rw [hne, List.append_nil]
  · have hgap := words_append_gap cs hne hr []
    rwa [List.append_nil, show words [] = [] from rfl, List.append_nil] at hgap

/-- **Blanks around a text** do not matter to its words. -/
theorem words_append_blanks (hl : ∀ c ∈ l, isBlank c = true) (cs : List Char)
    (hr : ∀ c ∈ r, isBlank c = true) :
    words (l ++ cs ++ r) = words cs := by
  rw [words_append_right _ hr, words_append_left hl]

/-- Trimming keeps the words. -/
theorem words_trim (cs : List Char) : words (trim cs) = words cs := by
  obtain ⟨l, r, heq, hl, hr⟩ := exists_trim cs
  conv_rhs => rw [heq]
  exact (words_append_blanks hl (trim cs) hr).symm

end Blanks

/-! ### The end of a block -/

section Ends

variable {l r : List Char}

/-- Two characters that stand in a row stand on one side of any third. -/
theorem pair_infix_append_cons_iff {α : Type} {a b c : α} {l r : List α} (ha : c ≠ a) (hb : c ≠ b) :
    [a, b] <:+: l ++ c :: r ↔ [a, b] <:+: l ∨ [a, b] <:+: r := by
  induction l with
  | nil => simp [List.infix_cons_iff, Ne.symm ha]
  | cons x l ih =>
    -- whether they stand at the beginning is seen in front of the third
    have hfront : [a, b] <+: x :: (l ++ c :: r) ↔ [a, b] <+: x :: l := by
      cases l with
      | nil => simp [Ne.symm hb]
      | cons y l => simp
    -- and further on it is the same for what is left
    rw [List.cons_append, List.infix_cons_iff, List.infix_cons_iff, hfront, ih, or_assoc]

/-- A blank is none of the characters that are not blank. -/
theorem ne_of_blank {c : Char} (hc : isBlank c = true) {d : Char} (hd : isBlank d = false) :
    c ≠ d := by
  rintro rfl
  exact Bool.false_ne_true (hd.symm.trans hc)

/-- A `*/` is not set apart by blanks. -/
theorem end_infix_append_gap_iff {cs gap more : List Char} (hne : gap ≠ [])
    (hgap : ∀ c ∈ gap, isBlank c = true) :
    ['*', '/'] <:+: cs ++ (gap ++ more) ↔ ['*', '/'] <:+: cs ∨ ['*', '/'] <:+: more := by
  -- on the gap, which keeps what is in front of it apart from what is behind
  induction gap generalizing cs with
  | nil => exact absurd rfl hne
  | cons c gap ih =>
    rw [List.forall_mem_cons] at hgap
    rw [List.cons_append,
      pair_infix_append_cons_iff (ne_of_blank hgap.1 (by decide)) (ne_of_blank hgap.1 (by decide))]
    refine or_congr_right ?_
    -- what is left of the gap may be nothing
    by_cases hnil : gap = []
    · rw [hnil, List.nil_append]
    · have hrest := @ih [] hnil hgap.2
      rw [List.nil_append] at hrest
      rw [hrest, or_iff_right (by simp)]

/-- Blanks do not end a block. -/
theorem end_infix_append_left (hl : ∀ c ∈ l, isBlank c = true) (cs : List Char) :
    ['*', '/'] <:+: l ++ cs ↔ ['*', '/'] <:+: cs := by
  by_cases hne : l = []
  · rw [hne, List.nil_append]
  · have hgap := @end_infix_append_gap_iff [] l cs hne hl
    rwa [List.nil_append, or_iff_right (by simp)] at hgap

/-- They do not at the end either. -/
theorem end_infix_append_right (cs : List Char) (hr : ∀ c ∈ r, isBlank c = true) :
    ['*', '/'] <:+: cs ++ r ↔ ['*', '/'] <:+: cs := by
  by_cases hne : r = []
  · rw [hne, List.append_nil]
  · have hgap := @end_infix_append_gap_iff cs r [] hne hr
    rwa [List.append_nil, or_iff_left (by simp)] at hgap

/-- A block stays open or not, whatever is trimmed. -/
theorem staysOpen_trim (cs : List Char) : staysOpen (trim cs) = staysOpen cs := by
  obtain ⟨l, r, heq, hl, hr⟩ := exists_trim cs
  have hends : ['*', '/'] <:+: cs ↔ ['*', '/'] <:+: trim cs := by
    conv_lhs => rw [heq]
    rw [end_infix_append_right _ hr, end_infix_append_left hl]
  rw [staysOpen_eq, staysOpen_eq, Bool.not_inj_iff]
  exact decide_eq_decide.2 hends.symm

end Ends

/-! ### Values -/

/-- Nothing is trimmed off behind a character that is not blank. -/
theorem trimEnd_append_of_not_blank (cs : List Char) {c : Char} (hc : isBlank c = false) :
    trimEnd (cs ++ [c]) = cs ++ [c] := by
  induction cs with
  | nil => rw [List.nil_append, trimEnd_cons_of_not_blank hc, trimEnd]
  | cons d cs ih => rw [List.cons_append, trimEnd_cons, ih, if_neg (by simp)]

/-- Trimming keeps the end of a block. -/
theorem trim_append_end (cs : List Char) :
    trim (cs ++ ['*', '/']) = trimStart cs ++ ['*', '/'] := by
  have hfront : cs ++ ['*', '/'] = cs.takeWhile isBlank ++ (trimStart cs ++ ['*'] ++ ['/']) := by
    rw [List.append_assoc, ← List.append_assoc, List.singleton_append, trimStart,
      List.takeWhile_append_dropWhile]
  have hstart : trimStart (trimStart cs ++ ['*'] ++ ['/']) = trimStart cs ++ ['*'] ++ ['/'] := by
    cases hcs : trimStart cs with
    | nil => rfl
    | cons c r =>
      -- what is left of the text begins with no blank
      have hc := List.head?_dropWhile_not isBlank cs
      rw [← trimStart, hcs] at hc
      exact List.dropWhile_cons_of_neg (by simpa using hc)
  rw [hfront, trim_append_left (fun c hc => List.mem_takeWhile_imp hc), trim, hstart,
    trimEnd_append_of_not_blank _ (by decide), List.append_assoc, List.singleton_append]

/-- **The words of a value** on a line that holds no `*/`. -/
theorem valueWords_of_not_end {rest : List Char} (h : ¬ ['*', '/'] <:+: rest) :
    valueWords rest = words rest := by
  have hvalue : ValueOf rest (trim rest) := by
    refine .inr ⟨rfl, fun hend => h ?_⟩
    obtain ⟨l, r, heq, -, -⟩ := exists_trim rest
    exact hend.isInfix.trans ⟨l, r, heq.symm⟩
  rw [valueWords_of_valueOf hvalue, words_trim]

/-- The `*/` behind a value is none of its words. -/
theorem valueWords_append_end (value : List Char) {r : List Char} (hr : ∀ c ∈ r, isBlank c = true) :
    valueWords (value ++ '*' :: '/' :: r) = words value := by
  have hsplit : value ++ '*' :: '/' :: r = value ++ ['*', '/'] ++ r := by simp
  have hvalue : ValueOf (value ++ '*' :: '/' :: r) (trimStart value) := by
    left
    rw [hsplit, trim_append_right _ hr, trim_append_end]
  have hstart : words (value.takeWhile isBlank ++ trimStart value) = words (trimStart value) :=
    words_append_left (fun c hc => List.mem_takeWhile_imp hc) _
  rw [valueWords_of_valueOf hvalue, ← hstart, trimStart, List.takeWhile_append_dropWhile]

end Text

open Text

/-! ### One line -/

section Line

variable {l pre tail : List Char}

/-- A declaration begins with an `@`, so what is in front of the first one does not matter. -/
theorem declaration?_append_left (hpre : '@' ∉ pre) (l : List Char) :
    declaration? (pre ++ l) = declaration? l := by
  induction pre with
  | nil => rfl
  | cons c pre ih =>
    rw [List.mem_cons, not_or] at hpre
    rw [List.cons_append, declaration?, if_neg (Ne.symm hpre.1)]
    exact ih hpre.2

/-- Letters are not blank. -/
theorem isBlank_of_isWordChar {c : Char} (h : isWordChar c = true) : isBlank c = false := by
  refine isBlank_of_isVariableChar ?_
  rcases isWordChar_iff.1 h with h | h | h
  · exact .inl h
  · exact .inr (.inl h)
  · exact .inr (.inr (.inr h))

theorem at_notMem_of_blank (hl : ∀ c ∈ l, isBlank c = true) : '@' ∉ l := fun h =>
  ne_of_blank (hl '@' h) (by decide) rfl

/-- A declaration that begins a text is there without the blanks behind the text. -/
theorem declaresAt_nil_of_append (htail : ∀ c ∈ tail, isBlank c = true) {c : Char}
    {word rest : List Char} (h : DeclaresAt (c :: l ++ tail) [] word rest) :
    ∃ rest', DeclaresAt (c :: l) [] word rest' := by
  obtain ⟨heq, hne, hletters⟩ := h
  obtain ⟨rfl, hword⟩ := List.cons.inj heq
  rcases List.append_eq_append_iff.1 hword with ⟨m, rfl, h⟩ | ⟨m, rfl, h⟩
  · -- the word would go on among the blanks, or end there with its colon
    cases m with
    | nil =>
      have hcolon := htail ':' (by simp [h])
      exact absurd hcolon (by decide)
    | cons a m =>
      have hblank := htail a (by simp [h])
      have hletter := isBlank_of_isWordChar (isWordChar_iff.2 (hletters a (by simp)))
      exact absurd (hletter.symm.trans hblank) Bool.false_ne_true
  · cases m with
    | nil =>
      rw [List.nil_append] at h
      have hcolon := htail ':' (by simp [← h])
      exact absurd hcolon (by decide)
    | cons a m =>
      rw [List.cons_append] at h
      obtain ⟨rfl, -⟩ := List.cons.inj h
      exact ⟨m, rfl, hne, hletters⟩

/-- **Blanks behind a line** belong to the value of its declaration. -/
theorem declaration?_append_right (htail : ∀ c ∈ tail, isBlank c = true) (l : List Char) :
    declaration? (l ++ tail) = (declaration? l).map fun x => (x.1, x.2 ++ tail) := by
  -- on the line, as far as the first `@` that a declaration begins with
  induction l with
  | nil =>
    have hnone := declaration?_append_left (at_notMem_of_blank htail) []
    rwa [List.append_nil] at hnone
  | cons c l ih =>
    -- a declaration that begins here is the leftmost one, with the blanks or without
    by_cases hbegins : ∃ word rest, DeclaresAt (c :: l) [] word rest
    · obtain ⟨word, rest, h⟩ := hbegins
      have hmore : DeclaresAt (c :: l ++ tail) [] word (rest ++ tail) := by
        refine ⟨?_, h.ne_nil, h.letters⟩
        rw [h.eq]
        simp
      rw [declaration?_of_declaresAt_nil h, declaration?_of_declaresAt_nil hmore]
      rfl
    · have hnone : ∀ word rest, ¬ DeclaresAt (c :: l) [] word rest :=
        fun word rest h => hbegins ⟨word, rest, h⟩
      have hnone' : ∀ word rest, ¬ DeclaresAt (c :: (l ++ tail)) [] word rest := fun word rest h =>
        hbegins ⟨word, declaresAt_nil_of_append htail h⟩
      rw [List.cons_append, declaration?_cons_of_not hnone, declaration?_cons_of_not hnone', ih]

namespace Directive

/-- What is in front of the first `@` does not matter. -/
theorem ofLine?_append_left (hpre : '@' ∉ pre) (l : List Char) :
    ofLine? (pre ++ l) = ofLine? l := by
  rw [ofLine?, ofLine?, declaration?_append_left hpre]

/-- Nor do blanks at the end. -/
theorem ofLine?_append_right (l : List Char) (htail : ∀ c ∈ tail, isBlank c = true) :
    ofLine? (l ++ tail) = ofLine? l := by
  rw [ofLine?, ofLine?, declaration?_append_right htail]
  cases declaration? l with
  | none => rfl
  | some x =>
    -- the value is trimmed
    have hvalue : valueWords (x.2 ++ tail) = valueWords x.2 := by
      rw [valueWords, valueWords, trim_append_right _ htail]
    simp only [Option.map_some, hvalue]

/-- **A line declares the same** with the blanks around it as without. -/
theorem ofLine?_trim (l : List Char) : ofLine? (trim l) = ofLine? l := by
  obtain ⟨front, back, heq, hfront, hback⟩ := exists_trim l
  conv_rhs => rw [heq]
  rw [ofLine?_append_right _ hback, ofLine?_append_left (at_notMem_of_blank hfront)]

end Directive

end Line

/-! ### The reader without numbers -/

/-- The directives that **lines declare**, one after the other; `b` says whether a block is open
before them. -/
def declaredIn (b : Bool) : List (List Char) → List Directive
  | [] => []
  | raw :: rest =>
    match LineRole.of b (trim raw) with
    | .comment b' => (Directive.ofLine? raw).toList ++ declaredIn b' rest
    | .neutral => declaredIn b rest
    | .code => []

/-- The directives of the comment lines, without their numbers. -/
theorem filterMap_commentLinesFrom (b : Bool) (n : Nat) (ls : List (List Char)) :
    (commentLinesFrom b n ls).filterMap (fun x => Directive.ofLine? x.2) = declaredIn b ls := by
  -- on the lines; the role of each decides whether it is read and what is open behind it
  induction ls generalizing b n with
  | nil => rfl
  | cons raw rest ih =>
    rw [commentLinesFrom, declaredIn]
    cases LineRole.of b (trim raw) with
    | comment b' =>
      dsimp only
      rw [← ih b' (n + 1), ← Directive.ofLine?_trim raw, List.filterMap_cons]
      cases Directive.ofLine? (trim raw) <;> rfl
    | neutral => exact ih b (n + 1)
    | code => rfl

/-- **The declarations of a text**, without the numbers of their lines. -/
theorem map_snd_declarations (text : List Char) :
    (declarations text).map Prod.snd = declaredIn false (lines text) := by
  rw [← filterMap_commentLinesFrom false 1, declarations, List.map_filterMap, commentLines]
  refine List.filterMap_congr fun x _ => ?_
  cases Directive.ofLine? x.2 <;> rfl

/-- An empty line at the end declares nothing. -/
theorem declaredIn_append_empty (b : Bool) (ls : List (List Char)) :
    declaredIn b (ls ++ [[]]) = declaredIn b ls := by
  induction ls generalizing b with
  | nil => cases b <;> rfl
  | cons raw rest ih =>
    rw [List.cons_append, declaredIn, declaredIn]
    cases LineRole.of b (trim raw) with
    | comment b' => exact congrArg _ (ih b')
    | neutral => exact ih b
    | code => rfl

/-- **The last line feed** does not matter. -/
theorem declaredIn_lines_feed (b : Bool) (text : List Char) :
    declaredIn b (lines (text ++ ['\n'])) = declaredIn b (lines text) := by
  rcases lines_append_feed text with h | h
  · rw [h]
  · rw [h, declaredIn_append_empty]

/-- Whatever follows them, lines that come when `b` says whether a block is open **declare** `ds`,
and after them `b'` says so. -/
def Declare (b : Bool) (ls : List (List Char)) (ds : List Directive) (b' : Bool) : Prop :=
  ∀ rest, declaredIn b (ls ++ rest) = ds ++ declaredIn b' rest

namespace Declare

variable {b b' b'' : Bool} {raw : List Char} {ls ls' : List (List Char)} {ds ds' : List Directive}

theorem nil (b : Bool) : Declare b [] [] b := fun _ => rfl

/-- Lines are read one part after the other. -/
theorem append (h : Declare b ls ds b') (h' : Declare b' ls' ds' b'') :
    Declare b (ls ++ ls') (ds ++ ds') b'' := by
  intro rest
  rw [List.append_assoc, h, h', List.append_assoc]

/-- **A run of pieces**: each is read in the state in which it leaves the reader. -/
theorem flatMap {α : Type} {f : α → List (List Char)} {g : α → List Directive} {xs : List α}
    (h : ∀ x ∈ xs, Declare b (f x) (g x) b) : Declare b (xs.flatMap f) (xs.flatMap g) b := by
  induction xs with
  | nil => exact nil b
  | cons x xs ih =>
    rw [List.forall_mem_cons] at h
    rw [List.flatMap_cons, List.flatMap_cons]
    exact h.1.append (ih h.2)

/-- A comment line declares what is on it. -/
theorem of_comment (hrole : LineRole.of b (trim raw) = .comment b')
    (hd : (Directive.ofLine? raw).toList = ds) :
    Declare b [raw] ds b' := by
  intro rest
  rw [List.singleton_append, declaredIn, hrole, ← hd]

/-- A neutral line declares nothing. -/
theorem of_neutral (hrole : LineRole.of b (trim raw) = .neutral) : Declare b [raw] [] b := by
  intro rest
  rw [List.singleton_append, declaredIn, hrole, List.nil_append]

end Declare

end NativeBuild
