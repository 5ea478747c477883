import NativeBuild.Proofs.Padding

/-!
# Directives as they are written

Whoever writes directives has a choice: each may stand on a `//` line, on a `/* … */` comment of one
line or on a line of a longer block, the keyword in either case, with blanks where they are liked,
and between the directives there may be blank lines, other comments and `#` lines that neither
include nor import. A `Layout` is such a choice. It is data: the pieces of the text with what must
be true of them, so that there is no layout but of directives that are well written.

* `Layout.text` puts the pieces together, and `Layout.directives` are the directives that have been
  put there;
* `DirectiveSet.read_layout` says that the reader gives them back, all of them and in their order.

A piece says what it declares whatever comes after it (`Item.declare`), so a text of any number of
pieces is read by `Declare.flatMap`. Inside a block a line must hold no `*/`; a directive holds none
as none of its tokens does (`Writing.not_end`).
-/

namespace NativeBuild

open Text

namespace Layout

/-! ### One directive -/

/-- **Blanks** on a line, if any. -/
structure Pad where
  chars : List Char
  blank : ∀ c ∈ chars, isBlank c = true
  newline_notMem : '\n' ∉ chars

/-- A **token** of a value. -/
structure Token where
  chars : List Char
  ne_nil : chars ≠ []
  solid : ∀ c ∈ chars, isBlank c = false
  not_end : ¬ ['*', '/'] <:+: chars

/-- A **value** as it is written: tokens, each with the blanks behind it, which are none at most
behind the last. -/
structure Value where
  lead : Pad
  tokens : List (Token × Pad)
  apart : ∀ x ∈ tokens.dropLast, x.2.chars ≠ []

namespace Value

/-- The value as a text. -/
def chars (v : Value) : List Char :=
  v.lead.chars ++ v.tokens.flatMap fun x => x.1.chars ++ x.2.chars

/-- The tokens alone. -/
def texts (v : Value) : List String := v.tokens.map fun x => String.ofList x.1.chars

end Value

/-- A **directive as it is written**, without the marks of its comment: what may stand in front of
it, the keyword in either case, and the value. -/
structure Writing where
  kind : DirectiveKind
  front : List Char
  front_marks : ∀ c ∈ front, c = '/' ∨ c = '*' ∨ isBlank c = true
  front_newline : '\n' ∉ front
  front_end : ¬ ['*', '/'] <:+: front
  word : List Char
  keyword : word.map Char.toLower = kind.keyword.toList
  value : Value

namespace Writing

/-- The directive as a text. -/
def chars (w : Writing) : List Char := w.front ++ '@' :: (w.word ++ ':' :: w.value.chars)

/-- The **directive** that has been written: a link kind carries the tokens, a compile kind one
text, in which they are set apart by single spaces. -/
def directive (w : Writing) : Directive :=
  match w.kind with
  | .cppflags => .cppflags (" ".intercalate w.value.texts)
  | .cflags => .cflags (" ".intercalate w.value.texts)
  | .cxxflags => .cxxflags (" ".intercalate w.value.texts)
  | .ldflags => .ldflags w.value.texts
  | .reflibs => .reflibs w.value.texts

end Writing

/-! ### What stands around directives -/

/-- Text in a comment that holds **no known keyword** between `@` and colon. -/
structure Remark where
  chars : List Char
  newline_notMem : '\n' ∉ chars
  keyless : ∀ before word rest, DeclaresAt chars before word rest →
    ∀ k : DirectiveKind, word.map Char.toLower ≠ k.keyword.toList

/-- A **line of a block** that leaves the block open; the first one without the mark that opens
it. -/
inductive Inner where
  | directive (w : Writing)
  | remark (r : Remark) (not_end : ¬ ['*', '/'] <:+: r.chars)

namespace Inner

/-- The characters of the line. -/
def chars : Inner → List Char
  | directive w => w.chars
  | remark r _ => r.chars

/-- The directive on it, if there is one. -/
def directives : Inner → List Directive
  | directive w => [w.directive]
  | remark _ _ => []

end Inner

/-- The **last line of a block**: behind a directive on it the block ends at once. -/
inductive Closing where
  | directive (w : Writing) (trail : Pad)
  | remark (r : Remark) (ends : ['*', '/'] <:+: r.chars)

namespace Closing

/-- The characters of the line, up to the line feed. -/
def chars : Closing → List Char
  | directive w trail => w.chars ++ '*' :: '/' :: trail.chars
  | remark r _ => r.chars

/-- The directive on it, if there is one. -/
def directives : Closing → List Directive
  | directive w _ => [w.directive]
  | remark _ _ => []

end Closing

/-- A **piece of a layout**, which begins and ends outside of blocks. -/
inductive Item where
  /-- A blank line. -/
  | blank (p : Pad)
  /-- A `#` line that includes and imports nothing. -/
  | hash (lead : Pad) (text : List Char) (newline_notMem : '\n' ∉ text)
      (no_include : ¬ "include".toList <+: trimStart text)
        (no_import : ¬ "import".toList <+: trimStart text)
  /-- A directive on a `//` line. -/
  | lineDirective (lead : Pad) (w : Writing)
  /-- A `//` line without one. -/
  | lineRemark (lead : Pad) (r : Remark)
  /-- A block on one line. -/
  | comment (lead : Pad) (l : Closing)
  /-- A block on several lines. -/
  | block (lead : Pad) (first : Inner) (inner : List Inner) (last : Closing)

namespace Item

/-- Its lines. -/
def lines : Item → List (List Char)
  | blank p => [p.chars]
  | hash lead text _ _ _ => [lead.chars ++ '#' :: text]
  | lineDirective lead w => [lead.chars ++ '/' :: '/' :: w.chars]
  | lineRemark lead r => [lead.chars ++ '/' :: '/' :: r.chars]
  | comment lead l => [lead.chars ++ '/' :: '*' :: l.chars]
  | block lead first inner last =>
    [lead.chars ++ '/' :: '*' :: first.chars] ++ (inner.flatMap fun l => [l.chars]) ++ [last.chars]

/-- The directives on them. -/
def directives : Item → List Directive
  | blank _ => []
  | hash _ _ _ _ _ => []
  | lineDirective _ w => [w.directive]
  | lineRemark _ _ => []
  | comment _ l => l.directives
  | block _ first inner last => first.directives ++ inner.flatMap Inner.directives ++
    last.directives

end Item

/-- How a text **ends**: with or without a line feed, or with a line of code, after which anything
may follow. -/
inductive Ending where
  | feed
  | noFeed
  | code (line : List Char) (newline_notMem : '\n' ∉
    line) (isCode : IsCode (trim line)) (more : Option (List Char))

end Layout

/-- **Directives as they are written** in the text of a source file. -/
structure Layout where
  items : List Layout.Item
  ending : Layout.Ending

namespace Layout

/-- The lines of all pieces. -/
def lines (l : Layout) : List (List Char) := l.items.flatMap Item.lines

/-- The **text** of the file. -/
def text (l : Layout) : List Char :=
  match l.ending with
  | .feed => unlines l.lines
  | .noFeed => (unlines l.lines).dropLast
  | .code line _ _ none => unlines l.lines ++ line
  | .code line _ _ (some more) => unlines l.lines ++ (line ++ '\n' :: more)

/-- The **directives** that have been written, in order. -/
def directives (l : Layout) : List Directive := l.items.flatMap Item.directives

/-! ### The words of a value -/

section Value

/-- **Tokens are read back as words**, since blanks stand between them and none in them. -/
theorem words_tokens {tokens : List (Token × Pad)} (h : ∀ x ∈ tokens.dropLast, x.2.chars ≠ []) :
    words (tokens.flatMap fun x => x.1.chars ++ x.2.chars) = tokens.map fun x => x.1.chars := by
  -- on the tokens; only the last one may do without blanks behind it
  induction tokens with
  | nil => rfl
  | cons x tokens ih =>
    have hx : words x.1.chars = [x.1.chars] := runs_of_forall x.1.ne_nil x.1.solid
    cases tokens with
    | nil =>
      rw [List.flatMap_singleton, words_append_right _ x.2.blank, hx]
      rfl
    | cons y tokens =>
      -- another token comes, so the blanks behind this one are not none
      rw [List.dropLast_cons_cons, List.forall_mem_cons] at h
      rw [List.flatMap_cons, List.append_assoc]
      calc words (x.1.chars ++ (x.2.chars ++ (y :: tokens).flatMap fun x => x.1.chars ++ x.2.chars))
          = words x.1.chars ++ words ((y :: tokens).flatMap fun x => x.1.chars ++ x.2.chars) :=
            words_append_gap _ h.1 x.2.blank _
        _ = [x.1.chars] ++ (y :: tokens).map fun x => x.1.chars := by rw [hx, ih h.2]

/-- No `*/` comes about between two tokens. -/
theorem not_end_tokens {tokens : List (Token × Pad)} (h : ∀ x ∈ tokens.dropLast, x.2.chars ≠ []) :
    ¬ ['*', '/'] <:+: tokens.flatMap fun x => x.1.chars ++ x.2.chars := by
  induction tokens with
  | nil => simp
  | cons x tokens ih =>
    cases tokens with
    | nil =>
      rw [List.flatMap_singleton, end_infix_append_right _ x.2.blank]
      exact x.1.not_end
    | cons y tokens =>
      rw [List.dropLast_cons_cons, List.forall_mem_cons] at h
      rw [List.flatMap_cons, List.append_assoc, end_infix_append_gap_iff h.1 x.2.blank, not_or]
      exact ⟨x.1.not_end, ih h.2⟩

/-- The words of a value are its tokens. -/
theorem words_value (v : Value) : words v.chars = v.tokens.map fun x => x.1.chars := by
  rw [Value.chars, words_append_left v.lead.blank, words_tokens v.apart]

/-- A value does not end the block that it may be in. -/
theorem not_end_value (v : Value) : ¬ ['*', '/'] <:+: v.chars := by
  rw [Value.chars, end_infix_append_left v.lead.blank]
  exact not_end_tokens v.apart

theorem newline_notMem_value (v : Value) : '\n' ∉ v.chars := by
  rw [Value.chars, List.mem_append, List.mem_flatMap]
  rintro (h | ⟨x, -, h⟩)
  · exact v.lead.newline_notMem h
  · rcases List.mem_append.1 h with h | h
    · exact absurd (x.1.solid _ h) (by decide)
    · exact x.2.newline_notMem h

end Value

/-! ### What a directive is read as -/

namespace Writing

variable (w : Writing)

/-- A directive word has letters and underscores. -/
theorem letters : ∀ c ∈ w.word, ('A' ≤ c ∧ c ≤ 'Z') ∨ ('a' ≤ c ∧ c ≤ 'z') ∨ c = '_' := by
  intro c hc
  -- the keywords consist of letters, and so do the words that are the same but for case
  have hkeywords : ∀ k : DirectiveKind, k.keyword.toList.all Char.isAlpha = true := by
    intro k
    cases k <;> decide
  have hlower : c.toLower ∈ w.kind.keyword.toList := by
    rw [← w.keyword]
    exact List.mem_map_of_mem hc
  have halpha := List.all_eq_true.1 (hkeywords w.kind) _ hlower
  by_cases hupper : c.isUpper = true
  · exact isWordChar_iff.1 (by rw [isWordChar, Char.isAlpha, hupper, Bool.true_or, Bool.true_or])
  · -- what is no capital letter is its own lower case
    have hsame : c.toLower = c := dif_neg (by simpa [Char.isUpper] using hupper)
    rw [hsame] at halpha
    exact isWordChar_iff.1 (by rw [isWordChar, halpha, Bool.true_or])

theorem ne_nil : w.word ≠ [] := by
  have hkeywords : ∀ k : DirectiveKind, k.keyword ≠ "" := by
    intro k
    cases k <;> decide
  intro hnil
  have hkeyword := w.keyword
  rw [hnil, List.map_nil, eq_comm, String.toList_eq_nil_iff] at hkeyword
  exact hkeywords w.kind hkeyword

theorem at_notMem_front : '@' ∉ w.front := by
  intro h
  rcases w.front_marks _ h with h | h | h
  · exact absurd h (by decide)
  · exact absurd h (by decide)
  · exact absurd h (by decide)

theorem newline_notMem : '\n' ∉ w.chars := by
  have hword : '\n' ∉ w.word := fun h => absurd (w.letters _ h) (by decide)
  simp [chars, w.front_newline, hword, newline_notMem_value w.value]

/-- **A directive holds no `*/`**, so it may stand on a line of a block. -/
theorem not_end : ¬ ['*', '/'] <:+: w.chars := by
  have hword : ¬ ['*', '/'] <:+: w.word := by
    intro h
    exact absurd (w.letters '*' (h.subset (by simp))) (by decide)
  -- the `@` and the colon cut the directive into three, and a `*/` would stand in one of them
  rw [chars, pair_infix_append_cons_iff (by decide) (by decide),
    pair_infix_append_cons_iff (by decide) (by decide)]
  rintro (h | h | h)
  · exact w.front_end h
  · exact hword h
  · exact not_end_value w.value h

/-- The directive is the one that the words of the value give. -/
theorem directive_eq : w.directive = .ofWords w.kind (words w.value.chars) := by
  have htexts : w.value.texts = (w.value.tokens.map fun x => x.1.chars).map String.ofList := by
    rw [List.map_map]
    rfl
  rw [words_value, directive, htexts]
  cases w.kind with
  | cppflags => exact congrArg _ (ofList_unwords _).symm
  | cflags => exact congrArg _ (ofList_unwords _).symm
  | cxxflags => exact congrArg _ (ofList_unwords _).symm
  | ldflags => rfl
  | reflibs => rfl

/-- The words that are read are those of the value and what follows it on the line. -/
theorem ofLine?_append (tail : List Char) :
    Directive.ofLine? (w.chars ++ tail) =
      some (.ofWords w.kind (valueWords (w.value.chars ++ tail))) := by
  -- nothing in front of the `@` declares anything, whatever looks like a declaration in the value
  have hat :
      DeclaresAt ('@' :: (w.word ++ ':' :: (w.value.chars ++ tail))) [] w.word
        (w.value.chars ++ tail) :=
    ⟨rfl, w.ne_nil, w.letters⟩
  have hsplit : w.chars ++ tail = w.front ++ '@' :: (w.word ++ ':' :: (w.value.chars ++ tail)) := by
    simp [chars]
  rw [hsplit, Directive.ofLine?_append_left w.at_notMem_front, Directive.ofLine?,
    declaration?_of_declaresAt_nil hat]
  dsimp only
  rw [ofKeyword?_eq_some_iff.2 w.keyword]
  rfl

/-- **A writing of a directive is read as that directive.** -/
theorem ofLine?_chars : Directive.ofLine? w.chars = some w.directive := by
  have hread := w.ofLine?_append []
  rwa [List.append_nil, List.append_nil, valueWords_of_not_end (not_end_value w.value),
    ← w.directive_eq] at hread

/-- So it is in front of the end of a block. -/
theorem ofLine?_append_end (trail : Pad) :
    Directive.ofLine? (w.chars ++ '*' :: '/' :: trail.chars) = some w.directive := by
  rw [w.ofLine?_append, valueWords_append_end _ trail.blank, w.directive_eq]

end Writing

/-- A remark is read as nothing. -/
theorem Remark.ofLine?_eq_none (r : Remark) : Directive.ofLine? r.chars = none := by
  rw [Option.eq_none_iff_forall_ne_some]
  intro d hd
  obtain ⟨word, rest, -, ⟨before, hat, -⟩, hword, -⟩ := ofLine?_eq_some_iff.1 hd
  exact r.keyless before word rest hat d.kind hword

namespace Inner

variable (l : Inner)

theorem newline_notMem : '\n' ∉ l.chars := by
  cases l with
  | directive w => exact w.newline_notMem
  | remark r _ => exact r.newline_notMem

theorem not_end : ¬ ['*', '/'] <:+: l.chars := by
  cases l with
  | directive w => exact w.not_end
  | remark r h => exact h

theorem ofLine?_chars : (Directive.ofLine? l.chars).toList = l.directives := by
  cases l with
  | directive w => exact congrArg Option.toList w.ofLine?_chars
  | remark r _ => exact congrArg Option.toList r.ofLine?_eq_none

end Inner

namespace Closing

variable (l : Closing)

theorem newline_notMem : '\n' ∉ l.chars := by
  cases l with
  | directive w trail => simp [chars, w.newline_notMem, trail.newline_notMem]
  | remark r _ => exact r.newline_notMem

theorem end_infix : ['*', '/'] <:+: l.chars := by
  cases l with
  | directive w trail => exact ⟨w.chars, trail.chars, by simp [chars]⟩
  | remark r h => exact h

theorem ofLine?_chars : (Directive.ofLine? l.chars).toList = l.directives := by
  cases l with
  | directive w trail => exact congrArg Option.toList (w.ofLine?_append_end trail)
  | remark r _ => exact congrArg Option.toList r.ofLine?_eq_none

end Closing

/-! ### What a piece is read as -/

section Roles

variable {lead : Pad} {cs : List Char}

/-- A line that begins with `//` is a comment, and opens nothing. -/
theorem role_lineComment :
    LineRole.of false (trim (lead.chars ++ '/' :: '/' :: cs)) = .comment false := by
  rw [trim_append_left lead.blank, trim_cons_of_not_blank (by decide),
    trimEnd_cons_of_not_blank (by decide)]
  rfl

/-- A line that begins a block stays in it unless it ends it. -/
theorem role_blockComment :
    LineRole.of false (trim (lead.chars ++ '/' :: '*' :: cs)) = .comment (staysOpen cs) := by
  rw [trim_append_left lead.blank, trim_cons_of_not_blank (by decide),
    trimEnd_cons_of_not_blank (by decide), ← Comment.staysOpen_trimEnd cs]
  rfl

/-- And so does a line within a block. -/
theorem role_inBlock : LineRole.of true (trim cs) = .comment (staysOpen cs) := by
  rw [LineRole.of, if_pos rfl, staysOpen_trim]

theorem staysOpen_of_not_end (h : ¬ ['*', '/'] <:+: cs) : staysOpen cs = true := by
  rw [staysOpen_eq, decide_eq_false h]
  rfl

theorem staysOpen_of_end (h : ['*', '/'] <:+: cs) : staysOpen cs = false := by
  rw [staysOpen_eq, decide_eq_true h]
  rfl

/-- Trimming the end takes nothing from the beginning. -/
theorem prefix_trimStart_of_trimEnd (cs : List Char) : trimStart (trimEnd cs) <+: trimStart cs := by
  obtain ⟨r, hr, -⟩ := trimEnd_append_blanks cs
  conv_rhs => rw [hr, trimStart, List.dropWhile_append]
  split
  · rename_i hempty
    rw [trimStart, List.isEmpty_iff.1 hempty]
    exact List.nil_prefix
  · exact List.prefix_append _ _

/-- A `#` line that includes and imports nothing is passed over. -/
theorem role_hash (hinclude : ¬ "include".toList <+: trimStart cs)
    (himport : ¬ "import".toList <+: trimStart cs) :
    LineRole.of false (trim (lead.chars ++ '#' :: cs)) = .neutral := by
  have htrim : trim (lead.chars ++ '#' :: cs) = '#' :: trimEnd cs := by
    rw [trim_append_left lead.blank, trim_cons_of_not_blank (by decide)]
  have hpreamble : isPreamble ('#' :: trimEnd cs) = true :=
    isPreamble_iff.2 ⟨_, rfl, fun h => hinclude (h.trans (prefix_trimStart_of_trimEnd cs)),
      fun h => himport (h.trans (prefix_trimStart_of_trimEnd cs))⟩
  have hblock : ¬ ['/', '*'] <+: '#' :: trimEnd cs := by simp
  have hline : ¬ ['/', '/'] <+: '#' :: trimEnd cs := by simp
  rw [htrim, (role_outside hblock).2, if_neg hline, if_pos (.inr hpreamble)]

end Roles

/-- **A line of a block** declares its directive, and the block stays open. -/
theorem Inner.declare (l : Inner) : Declare true [l.chars] l.directives true := by
  refine Declare.of_comment ?_ l.ofLine?_chars
  rw [role_inBlock, staysOpen_of_not_end l.not_end]

/-- The last line of a block leaves it. -/
theorem Closing.declare (l : Closing) : Declare true [l.chars] l.directives false := by
  refine Declare.of_comment ?_ l.ofLine?_chars
  rw [role_inBlock, staysOpen_of_end l.end_infix]

namespace Item

variable (i : Item)

/-- The marks of a comment do not matter to what its line declares. -/
theorem ofLine?_marks (lead : Pad) {c : Char} (hc : c ≠ '@') (cs : List Char) :
    Directive.ofLine? (lead.chars ++ '/' :: c :: cs) = Directive.ofLine? cs := by
  have hmarks : '@' ∉ lead.chars ++ ['/', c] := by
    simp [at_notMem_of_blank lead.blank, Ne.symm hc]
  have hskip := Directive.ofLine?_append_left hmarks cs
  rwa [List.append_assoc] at hskip

/-- **A piece declares its directives** whatever comes after it, and leaves no block open. -/
theorem declare : Declare false i.lines i.directives false := by
  -- the items have a line each, but for a block, which is put together of its lines
  cases i with
  | blank p =>
    refine Declare.of_neutral ?_
    rw [trim_eq_nil p.blank]
    rfl
  | hash lead text _ hinclude himport => exact Declare.of_neutral (role_hash hinclude himport)
  | lineDirective lead w =>
    refine Declare.of_comment role_lineComment ?_
    rw [ofLine?_marks lead (by decide), w.ofLine?_chars]
    rfl
  | lineRemark lead r =>
    refine Declare.of_comment role_lineComment ?_
    rw [ofLine?_marks lead (by decide), r.ofLine?_eq_none]
    rfl
  | comment lead l =>
    refine Declare.of_comment ?_ ?_
    · rw [role_blockComment, staysOpen_of_end l.end_infix]
    · rw [ofLine?_marks lead (by decide), l.ofLine?_chars]
      rfl
  | block lead first inner last =>
    -- the first line opens the block, the last one closes it
    have hfirst :
        Declare false [lead.chars ++ '/' :: '*' :: first.chars] first.directives true := by
      refine Declare.of_comment ?_ ?_
      · rw [role_blockComment, staysOpen_of_not_end first.not_end]
      · rw [ofLine?_marks lead (by decide), first.ofLine?_chars]
    have hinner :
        Declare true (inner.flatMap fun l => [l.chars]) (inner.flatMap Inner.directives) true :=
      Declare.flatMap fun l _ => l.declare
    exact (hfirst.append hinner).append last.declare

theorem newline_notMem {line : List Char} (h : line ∈ i.lines) : '\n' ∉ line := by
  cases i with
  | blank p =>
    rw [List.mem_singleton.1 h]
    exact p.newline_notMem
  | hash lead text htext _ _ =>
    rw [List.mem_singleton.1 h]
    simp [lead.newline_notMem, htext]
  | lineDirective lead w =>
    rw [List.mem_singleton.1 h]
    simp [lead.newline_notMem, w.newline_notMem]
  | lineRemark lead r =>
    rw [List.mem_singleton.1 h]
    simp [lead.newline_notMem, r.newline_notMem]
  | comment lead l =>
    rw [List.mem_singleton.1 h]
    simp [lead.newline_notMem, l.newline_notMem]
  | block lead first inner last =>
    rw [lines, List.mem_append, List.mem_append, List.mem_singleton, List.mem_singleton,
      List.mem_flatMap] at h
    rcases h with (rfl | ⟨l, -, h⟩) | rfl
    · simp [lead.newline_notMem, first.newline_notMem]
    · rw [List.mem_singleton.1 h]
      exact l.newline_notMem
    · exact last.newline_notMem

end Item

/-! ### What the whole text is read as -/

/-- From the first line of code on nothing is read. -/
theorem declaredIn_code {line : List Char} (h : IsCode (trim line)) (rest : List (List Char)) :
    declaredIn false (line :: rest) = [] := by
  have hrole : LineRole.of false (trim line) = .code := by
    rcases role_cases false (trim line) with ⟨-, hnot, -⟩ | ⟨-, -, hnot, -⟩ | ⟨hrole, -⟩
    · exact absurd ⟨rfl, h⟩ hnot
    · exact absurd ⟨rfl, h⟩ hnot
    · exact hrole
  rw [declaredIn, hrole]

/-- **What is declared** is what has been written. -/
theorem declaredIn_text (l : Layout) : declaredIn false (Text.lines l.text) = l.directives := by
  -- the lines of the items, one after another
  have hitems : Declare false l.lines l.directives false := Declare.flatMap fun i _ => i.declare
  have hnewline : ∀ line ∈ l.lines, '\n' ∉ line := by
    intro line hline
    obtain ⟨i, -, hi⟩ := List.mem_flatMap.1 hline
    exact i.newline_notMem hi
  have hfeed : declaredIn false (Text.lines (unlines l.lines)) = l.directives := by
    have hall := hitems []
    rwa [List.append_nil, declaredIn, List.append_nil, ← lines_unlines hnewline] at hall
  -- what follows the first line of code is not read
  have hcode : ∀ line, '\n' ∉ line → IsCode (trim line) → ∀ more,
      declaredIn false (Text.lines (unlines l.lines ++ (line ++ '\n' :: more))) = l.directives := by
    intro line hline hisCode more
    rw [lines_unlines_append hnewline, lines_append_newline hline, hitems, declaredIn_code hisCode,
      List.append_nil]
  rw [text]
  split
  · exact hfeed
  · -- with the last line feed the text is read as it is without
    rcases List.eq_nil_or_concat l.lines with hnil | ⟨front, line, hlines⟩
    · rw [hnil] at hfeed ⊢
      exact hfeed
    · have hsplit : unlines l.lines = unlines front ++ line ++ ['\n'] := by
        rw [hlines]
        simp [unlines]
      rw [hsplit, List.dropLast_concat, ← declaredIn_lines_feed, ← hsplit]
      exact hfeed
  · rename_i line hline hisCode _
    rw [← declaredIn_lines_feed, List.append_assoc]
    exact hcode line hline hisCode []
  · rename_i line hline hisCode more _
    exact hcode line hline hisCode more

end Layout

namespace DirectiveSet

/-- **Directives are read as they were written.** However directives of different kinds are laid
out, the reader gives them back, all of them and in their order. -/
theorem read_layout (path : Path) (l : Layout) (h : (l.directives.map Directive.kind).Nodup) :
    read path l.text = .ok ⟨l.directives, h⟩ := by
  have hread : (declarations l.text).map Prod.snd = l.directives := by
    rw [map_snd_declarations, l.declaredIn_text]
  have hkinds : declaredKinds (declarations l.text) = l.directives.map Directive.kind := by
    rw [← hread, List.map_map]
    rfl
  rw [read_eq_ok_iff, hkinds, hread]
  exact ⟨h, rfl⟩

end DirectiveSet

/-! ### A text that was written by hand -/

namespace Layout

/-- No blanks. -/
def noPad : Pad := ⟨[], by simp, by simp⟩

/-- A few of them. -/
def gap : Pad := ⟨[' ', '\t', ' '], by simp [isBlank], by simp⟩

/-- Text without an `@` is a remark. -/
def plainRemark (cs : List Char) (hnewline : '\n' ∉ cs) (hat : '@' ∉ cs) : Remark where
  chars := cs
  newline_notMem := hnewline
  keyless := by
    intro before word rest h
    refine absurd ?_ hat
    rw [h.eq]
    simp

/-- Flags for compiling on a `//` line; the second of them looks like another directive. -/
def writtenFlags : Writing where
  kind := .cflags
  front := "/ ** ".toList
  front_marks := by simp [isBlank]
  front_newline := by decide
  front_end := by decide
  word := "CFlags".toList
  keyword := by decide
  value :=
    { lead := noPad
      tokens := [(⟨"-O2".toList, by decide, by simp [isBlank], by decide⟩, gap),
        (⟨"-D//@ldflags:/*".toList, by decide, by simp [isBlank], by decide⟩, gap)]
      apart := by simp [gap] }

/-- Archives on the last line of a block. -/
def writtenArchives : Writing where
  kind := .reflibs
  front := " * ".toList
  front_marks := by simp [isBlank]
  front_newline := by decide
  front_end := by decide
  word := "reflibs".toList
  keyword := by decide
  value :=
    { lead := gap
      tokens := [(⟨"util".toList, by decide, by simp [isBlank], by decide⟩, gap),
        (⟨"net/io".toList, by decide, by simp [isBlank], by decide⟩, noPad)]
      apart := by simp [gap] }

/-- A declaration of a variable is code. -/
theorem isCode_int : IsCode (trim "int x;".toList) := by
  have htrim : trim "int x;".toList = "int x;".toList := by decide +kernel
  rw [htrim]
  exact ⟨by decide, by decide, by decide, fun rest h => by simp at h⟩

/-- A file with a definition, flags, archives, code, and something after its code that looks like
flags. -/
def handwritten : Layout where
  items :=
    [.hash gap "define A".toList (by decide) (by decide) (by decide),
      .lineDirective gap writtenFlags, .blank noPad,
        .block noPad (.remark (plainRemark "* archives".toList (by decide) (by decide)) (by decide))
          []
        (.directive writtenArchives noPad)]
  ending := .code "int x;".toList (by decide) isCode_int (some "// @cflags: -g".toList)

/-- The flags and the archives are read back, and nothing after the code is read. -/
theorem read_handwritten : handwritten.text =
      (" \t #define A\n \t /// ** @CFlags:-O2 \t -D//@ldflags:/* \t \n\n/** archives\n" ++
        " * @reflibs: \t util \t net/io*/\nint x;\n// @cflags: -g").toList ∧
    ∃ s, DirectiveSet.read (.ofString "a.c") handwritten.text = .ok s ∧
      s.entries = [.cflags "-O2 -D//@ldflags:/*", .reflibs ["util", "net/io"]] := by
  have hdirectives :
      handwritten.directives = [.cflags "-O2 -D//@ldflags:/*", .reflibs ["util", "net/io"]] := by
    decide +kernel
  have hnodup : (handwritten.directives.map Directive.kind).Nodup := by
    rw [hdirectives]
    decide
  exact ⟨by decide +kernel, _, DirectiveSet.read_layout (.ofString "a.c") handwritten hnodup,
    hdirectives⟩

end Layout

end NativeBuild
