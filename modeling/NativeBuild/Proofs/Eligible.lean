import NativeBuild.Proofs.Comments
import NativeBuild.Proofs.Faults
import Mathlib.Data.List.Infix

/-!
# Directives, line by line

The reader of directives is one pass over the lines of a text, which keeps whether a block is open,
stops at the first line of code and refuses a kind that it has met before. Here the same is said
without the pass, for each line of the text by itself and what stands before it:

* whether a block is open before a line is settled by the lines before it, `inBlock`;
* a line is in the **window** if no line up to it is code outside a block, `InWindow`;
* a line **declares** a directive by the leftmost `@word:` in it, if its word is a keyword,
  `LineDeclares`;
* a line is **eligible** if it is in the window, in a comment or a block, and declares a directive,
  `Eligible`.

The reader gives the directives of the eligible lines in order, unless two of them are of one kind:
then it complains of the first line whose kind an eligible line before it has.
`DirectiveSet.read_by_line` says so.

The proof has three parts, one for each thing the pass does: what it reads is what is in the window
and commented (`mem_commentLinesFrom_iff`), what it makes of a line is what the line declares
(`ofLine?_eq_some_iff`), and of numbered declarations it refuses the first that repeats a kind
(`firstIn_iff_repeats`).
-/

namespace NativeBuild

open Text

/-! ### Blocks and code -/

/-- The **block state**: is a block open after a line? Outside a block one is opened by `/*` at the
beginning of the line. -/
def blockAfter : Bool → List Char → Bool
  | true, line => !decide (['*', '/'] <:+: line)
  | false, '/' :: '*' :: rest => !decide (['*', '/'] <:+: rest)
  | false, _ => false

/-- Is a block open before the line at an index, if `b` says whether one is open before the
first? -/
def inBlock (b : Bool) (lines : List (List Char)) (i : Nat) : Bool :=
  (lines.take i).foldl blockAfter b

/-- A line is **code** if it is not blank, begins no comment, and is no `#` line other than one that
includes or imports. -/
structure IsCode (line : List Char) : Prop where
  ne_nil : line ≠ []
  not_line_comment : ¬ ['/', '/'] <+: line
  not_block_comment : ¬ ['/', '*'] <+: line
  of_hash : ∀ rest, line = '#' :: rest →
    "include".toList <+: trimStart rest ∨ "import".toList <+: trimStart rest

/-- A line is **in the window** if no line up to it is code outside a block. -/
def InWindow (b : Bool) (lines : List (List Char)) (i : Nat) : Prop :=
  ∀ j ≤ i, ∀ line, lines[j]? = some line → inBlock b lines j = false → ¬ IsCode line

/-- Is a line **in a comment**, if `b` says whether a block is open before it? -/
def InComment (b : Bool) (line : List Char) : Prop :=
  b = true ∨ ['/', '/'] <+: line ∨ ['/', '*'] <+: line

/-- The line at an index, and that it is in a comment. -/
def Commented (b : Bool) (lines : List (List Char)) (i : Nat) (line : List Char) : Prop :=
  lines[i]? = some line ∧ InComment (inBlock b lines i) line

theorem occursIn_iff {part l : List Char} : occursIn part l = true ↔ part <:+: l := by
  induction l with
  | nil => rw [occursIn, List.isEmpty_iff, List.infix_nil]
  | cons c r ih =>
    rw [occursIn, Bool.or_eq_true, List.isPrefixOf_iff_prefix, ih, List.infix_cons_iff]

theorem staysOpen_eq (line : List Char) : staysOpen line = !decide (['*', '/'] <:+: line) := by
  rw [staysOpen, Bool.eq_iff_iff]
  simp [← occursIn_iff]

section Roles

variable {b : Bool} {line : List Char}

/-- A line that is neutral by its `#` includes and imports nothing. -/
theorem isPreamble_iff : isPreamble line = true ↔ ∃ rest, line = '#' :: rest ∧
    ¬ "include".toList <+: trimStart rest ∧ ¬ "import".toList <+: trimStart rest := by
  unfold isPreamble
  split
  · -- the two words are looked for behind the blanks that follow the `#`
    rename_i rest
    simp only [Bool.not_eq_true', Bool.or_eq_false_iff]
    simp only [← Bool.not_eq_true, List.isPrefixOf_iff_prefix]
    constructor
    · exact fun h => ⟨rest, rfl, h⟩
    · rintro ⟨rest', heq, h⟩
      obtain rfl := (List.cons.inj heq).2
      exact h
  · rename_i hne
    refine iff_of_false Bool.false_ne_true ?_
    rintro ⟨rest, rfl, -⟩
    exact hne rest rfl

/-- Code is what is neither a comment nor neutral. -/
theorem isCode_iff : IsCode line ↔ ¬ ['/', '/'] <+: line ∧ ¬ ['/', '*'] <+: line ∧
    ¬ (line = [] ∨ isPreamble line = true) := by
  rw [isPreamble_iff]
  constructor
  · rintro ⟨hne, hline, hblock, hhash⟩
    refine ⟨hline, hblock, ?_⟩
    rintro (hnil | ⟨rest, rfl, hinclude, himport⟩)
    · exact hne hnil
    · exact (hhash rest rfl).elim hinclude himport
  · rintro ⟨hline, hblock, hneutral⟩
    obtain ⟨hne, hpreamble⟩ := not_or.1 hneutral
    refine ⟨hne, hline, hblock, fun rest hrest => ?_⟩
    by_contra hother
    exact hpreamble ⟨rest, hrest, not_or.1 hother⟩

/-- Outside a block the beginning of a line decides. -/
theorem role_outside (hblock : ¬ ['/', '*'] <+: line) : blockAfter false line = false ∧
    LineRole.of false line = if ['/', '/'] <+: line then .comment false
      else if line = [] ∨ isPreamble line = true then .neutral else .code := by
  constructor
  · -- the line leaves the reader outside of blocks
    unfold blockAfter
    split
    · contradiction
    · exact absurd (List.prefix_append ['/', '*'] _) hblock
    · rfl
  · have hnone : ['/', '*'].isPrefixOf? line = none := by
      rw [Option.eq_none_iff_forall_ne_some]
      intro rest hrest
      exact hblock ⟨rest, List.isPrefixOf?_eq_some_iff_append_eq.1 hrest⟩
    rw [LineRole.of, if_neg Bool.false_ne_true, hnone]
    simp only [List.isPrefixOf_iff_prefix]

/-- **What a line is to the reader**, and what it makes of the block state. -/
theorem role_cases (b : Bool) (line : List Char) :
    (LineRole.of b line = .comment (blockAfter b line) ∧ ¬ (b = false ∧ IsCode line) ∧
      InComment b line) ∨
      (LineRole.of b line = .neutral ∧ blockAfter b line = b ∧ ¬ (b = false ∧ IsCode line) ∧
        ¬ InComment b line) ∨
      (LineRole.of b line = .code ∧ b = false ∧ IsCode line) := by
  cases b with
  | true =>
    -- in a block every line is a comment
    left
    refine ⟨?_, by simp, Or.inl rfl⟩
    rw [LineRole.of, if_pos rfl, staysOpen_eq]
    rfl
  | false =>
    rw [isCode_iff]
    by_cases hblock : ['/', '*'] <+: line
    · -- the line opens a block, and may close it
      obtain ⟨rest, rfl⟩ := hblock
      left
      refine ⟨?_, by simp, Or.inr (Or.inr (List.prefix_append _ _))⟩
      rw [LineRole.of, if_neg Bool.false_ne_true, List.isPrefixOf?_eq_some_iff_append_eq.2 rfl]
      simp only [staysOpen_eq]
      rfl
    · obtain ⟨hafter, hrole⟩ := role_outside hblock
      rw [hrole, hafter]
      by_cases hline : ['/', '/'] <+: line
      · left
        rw [if_pos hline]
        exact ⟨rfl, fun h => h.2.1 hline, Or.inr (Or.inl hline)⟩
      · rw [if_neg hline]
        -- only now the line is looked at for what it says
        by_cases hneutral : line = [] ∨ isPreamble line = true
        · right
          left
          rw [if_pos hneutral]
          refine ⟨rfl, rfl, fun h => h.2.2.2 hneutral, ?_⟩
          rintro (hopen | hslashes | hstar)
          · exact Bool.false_ne_true hopen
          · exact hline hslashes
          · exact hblock hstar
        · right
          right
          rw [if_neg hneutral]
          exact ⟨rfl, rfl, hline, hblock, hneutral⟩

end Roles

/-! ### What the reader reads -/

section Window

variable {b : Bool} {l line : List Char} {ls : List (List Char)} {i : Nat}

/-- The first line is in the window unless it is code. -/
theorem inWindow_zero : InWindow b (l :: ls) 0 ↔ ¬ (b = false ∧ IsCode l) := by
  constructor
  · rintro h ⟨hb, hl⟩
    exact h 0 (Nat.le_refl 0) l rfl hb hl
  · intro h j hj line hline hb hcode
    obtain rfl := Nat.le_zero.1 hj
    obtain rfl : l = line := Option.some.inj hline
    exact h ⟨hb, hcode⟩

/-- Another line is if the first one is, and it is for the lines behind the first. -/
theorem inWindow_succ : InWindow b (l :: ls) (i + 1) ↔
    ¬ (b = false ∧ IsCode l) ∧ InWindow (blockAfter b l) ls i := by
  rw [← @inWindow_zero b l ls]
  constructor
  · intro h
    refine ⟨fun j hj => h j (by omega), fun j hj => ?_⟩
    exact h (j + 1) (by omega)
  · rintro ⟨hfirst, hrest⟩ j hj
    cases j with
    | zero => exact hfirst 0 (Nat.le_refl 0)
    | succ j => exact hrest j (by omega)

theorem commented_zero : Commented b (l :: ls) 0 line ↔ l = line ∧ InComment b line := by
  rw [Commented, List.getElem?_cons_zero, Option.some.injEq]
  rfl

theorem commented_succ : Commented b (l :: ls) (i + 1) line ↔
    Commented (blockAfter b l) ls i line := by
  rw [Commented, Commented, List.getElem?_cons_succ]
  rfl

/-- A commented line in the window is the first one, or one of the lines after it, which are seen
from the state that the first one leaves. -/
theorem exists_commented_cons_iff {n m : Nat} :
    (∃ i, m = n + i ∧ InWindow b (l :: ls) i ∧ Commented b (l :: ls) i line) ↔
    ¬ (b = false ∧ IsCode l) ∧
      ((m = n ∧ l = line ∧ InComment b line) ∨
        ∃ i, m = n + 1 + i ∧ InWindow (blockAfter b l) ls i ∧
          Commented (blockAfter b l) ls i line) := by
  constructor
  · rintro ⟨i, rfl, hwindow, hcommented⟩
    cases i with
    | zero => exact ⟨inWindow_zero.1 hwindow, Or.inl ⟨rfl, commented_zero.1 hcommented⟩⟩
    | succ i =>
      obtain ⟨hfirst, hrest⟩ := inWindow_succ.1 hwindow
      exact ⟨hfirst, Or.inr ⟨i, by omega, hrest, commented_succ.1 hcommented⟩⟩
  · rintro ⟨hfirst, ⟨rfl, hcommented⟩ | ⟨i, rfl, hrest, hcommented⟩⟩
    · exact ⟨0, rfl, inWindow_zero.2 hfirst, commented_zero.2 hcommented⟩
    · exact ⟨i + 1, by omega, inWindow_succ.2 ⟨hfirst, hrest⟩, commented_succ.2 hcommented⟩

/-- **What the reader reads**: the commented lines in the window, with their numbers. -/
theorem mem_commentLinesFrom_iff {n m : Nat} {raws : List (List Char)} :
    (m, line) ∈ commentLinesFrom b n raws ↔
    ∃ i, m = n + i ∧ InWindow b (raws.map trim) i ∧ Commented b (raws.map trim) i line := by
  -- on the lines; the block state before the first of them and its number change on the way
  induction raws generalizing b n with
  | nil => simp [commentLinesFrom, Commented]
  | cons raw rest ih =>
    rw [commentLinesFrom, List.map_cons, exists_commented_cons_iff, ← ih]
    rcases role_cases b (trim raw) with ⟨hrole, hcode, hcomment⟩ |
      ⟨hrole, hafter, hcode, hcomment⟩ | ⟨hrole, hcode⟩
    · -- the line is read, with its number
      rw [hrole, and_iff_right hcode]
      simp only [List.mem_cons, Prod.mk.injEq]
      refine or_congr_left (and_congr_right fun _ => ?_)
      constructor
      · rintro rfl
        exact ⟨rfl, hcomment⟩
      · rintro ⟨rfl, -⟩
        rfl
    · -- a neutral line is not read, and leaves the state as it is
      rw [hrole, and_iff_right hcode, hafter]
      refine (or_iff_right ?_).symm
      rintro ⟨-, rfl, h⟩
      exact hcomment h
    · -- the line is code, so nothing is read, and no line from here on is in the window
      rw [hrole]
      exact iff_of_false List.not_mem_nil fun h => h.1 hcode

theorem le_of_mem_commentLinesFrom {n m : Nat} {raws : List (List Char)}
    (h : (m, line) ∈ commentLinesFrom b n raws) : n ≤ m := by
  obtain ⟨i, rfl, -⟩ := mem_commentLinesFrom_iff.1 h
  exact Nat.le_add_right n i

/-- Lines are read in order. -/
theorem pairwise_commentLinesFrom (b : Bool) (n : Nat) (raws : List (List Char)) :
    (commentLinesFrom b n raws).Pairwise fun x y => x.1 < y.1 := by
  induction raws generalizing b n with
  | nil => exact List.Pairwise.nil
  | cons raw rest ih =>
    rw [commentLinesFrom]
    split
    · refine List.pairwise_cons.2 ⟨?_, ih _ _⟩
      rintro ⟨m, line⟩ hread
      exact le_of_mem_commentLinesFrom hread
    · exact ih _ _
    · exact List.Pairwise.nil

end Window

/-! ### What a line declares -/

/-- There is `@word:` in the line behind `before`, and `rest` follows it. -/
structure DeclaresAt (line before word rest : List Char) : Prop where
  eq : line = before ++ '@' :: (word ++ ':' :: rest)
  ne_nil : word ≠ []
  letters : ∀ c ∈ word, ('A' ≤ c ∧ c ≤ 'Z') ∨ ('a' ≤ c ∧ c ≤ 'z') ∨ c = '_'

/-- The **leftmost** `@word:` of a line. -/
def FirstDeclares (line word rest : List Char) : Prop :=
  ∃ before, DeclaresAt line before word rest ∧
    ∀ before' word' rest', DeclaresAt line before' word' rest' → before.length ≤ before'.length

/-- The **value** in the text after the colon: the text without the blanks around it, and without
one `*/` at its end. -/
def ValueOf (rest value : List Char) : Prop :=
  trim rest = value ++ ['*', '/'] ∨ (trim rest = value ∧ ¬ ['*', '/'] <:+ value)

/-- The line **declares** the directive: the leftmost `@word:` has the keyword for its word, in
either case, and the directive carries the words of the value. -/
def LineDeclares (line : List Char) (d : Directive) : Prop :=
  ∃ word rest value, FirstDeclares line word rest ∧ word.map Char.toLower = d.kind.keyword.toList ∧
    ValueOf rest value ∧ d.Carries ((words value).map String.ofList)

section Line

variable {line before word rest : List Char} {c : Char}

/-- A directive word has letters and underscores. -/
theorem isWordChar_iff : isWordChar c = true ↔ ('A' ≤ c ∧ c ≤ 'Z') ∨ ('a' ≤ c ∧ c ≤ 'z') ∨
    c = '_' := by
  have halpha : c.isAlpha = (c.isUpper || c.isLower) := rfl
  have hupper : c.isUpper = decide ('A' ≤ c ∧ c ≤ 'Z') := rfl
  have hlower : c.isLower = (decide ('a' ≤ c) && decide (c ≤ 'z')) := rfl
  rw [isWordChar, halpha, hupper, hlower]
  simp only [Bool.or_eq_true, Bool.and_eq_true, decide_eq_true_eq, or_assoc]

/-- The word of a declaration ends at the colon. -/
theorem span_word (hword : ∀ c ∈ word, isWordChar c = true) (rest : List Char) :
    (word ++ ':' :: rest).takeWhile isWordChar = word ∧
    (word ++ ':' :: rest).dropWhile isWordChar = ':' :: rest := by
  have hcolon : isWordChar ':' = false := by decide
  constructor
  · rw [List.takeWhile_append_of_pos hword, List.takeWhile_cons_of_neg (by simp [hcolon]),
      List.append_nil]
  · rw [List.dropWhile_append_of_pos hword, List.dropWhile_cons_of_neg (by simp [hcolon])]

/-- What a declaration at the beginning of a text is read as. -/
theorem declaration?_of_declaresAt_nil (h : DeclaresAt line [] word rest) :
    declaration? line = some (word, rest) := by
  obtain ⟨rfl, hne, hletters⟩ := h
  obtain ⟨a, w, rfl⟩ := List.exists_cons_of_ne_nil hne
  obtain ⟨htake, hdrop⟩ := span_word (fun c hc => isWordChar_iff.2 (hletters c hc)) rest
  rw [List.nil_append, declaration?, if_pos rfl, htake, hdrop]
  rfl

/-- Where no declaration begins, the next one is read. -/
theorem declaration?_cons_of_not {r : List Char}
    (h : ∀ word rest, ¬ DeclaresAt (c :: r) [] word rest) :
    declaration? (c :: r) = declaration? r := by
  rw [declaration?]
  split
  · rename_i hat
    split
    · -- a word and a colon follow, against the hypothesis
      rename_i a w rest' htake hdrop
      have hr : r = a :: w ++ ':' :: rest' := by
        rw [← htake, ← hdrop, List.takeWhile_append_dropWhile]
      refine absurd ⟨by rw [hat, hr, List.nil_append], List.cons_ne_nil a w,
        fun x hx => ?_⟩ (h (a :: w) rest')
      rw [← htake] at hx
      exact isWordChar_iff.1 (List.mem_takeWhile_imp hx)
    · rfl
  · rfl

theorem declaresAt_cons_iff {r : List Char} : DeclaresAt (c :: r) (c :: before) word rest ↔
    DeclaresAt r before word rest := by
  constructor
  · rintro ⟨heq, hne, hletters⟩
    exact ⟨(List.cons.inj heq).2, hne, hletters⟩
  · rintro ⟨rfl, hne, hletters⟩
    exact ⟨rfl, hne, hletters⟩

/-- The leftmost declaration begins the line, or it is the leftmost one of what follows the first
character. -/
theorem firstDeclares_cons_iff {r : List Char} : FirstDeclares (c :: r) word rest ↔
    DeclaresAt (c :: r) [] word rest ∨
      (∀ word rest, ¬ DeclaresAt (c :: r) [] word rest) ∧ FirstDeclares r word rest := by
  constructor
  · rintro ⟨before, hat, hleast⟩
    -- a declaration is at the very beginning, or it is one of what is behind the first character
    cases before with
    | nil => exact Or.inl hat
    | cons x before =>
      obtain rfl : c = x := (List.cons.inj hat.eq).1
      right
      refine ⟨fun word' rest' hfirst => ?_, before, declaresAt_cons_iff.1 hat,
        fun before' word' rest' h => ?_⟩
      · exact absurd (hleast [] word' rest' hfirst) (Nat.not_succ_le_zero _)
      · exact Nat.le_of_succ_le_succ (hleast (c :: before') word' rest' (declaresAt_cons_iff.2 h))
  · rintro (hat | ⟨hnone, before, hat, hleast⟩)
    · exact ⟨[], hat, fun _ _ _ _ => Nat.zero_le _⟩
    · refine ⟨c :: before, declaresAt_cons_iff.2 hat, fun before' word' rest' h => ?_⟩
      cases before' with
      | nil => exact absurd h (hnone word' rest')
      | cons x before' =>
        obtain rfl : c = x := (List.cons.inj h.eq).1
        exact Nat.succ_le_succ (hleast before' word' rest' (declaresAt_cons_iff.1 h))

/-- **The reader finds the leftmost declaration.** -/
theorem declaration?_eq_some_iff : declaration? line = some (word, rest) ↔
    FirstDeclares line word rest := by
  -- on the line, whose characters are tried one after the other
  induction line with
  | nil =>
    rw [declaration?]
    refine iff_of_false (by simp) ?_
    rintro ⟨before, hat, -⟩
    exact absurd hat.eq (by simp)
  | cons c r ih =>
    rw [firstDeclares_cons_iff]
    by_cases hbegins : ∃ word rest, DeclaresAt (c :: r) [] word rest
    · obtain ⟨word', rest', h⟩ := hbegins
      rw [or_iff_left fun hlater => hlater.1 word' rest' h, declaration?_of_declaresAt_nil h]
      constructor
      · rintro heq
        obtain ⟨rfl, rfl⟩ := Prod.mk.inj (Option.some.inj heq)
        exact h
      · intro h'
        rw [← declaration?_of_declaresAt_nil h, declaration?_of_declaresAt_nil h']
    · have hnone : ∀ word rest, ¬ DeclaresAt (c :: r) [] word rest :=
        fun word rest h => hbegins ⟨word, rest, h⟩
      rw [declaration?_cons_of_not hnone, ih, or_iff_right (hnone word rest), and_iff_right hnone]

/-- A keyword is spelled in any case. -/
theorem ofKeyword?_eq_some_iff {k : DirectiveKind} :
    DirectiveKind.ofKeyword? word = some k ↔ word.map Char.toLower = k.keyword.toList := by
  constructor
  · intro h
    rw [DirectiveKind.ofKeyword?] at h
    have hk := List.find?_some h
    exact (of_decide_eq_true hk).symm
  · intro h
    -- no two kinds have the same keyword
    rw [DirectiveKind.ofKeyword?, h]
    cases k <;> decide

/-- The value ends before the `*/` that ends the line, if there is one. -/
theorem valueWords_of_valueOf {value : List Char} (h : ValueOf rest value) :
    valueWords rest = words value := by
  rw [valueWords]
  rcases h with h | ⟨h, hend⟩
  · rw [List.isSuffixOf?_eq_some_iff_append_eq.2 h.symm]
    rfl
  · have hnone : ['*', '/'].isSuffixOf? (trim rest) = none := by
      rw [Option.eq_none_iff_forall_ne_some]
      intro v hv
      rw [h] at hv
      exact hend ⟨v, List.isSuffixOf?_eq_some_iff_append_eq.1 hv⟩
    rw [hnone, h]
    rfl

theorem exists_valueOf (rest : List Char) : ∃ value, ValueOf rest value := by
  by_cases hend : ['*', '/'] <:+ trim rest
  · obtain ⟨value, hvalue⟩ := hend
    exact ⟨value, Or.inl hvalue.symm⟩
  · exact ⟨trim rest, Or.inr ⟨rfl, hend⟩⟩

/-- **What the reader makes of a line** is what the line declares. -/
theorem ofLine?_eq_some_iff {d : Directive} : Directive.ofLine? line = some d ↔
    LineDeclares line d := by
  rw [Directive.ofLine?]
  constructor
  · intro h
    split at h
    · simp at h
    · rename_i word rest hdecl
      obtain ⟨k, hk, rfl⟩ := Option.map_eq_some_iff.1 h
      -- there is always a value, though it may be empty
      obtain ⟨value, hvalue⟩ := exists_valueOf rest
      refine ⟨word, rest, value, declaration?_eq_some_iff.1 hdecl, ?_, hvalue, ?_⟩
      · rw [Directive.kind_ofWords]
        exact ofKeyword?_eq_some_iff.1 hk
      · rw [← Directive.eq_ofWords_iff, Directive.kind_ofWords, valueWords_of_valueOf hvalue]
  · rintro ⟨word, rest, value, hfirst, hword, hvalue, hd⟩
    rw [declaration?_eq_some_iff.2 hfirst]
    simp only [ofKeyword?_eq_some_iff.2 hword, Option.map_some, valueWords_of_valueOf hvalue]
    rw [← Directive.eq_ofWords_iff.2 hd]

end Line

/-! ### Eligible lines -/

/-- The line of that number is **eligible**, and declares the directive; lines count from one, and
are seen without the blanks around them. -/
def Eligible (text : List Char) (n : Nat) (d : Directive) : Prop :=
  ∃ i line, n = i + 1 ∧ InWindow false ((lines text).map trim) i ∧
    Commented false ((lines text).map trim) i line ∧
    LineDeclares line d

/-- The line is eligible and its directive of the kind, and so is a line before it. -/
def Repeats (text : List Char) (n : Nat) (k : DirectiveKind) : Prop :=
  (∃ d, Eligible text n d ∧ d.kind = k) ∧ ∃ m < n, ∃ d, Eligible text m d ∧ d.kind = k

section Eligible

variable {text : List Char} {n : Nat} {d : Directive}

/-- **What is read are the eligible directives**, each with the number of its line. -/
theorem mem_declarations_iff : (n, d) ∈ declarations text ↔ Eligible text n d := by
  -- lines are numbered from one
  have hread : ∀ {m line}, (m, line) ∈ commentLines text ↔ ∃ i, m = i + 1 ∧
      InWindow false ((lines text).map trim) i ∧
      Commented false ((lines text).map trim) i line := by
    intro m line
    rw [commentLines, mem_commentLinesFrom_iff]
    simp only [Nat.add_comm 1]
  rw [declarations, List.mem_filterMap]
  constructor
  · rintro ⟨⟨m, line⟩, hmem, hline⟩
    obtain ⟨d', hd', heq⟩ := Option.map_eq_some_iff.1 hline
    obtain ⟨rfl, rfl⟩ := Prod.mk.inj heq
    obtain ⟨i, hi, hwindow, hcommented⟩ := hread.1 hmem
    exact ⟨i, line, hi, hwindow, hcommented, ofLine?_eq_some_iff.1 hd'⟩
  · rintro ⟨i, line, rfl, hwindow, hcommented, hd⟩
    refine ⟨(i + 1, line), hread.2 ⟨i, rfl, hwindow, hcommented⟩, ?_⟩
    rw [ofLine?_eq_some_iff.2 hd]
    rfl

theorem pairwise_declarations (text : List Char) :
    (declarations text).Pairwise fun x y => x.1 < y.1 := by
  refine List.pairwise_filterMap.2 ((pairwise_commentLinesFrom false 1 (lines text)).imp ?_)
  intro x y hxy x' hx y' hy
  obtain ⟨-, -, rfl⟩ := Option.map_eq_some_iff.1 hx
  obtain ⟨-, -, rfl⟩ := Option.map_eq_some_iff.1 hy
  exact hxy

/-- A line declares one directive. -/
theorem Eligible.unique {d' : Directive} (h : Eligible text n d) (h' : Eligible text n d') :
    d = d' := by
  obtain ⟨i, line, rfl, -, hline, hd⟩ := h
  obtain ⟨j, line', hij, -, hline', hd'⟩ := h'
  obtain rfl := Nat.succ.inj hij
  obtain rfl : line = line' := Option.some.inj (hline.1.symm.trans hline'.1)
  exact Option.some.inj ((ofLine?_eq_some_iff.2 hd).symm.trans (ofLine?_eq_some_iff.2 hd'))

/-- If kinds are not declared again, two declarations of a kind are on one line. -/
theorem eq_of_nodup {ds : List (Nat × Directive)} (h : (declaredKinds ds).Nodup) {m n : Nat}
    {d d' : Directive} (hm : (m, d) ∈ ds) (hn : (n, d') ∈ ds) (hkind : d.kind = d'.kind) : m = n :=
  (Prod.mk.inj (List.inj_on_of_nodup_map h hm hn hkind)).1

/-- The declarations in front of one are those on lines before it. -/
theorem mem_front_declarations_iff {front rest : List (Nat × Directive)}
    (hsplit : declarations text = front ++ (n, d) :: rest) {m : Nat} {e : Directive} :
    (m, e) ∈ front ↔ Eligible text m e ∧ m < n := by
  have hasymm : ∀ x y : Nat × Directive, x.1 < y.1 → ¬ y.1 < x.1 := fun _ _ => Nat.lt_asymm
  have hasc := pairwise_declarations text
  rw [← mem_declarations_iff, hsplit]
  rw [hsplit] at hasc
  constructor
  · intro hm
    have hmem := List.mem_append_left ((n, d) :: rest) hm
    exact ⟨hmem, (mem_front_iff hasymm hasc hmem).1 hm⟩
  · rintro ⟨hmem, hlt⟩
    exact (mem_front_iff hasymm hasc hmem).2 hlt

/-- The first redeclaration repeats a kind, and nothing before it does. -/
theorem repeats_of_firstIn {r : Redeclaration} (h : r.FirstIn [] (declarations text)) :
    Repeats text r.line r.kind ∧ ∀ m < r.line, ∀ k, ¬ Repeats text m k := by
  obtain ⟨front, d, rest, hsplit, hkind, hnodup, hmem⟩ := h
  rw [List.nil_append] at hnodup hmem
  constructor
  · have hself : Eligible text r.line d := by
      rw [← mem_declarations_iff, hsplit]
      exact List.mem_append_right _ List.mem_cons_self
    obtain ⟨⟨m, e⟩, hme, hek⟩ := List.mem_map.1 hmem
    obtain ⟨he, hlt⟩ := (mem_front_declarations_iff hsplit).1 hme
    exact ⟨⟨d, hself, hkind⟩, m, hlt, e, he, hek⟩
  · rintro m hm k ⟨⟨e, he, rfl⟩, l, hl, e', he', hkind'⟩
    -- both lines would be in front, where kinds are different
    have hearlier : (l, e') ∈ front :=
      (mem_front_declarations_iff hsplit).2 ⟨he', Nat.lt_trans hl hm⟩
    have hlater : (m, e) ∈ front := (mem_front_declarations_iff hsplit).2 ⟨he, hm⟩
    exact absurd (eq_of_nodup hnodup hearlier hlater hkind') (Nat.ne_of_lt hl)

/-- There is a redeclaration if some line repeats a kind. -/
theorem exists_firstIn_iff_repeats :
    (∃ r : Redeclaration, r.FirstIn [] (declarations text)) ↔ ∃ n k, Repeats text n k := by
  constructor
  · rintro ⟨r, hr⟩
    exact ⟨r.line, r.kind, (repeats_of_firstIn hr).1⟩
  · rintro ⟨n, k, ⟨d, hd, rfl⟩, m, hm, e, he, hkind⟩
    rw [exists_firstIn_iff List.nodup_nil]
    intro hnodup
    have heq : m = n :=
      eq_of_nodup hnodup (mem_declarations_iff.2 he) (mem_declarations_iff.2 hd) hkind
    exact absurd heq (Nat.ne_of_lt hm)

/-- **Declarations are of different kinds** if no line repeats a kind. -/
theorem nodup_declarations_iff : (declaredKinds (declarations text)).Nodup ↔
    ¬ ∃ n k, Repeats text n k := by
  rw [← exists_firstIn_iff_repeats, exists_firstIn_iff List.nodup_nil, not_not]
  rfl

/-- **The first redeclaration** is the first line that repeats a kind. -/
theorem firstIn_iff_repeats {r : Redeclaration} : r.FirstIn [] (declarations text) ↔
    Repeats text r.line r.kind ∧ ∀ m < r.line, ∀ k, ¬ Repeats text m k := by
  refine ⟨repeats_of_firstIn, ?_⟩
  rintro ⟨hrepeats, hleast⟩
  -- there is a first redeclaration, and it can be no other
  obtain ⟨r', hr'⟩ := exists_firstIn_iff_repeats.2 ⟨_, _, hrepeats⟩
  obtain ⟨hrepeats', hleast'⟩ := repeats_of_firstIn hr'
  have hline : r'.line = r.line := by
    rcases lt_trichotomy r'.line r.line with hlt | heq | hgt
    · exact absurd hrepeats' (hleast _ hlt _)
    · exact heq
    · exact absurd hrepeats (hleast' _ hgt _)
  have hkind : r'.kind = r.kind := by
    obtain ⟨⟨d, hd, hdk⟩, -⟩ := hrepeats
    obtain ⟨⟨d', hd', hdk'⟩, -⟩ := hrepeats'
    rw [← hdk, ← hdk', hd'.unique (hline ▸ hd)]
  obtain ⟨line, kind⟩ := r
  obtain ⟨line', kind'⟩ := r'
  obtain rfl : line' = line := hline
  obtain rfl : kind' = kind := hkind
  exact hr'

/-- **The directives of the eligible lines in order** are those of the declarations. -/
theorem eq_map_snd_declarations_iff {ds : List Directive} : ds = (declarations text).map Prod.snd ↔
    ∃ ns, ns.Pairwise (· < ·) ∧ (∀ n, n ∈ ns ↔ ∃ d, Eligible text n d) ∧
      List.Forall₂ (Eligible text) ns ds := by
  -- the lines that declarations are read from do ascend, and they are the eligible ones
  have hasc : Ascending id ((declarations text).map Prod.fst) :=
    List.pairwise_map.2 (pairwise_declarations text)
  have hmem : ∀ n, n ∈ (declarations text).map Prod.fst ↔ ∃ d, Eligible text n d := by
    intro n
    rw [List.mem_map]
    constructor
    · rintro ⟨⟨m, d⟩, hd, rfl⟩
      exact ⟨d, mem_declarations_iff.1 hd⟩
    · rintro ⟨d, hd⟩
      exact ⟨(n, d), mem_declarations_iff.2 hd, rfl⟩
  have hdeclares : List.Forall₂ (Eligible text) ((declarations text).map Prod.fst)
      ((declarations text).map Prod.snd) := by
    rw [List.forall₂_map_left_iff, List.forall₂_map_right_iff, List.forall₂_same]
    exact fun x hx => mem_declarations_iff.1 hx
  constructor
  · rintro rfl
    exact ⟨_, hasc, hmem, hdeclares⟩
  · rintro ⟨ns, hns, hnumbers, hds⟩
    -- the numbers are determined, and the directives by the numbers
    have hasc' : Ascending id ns := hns
    have heq : ns = (declarations text).map Prod.fst :=
      hasc'.eq_of_mem_iff hasc fun n => (hnumbers n).trans (hmem n).symm
    have hunique : Relator.RightUnique (Eligible text) := fun _ _ _ h h' => h.unique h'
    rw [heq] at hds
    exact List.right_unique_forall₂' hunique hds hdeclares

end Eligible

namespace DirectiveSet

variable {path : Path} {text : List Char}

/-- **When all declarations are added**: they are of new kinds, and stand behind what was there. -/
theorem addAll_eq_ok_iff {s t : DirectiveSet} {ds : List (Nat × Directive)} : s.addAll ds = .ok t ↔
    (s.entries.map Directive.kind ++ declaredKinds ds).Nodup ∧
    t.entries = s.entries ++ ds.map Prod.snd := by
  -- on the declarations, with those of the set in front of them
  induction ds generalizing s with
  | nil =>
    have hnodup : (s.entries.map Directive.kind ++ declaredKinds []).Nodup := by
      simpa [declaredKinds] using s.nodup
    rw [addAll, Except.ok.injEq, and_iff_right hnodup, List.map_nil, List.append_nil]
    constructor
    · rintro rfl
      rfl
    · intro h
      cases s
      cases t
      simp_all
  | cons x ds ih =>
    obtain ⟨n, d⟩ := x
    rw [addAll, declaredKinds_cons]
    by_cases hd : s.get? d.kind = none
    · rw [dif_pos hd, ih, List.append_cons (s.entries.map Directive.kind) d.kind (declaredKinds ds)]
      simp [add]
    · rw [dif_neg hd]
      rw [get?_eq_none_iff, not_not] at hd
      exact iff_of_false (by simp) fun h => notMem_of_nodup_append_cons h.1 hd

/-- A text is read if the kinds that it declares differ, and all declarations are kept in order. -/
theorem read_eq_ok_iff {s : DirectiveSet} : read path text = .ok s ↔
    (declaredKinds (declarations text)).Nodup ∧ s.entries = (declarations text).map Prod.snd := by
  have hadd : ofText text = .ok s ↔
      (declaredKinds (declarations text)).Nodup ∧ s.entries = (declarations text).map Prod.snd := by
    rw [ofText, addAll_eq_ok_iff]
    simp [empty]
  rw [← hadd, read]
  cases ofText text <;> simp

/-- A text is refused if a line repeats a kind. -/
theorem exists_error_iff : (∃ e, read path text = .error e) ↔ ∃ n k, Repeats text n k := by
  rw [← exists_firstIn_iff_repeats]
  constructor
  · rintro ⟨e, he⟩
    obtain ⟨r, hr, -⟩ := read_eq_error_iff.1 he
    exact ⟨r, hr⟩
  · rintro ⟨r, hr⟩
    exact ⟨_, read_eq_error_iff.2 ⟨r, hr, rfl⟩⟩

/-- **The reader of directives, line by line.** It complains exactly when two eligible lines are of
one kind, and names the first line that repeats a kind; otherwise it gives the directives of the
eligible lines in order. Lines from the end of the window on are never complained of. -/
theorem read_by_line (path : Path) (text : List Char) :
    ((∃ e, read path text = .error e) ↔
      ∃ m n d d', m < n ∧ Eligible text m d ∧ Eligible text n d' ∧ d.kind = d'.kind) ∧
    (∀ e, read path text = .error e ↔ ∃ n k, e = .duplicateDirective path n k ∧ Repeats text n k ∧
      ∀ m < n, ∀ k', ¬ Repeats text m k') ∧
    (∀ s, read path text = .ok s ↔
      (¬ ∃ m n d d', m < n ∧ Eligible text m d ∧ Eligible text n d' ∧ d.kind = d'.kind) ∧
      ∃ ns, ns.Pairwise (· < ·) ∧ (∀ n, n ∈ ns ↔ ∃ d, Eligible text n d) ∧
        List.Forall₂ (Eligible text) ns s.entries) ∧
    ∀ i line, ((lines text).map trim)[i]? = some line →
      inBlock false ((lines text).map trim) i = false →
      IsCode line → ∀ n k, read path text = .error (.duplicateDirective path n k) → n ≤ i := by
  -- the second of two equal kinds repeats the first
  have hclash : (∃ n k, Repeats text n k) ↔
      ∃ m n d d', m < n ∧ Eligible text m d ∧ Eligible text n d' ∧ d.kind = d'.kind := by
    constructor
    · rintro ⟨n, k, ⟨d', hd', rfl⟩, m, hm, d, hd, hkind⟩
      exact ⟨m, n, d, d', hm, hd, hd', hkind⟩
    · rintro ⟨m, n, d, d', hm, hd, hd', hkind⟩
      exact ⟨n, d'.kind, ⟨d', hd', rfl⟩, m, hm, d, hd, hkind⟩
  have herror : ∀ e, read path text = .error e ↔ ∃ n k, e = .duplicateDirective path n k ∧
      Repeats text n k ∧ ∀ m < n, ∀ k', ¬ Repeats text m k' := by
    intro e
    rw [read_eq_error_iff]
    constructor
    · rintro ⟨r, hr, rfl⟩
      exact ⟨r.line, r.kind, rfl, firstIn_iff_repeats.1 hr⟩
    · rintro ⟨n, k, rfl, hr⟩
      exact ⟨⟨n, k⟩, firstIn_iff_repeats.2 hr, rfl⟩
  refine ⟨exists_error_iff.trans hclash, herror, fun s => ?_, ?_⟩
  · rw [read_eq_ok_iff, nodup_declarations_iff, ← hclash]
    exact and_congr_right' eq_map_snd_declarations_iff
  · intro i line hline hblock hcode n k he
    obtain ⟨n', k', heq, ⟨⟨d, ⟨j, -, rfl, hwindow, -⟩, -⟩, -⟩, -⟩ := (herror _).1 he
    obtain ⟨-, rfl, -⟩ := BuildError.duplicateDirective.inj heq
    -- a line in the window has no code before it
    by_contra hlt
    exact hwindow i (by omega) line hline hblock hcode

/-- A file that declares flags in a block, again in a comment behind it, and others once more after
its code. -/
def repeatingSource : List Char :=
  ("/* @cflags: -O2\n @ldflags: -lm */\n#define A @cflags: 1\n// @CFlags: -g */\nint x;\n" ++
    "// @ldflags: -lz\n").toList

/-- The same without the comment behind the block. -/
def steadySource : List Char :=
  "/* @cflags: -O2  -g\n @ldflags: -lm */\nint x;\n// @ldflags: -lz\n".toList

/-- The fourth line of one file repeats a kind, and the sixth, which would, comes after the code.
From the other file the directives of two lines are read. -/
theorem repeatingSource_by_line :
    (read (.ofString "a.c") repeatingSource =
        .error (.duplicateDirective (.ofString "a.c") 4 .cflags) ∧
      Repeats repeatingSource 4 .cflags ∧ (∀ m < 4, ∀ k, ¬ Repeats repeatingSource m k) ∧
      ((lines repeatingSource).map trim)[4]? = some "int x;".toList ∧
      ∀ n k, read (.ofString "a.c") repeatingSource =
        .error (.duplicateDirective (.ofString "a.c") n k) → n ≤ 4) ∧
    ∃ s, read (.ofString "a.c") steadySource = .ok s ∧
      s.entries = [.cflags "-O2 -g", .ldflags ["-lm"]] ∧
      (¬ ∃ m n d d', m < n ∧ Eligible steadySource m d ∧ Eligible steadySource n d' ∧
        d.kind = d'.kind) ∧
      ∃ m n, m < n ∧ (∀ i, i = m ∨ i = n ↔ ∃ d, Eligible steadySource i d) ∧
        Eligible steadySource m (.cflags "-O2 -g") ∧
        Eligible steadySource n (.ldflags ["-lm"]) := by
  constructor
  · obtain ⟨-, herror, -, hwindow⟩ := read_by_line (.ofString "a.c") repeatingSource
    have hread : read (.ofString "a.c") repeatingSource =
        .error (.duplicateDirective (.ofString "a.c") 4 .cflags) := by
      have hdeclared : declarations repeatingSource =
          [(1, .cflags "-O2"), (2, .ldflags ["-lm"]), (4, .cflags "-g")] := by decide +kernel
      rw [read, ofText, hdeclared]
      rfl
    have hcode : IsCode "int x;".toList :=
      ⟨by decide, by decide, by decide, fun rest h => by simp at h⟩
    have hline : ((lines repeatingSource).map trim)[4]? = some "int x;".toList := by decide +kernel
    obtain ⟨n, k, heq, hrepeats, hleast⟩ := (herror _).1 hread
    obtain ⟨-, rfl, rfl⟩ := BuildError.duplicateDirective.inj heq
    exact ⟨hread, hrepeats, hleast, hline, hwindow 4 _ hline (by decide +kernel) hcode⟩
  · obtain ⟨-, -, hok, -⟩ := read_by_line (.ofString "a.c") steadySource
    have hdeclared : declarations steadySource =
        [(1, .cflags "-O2 -g"), (2, .ldflags ["-lm"])] := by decide +kernel
    obtain ⟨s, hs, hentries⟩ : ∃ s, read (.ofString "a.c") steadySource = .ok s ∧
        s.entries = [.cflags "-O2 -g", .ldflags ["-lm"]] := by
      rw [read, ofText, hdeclared]
      exact ⟨_, rfl, rfl⟩
    obtain ⟨hsteady, ns, hasc, hmem, heligible⟩ := (hok s).1 hs
    rw [hentries] at heligible
    -- there are as many lines as directives
    obtain _ | ⟨hm, _ | ⟨hn, _ | _⟩⟩ := heligible
    refine ⟨s, hs, hentries, hsteady, _, _, ?_, fun i => ?_, hm, hn⟩
    · simpa using hasc
    · simpa using hmem i

end DirectiveSet

end NativeBuild
