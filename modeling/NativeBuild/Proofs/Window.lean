import NativeBuild.Proofs.Comments

/-!
# Directives stand before the code

Directives are read from the comments that a text begins with. Here that is said in terms of the
characters of the text: which of them lie in comments (`Comment.marks`), on which line the code
begins (`Comment.codeLine?`), and what it means that a line declares a directive whose value lies in
a comment (`Comment.Declares`).

The reader decides line by line, so it is deceived by a line on which something follows the end of a
block, and by a `#` line that opens one. A text without these before its code is `orderly`. From an
orderly text every directive is read from a line before the code, with a value that lies in a
comment, and so is the one that is refused because it is there already
(`DirectiveSet.read_before_code`).

A text that is not orderly can have directives after its code: see `DirectiveSet.coveredCode_read`.
-/

namespace NativeBuild

namespace Comment

open Text

/-! ### Where the code begins -/

/-- Is it a `#` line, and not in a block? -/
def isHash (inBlock : Bool) (raw : List Char) : Bool :=
  !inBlock && (trim raw).head? = some '#'

/-- Does the line hold **code**? A `#` line does if it includes or imports, any other line if some
character that is not blank lies in no comment. -/
def isCode (inBlock : Bool) (raw : List Char) : Bool :=
  if isHash inBlock raw then !isPreamble (trim raw)
  else (marks inBlock raw).any fun x => !x.2 && !isBlank x.1

-- In what follows a text is given by its lines, and `n` is the number of the first of them.

def markedLinesFrom (inBlock : Bool) (n : Nat) : List (List Char) → List (Nat × List (Char × Bool))
  | [] => []
  | raw :: rest => (n, marks inBlock raw) :: markedLinesFrom (opens inBlock raw) (n + 1) rest

def codeLineFrom? (inBlock : Bool) (n : Nat) : List (List Char) → Option Nat
  | [] => none
  | raw :: rest => if isCode inBlock raw then some n
    else codeLineFrom? (opens inBlock raw) (n + 1) rest

def orderlyFrom (inBlock : Bool) : List (List Char) → Bool
  | [] => true
  | raw :: rest =>
    tidy inBlock raw &&
      (isCode inBlock raw ||
        !(isHash inBlock raw && opens inBlock raw) && orderlyFrom (opens inBlock raw) rest)

/-- The lines of a text with their numbers, character by character with whether it lies in a
comment. -/
def markedLines (text : List Char) : List (Nat × List (Char × Bool)) :=
  markedLinesFrom false 1 (lines text)

/-- The number of the **first line of code**. -/
def codeLine? (text : List Char) : Option Nat := codeLineFrom? false 1 (lines text)

/-- Up to the first line of code, does nothing follow the end of a block on its line, and does no
`#` line open a block? -/
def orderly (text : List Char) : Bool := orderlyFrom false (lines text)

/-- Lines are counted upwards. -/
theorem le_of_codeLineFrom? {b : Bool} {n k : Nat} {ls : List (List Char)}
    (h : codeLineFrom? b n ls = some k) : n ≤ k := by
  induction ls generalizing b n with
  | nil => simp [codeLineFrom?] at h
  | cons raw rest ih =>
    rw [codeLineFrom?] at h
    split at h
    · exact (Option.some.inj h).le
    · have hle := ih h
      omega

/-- And so are those that are marked. -/
theorem le_of_mem_markedLinesFrom {b : Bool} {n m : Nat} {ls : List (List Char)}
    {line : List (Char × Bool)} (h : (m, line) ∈ markedLinesFrom b n ls) : n ≤ m := by
  induction ls generalizing b n with
  | nil => simp [markedLinesFrom] at h
  | cons raw rest ih =>
    rcases List.mem_cons.1 h with hhead | htail
    · exact (Prod.mk.inj hhead).1.ge
    · have hle := ih htail
      omega

/-! ### One line -/

variable {b o : Bool} {raw : List Char}

/-- A `#` line begins with it, outside of blocks. -/
theorem isHash_iff : isHash b raw = true ↔ b = false ∧ ∃ rest, trim raw = '#' :: rest := by
  rw [isHash, Bool.and_eq_true, Bool.not_eq_true', decide_eq_true_eq, List.head?_eq_some_iff]

/-- A neutral line that is not blank is such a line. -/
theorem hash_of_isPreamble {line : List Char} (h : isPreamble line = true) :
    ∃ rest, line = '#' :: rest := by
  unfold isPreamble at h
  split at h
  · exact ⟨_, rfl⟩
  · simp at h

/-- A comment is none. -/
theorem isHash_of_comment (h : LineRole.of b (trim raw) = .comment o) : isHash b raw = false := by
  rw [Bool.eq_false_iff]
  intro hhash
  obtain ⟨rfl, rest, hline⟩ := isHash_iff.1 hhash
  -- a line that begins with `#` begins with no comment
  have hrole : LineRole.of false ('#' :: rest) =
      if isPreamble ('#' :: rest) = true then .neutral else .code := by
    simp [LineRole.of, List.isPrefixOf?]
  rw [hline, hrole] at h
  split at h <;> simp at h

/-- Nor is a tidy comment code. -/
theorem isCode_of_comment (htidy : tidy b raw = true) (h : LineRole.of b (trim raw) = .comment o) :
    isCode b raw = false := by
  obtain ⟨-, l, r, hmarks, hl, hr⟩ := marks_of_comment htidy h
  rw [isCode, isHash_of_comment h, if_neg Bool.false_ne_true, hmarks, List.any_eq_false]
  intro x hx
  rcases List.mem_append.1 hx with hx | hx
  · rcases List.mem_append.1 hx with hx | hx
    · simp [hl x hx]
    · obtain ⟨c, -, rfl⟩ := List.mem_map.1 hx
      simp
  · simp [hr x hx]

/-- A neutral line is no code, and opens a block only behind a `#`. -/
theorem isCode_of_neutral (h : LineRole.of b (trim raw) = .neutral) :
    b = false ∧ isCode b raw = false ∧ (opens b raw = true → isHash b raw = true) := by
  have hrole : b = false ∧ (trim raw = [] ∨ isPreamble (trim raw) = true) := by
    cases b <;> grind [LineRole.of]
  obtain ⟨rfl, hnil | hpre⟩ := hrole
  · -- nothing but blanks
    obtain ⟨l, r, hraw, hl, hr⟩ := exists_trim raw
    have hblank : ∀ c ∈ raw, isBlank c = true := by
      intro c hc
      rw [hraw, hnil, List.append_nil] at hc
      exact (List.mem_append.1 hc).elim (hl c) (hr c)
    obtain ⟨hmarks, hopens⟩ := marks_of_blank hblank
    refine ⟨rfl, ?_, by simp [hopens]⟩
    rw [isCode, isHash, hnil, hmarks]
    simpa using hblank
  · have hhash : isHash false raw = true := isHash_iff.2 ⟨rfl, hash_of_isPreamble hpre⟩
    exact ⟨rfl, by rw [isCode, hhash, hpre]; rfl, fun _ => hhash⟩

/-! ### The lines that are read -/

theorem orderlyFrom_cons {ls : List (List Char)} (h : orderlyFrom b (raw :: ls) = true)
    (hcode : isCode b raw = false) :
    (isHash b raw && opens b raw) = false ∧ orderlyFrom (opens b raw) ls = true := by
  rw [orderlyFrom, hcode, Bool.false_or, Bool.and_eq_true, Bool.and_eq_true, Bool.not_eq_true'] at h
  exact h.2

/-- **What the reader reads** of an orderly text stands in comments, before the code. -/
theorem mem_commentLinesFrom {n m : Nat} {line : List Char} {ls : List (List Char)}
    (hord : orderlyFrom b ls = true) (h : (m, line) ∈ commentLinesFrom b n ls) :
    (∃ l r, (m, l ++ line.map (·, true) ++ r) ∈ markedLinesFrom b n ls) ∧
      ∀ k, codeLineFrom? b n ls = some k → m < k := by
  -- on the lines; in an orderly text the reader and the marks agree on what is open
  induction ls generalizing b n with
  | nil => simp [commentLinesFrom] at h
  | cons raw rest ih =>
    have htidy : tidy b raw = true := by
      rw [orderlyFrom, Bool.and_eq_true] at hord
      exact hord.1
    rw [commentLinesFrom] at h
    rw [markedLinesFrom, codeLineFrom?]
    cases hrole : LineRole.of b (trim raw) with
    | comment o =>
      have hcode := isCode_of_comment htidy hrole
      obtain ⟨rfl, l, r, hmarks, -⟩ := marks_of_comment htidy hrole
      rw [hrole] at h
      rw [if_neg (by simp [hcode])]
      rcases List.mem_cons.1 h with hhead | htail
      · obtain ⟨rfl, rfl⟩ := Prod.mk.inj hhead
        exact ⟨⟨l, r, hmarks ▸ List.mem_cons_self⟩, fun k hk => le_of_codeLineFrom? hk⟩
      · obtain ⟨⟨l, r, hmem⟩, hlt⟩ := ih (orderlyFrom_cons hord hcode).2 htail
        exact ⟨⟨l, r, List.mem_cons_of_mem _ hmem⟩, hlt⟩
    | neutral =>
      obtain ⟨rfl, hcode, hhash⟩ := isCode_of_neutral hrole
      obtain ⟨hopens, hrest⟩ := orderlyFrom_cons hord hcode
      have hclosed : opens false raw = false := by
        cases ho : opens false raw with
        | false => rfl
        | true => simp [hhash ho, ho] at hopens
      rw [hrole] at h
      rw [if_neg (by simp [hcode]), hclosed]
      obtain ⟨⟨l, r, hmem⟩, hlt⟩ := ih (hclosed ▸ hrest) h
      exact ⟨⟨l, r, List.mem_cons_of_mem _ hmem⟩, hlt⟩
    | code =>
      rw [hrole] at h
      simp at h

/-! ### What a line declares -/

/-- What is declared, and that its value **lies in a comment**: behind `@word:` and blanks stands
the value, each of its characters in a comment, and the directive carries the words of the value. -/
def Declares (line : List (Char × Bool)) (d : Directive) : Prop :=
  ∃ front word gap value back,
    line = front ++ value.map (·, true) ++ back ∧
      (∃ before, front.map Prod.fst = before ++ '@' :: (word ++ ':' :: gap)) ∧
      (∀ c ∈ gap, isBlank c = true) ∧
      DirectiveKind.ofKeyword? word = some d.kind ∧ d.Carries ((words value).map String.ofList)

/-- The directive is declared on a line of that number, **before the code**. -/
def StandsIn (text : List Char) (n : Nat) (d : Directive) : Prop :=
  (∃ line, (n, line) ∈ markedLines text ∧ Declares line d) ∧ ∀ k, codeLine? text = some k → n < k

/-- A declaration stands in its line as it is read. -/
theorem append_of_declaration?_eq_some {line word rest : List Char}
    (h : declaration? line = some (word, rest)) :
    ∃ before, line = before ++ '@' :: (word ++ ':' :: rest) := by
  induction line with
  | nil => simp [declaration?] at h
  | cons c r ih =>
    -- either the declaration begins here, or it is found further on
    have hlater : declaration? r = some (word, rest) →
        ∃ before, c :: r = before ++ '@' :: (word ++ ':' :: rest) := by
      intro hr
      obtain ⟨before, hbefore⟩ := ih hr
      exact ⟨c :: before, by rw [hbefore, List.cons_append]⟩
    rw [declaration?] at h
    split at h
    · rename_i hat
      split at h
      · rename_i a w rest' htake hdrop
        obtain ⟨rfl, rfl⟩ := Prod.mk.inj (Option.some.inj h)
        have hr : r = a :: w ++ ':' :: rest' := by
          rw [← htake, ← hdrop, List.takeWhile_append_dropWhile]
        exact ⟨[], by rw [hat, hr, List.nil_append]⟩
      · exact hlater h
    · exact hlater h

/-- The value is a part of what follows the colon. -/
theorem exists_valueWords (rest : List Char) : ∃ gap value back, rest = gap ++ value ++ back ∧
    (∀ c ∈ gap, isBlank c = true) ∧ valueWords rest = words value := by
  obtain ⟨l, r, hrest, hl, -⟩ := exists_trim rest
  rw [valueWords]
  cases hend : ['*', '/'].isSuffixOf? (trim rest) with
  | none => exact ⟨l, trim rest, r, hrest, hl, rfl⟩
  | some value =>
    have htrim : value ++ ['*', '/'] = trim rest := List.isSuffixOf?_eq_some_iff_append_eq.1 hend
    refine ⟨l, value, ['*', '/'] ++ r, ?_, hl, rfl⟩
    rw [hrest, ← htrim]
    simp only [List.append_assoc]

/-- What is read from a line that is all comment is declared in it. -/
theorem declares_of_ofLine? {line : List Char} {d : Directive} (h : Directive.ofLine? line = some d)
    (l r : List (Char × Bool)) : Declares (l ++ line.map (·, true) ++ r) d := by
  rw [Directive.ofLine?] at h
  split at h
  · simp at h
  · rename_i word rest hdecl
    obtain ⟨k, hk, rfl⟩ := Option.map_eq_some_iff.1 h
    obtain ⟨before, rfl⟩ := append_of_declaration?_eq_some hdecl
    obtain ⟨gap, value, back, rfl, hgap, hwords⟩ := exists_valueWords rest
    refine ⟨l ++ (before ++ '@' :: (word ++ ':' :: gap)).map (·, true), word, gap, value,
      back.map (·, true) ++ r, by simp, ⟨l.map Prod.fst ++ before, ?_⟩, hgap, ?_, ?_⟩
    · simp [Function.comp_def]
    · rw [Directive.kind_ofWords, hk]
    · rw [← Directive.eq_ofWords_iff, Directive.kind_ofWords, hwords]

/-- What is read from an orderly text stands in it, on the line that has the number. -/
theorem standsIn_of_mem_declarations {text : List Char} {n : Nat} {d : Directive}
    (hord : orderly text = true) (h : (n, d) ∈ declarations text) : StandsIn text n d := by
  obtain ⟨⟨m, line⟩, hmem, hline⟩ := List.mem_filterMap.1 h
  obtain ⟨d', hd', heq⟩ := Option.map_eq_some_iff.1 hline
  obtain ⟨rfl, rfl⟩ := Prod.mk.inj heq
  obtain ⟨⟨l, r, hmarked⟩, hlt⟩ := mem_commentLinesFrom hord hmem
  exact ⟨⟨_, hmarked, declares_of_ofLine? hd' l r⟩, hlt⟩

end Comment

/-! ### The whole text -/

namespace DirectiveSet

open Comment

/-- Adding declarations in turn yields what was there and what is added, or stops at one of them. -/
theorem addAll_spec (s : DirectiveSet) (ds : List (Nat × Directive)) :
    (∃ t, s.addAll ds = .ok t ∧ ∀ d ∈ t.entries, d ∈ s.entries ∨ ∃ n, (n, d) ∈ ds) ∨
      ∃ n d, s.addAll ds = .error ⟨n, d.kind⟩ ∧ (n, d) ∈ ds := by
  -- on the declarations, up to the first that is refused
  induction ds generalizing s with
  | nil => exact .inl ⟨s, rfl, fun d hd => .inl hd⟩
  | cons x rest ih =>
    obtain ⟨n, d⟩ := x
    rw [addAll]
    split
    · rename_i hnew
      rcases ih (s.add d hnew) with ⟨t, ht, hmem⟩ | ⟨m, e, he, hmem⟩
      · refine .inl ⟨t, ht, fun e he => ?_⟩
        rcases hmem e he with hold | ⟨m, hm⟩
        · rcases List.mem_append.1 hold with hold | hlast
          · exact .inl hold
          · exact .inr ⟨n, by rw [List.mem_singleton.1 hlast]; exact List.mem_cons_self⟩
        · exact .inr ⟨m, List.mem_cons_of_mem _ hm⟩
      · exact .inr ⟨m, e, he, List.mem_cons_of_mem _ hmem⟩
    · exact .inr ⟨n, d, rfl, List.mem_cons_self⟩

variable {text : List Char}

/-- **Directives stand before the code.** Whatever is read from an orderly text, the directives of
the file or the complaint that one is there already, comes from lines before the first line of code,
and the values lie in comments. -/
theorem read_before_code (path : Path) (h : orderly text = true) :
    (∃ s, read path text = .ok s ∧ ∀ d ∈ s.entries, ∃ n, StandsIn text n d) ∨
      ∃ n d, read path text = .error (.duplicateDirective path n d.kind) ∧ StandsIn text n d := by
  rcases addAll_spec empty (declarations text) with ⟨s, hs, hmem⟩ | ⟨n, d, herr, hmem⟩
  · refine .inl ⟨s, by rw [read, ofText, hs], fun d hd => ?_⟩
    obtain hnone | ⟨n, hn⟩ := hmem d hd
    · simp [empty] at hnone
    · exact ⟨n, standsIn_of_mem_declarations h hn⟩
  · exact .inr ⟨n, d, by rw [read, ofText, herr], standsIn_of_mem_declarations h hmem⟩

/-- A file with directives in a block and in a line comment, and one more after its code. -/
def smallSource : List Char :=
  "/*\n * @cflags: -O2 */\n\n#define A 1\n// @ldflags: -lm -lz\nint x;\n// @reflibs: util\n".toList

theorem smallSource_before_code : orderly smallSource = true ∧ codeLine? smallSource = some 6 ∧
    declarations smallSource = [(2, .cflags "-O2"), (5, .ldflags ["-lm", "-lz"])] ∧
    ((∃ s, read (Path.ofString "a.c") smallSource = .ok s ∧
        ∀ d ∈ s.entries, ∃ n, StandsIn smallSource n d) ∨
      ∃ n d, read (Path.ofString "a.c") smallSource =
          .error (.duplicateDirective (Path.ofString "a.c") n d.kind) ∧ StandsIn smallSource n d) :=
  ⟨by decide +kernel, by decide +kernel, by decide +kernel,
    read_before_code (Path.ofString "a.c") (by decide +kernel)⟩

/-! ### Code behind a block -/

/-- A line on which code follows the end of a block, and a directive on the next line. -/
def coveredCode : List Char := "/**/int x;\n//@cflags: -O3\n".toList

/-- **Code behind a block is overlooked**: the text is not orderly, its code is on the first line,
and the directive on the second line is read all the same. -/
theorem coveredCode_read : codeLine? coveredCode = some 1 ∧
    (∃ s, read (Path.ofString "a.c") coveredCode = .ok s ∧ Directive.cflags "-O3" ∈ s.entries) ∧
      ∀ n, ¬ StandsIn coveredCode n (.cflags "-O3") := by
  have hcode : codeLine? coveredCode = some 1 := by decide +kernel
  have hread : declarations coveredCode = [(2, .cflags "-O3")] := by decide +kernel
  refine ⟨hcode, ⟨empty.add (.cflags "-O3") rfl, ?_, List.mem_singleton.2 rfl⟩, ?_⟩
  · rw [read, ofText, hread]
    rfl
  · -- no line comes before the first
    rintro n ⟨⟨line, hline, -⟩, hlt⟩
    have hfirst := le_of_mem_markedLinesFrom hline
    have hbefore := hlt 1 hcode
    omega

-- The code behind a block can also become part of the value.
example : declarations "/*@cflags: -O2*/int x;\n".toList = [(1, .cflags "-O2*/int x;")] := by
  decide +kernel

end DirectiveSet

end NativeBuild
