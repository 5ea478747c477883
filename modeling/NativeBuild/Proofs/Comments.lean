import NativeBuild.Directive.Reading
import Mathlib.Data.List.Basic
import Mathlib.Data.List.TakeWhile

/-!
# Text in comments

What a source text says in comments is read here character by character: a `//` comment goes to the
end of its line and a `/*` comment to the next `*/`. `marks` tells of each character of a line
whether it lies in a comment, and `opens` whether a block is open after the line; both depend on
whether one is open before it.

The reader of directives looks at lines as wholes. It is right about a line on which only blanks
follow the end of a block (`tidy`): such a line lies in a comment from its first character to its
last one that is not blank, and a block is open after it if the line has no `*/`
(`marks_of_comment`, `opens_true_of_tidy`).
-/

namespace NativeBuild

namespace Text

/-! ### Trimming -/

/-- The blanks at the end go, and others stay. -/
theorem trimEnd_cons (c : Char) (r : List Char) :
    trimEnd (c :: r) = if trimEnd r = [] ∧ isBlank c = true then [] else c :: trimEnd r := by
  rw [trimEnd]
  split
  · rename_i h
    simp [h]
  · rename_i h
    simp [h]

theorem trimEnd_cons_of_not_blank {c : Char} (hc : isBlank c = false) (r : List Char) :
    trimEnd (c :: r) = c :: trimEnd r := by
  rw [trimEnd_cons, if_neg (by simp [hc])]

/-- Nothing is left of blanks only. -/
theorem trimEnd_eq_nil_iff {cs : List Char} : trimEnd cs = [] ↔ ∀ c ∈ cs, isBlank c = true := by
  induction cs with
  | nil => simp [trimEnd]
  | cons c r ih =>
    rw [List.forall_mem_cons, ← ih, trimEnd_cons, ite_eq_left_iff]
    simp only [List.cons_ne_nil, imp_false, not_not]
    exact and_comm

/-- What is cut off at the end is blank. -/
theorem trimEnd_append_blanks (cs : List Char) :
    ∃ r, cs = trimEnd cs ++ r ∧ ∀ c ∈ r, isBlank c = true := by
  induction cs with
  | nil => exact ⟨[], rfl, by simp⟩
  | cons c cs ih =>
    obtain ⟨r, hr, hblank⟩ := ih
    rw [trimEnd_cons]
    split
    · rename_i h
      exact ⟨c :: cs, rfl, List.forall_mem_cons.2 ⟨h.2, trimEnd_eq_nil_iff.1 h.1⟩⟩
    · exact ⟨r, by rw [List.cons_append, ← hr], hblank⟩

/-- A text is what is left of it after trimming, between blanks. -/
theorem exists_trim (cs : List Char) : ∃ l r, cs = l ++ trim cs ++ r ∧
    (∀ c ∈ l, isBlank c = true) ∧ ∀ c ∈ r, isBlank c = true := by
  obtain ⟨r, hr, hblank⟩ := trimEnd_append_blanks (trimStart cs)
  refine ⟨cs.takeWhile isBlank, r, ?_, fun c hc => List.mem_takeWhile_imp hc, hblank⟩
  rw [trim, List.append_assoc, ← hr]
  exact List.takeWhile_append_dropWhile.symm

/-! ### Words -/

/-- Words with a space between any two, as a text. -/
theorem ofList_unwords (ws : List (List Char)) :
    String.ofList (unwords ws) = " ".intercalate (ws.map String.ofList) := by
  -- as `unwords` does, look at the first two words
  induction ws with
  | nil => rfl
  | cons w ws ih =>
    cases ws with
    | nil => rw [unwords, List.map_singleton, String.intercalate_singleton]
    | cons v ws =>
      rw [List.map_cons] at ih
      have hspace : String.ofList (' ' :: unwords (v :: ws)) =
          " " ++ String.ofList (unwords (v :: ws)) := @String.ofList_append [' '] _
      rw [unwords, List.map_cons, List.map_cons, String.intercalate_cons_cons, ← ih,
        String.ofList_append, hspace, String.append_assoc]

end Text

/-- A directive **carries** texts: a link kind carries them one by one, a compile kind as one text
in which they are set apart by single spaces. -/
def Directive.Carries (d : Directive) (texts : List String) : Prop :=
  match d with
  | .cppflags flags => flags = " ".intercalate texts
  | .cflags flags => flags = " ".intercalate texts
  | .cxxflags flags => flags = " ".intercalate texts
  | .ldflags tokens => tokens = texts
  | .reflibs tokens => tokens = texts

/-- **What is made of words** carries them, and it is the only directive of its kind that does. -/
theorem Directive.eq_ofWords_iff {d : Directive} {ws : List (List Char)} :
    d = .ofWords d.kind ws ↔ d.Carries (ws.map String.ofList) := by
  cases d <;> simp [kind, ofWords, Carries, Text.ofList_unwords]

namespace Comment

open Text

/-! ### Reading comments -/

/-- The characters of a line, each with whether it **lies in a comment**. -/
def marks : Bool → List Char → List (Char × Bool)
  | _, [] => []
  | true, '*' :: '/' :: r => ('*', true) :: ('/', true) :: marks false r
  | true, c :: r => (c, true) :: marks true r
  | false, '/' :: '/' :: r => ('/', true) :: ('/', true) :: r.map (·, true)
  | false, '/' :: '*' :: r => ('/', true) :: ('*', true) :: marks true r
  | false, c :: r => (c, false) :: marks false r

/-- Is a block open after the line? -/
def opens : Bool → List Char → Bool
  | b, [] => b
  | true, '*' :: '/' :: r => opens false r
  | true, _ :: r => opens true r
  | false, '/' :: '/' :: _ => false
  | false, '/' :: '*' :: r => opens true r
  | false, _ :: r => opens false r

/-- Do **only blanks** follow where the first block of the line ends? A line that begins with
something other than a comment is tidy whatever it holds. -/
def tidy : Bool → List Char → Bool
  | _, [] => true
  | true, '*' :: '/' :: r => r.all isBlank
  | true, _ :: r => tidy true r
  | false, '/' :: '/' :: _ => true
  | false, '/' :: '*' :: r => tidy true r
  | false, c :: r => !isBlank c || tidy false r

/-! ### One character -/

/-- Does a block end with these characters? -/
def EndsAt (c : Char) (cs : List Char) : Prop := c = '*' ∧ cs.head? = some '/'

instance (c : Char) (cs : List Char) : Decidable (EndsAt c cs) :=
  inferInstanceAs (Decidable (_ ∧ _))

variable {c : Char} {cs : List Char}

/-- A character within a block that does not end there. -/
theorem marks_true_cons (h : ¬ EndsAt c cs) : marks true (c :: cs) = (c, true) :: marks true cs ∧
    opens true (c :: cs) = opens true cs ∧ tidy true (c :: cs) = tidy true cs := by
  have hne : ∀ r, c = '*' → cs = '/' :: r → False := by
    rintro r rfl rfl
    exact h ⟨rfl, rfl⟩
  exact ⟨marks.eq_3 _ _ hne, opens.eq_3 _ _ hne, tidy.eq_3 _ _ hne⟩

/-- A character outside of blocks that does not begin one. -/
theorem marks_false_cons (h : c ≠ '/') : marks false (c :: cs) = (c, false) :: marks false cs ∧
    opens false (c :: cs) = opens false cs ∧
    tidy false (c :: cs) = (!isBlank c || tidy false cs) := by
  have hne : ∀ d r, c = '/' → cs = d :: r → False := fun d r hc => absurd hc h
  exact ⟨marks.eq_6 _ _ (hne '/') (hne '*'), opens.eq_6 _ _ (hne '/') (hne '*'),
    tidy.eq_6 _ _ (hne '/') (hne '*')⟩

/-- Blanks open nothing and close nothing. -/
theorem marks_append_of_blank {b : Bool} {l : List Char} (hl : ∀ c ∈ l, isBlank c = true)
    (s : List Char) :
    marks b (l ++ s) = l.map (·, b) ++ marks b s ∧ opens b (l ++ s) = opens b s ∧
      tidy b (l ++ s) = tidy b s := by
  -- on the blanks, none of which begins or ends a block
  induction l with
  | nil => simp
  | cons c l ih =>
    obtain ⟨hc, hl⟩ := List.forall_mem_cons.1 hl
    obtain ⟨hm, ho, ht⟩ := ih hl
    cases b with
    | true =>
      have hend : ¬ EndsAt c (l ++ s) := by
        rintro ⟨rfl, -⟩
        exact absurd hc (by decide)
      obtain ⟨hm', ho', ht'⟩ := marks_true_cons hend
      rw [List.cons_append, hm', ho', ht']
      exact ⟨congrArg _ hm, ho, ht⟩
    | false =>
      have hslash : c ≠ '/' := by
        rintro rfl
        exact absurd hc (by decide)
      obtain ⟨hm', ho', ht'⟩ := @marks_false_cons c (l ++ s) hslash
      rw [List.cons_append, hm', ho', ht', hc]
      exact ⟨congrArg _ hm, ho, ht⟩

/-- Blanks outside of comments begin none. -/
theorem marks_of_blank {r : List Char} (hr : ∀ c ∈ r, isBlank c = true) :
    marks false r = r.map (·, false) ∧ opens false r = false := by
  obtain ⟨hm, ho, -⟩ := marks_append_of_blank (b := false) hr []
  exact ⟨by simpa [marks] using hm, by simpa [opens] using ho⟩

/-! ### Inside a block -/

theorem staysOpen_cons (h : ¬ EndsAt c cs) : staysOpen (c :: cs) = staysOpen cs := by
  have hne : ['*', '/'].isPrefixOf (c :: cs) = false := by
    refine Bool.eq_false_iff.2 fun hp => h ?_
    obtain ⟨r, hr⟩ := List.isPrefixOf_iff_prefix.1 hp
    obtain ⟨rfl, rfl⟩ := List.cons.inj hr
    exact ⟨rfl, rfl⟩
  rw [staysOpen, occursIn, hne, Bool.false_or]
  rfl

/-- The end of a block ends it. -/
theorem staysOpen_end (r : List Char) : staysOpen ('*' :: '/' :: r) = false := by
  simp [staysOpen, occursIn]

/-- **A tidy line in a block** lies in the comment up to its last character that is not blank. -/
theorem marks_true_of_tidy (h : tidy true cs = true) :
    ∃ b, marks true cs = (trimEnd cs).map (·, true) ++ b ∧ ∀ x ∈ b, isBlank x.1 = true := by
  -- on the line, up to the end of the block
  induction cs with
  | nil => exact ⟨[], rfl, by simp⟩
  | cons c cs ih =>
    by_cases hend : EndsAt c cs
    · -- the block ends here, and what follows is blank
      obtain ⟨rfl, hslash⟩ := hend
      obtain ⟨r, rfl⟩ := List.head?_eq_some_iff.1 hslash
      have hblank : ∀ c ∈ r, isBlank c = true := by simpa [tidy] using h
      refine ⟨marks false r, ?_, ?_⟩
      · rw [marks, trimEnd_cons_of_not_blank (by decide), trimEnd_cons_of_not_blank (by decide),
          trimEnd_eq_nil_iff.2 hblank]
        rfl
      · rw [(marks_of_blank hblank).1]
        simpa using hblank
    · obtain ⟨hm, -, ht⟩ := marks_true_cons hend
      obtain ⟨b, hb, hblank⟩ := ih (ht ▸ h)
      rw [hm, hb, trimEnd_cons]
      split
      · rename_i hnil
        exact ⟨(c, true) :: b, by rw [hnil.1]; rfl, List.forall_mem_cons.2 ⟨hnil.2, hblank⟩⟩
      · exact ⟨b, rfl, hblank⟩

/-- On a tidy line a block stays open if there is no `*/`. -/
theorem opens_true_of_tidy (h : tidy true cs = true) : opens true cs = staysOpen cs := by
  induction cs with
  | nil => rfl
  | cons c cs ih =>
    by_cases hend : EndsAt c cs
    · obtain ⟨rfl, hslash⟩ := hend
      obtain ⟨r, rfl⟩ := List.head?_eq_some_iff.1 hslash
      rw [opens, (marks_of_blank (by simpa [tidy] using h)).2, staysOpen_end]
    · obtain ⟨-, ho, ht⟩ := marks_true_cons hend
      rw [ho, staysOpen_cons hend, ih (ht ▸ h)]

/-- Blanks at the end do not matter to whether a block stays open. -/
theorem staysOpen_trimEnd (cs : List Char) : staysOpen (trimEnd cs) = staysOpen cs := by
  induction cs with
  | nil => rfl
  | cons c cs ih =>
    -- an end of the block is not a blank, and so it is not trimmed
    by_cases hend : EndsAt c cs
    · obtain ⟨rfl, hslash⟩ := hend
      obtain ⟨r, rfl⟩ := List.head?_eq_some_iff.1 hslash
      rw [trimEnd_cons_of_not_blank (by decide), trimEnd_cons_of_not_blank (by decide),
        staysOpen_end, staysOpen_end]
    · rw [staysOpen_cons hend, ← ih, trimEnd_cons]
      split
      · rename_i hnil
        rw [hnil.1]
      · refine staysOpen_cons fun hend' => hend ⟨hend'.1, ?_⟩
        -- the text begins as it does without the blanks at its end
        obtain ⟨r, hr, -⟩ := trimEnd_append_blanks cs
        obtain ⟨s, hs⟩ := List.head?_eq_some_iff.1 hend'.2
        rw [hr, hs]
        rfl

/-! ### Lines that begin with a comment -/

/-- Trimming keeps the first character of what is left. -/
theorem cons_of_trimEnd_eq_cons {d : Char} {t : List Char} (h : trimEnd cs = d :: t) :
    ∃ s, cs = d :: s ∧ trimEnd s = t := by
  cases cs with
  | nil => simp [trimEnd] at h
  | cons c s =>
    rw [trimEnd_cons] at h
    split at h
    · simp at h
    · obtain ⟨rfl, rfl⟩ := List.cons.inj h
      exact ⟨s, rfl, rfl⟩

/-- Behind what is left there are blanks. -/
theorem trimEnd_map_append (cs : List Char) :
    ∃ r, cs.map (·, true) = (trimEnd cs).map (·, true) ++ r ∧ ∀ x ∈ r, isBlank x.1 = true := by
  obtain ⟨r, hr, hblank⟩ := trimEnd_append_blanks cs
  exact ⟨r.map (·, true), by rw [← List.map_append, ← hr], by simpa using hblank⟩

/-- What the reader takes for a comment, on a line that begins with no blank. -/
theorem marks_of_role {b o : Bool} (htidy : tidy b cs = true)
    (h : LineRole.of b (trimEnd cs) = .comment o) : opens b cs = o ∧
      ∃ r, marks b cs = (trimEnd cs).map (·, true) ++ r ∧ ∀ x ∈ r, isBlank x.1 = true := by
  cases b with
  | true =>
    obtain rfl : staysOpen (trimEnd cs) = o := by simpa [LineRole.of] using h
    exact ⟨by rw [opens_true_of_tidy htidy, staysOpen_trimEnd], marks_true_of_tidy htidy⟩
  | false =>
    rw [LineRole.of, if_neg Bool.false_ne_true] at h
    split at h
    · -- a block begins the line
      rename_i rest hrest
      obtain rfl := LineRole.comment.inj h
      rw [List.isPrefixOf?_eq_some_iff_append_eq] at hrest
      obtain ⟨s, rfl, hs⟩ := cons_of_trimEnd_eq_cons hrest.symm
      obtain ⟨s, rfl, rfl⟩ := cons_of_trimEnd_eq_cons hs
      obtain ⟨r, hr, hblank⟩ := marks_true_of_tidy htidy
      refine ⟨by rw [opens, opens_true_of_tidy htidy, staysOpen_trimEnd], r, ?_, hblank⟩
      rw [marks, hr, ← hrest]
      rfl
    · split at h
      · -- the line is a comment to its end
        rename_i hslash
        obtain rfl := LineRole.comment.inj h
        obtain ⟨rest, hrest⟩ := List.isPrefixOf_iff_prefix.1 hslash
        obtain ⟨s, rfl, hs⟩ := cons_of_trimEnd_eq_cons hrest.symm
        obtain ⟨s, rfl, rfl⟩ := cons_of_trimEnd_eq_cons hs
        obtain ⟨r, hr, hblank⟩ := trimEnd_map_append s
        refine ⟨rfl, r, ?_, hblank⟩
        rw [marks, hr, ← hrest]
        rfl
      · split at h <;> simp at h

/-- **What the reader takes for a comment** is one from its first character that is not blank to its
last one, if the line is tidy, and the reader knows whether a block is open after the line. -/
theorem marks_of_comment {b o : Bool} {raw : List Char} (htidy : tidy b raw = true)
    (h : LineRole.of b (trim raw) = .comment o) : opens b raw = o ∧
      ∃ l r, marks b raw = l ++ (trim raw).map (·, true) ++ r ∧
        (∀ x ∈ l, isBlank x.1 = true) ∧ ∀ x ∈ r, isBlank x.1 = true := by
  have hraw : raw.takeWhile isBlank ++ trimStart raw = raw := List.takeWhile_append_dropWhile
  have hblank : ∀ c ∈ raw.takeWhile isBlank, isBlank c = true :=
    fun c hc => List.mem_takeWhile_imp hc
  obtain ⟨hm, ho, ht⟩ := marks_append_of_blank (b := b) hblank (trimStart raw)
  rw [hraw] at hm ho ht
  obtain ⟨hopens, r, hr, hrblank⟩ := marks_of_role (ht ▸ htidy) h
  refine ⟨ho.trans hopens, (raw.takeWhile isBlank).map (·, b), r, ?_, by simpa using hblank,
    hrblank⟩
  rw [hm, hr, List.append_assoc]
  rfl

end Comment

end NativeBuild
