import NativeBuild.Json.Printer
import NativeBuild.Json.Reader
import NativeBuild.Proofs.Stem

/-!
# What is written as JSON is read back

The printer and the reader of JSON values know nothing of each other: one escapes characters and
lays a value out, the other cuts a text into tokens. They agree on every value that consists of
texts, in both layouts and at any depth (`render_spells`, `read?_spells`), and what is written in
one line has no line feed in it.

The statement that goes through by induction over the value is `Spells`: the text of a value begins
with a character that the reader cannot take for a blank or for the end of an array, and whatever
follows it, the reader gives the value and what follows. For strings that is `stringUnits_quoted`,
and it has to be shown for one character first (`stringUnits_escape`): an escape by number could be
the first half of a surrogate pair, and only the number, which is that of a control, says that it is
not.

A number is left out, since where it ends depends on what comes after it, and nothing here writes
one.
-/

namespace NativeBuild

namespace Json

/-! ### Strings -/

theorem hexValue?_digitChar {n : Nat} (h : n < 16) : Text.hexValue? (Nat.digitChar n) = some n := by
  have hall : ∀ i : Fin 16, Text.hexValue? (Nat.digitChar i) = some i.val := by decide
  exact hall ⟨n, h⟩

/-- The number of a control is read from its escape. -/
theorem hex4?_control {n : Nat} (h : n < 0x20) :
    hex4? '0' '0' (Nat.digitChar (n / 16)) (Nat.digitChar (n % 16)) = some n := by
  have hzero : Text.hexValue? '0' = some 0 := rfl
  rw [hex4?, hzero, hexValue?_digitChar (by omega), hexValue?_digitChar (by omega)]
  change some (((0 * 16 + 0) * 16 + n / 16) * 16 + n % 16) = some n
  congr 1
  omega

/-- A control is no half of a surrogate pair. -/
theorem pairChar?_control {n : Nat} (h : n < 0x20) (low : Nat) : pairChar? n low = none :=
  if_neg fun hpair => absurd hpair.1 (by omega)

/-- **An escape by number is read as the control**, also when another escape by number follows. -/
theorem stringUnits_control {c : Char} (h : c.toNat < 0x20) (r : List Char) :
    stringUnits ('\\' :: 'u' :: '0' :: '0' :: Nat.digitChar (c.toNat / 16) ::
      Nat.digitChar (c.toNat % 16) :: r) = consUnit (some c) (stringUnits r) := by
  have hchar : unitChar? c.toNat = some c := by
    rw [unitChar?, if_neg (by omega), Char.ofNat_toNat]
  by_cases hpair : ∃ e f g h r', r = '\\' :: 'u' :: e :: f :: g :: h :: r'
  · -- what follows looks like the second half of a pair, but the first is none
    obtain ⟨e, f, g, h', r', rfl⟩ := hpair
    have hnone : (hex4? e f g h').bind (pairChar? c.toNat) = none := by
      cases hex4? e f g h' with
      | none => rfl
      | some low => exact pairChar?_control h low
    rw [stringUnits]
    simp only [hex4?_control h, hnone, hchar]
  · rw [stringUnits]
    · simp only [hex4?_control h, hchar]
    · intro e f g h' r' hr
      exact hpair ⟨e, f, g, h', r', hr⟩

/-- A letter after a backslash is read as the character that it stands for. -/
theorem stringUnits_letter {l c : Char} (hl : letterEscape? l = some c) (hu : l ≠ 'u')
    (r : List Char) :
    stringUnits ('\\' :: l :: r) = consUnit (some c) (stringUnits r) := by
  rw [stringUnits]
  · rw [hl]
  · intro _ _ _ _ _ _ _ _ _ h
    exact absurd h hu
  · intro _ _ _ _ _ h
    exact absurd h hu

/-- **One character is read back.** -/
theorem stringUnits_escape (c : Char) (r : List Char) :
    stringUnits (escape c ++ r) = consUnit (some c) (stringUnits r) := by
  unfold escape
  -- characters with an escape of their own, then controls, then all others
  split_ifs with h₁ h₂ h₃ h₄ h₅ h₆ h₇ h₈
  · subst h₁
    exact stringUnits_letter rfl (by decide) r
  · subst h₂
    exact stringUnits_letter rfl (by decide) r
  · subst h₃
    exact stringUnits_letter rfl (by decide) r
  · subst h₄
    exact stringUnits_letter rfl (by decide) r
  · subst h₅
    exact stringUnits_letter rfl (by decide) r
  · subst h₆
    exact stringUnits_letter rfl (by decide) r
  · subst h₇
    exact stringUnits_letter rfl (by decide) r
  · exact stringUnits_control h₈ r
  · -- neither a quote nor a backslash nor a control: it stands for itself
    rw [List.singleton_append, stringUnits]
    · rw [if_neg h₈]
    all_goals
      intros
      contradiction

/-- **A text between quotes is read back** after its opening quote, with what follows it left. -/
theorem stringUnits_quoted (cs rest : List Char) :
    stringUnits (cs.flatMap escape ++ '"' :: rest) = some (cs.map some, rest) := by
  induction cs with
  | nil => rw [List.flatMap_nil, List.nil_append, stringUnits, List.map_nil]
  | cons c cs ih =>
    rw [List.flatMap_cons, List.append_assoc, stringUnits_escape, ih]
    rfl

/-- A string in which no unit is missing is read as its characters. -/
theorem mapM_id_map_some (cs : List Char) : (cs.map some).mapM id = some cs := by
  induction cs with
  | nil => rfl
  | cons c cs ih => simp [ih]

/-- **What is quoted is read back**, up to the closing quote. -/
theorem readString_quoted (s : String) (rest : List Char) :
    readString (s.toList.flatMap escape ++ '"' :: rest) = some (some s, rest) := by
  rw [readString, stringUnits_quoted, Option.map_some, mapM_id_map_some, Option.map_some,
    String.ofList_toList]

theorem newline_notMem_escape (c : Char) : '\n' ∉ escape c := by
  unfold escape
  split_ifs with _ _ _ _ hnewline
  -- what is left is the escape by number and the character that stands for itself
  all_goals try decide
  · have hdigit : ∀ n, n < 16 → Nat.digitChar n ≠ '\n' := by decide
    have h₁ := hdigit (c.toNat / 16) (by omega)
    have h₂ := hdigit (c.toNat % 16) (by omega)
    simp [h₁.symm, h₂.symm]
  · exact List.mem_singleton.not.2 (Ne.symm hnewline)

/-- **Nothing in a quoted text breaks a line.** -/
theorem newline_notMem_quote (s : String) : '\n' ∉ quote s := by
  rw [quote, List.mem_append, List.mem_cons, List.mem_flatMap, not_or, not_or]
  refine ⟨⟨by decide, ?_⟩, by decide⟩
  rintro ⟨c, -, hc⟩
  exact newline_notMem_escape c hc

/-! ### Blanks -/

/-- Between items there is nothing but space. -/
theorem isSpace_of_mem_gap {l : Layout} {depth : Nat} {c : Char} (h : c ∈ l.gap depth) :
    isSpace c = true := by
  cases l with
  | compact => exact absurd h List.not_mem_nil
  | indented =>
    rcases List.mem_cons.1 h with rfl | h
    · rfl
    · rw [List.eq_of_mem_replicate h]
      rfl

@[simp] theorem skipSpace_gap (l : Layout) (depth : Nat) (cs : List Char) :
    skipSpace (l.gap depth ++ cs) = skipSpace cs :=
  List.dropWhile_append_of_pos fun _ => isSpace_of_mem_gap

theorem skipSpace_cons {c : Char} (h : isSpace c = false) (cs : List Char) :
    skipSpace (c :: cs) = c :: cs :=
  List.dropWhile_cons_of_neg (by simp [h])

/-- Readers of values do not mind the space in front. -/
theorem readValue_congr {cs ds : List Char} (h : skipSpace cs = skipSpace ds) (bound : Nat) :
    readValue bound cs = readValue bound ds := by
  cases bound with
  | zero => rw [readValue, readValue]
  | succ bound => rw [readValue, readValue, h]

/-- Blanks in front of a value do not matter, -/
theorem readValue_gap (bound : Nat) (l : Layout) (depth : Nat) (cs : List Char) :
    readValue bound (l.gap depth ++ cs) = readValue bound cs :=
  readValue_congr (skipSpace_gap l depth cs) bound

/-- nor in front of the items of an array, -/
theorem readItems_gap (bound : Nat) (l : Layout) (depth : Nat) (cs : List Char) :
    readItems bound (l.gap depth ++ cs) = readItems bound cs := by
  cases bound with
  | zero => rw [readItems, readItems]
  | succ bound => rw [readItems, readItems, readValue_gap]

/-- nor in front of the fields of an object. -/
theorem readFields_gap (bound : Nat) (l : Layout) (depth : Nat) (cs : List Char) :
    readFields bound (l.gap depth ++ cs) = readFields bound cs := by
  cases bound with
  | zero => rw [readFields, readFields]
  | succ bound => rw [readFields, readFields, skipSpace_gap]

/-! ### Values -/

mutual

/-- A value that **consists of texts**: every string in it stands for a text, and it has no
number. -/
def Textual : Json → Prop
  | .null => True
  | .bool _ => True
  | .number _ => False
  | .string s => s ≠ none
  | .array items => TextualItems items
  | .object fields => TextualFields fields

/-- Items that consist of texts. -/
def TextualItems : List Json → Prop
  | [] => True
  | j :: r => Textual j ∧ TextualItems r

/-- Fields that consist of texts. -/
def TextualFields : List (Option String × Json) → Prop
  | [] => True
  | (k, v) :: r => k ≠ none ∧ Textual v ∧ TextualFields r

end

/-- A list is textual if its items are. -/
theorem textualItems_iff {js : List Json} : TextualItems js ↔ ∀ j ∈ js, j.Textual := by
  induction js with
  | nil => simp [TextualItems]
  | cons j js ih => rw [TextualItems, ih, List.forall_mem_cons]

theorem textual_ofText (s : String) : (ofText s).Textual := by simp [ofText, Textual]

theorem textual_ofTexts (ss : List String) : (ofTexts ss).Textual := by
  rw [ofTexts, Textual, textualItems_iff, List.forall_mem_map]
  intro s _
  exact textual_ofText s

theorem textual_ofFields {fields : List (String × Json)} (h : ∀ x ∈ fields, x.2.Textual) :
    (ofFields fields).Textual := by
  rw [ofFields, Textual]
  induction fields with
  | nil => exact trivial
  | cons x fields ih =>
    rw [List.forall_mem_cons] at h
    exact ⟨Option.some_ne_none _, h.1, ih h.2⟩

/-- `cs` is a text of the value `j` in the layout `l`. -/
structure Spells (l : Layout) (j : Json) (cs : List Char) : Prop where
  /-- It does not begin with a blank, nor with what would end an array. -/
  starts : ∃ c r, cs = c :: r ∧ isSpace c = false ∧ c ≠ ']'
  /-- In one line it has no line feed. -/
  line : l = .compact → '\n' ∉ cs
  /-- Whatever follows it, the value is read and what follows it is left. -/
  reads : ∀ bound rest, cs.length ≤ bound → readValue bound (cs ++ rest) = some (j, rest)

/-- `cs` is a text of the items `js` after another one, with the end of the array. -/
structure SpellsItems (l : Layout) (js : List Json) (cs : List Char) : Prop where
  line : l = .compact → '\n' ∉ cs
  reads : ∀ {j first}, Spells l j first → ∀ bound rest, (first ++ cs).length ≤ bound →
    readItems bound (first ++ (cs ++ rest)) = some (j :: js, rest)

/-- `cs` is a text of the fields `fs` after another one, with the end of the object. -/
structure SpellsFields (l : Layout) (fs : List (Option String × Json)) (cs : List Char) : Prop where
  line : l = .compact → '\n' ∉ cs
  reads : ∀ {j first}, Spells l j first → ∀ (k : String) bound rest, (first ++ cs).length ≤ bound →
    readFields bound (quote k ++ (l.colon ++ (first ++ (cs ++ rest)))) =
      some ((some k, j) :: fs, rest)

/-- A compact layout has no line breaks. -/
theorem newline_notMem_gap {l : Layout} {depth : Nat} (h : l = .compact) : '\n' ∉ l.gap depth :=
  h ▸ List.not_mem_nil

theorem newline_notMem_colon (l : Layout) : '\n' ∉ l.colon := by cases l <;> decide

/-- Behind the name of a field there is a colon, and the space after it does not matter. -/
theorem readValue_colon (bound : Nat) (l : Layout) (cs : List Char) :
    ∃ ds, l.colon ++ cs = ':' :: ds ∧ readValue bound ds = readValue bound cs := by
  cases l with
  | compact => exact ⟨cs, rfl, rfl⟩
  | indented => exact ⟨' ' :: cs, rfl, readValue_congr (List.dropWhile_cons_of_pos rfl) bound⟩

/-- **Each kind of value is spelled** by what is printed for it, to begin with those that have no
parts. -/
theorem spells_quote (l : Layout) (s : String) : Spells l (.string (some s)) (quote s) where
  starts := ⟨'"', _, rfl, rfl, by decide⟩
  line _ := newline_notMem_quote s
  reads bound rest hbound := by
    obtain ⟨bound, rfl⟩ := Nat.exists_eq_add_one.2 (Nat.lt_of_lt_of_le (by simp [quote]) hbound)
    have hquote : quote s ++ rest = '"' :: (s.toList.flatMap escape ++ '"' :: rest) := by
      simp [quote]
    rw [hquote, readValue, skipSpace_cons rfl]
    simp only [if_pos, readString_quoted, Option.map_some]

theorem readLiteral_append (word : String) (j : Json) (rest : List Char) :
    readLiteral word j (word.toList ++ rest) = some (j, rest) := by
  rw [readLiteral, List.isPrefixOf?_eq_some_iff_append_eq.2 rfl, Option.map_some]

theorem spells_null (l : Layout) : Spells l .null "null".toList where
  starts := ⟨'n', _, rfl, rfl, by decide⟩
  line _ := by decide
  reads bound rest hbound := by
    obtain ⟨bound, rfl⟩ := Nat.exists_eq_add_one.2 (Nat.lt_of_lt_of_le (by decide) hbound)
    rw [readValue]
    exact readLiteral_append "null" .null rest

theorem spells_bool (l : Layout) (b : Bool) : Spells l (.bool b) (toString b).toList where
  starts := by cases b <;> exact ⟨_, _, rfl, rfl, by decide⟩
  line _ := by cases b <;> decide
  reads bound rest hbound := by
    have hpos : 0 < (toString b).toList.length := by cases b <;> decide
    obtain ⟨bound, rfl⟩ := Nat.exists_eq_add_one.2 (Nat.lt_of_lt_of_le hpos hbound)
    rw [readValue]
    cases b with
    | true => exact readLiteral_append "true" (.bool true) rest
    | false => exact readLiteral_append "false" (.bool false) rest

/-- Brackets and braces with nothing between them. -/
theorem spells_array_nil (l : Layout) : Spells l (.array []) ['[', ']'] where
  starts := ⟨'[', _, rfl, rfl, by decide⟩
  line _ := by decide
  reads bound rest hbound := by
    obtain ⟨bound, rfl⟩ := Nat.exists_eq_add_one.2 (Nat.lt_of_lt_of_le (by decide) hbound)
    rw [readValue]
    rfl

theorem spells_object_nil (l : Layout) : Spells l (.object []) ['\x7b', '\x7d'] where
  starts := ⟨'\x7b', _, rfl, rfl, by decide⟩
  line _ := by decide
  reads bound rest hbound := by
    obtain ⟨bound, rfl⟩ := Nat.exists_eq_add_one.2 (Nat.lt_of_lt_of_le (by decide) hbound)
    rw [readValue]
    rfl

/-- An array is read by its first item and the others. -/
theorem spells_array_cons {l : Layout} (depth : Nat) {j : Json} {js : List Json}
    {first cs : List Char} (hj : Spells l j first) (hjs : SpellsItems l js cs) :
    Spells l (.array (j :: js)) ('[' :: (l.gap depth ++ (first ++ cs))) where
  starts := ⟨'[', _, rfl, rfl, by decide⟩
  line hl := by
    simp only [List.mem_cons, List.mem_append, not_or]
    exact ⟨by decide, newline_notMem_gap hl, hj.line hl, hjs.line hl⟩
  reads bound rest hbound := by
    -- the bound is used up by one, for the bracket
    rw [List.length_cons, List.length_append] at hbound
    obtain ⟨bound, rfl⟩ := Nat.exists_eq_add_one.2 (Nat.lt_of_lt_of_le (Nat.succ_pos _) hbound)
    have hitems := hjs.reads hj bound rest (by omega)
    obtain ⟨c, r, rfl, hc, hend⟩ := hj.starts
    rw [List.cons_append, List.append_assoc, List.append_assoc, readValue, skipSpace_cons rfl]
    -- what stands behind the bracket is no closing bracket, so there is an item
    have hskip :
        skipSpace (l.gap depth ++ (c :: r ++ (cs ++ rest))) = c :: (r ++ (cs ++ rest)) := by
      rw [skipSpace_gap, List.cons_append, skipSpace_cons hc]
    simp only [hskip, if_neg (show ¬ '[' = '"' by decide), if_pos]
    split
    · rename_i heq
      exact absurd (List.cons.inj heq).1 hend
    · rw [← List.cons_append, hitems, Option.map_some]

/-- The closing bracket, with a gap before it, ends the items. -/
theorem spellsItems_nil (l : Layout) (depth : Nat) : SpellsItems l [] (l.gap depth ++ [']']) where
  line hl := by
    rw [List.mem_append, not_or]
    exact ⟨newline_notMem_gap hl, by decide⟩
  reads hj bound rest hbound := by
    simp only [List.length_append, List.length_singleton] at hbound
    obtain ⟨bound, rfl⟩ := Nat.exists_eq_add_one.2 (Nat.lt_of_lt_of_le (by omega) hbound)
    have hfirst := hj.reads bound (l.gap depth ++ [']'] ++ rest) (by omega)
    -- rest := by
    have hskip : skipSpace (l.gap depth ++ [']'] ++ rest) = ']' :: rest := by
      rw [List.append_assoc, skipSpace_gap]
      exact skipSpace_cons rfl rest
    rw [readItems, hfirst]
    simp only [hskip]

/-- A comma and an item go in front of the items that follow. -/
theorem spellsItems_cons {l : Layout} (depth : Nat) {j : Json} {js : List Json} {cs ds : List Char}
    (hj : Spells l j cs) (hjs : SpellsItems l js ds) :
    SpellsItems l (j :: js) (',' :: (l.gap depth ++ (cs ++ ds))) where
  line hl := by
    simp only [List.mem_cons, List.mem_append, not_or]
    exact ⟨by decide, newline_notMem_gap hl, hj.line hl, hjs.line hl⟩
  reads hfirst bound rest hbound := by
    simp only [List.length_append, List.length_cons] at hbound
    obtain ⟨bound, rfl⟩ := Nat.exists_eq_add_one.2 (Nat.lt_of_lt_of_le (by omega) hbound)
    rw [readItems, hfirst.reads bound _ (by omega)]
    -- behind the comma the other items follow, which are read with the next smaller bound
    have hbound' : (cs ++ ds).length ≤ bound := by
      rw [List.length_append]
      omega
    have hrest := hjs.reads hj bound rest hbound'
    simp only [List.cons_append, skipSpace_cons (show isSpace ',' = false from rfl),
      List.append_assoc, readItems_gap, hrest, Option.map_some]

/-- A field is read by its name, the colon and its value. Behind it there are others or the end of
the object. -/
theorem readFields_quote {l : Layout} {j : Json} {first : List Char} (hfirst : Spells l j first)
    (k : String) {bound : Nat} {rest : List Char} (hbound : first.length ≤ bound) :
    (∀ r, skipSpace rest = ',' :: r →
      readFields (bound + 1) (quote k ++ (l.colon ++ (first ++ rest))) =
      (readFields bound r).map fun x => ((some k, j) :: x.1, x.2)) ∧
    ∀ r, skipSpace rest = '\x7d' :: r →
      readFields (bound + 1) (quote k ++ (l.colon ++ (first ++ rest))) =
      some ([(some k, j)], r) := by
  obtain ⟨ds, hds, hvalue⟩ := readValue_colon bound l (first ++ rest)
  have hquote : quote k ++ (l.colon ++ (first ++ rest)) =
      '"' :: (k.toList.flatMap escape ++ '"' :: ':' :: ds) := by simp [quote, hds]
  have hcolon : skipSpace (':' :: ds) = ':' :: ds := skipSpace_cons rfl ds
  -- the reader takes the name, the colon and the value in turn
  rw [hquote, readFields, skipSpace_cons rfl]
  simp only [readString_quoted, hcolon, hvalue, hfirst.reads bound rest hbound]
  constructor
  · intro r hr
    simp only [hr]
  · intro r hr
    simp only [hr]

/-- The closing brace, with a gap before it, ends the fields. -/
theorem spellsFields_nil (l : Layout) (depth : Nat) :
    SpellsFields l [] (l.gap depth ++ ['\x7d']) where
  line hl := by
    rw [List.mem_append, not_or]
    exact ⟨newline_notMem_gap hl, by decide⟩
  reads hj k bound rest hbound := by
    simp only [List.length_append, List.length_singleton] at hbound
    obtain ⟨bound, rfl⟩ := Nat.exists_eq_add_one.2 (Nat.lt_of_lt_of_le (by omega) hbound)
    have hskip : skipSpace (l.gap depth ++ ['\x7d'] ++ rest) = '\x7d' :: rest := by
      rw [List.append_assoc, skipSpace_gap]
      exact skipSpace_cons rfl rest
    exact (readFields_quote hj k (by omega)).2 rest hskip

/-- A comma and a field go in front of the fields that follow. -/
theorem spellsFields_cons {l : Layout} (depth : Nat) {k : String} {v : Json}
    {fs : List (Option String × Json)} {cs ds : List Char} (hv : Spells l v cs)
    (hfs : SpellsFields l fs ds) :
    SpellsFields l ((some k, v) :: fs)
      (',' :: (l.gap depth ++ (quote k ++ (l.colon ++ (cs ++ ds))))) where
  line hl := by
    simp only [List.mem_cons, List.mem_append, not_or]
    exact ⟨by decide, newline_notMem_gap hl, newline_notMem_quote k, newline_notMem_colon l,
      hv.line hl, hfs.line hl⟩
  reads hfirst k' bound rest hbound := by
    simp only [List.length_append, List.length_cons] at hbound
    obtain ⟨bound, rfl⟩ := Nat.exists_eq_add_one.2 (Nat.lt_of_lt_of_le (by omega) hbound)
    have hbound' : (cs ++ ds).length ≤ bound := by
      rw [List.length_append]
      omega
    have hrest := hfs.reads hv k bound rest hbound'
    rw [List.cons_append, (readFields_quote hfirst k' (by omega)).1 _ (skipSpace_cons rfl _)]
    simp only [List.append_assoc, readFields_gap, hrest, Option.map_some]

/-- An object is read by its first field and the others. -/
theorem spells_object_cons {l : Layout} (depth : Nat) {k : String} {v : Json}
    {fs : List (Option String × Json)} {first cs : List Char} (hv : Spells l v first)
    (hfs : SpellsFields l fs cs) :
    Spells l (.object ((some k, v) :: fs))
      ('\x7b' :: (l.gap depth ++ (quote k ++ (l.colon ++ (first ++ cs))))) where
  starts := ⟨'\x7b', _, rfl, rfl, by decide⟩
  line hl := by
    simp only [List.mem_cons, List.mem_append, not_or]
    exact ⟨by decide, newline_notMem_gap hl, newline_notMem_quote k, newline_notMem_colon l,
      hv.line hl, hfs.line hl⟩
  reads bound rest hbound := by
    simp only [List.length_cons, List.length_append] at hbound
    obtain ⟨bound, rfl⟩ := Nat.exists_eq_add_one.2 (Nat.lt_of_lt_of_le (Nat.succ_pos _) hbound)
    have hbound' : (first ++ cs).length ≤ bound := by
      rw [List.length_append]
      omega
    have hfields := hfs.reads hv k bound rest hbound'
    -- the quote of the name stands behind the bracket
    have hskip : skipSpace (l.gap depth ++ (quote k ++ (l.colon ++ (first ++ (cs ++ rest))))) =
        quote k ++ (l.colon ++ (first ++ (cs ++ rest))) := by
      rw [skipSpace_gap, quote, List.cons_append, List.cons_append, skipSpace_cons rfl]
    simp only [List.cons_append, List.append_assoc]
    rw [readValue, skipSpace_cons rfl]
    simp only [hskip, if_neg (show ¬ '\x7b' = '"' by decide),
      if_neg (show ¬ '\x7b' = '[' by decide), if_pos]
    split
    · rename_i heq
      rw [quote, List.cons_append, List.cons_append] at heq
      exact absurd (List.cons.inj heq).1 (by decide)
    · rw [hfields, Option.map_some]

mutual

/-- **Every value that consists of texts is written to its end**, and what is written spells it. -/
theorem render_spells (l : Layout) (depth : Nat) :
    (j : Json) → j.Textual → ∃ cs, j.render l depth = .of cs ∧ Spells l j cs
  | .null, _ => ⟨_, rfl, spells_null l⟩
  | .bool true, _ => ⟨_, rfl, spells_bool l true⟩
  | .bool false, _ => ⟨_, rfl, spells_bool l false⟩
  | .number _, h => absurd h id
  | .string none, h => absurd rfl h
  | .string (some s), _ => ⟨_, rfl, spells_quote l s⟩
  | .array [], _ => ⟨_, rfl, spells_array_nil l⟩
  | .object [], _ => ⟨_, rfl, spells_object_nil l⟩
  | .array (j :: r), h => by
    obtain ⟨cs, hcs, hj⟩ := render_spells l (depth + 1) j h.1
    obtain ⟨ds, hds, hr⟩ := renderItems_spells l depth r h.2
    refine ⟨_, ?_, spells_array_cons (depth + 1) hj hr⟩
    rw [render, hcs, hds]
    simp
  | .object ((none, _) :: _), h => absurd rfl h.1
  | .object ((some k, v) :: r), h => by
    obtain ⟨cs, hcs, hv⟩ := render_spells l (depth + 1) v h.2.1
    obtain ⟨ds, hds, hr⟩ := renderFields_spells l depth r h.2.2
    refine ⟨_, ?_, spells_object_cons (depth + 1) hv hr⟩
    rw [render, hcs, hds, renderString]
    simp

/-- What is printed for a list of items spells them one after the other. -/
theorem renderItems_spells (l : Layout) (depth : Nat) :
    (js : List Json) → TextualItems js → ∃ cs, renderItems l depth js = .of cs ∧ SpellsItems l js cs
  | [], _ => ⟨_, rfl, spellsItems_nil l depth⟩
  | j :: r, h => by
    obtain ⟨cs, hcs, hj⟩ := render_spells l (depth + 1) j h.1
    obtain ⟨ds, hds, hr⟩ := renderItems_spells l depth r h.2
    refine ⟨_, ?_, spellsItems_cons (depth + 1) hj hr⟩
    rw [renderItems, hcs, hds]
    simp

/-- What is printed for a list of fields spells them one after the other. -/
theorem renderFields_spells (l : Layout) (depth : Nat) :
    (fs : List (Option String × Json)) → TextualFields fs →
      ∃ cs, renderFields l depth fs = .of cs ∧ SpellsFields l fs cs
  | [], _ => ⟨_, rfl, spellsFields_nil l depth⟩
  | (none, _) :: _, h => absurd rfl h.1
  | (some k, v) :: r, h => by
    obtain ⟨cs, hcs, hv⟩ := render_spells l (depth + 1) v h.2.1
    obtain ⟨ds, hds, hr⟩ := renderFields_spells l depth r h.2.2
    refine ⟨_, ?_, spellsFields_cons (depth + 1) hv hr⟩
    rw [renderFields, hcs, hds, renderString]
    simp

end

/-- **What is written is read back**, with any blanks after it. -/
theorem read?_spells {l : Layout} {j : Json} {cs : List Char} (h : Spells l j cs) {rest : List Char}
    (hrest : skipSpace rest = []) : read? (cs ++ rest) = some j := by
  have hbound : cs.length ≤ 2 * (cs ++ rest).length + 2 := by
    rw [List.length_append]
    omega
  rw [read?, h.reads _ rest hbound]
  exact if_pos hrest

end Json
end NativeBuild
