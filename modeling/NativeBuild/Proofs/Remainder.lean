import NativeBuild.Proofs.Planning
import NativeBuild.Proofs.Respacing

/-!
# What follows the code is not read

The directives of a file are those in front of its first line of code. Whatever the bytes behind
this line are, the answer is the same: they may be no text, open blocks, or declare again what has
been declared. It is the answer for the bytes in front alone, be it directives or a complaint
(`Tree.directivesAt_ignores_rest`).

The file is known by its bytes and the line of code is found in the text that is read from them. A
line feed is an ASCII byte, so what stands before it and what stands behind it are read by
themselves, also if the bytes before it end in the middle of a character
(`Utf8.decodeLossy_append_newline`). The text then is put together from lines, and declarations of
lines are put together likewise.
-/

namespace NativeBuild

open Text

variable {p c s : List Char}

/-- A text **ends outside a block** if none is open after its lines, or if there was code before:
then blocks do not matter any more. -/
def EndsOutside (text : List Char) : Prop :=
  inBlock false ((lines text).map trim) (lines text).length = false ∨
    ¬ InWindow false ((lines text).map trim) (lines text).length

/-- What declares nothing outside a block declares nothing behind such a text. -/
theorem EndsOutside.declarationsFrom_append (h : EndsOutside p) {rest : List (List Char)}
    (hrest : ∀ n, declarationsFrom false n rest = []) :
    declarationsFrom false 1 (lines p ++ rest) = declarations p := by
  have hlines : declarations p = declarationsFrom false 1 (lines p) := rfl
  by_cases hwindow : InWindow false ((lines p).map trim) (lines p).length
  · have hstate := h.resolve_right (not_not_intro hwindow)
    rw [declarationsFrom_append_of_inWindow hwindow, hstate, hrest, List.append_nil, hlines]
  · rw [declarationsFrom_append_of_not_inWindow hwindow, hlines]

/-- **From a line of code on** nothing is declared. -/
theorem declarations_append_code (hp : EndsOutside p) (hc : '\n' ∉ c) (hcode : IsCode (trim c)) :
    declarations (p ++ '\n' :: (c ++ '\n' :: s)) = declarations p := by
  have hcut : (c ++ '\n' :: s).splitOn '\n' = c :: s.splitOn '\n' := by
    rw [List.splitOn_append_cons_self, List.splitOn_eq_singleton hc, List.singleton_append]
  have hrest : ∀ n, declarationsFrom false n (c :: s.splitOn '\n') = [] :=
    fun n => declarationsFrom_cons_of_isCode hcode
  rw [declarations_eq, List.splitOn_append_cons_self, hcut]
  rcases splitOn_eq_lines p with h | h
  · rw [h, hp.declarationsFrom_append hrest]
  · -- the text in front ends in a line feed itself, so there is a blank line before the code
    rw [h, List.append_assoc, List.singleton_append]
    refine hp.declarationsFrom_append fun n => ?_
    rw [declarationsFrom_cons_of_blank (by simp), hrest]

/-- More lines only add declarations. -/
theorem exists_declarations_append (p s : List Char) :
    ∃ ds, declarations (p ++ '\n' :: s) = declarations p ++ ds := by
  rw [declarations_eq, List.splitOn_append_cons_self, declarations_eq]
  by_cases hwindow : InWindow false ((p.splitOn '\n').map trim) (p.splitOn '\n').length
  · exact ⟨_, declarationsFrom_append_of_inWindow hwindow _⟩
  · exact ⟨[], by rw [declarationsFrom_append_of_not_inWindow hwindow, List.append_nil]⟩

namespace DirectiveSet

/-- With a line of code behind it a text reads as it did without. -/
theorem read_append_code (path : Path) (hp : EndsOutside p) (hc : '\n' ∉ c)
    (hcode : IsCode (trim c)) :
    read path (p ++ '\n' :: (c ++ '\n' :: s)) = read path p := by
  rw [read, read, ofText, ofText, declarations_append_code hp hc hcode]

/-- **A complaint** is the same whatever lines come behind. -/
theorem read_append_of_error {path : Path} {e : BuildError} (h : read path p = .error e)
    (s : List Char) :
    read path (p ++ '\n' :: s) = .error e := by
  obtain ⟨ds, hds⟩ := exists_declarations_append p s
  obtain ⟨r, ⟨front, d, rest, hsplit, hfirst⟩, rfl⟩ := read_eq_error_iff.1 h
  refine read_eq_error_iff.2 ⟨r, ⟨front, d, rest ++ ds, ?_, hfirst⟩, rfl⟩
  rw [hds, hsplit, List.append_assoc, List.cons_append]

end DirectiveSet

namespace Tree

/-- The directives at a path are read from the bytes of the file, whatever these encode. -/
theorem directivesAt_of_readBytes {t : Tree} {path : Path} {bytes : Bytes}
    (h : t.readBytes path = .ok bytes) :
    t.directivesAt path = Traced.ofExcept (DirectiveSet.read path (Utf8.decodeLossy bytes)) := by
  rw [directivesAt, h]

/-- **Nothing behind the code matters.** Two files agree up to a line of code, and what stands in
front of it ends outside a block, or is complained about. Then their directives are the same, or the
same line is complained about, whatever bytes come behind. It is the answer for what stands in
front. -/
theorem directivesAt_ignores_rest {t₁ t₂ : Tree} {path : Path} {p c s₁ s₂ : Bytes} (hc : 0x0A ∉ c)
    (hcode : IsCode (trim (Utf8.decodeLossy c)))
    (hp : EndsOutside (Utf8.decodeLossy p) ∨ ∃ e,
      DirectiveSet.read path (Utf8.decodeLossy p) = .error e)
    (h₁ : t₁.readBytes path = .ok (p ++ 0x0A :: (c ++ 0x0A :: s₁)))
    (h₂ : t₂.readBytes path = .ok (p ++ 0x0A :: (c ++ 0x0A :: s₂))) :
    t₁.directivesAt path = t₂.directivesAt path ∧
      (t₁.directivesAt path).result = DirectiveSet.read path (Utf8.decodeLossy p) := by
  have hfront : ∀ s, DirectiveSet.read path (Utf8.decodeLossy (p ++ 0x0A :: (c ++ 0x0A :: s))) =
      DirectiveSet.read path (Utf8.decodeLossy p) := by
    intro s
    rw [Utf8.decodeLossy_append_newline, Utf8.decodeLossy_append_newline]
    rcases hp with hp | ⟨e, he⟩
    · exact DirectiveSet.read_append_code path hp
        (Utf8.notMem_decodeLossy (by decide) (by decide) hc) hcode
    · rw [DirectiveSet.read_append_of_error he, he]
  rw [directivesAt_of_readBytes h₁, directivesAt_of_readBytes h₂, hfront, hfront]
  exact ⟨rfl, Traced.result_ofExcept _⟩

end Tree

namespace CodeFile

/-- A declaration that ends in the middle of a character. -/
def front : Bytes := Utf8.encode "// @cflags: -DX=".toList ++ [0xE2, 0x82]

/-- A project with one file: the declaration, a line of code, and what comes behind it. -/
def tree (rest : Bytes) : Tree where
  entries := [([SmallProject.file],
    .file (front ++ 0x0A :: (Utf8.encode "int x;".toList ++ 0x0A :: rest)) 0o644)]
  ascending := by
    unfold Ascending
    decide_cbv
  closed := SmallProject.closed_of_dropLast (by simp [Entries.HasDir])

/-- Behind the code something that is no text, and the same declaration again. -/
def again : Bytes := 0xFF :: Utf8.encode "\n// @cflags: -g\n".toList

/-- Behind the code a block that is not closed. -/
def opened : Bytes := Utf8.encode "/*".toList

theorem readBytes_tree (rest : Bytes) : (tree rest).readBytes (.ofString "a.c") =
    .ok (front ++ 0x0A :: (Utf8.encode "int x;".toList ++ 0x0A :: rest)) := by cbv

end CodeFile

/-- Two files that begin alike and go on differently behind a line of code. -/
theorem codeFile_ignores_rest :
    (CodeFile.tree CodeFile.again).directivesAt (.ofString "a.c") =
        (CodeFile.tree CodeFile.opened).directivesAt (.ofString "a.c") ∧
      ((CodeFile.tree CodeFile.again).directivesAt (.ofString "a.c")).result =
        .ok ⟨[.cflags "-DX=\uFFFD"], by decide⟩ := by
  have hp : EndsOutside (Utf8.decodeLossy CodeFile.front) := .inl (by decide +kernel)
  have hcode : IsCode (trim (Utf8.decodeLossy (Utf8.encode "int x;".toList))) := by
    rw [Utf8.decodeLossy_encode, isCode_iff]
    decide +kernel
  obtain ⟨hsame, hfront⟩ := Tree.directivesAt_ignores_rest (by decide +kernel) hcode (.inl hp)
    (CodeFile.readBytes_tree CodeFile.again) (CodeFile.readBytes_tree CodeFile.opened)
  exact ⟨hsame, hfront.trans (by cbv)⟩

end NativeBuild
