import NativeBuild.Text.Blank

/-!
# Directives

A source file says how it wants to be built with directives: flags for compiling it, flags for
linking what it becomes part of, and the archives it refers to. There are five kinds, each with a
keyword. The compile kinds carry one text, in which the flags are set apart by single spaces; the
link kinds carry a list of tokens.

A `DirectiveSet` holds the directives of one file in the order in which they were declared, at most
one of each kind.
-/

namespace NativeBuild

/-- What a directive is about. -/
inductive DirectiveKind where
  /-- Preprocessor flags for the file. -/
  | cppflags
  /-- Flags for compiling the file as plain source. -/
  | cflags
  /-- Flags for compiling the file as extended source. -/
  | cxxflags
  /-- Flags for linking. -/
  | ldflags
  /-- Names of archives to link with. -/
  | reflibs
  deriving DecidableEq, Repr

namespace DirectiveKind

/-- All kinds. -/
def all : List DirectiveKind := [cppflags, cflags, cxxflags, ldflags, reflibs]

/-- The word that declares the kind. -/
def keyword : DirectiveKind → String
  | cppflags => "cppflags"
  | cflags => "cflags"
  | cxxflags => "cxxflags"
  | ldflags => "ldflags"
  | reflibs => "reflibs"

/-- The kind that a word declares; ASCII letters count the same in either case. -/
def ofKeyword? (word : List Char) : Option DirectiveKind :=
  all.find? fun k => k.keyword.toList = word.map Char.toLower

/-- The kind with exactly that keyword. -/
def ofWord? (word : String) : Option DirectiveKind := all.find? fun k => k.keyword = word

/-- Is the value a list of tokens? -/
def isTokenized : DirectiveKind → Bool
  | ldflags | reflibs => true
  | cppflags | cflags | cxxflags => false

end DirectiveKind

/-- A **directive** with its value. -/
inductive Directive where
  | cppflags (flags : String)
  | cflags (flags : String)
  | cxxflags (flags : String)
  | ldflags (tokens : List String)
  | reflibs (tokens : List String)
  deriving DecidableEq, Repr

namespace Directive

/-- What the directive is about. -/
def kind : Directive → DirectiveKind
  | cppflags _ => .cppflags
  | cflags _ => .cflags
  | cxxflags _ => .cxxflags
  | ldflags _ => .ldflags
  | reflibs _ => .reflibs

/-- The directive of a kind whose value is written with the given words. -/
def ofWords (k : DirectiveKind) (ws : List (List Char)) : Directive :=
  match k with
  | .cppflags => .cppflags (String.ofList (Text.unwords ws))
  | .cflags => .cflags (String.ofList (Text.unwords ws))
  | .cxxflags => .cxxflags (String.ofList (Text.unwords ws))
  | .ldflags => .ldflags (ws.map String.ofList)
  | .reflibs => .reflibs (ws.map String.ofList)

@[simp] theorem kind_ofWords (k : DirectiveKind) (ws : List (List Char)) :
  (ofWords k ws).kind = k := by
  cases k <;> rfl

/-- What the directive adds to the flags of its kind: a text as a whole unless it is empty, or each
token. -/
def values : Directive → List String
  | cppflags v | cflags v | cxxflags v => if v = "" then [] else [v]
  | ldflags ts | reflibs ts => ts

end Directive

/-- The **directives of one file** in the order of their declaration, at most one of each kind. -/
structure DirectiveSet where
  entries : List Directive
  nodup : (entries.map Directive.kind).Nodup
  deriving DecidableEq, Repr

namespace DirectiveSet

/-- The set of no directives. -/
def empty : DirectiveSet := ⟨[], List.nodup_nil⟩

instance : Inhabited DirectiveSet := ⟨empty⟩

/-- The directive of a kind. -/
def get? (s : DirectiveSet) (k : DirectiveKind) : Option Directive :=
  s.entries.find? fun d => d.kind = k

/-- The values declared for a kind. -/
def values (s : DirectiveSet) (k : DirectiveKind) : List String :=
  match s.get? k with
  | some d => d.values
  | none => []

/-- Is nothing declared? -/
def isEmpty (s : DirectiveSet) : Bool := s.entries.isEmpty

theorem get?_eq_none_iff {s : DirectiveSet} {k : DirectiveKind} :
    s.get? k = none ↔ k ∉ s.entries.map Directive.kind := by
  simp only [get?, List.find?_eq_none, decide_eq_true_eq, List.mem_map, not_exists, not_and]

/-- Declares one more directive, of a kind that has none yet. -/
def add (s : DirectiveSet) (d : Directive) (h : s.get? d.kind = none) : DirectiveSet where
  entries := s.entries ++ [d]
  nodup := by
    rw [List.map_append, List.nodup_append]
    refine ⟨s.nodup, by simp, fun a ha b hb => ?_⟩
    rintro rfl
    simp only [List.map_cons, List.map_nil, List.mem_singleton] at hb
    exact get?_eq_none_iff.1 h (hb ▸ ha)

end DirectiveSet

end NativeBuild
