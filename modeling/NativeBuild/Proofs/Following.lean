import NativeBuild.FileTree.Walk
import NativeBuild.Proofs.Changes
import NativeBuild.Proofs.Paths

/-!
# Where names lead

Following a path in two parts is following the first and then, from where it leads and with the
links that are left, the second (`follow_append`). A last step that follows no link ends at the
entry of its name (`follow_down_eq_ok_iff`).

`Tree.Leads` says that names, taken as steps down from a directory, lead somewhere. They do so one
by one (`leads_append_iff`), and a single name either lies in the directory itself or is a link,
which leads wherever it leads by itself (`leads_singleton_iff`). Directories below a directory are
reached by their names, and that spends no links (`leads_of_isDir`).
-/

namespace NativeBuild

theorem Name.ofBytes?_bytes (n : Name) : Name.ofBytes? n.bytes = some n := by
  rw [ofBytes?, dif_pos n.isName_bytes]

theorem Name.bytes_of_ofBytes? {b : Bytes} {n : Name} (h : Name.ofBytes? b = some n) :
    n.bytes = b := by
  unfold ofBytes? at h
  split at h
  · exact congrArg Name.bytes (Option.some.inj h).symm
  · simp at h

namespace Tree

variable {t : Tree} {links left : Nat} {l p : Location}

/-! ### Following in two parts -/

theorem follow_down_of_link {last : Bool} {b : Bytes} {n : Name} {target : Path}
    {rest : List Path.Step} (hdir : t.isDir l = true) (hb : Name.ofBytes? b = some n)
    (hget : t.get? (l ++ [n]) = some (.link target)) (hgo : ¬ (rest = [] ∧ last = false)) :
    t.follow last links l (.down b :: rest) =
      match links with
      | 0 => .error .tooManyLinks
      | left + 1 =>
        if target.bytes = [] then .error .notFound
        else t.follow last left (if target.isAbsolute then [] else l) (target.walk ++ rest) := by
  rw [follow.eq_def]
  dsimp only
  rw [if_pos hdir]
  simp only [hb, hget]
  refine (if_neg hgo).trans ?_
  cases links <;> rfl

/-- **Steps are taken one after the other**: the first ones, through links, and the rest from where
they arrive, as long as there is something to be at. -/
theorem follow_append {last : Bool} {xs ys : List Path.Step} (h : last = true ∨ ys ≠ []) :
    t.follow last links l (xs ++ ys) =
      match t.follow true links l xs with
      | .ok ⟨.occupied there, left⟩ => t.follow last left there ys
      | .ok ⟨.vacant d n, left⟩ => if ys = [] then .ok ⟨.vacant d n, left⟩ else .error .notFound
      | .error e => .error e := by
  -- a link is an end only when nothing is left to do, which the steps behind keep from happening
  have hgo : ∀ rest : List Path.Step, ¬ (rest ++ ys = [] ∧ last = false) := by
    rintro rest ⟨hnil, hlast⟩
    rcases h with h | h
    · exact Bool.false_ne_true (hlast.symm.trans h)
    · exact h (List.append_eq_nil_iff.1 hnil).2
  -- the cases are those of `follow` on the first steps: here, up, and all that a name can be
  fun_induction Tree.follow t true links l xs with
  | case1 => rfl
  | case2 links l rest hdir ih => rw [List.cons_append, follow, if_pos hdir, ih]
  | case3 links l rest hdir ih => rw [List.cons_append, follow, if_pos hdir, ih]
  | case4 links l rest hdir b hb =>
    rw [List.cons_append, follow, if_pos hdir]
    simp [hb]
  | case5 links l hdir b n hb hget =>
    rw [List.cons_append, follow, if_pos hdir]
    simp [hb, hget]
  | case6 links l rest hdir b n hb hget hrest =>
    rw [List.cons_append, follow, if_pos hdir]
    simp [hb, hget, hrest]
  | case7 links l rest hdir b n hb target hget hstop => exact absurd hstop.2 (by simp)
  | case8 l rest hdir b n hb target hget _ =>
    rw [List.cons_append, follow_down_of_link hdir hb hget (hgo rest)]
  | case9 l rest hdir b n hb target hget _ links hempty =>
    rw [List.cons_append, follow_down_of_link hdir hb hget (hgo rest)]
    simp [hempty]
  | case10 l rest hdir b n hb target hget _ links hempty ih =>
    -- the steps of the link come before the rest, and it is the whole front that they are put
    -- before
    rw [List.cons_append, follow_down_of_link hdir hb hget (hgo rest)]
    dsimp only
    rw [if_neg hempty, ← List.append_assoc]
    exact ih
  | case11 links l rest hdir b n hb e hlink hget ih =>
    rw [List.cons_append, follow, if_pos hdir]
    simp only [hb, hget]
    exact ih
  | case12 links l step rest hdir =>
    rw [List.cons_append, follow.eq_def]
    simp [hdir]

/-- Steps that stay where they are lead nowhere else. -/
theorem follow_replicate_here {last : Bool} (h : t.isDir l = true) (k : Nat)
    (steps : List Path.Step) :
    t.follow last links l (List.replicate k .here ++ steps) = t.follow last links l steps := by
  induction k with
  | zero => rfl
  | succ k ih => rw [List.replicate_succ, List.cons_append, follow, if_pos h, ih]

/-- **A last step** that follows no link leads to what has the name in the directory. -/
theorem follow_down_eq_ok_iff {b : Bytes} :
    t.follow false links l [.down b] = .ok ⟨.occupied p, left⟩ ↔
    t.isDir l = true ∧ left = links ∧ ∃ n e, Name.ofBytes? b = some n ∧ p = l ++ [n] ∧
      t.get? p = some e := by
  rw [follow.eq_def]
  dsimp only
  by_cases hdir : t.isDir l = true
  · rw [if_pos hdir, and_iff_right hdir]
    cases hb : Name.ofBytes? b with
    | none => simp
    | some n =>
      dsimp only
      cases hget : t.get? (l ++ [n]) with
      | none =>
        simp only [if_true]
        constructor
        · -- a place that is vacant is not one that is occupied
          intro h
          simp at h
        · rintro ⟨-, m, e, hm, rfl, he⟩
          obtain rfl := Option.some.inj hm
          simp [hget] at he
      | some e =>
        -- an entry is where the way ends, also if it is a link
        have hend : t.follow false links (l ++ [n]) [] = .ok ⟨.occupied (l ++ [n]), links⟩ := by
          rw [follow]
        have hiff : (⟨.occupied (l ++ [n]), links⟩ : Arrival) = ⟨.occupied p, left⟩ ↔
            left = links ∧ ∃ m e, some n = some m ∧ p = l ++ [m] ∧ t.get? p = some e := by
          constructor
          · intro h
            simp only [Arrival.mk.injEq, Place.occupied.injEq] at h
            obtain ⟨rfl, rfl⟩ := h
            exact ⟨rfl, n, e, rfl, rfl, hget⟩
          · rintro ⟨rfl, m, e', hm, rfl, -⟩
            obtain rfl := Option.some.inj hm
            rfl
        cases e with
        | file content mode => simp only [hend, Except.ok.injEq, hiff]
        | link target => simp only [and_self, if_true, Except.ok.injEq, hiff]
        | dir => simp only [hend, Except.ok.injEq, hiff]
  · rw [if_neg hdir]
    simp [hdir]

/-! ### What a path leads to -/

/-- A path resolves if it can be asked for and following it, through links, arrives at an entry. -/
theorem resolve_eq_ok_iff {path : Path} : t.resolve path = .ok (p, left) ↔
    path.fault? = none ∧ t.follow true linkLimit [] path.walk = .ok ⟨.occupied p, left⟩ := by
  unfold resolve locate
  cases path.fault? with
  | some fault => simp
  | none =>
    cases hf : t.follow true linkLimit [] path.walk with
    | error fault => simp
    | ok a =>
      obtain ⟨place, k⟩ := a
      cases place <;> simp

/-- The entry at a path is the one at the location that the path resolves to. -/
theorem entryAt_eq_ok_iff {path : Path} {e : Entry} : t.entryAt path = .ok e ↔
    ∃ p left, t.resolve path = .ok (p, left) ∧ t.get? p = some e := by
  unfold entryAt
  cases hr : t.resolve path with
  | error fault => simp
  | ok a =>
    obtain ⟨q, k⟩ := a
    simp only [Except.ok.injEq, Prod.mk.injEq]
    constructor
    · intro h
      split at h
      · rename_i e' hget
        exact ⟨q, k, ⟨rfl, rfl⟩, Except.ok.inj h ▸ hget⟩
      · simp at h
    · rintro ⟨p, left, ⟨rfl, rfl⟩, hget⟩
      rw [hget]

/-! ### Steps down by names -/

/-- Names **lead** from one location to another, with some links left of those that may be
followed. -/
def Leads (t : Tree) (links : Nat) (l : Location) (names : List Name) (p : Location)
    (left : Nat) : Prop :=
  t.follow true links l (downs names) = .ok ⟨.occupied p, left⟩

/-- Names lead to one place at most. -/
theorem Leads.eq {names : List Name} {q : Location} {k : Nat} (h : t.Leads links l names p left)
    (h' : t.Leads links l names q k) : p = q ∧ left = k := by
  have he := h.symm.trans h'
  simpa using he

theorem leads_nil_iff : t.Leads links l [] p left ↔ p = l ∧ left = links := by
  rw [Leads, downs_nil, follow]
  simp [eq_comm]

/-- **Names lead one by one.** -/
theorem leads_append_iff {ns ms : List Name} : t.Leads links l (ns ++ ms) p left ↔
    ∃ q k, t.Leads links l ns q k ∧ t.Leads k q ms p left := by
  rw [Leads, downs_append, follow_append (Or.inl rfl)]
  constructor
  · intro h
    split at h
    · rename_i q k hns
      exact ⟨q, k, hns, h⟩
    · split at h <;> simp at h
    · simp at h
  · -- the first names arrive at an entry, which is where the others start from
    rintro ⟨q, k, hns, hms⟩
    rw [Leads] at hns
    rw [hns]
    exact hms

/-- A way is its first name and the way from there. -/
theorem leads_cons_iff {n : Name} {names : List Name} : t.Leads links l (n :: names) p left ↔
    ∃ q k, t.Leads links l [n] q k ∧ t.Leads k q names p left := by
  rw [← List.singleton_append, leads_append_iff]

/-- **A single name** lies in the directory, or it is a link and leads where the link does. -/
theorem leads_singleton_iff {n : Name} : t.Leads links l [n] p left ↔
    t.isDir l = true ∧ ((∃ e, t.get? (l ++ [n]) = some e ∧ (∀ target, e ≠ .link target) ∧
        p = l ++ [n] ∧ left = links) ∨
      ∃ target, t.get? (l ++ [n]) = some (.link target) ∧
        t.throughLink links l target = .ok (p, left)) := by
  rw [Leads, downs_cons, downs_nil]
  by_cases hdir : t.isDir l = true
  · rw [and_iff_right hdir]
    have hname := n.ofBytes?_bytes
    cases hget : t.get? (l ++ [n]) with
    | none =>
      -- a name that nothing has leads nowhere
      rw [follow.eq_def]
      simp [hdir, hname, hget]
    | some e =>
      cases e with
      | link target =>
        rw [follow_down_of_link hdir hname hget (by simp), List.append_nil]
        -- both go where the link leads
        cases links with
        | zero => simp [throughLink]
        | succ links =>
          by_cases hempty : target.bytes = []
          · simp [throughLink, hempty]
          · cases hf : t.follow true links (if target.isAbsolute then [] else l) target.walk with
            | error e => simp [throughLink, hempty, hf]
            | ok a =>
              obtain ⟨place, k⟩ := a
              cases place <;> simp [throughLink, hempty, hf]
      | file content mode =>
        rw [follow.eq_def]
        simp [hdir, hname, hget, follow, eq_comm]
      | dir =>
        rw [follow.eq_def]
        simp [hdir, hname, hget, follow, eq_comm]
  · rw [follow, if_neg hdir]
    simp [hdir]

/-- **Names of directories** are followed as they are. -/
theorem leads_of_isDir {d : List Name} (h : t.isDir (l ++ d) = true) :
    t.Leads links l d (l ++ d) links := by
  induction d using List.reverseRecOn with
  | nil => exact leads_nil_iff.2 ⟨List.append_nil l, rfl⟩
  | append_singleton d n ih =>
    rw [← List.append_assoc] at h ⊢
    have hget : t.get? (l ++ d ++ [n]) = some .dir := decide_eq_true_iff.1 h
    have hdir := isDir_of_get?_concat hget
    refine leads_append_iff.2 ⟨l ++ d, links, ih hdir, leads_singleton_iff.2 ⟨hdir, Or.inl ?_⟩⟩
    exact ⟨.dir, hget, by simp, rfl, rfl⟩

/-- Names that exist as they stand cost no links. -/
theorem leads_append_of_isDir {d names : List Name} (h : t.isDir (l ++ d) = true)
    (hnames : t.Leads links (l ++ d) names p left) : t.Leads links l (d ++ names) p left :=
  leads_append_iff.2 ⟨l ++ d, links, leads_of_isDir h, hnames⟩

end Tree

end NativeBuild
