import IntruderWatch.Library.PyOps

/-!
# POSIX paths

`pathlib` paths as a root and components. The text of a resolved path starts with the text of
another one in two cases: the components of the second are the first components of the first, or
the last of them is only the beginning of a longer name.
-/

namespace Py

def period : CodePoint := ofChar '.'

/-- A pure path; the root is no slash, one, or exactly two. -/
structure PosixPath where
  root : Str
  parts : List Str
deriving DecidableEq

namespace PosixPath

def rootOf (s : Str) : Str :=
  match (s.takeWhile (· = slash)).length with
  | 0 => []
  | 2 => [slash, slash]
  | _ => [slash]

/-- `Path(s)`. -/
def ofText (s : Str) : PosixPath where
  root := rootOf s
  parts := (split slash s).filter (fun part => part ≠ [] ∧ part ≠ [period])

/-- `str(p)`. -/
def text (p : PosixPath) : Str :=
  if p.root = [] ∧ p.parts = [] then [period]
  else p.root ++ [slash].intercalate p.parts

/-- `p / segment`. -/
def join (p : PosixPath) (segment : Str) : PosixPath :=
  ofText (pathJoin p.text segment)

end PosixPath

/-- The extension of a file name, the dots in front excepted. -/
def suffix (name : Str) : Str :=
  let tail := (name.reverse.takeWhile (· ≠ period)).reverse
  let stem := name.take (name.length - tail.length - 1)
  if tail.length < name.length ∧ stem.any (· ≠ period) then period :: tail else []

/-! ### Resolved paths -/

/-- An absolute path without `.` and `..`. -/
structure ResolvedPath extends PosixPath where
  rooted : root = [slash]
  named : ∀ part ∈ parts, part ≠ [] ∧ part ≠ [period] ∧ part ≠ [period, period] ∧ slash ∉ part

/-- Every component follows a slash. -/
def componentText (parts : List Str) : Str :=
  parts.flatMap (slash :: ·)

lemma slash_cons_intercalate {parts : List Str} (h : parts ≠ []) :
    slash :: [slash].intercalate parts = componentText parts := by
  induction parts with
  | nil => exact absurd rfl h
  | cons part parts ih =>
    cases parts with
    | nil => simp [componentText]
    | cons next parts =>
      have hrest := ih (List.cons_ne_nil next parts)
      have hcons : [slash].intercalate (part :: next :: parts) =
          part ++ slash :: [slash].intercalate (next :: parts) := by
        simp [List.intercalate]
      rw [hcons, hrest]
      rfl

lemma text_absolute (parts : List Str) :
    (⟨[slash], parts⟩ : PosixPath).text = if parts = [] then [slash] else componentText parts := by
  have hroot : [slash] ≠ [] := List.cons_ne_nil _ _
  rw [PosixPath.text, if_neg (fun h => hroot h.1)]
  split_ifs with h
  · rw [h]
    rfl
  · exact slash_cons_intercalate h

lemma ResolvedPath.text_eq (p : ResolvedPath) :
    p.text = if p.parts = [] then [slash] else componentText p.parts := by
  have hp : p.toPosixPath = ⟨[slash], p.parts⟩ := congrArg (PosixPath.mk · p.parts) p.rooted
  rw [hp]
  exact text_absolute p.parts

/-! ### Joining names -/

/-- A segment that stays as it is in a path. -/
def IsName (segment : Str) : Prop :=
  segment ≠ [] ∧ segment ≠ [period] ∧ slash ∉ segment

lemma componentText_cons (part : Str) (parts : List Str) :
    componentText (part :: parts) = slash :: (part ++ componentText parts) := rfl

lemma split_slash_cons (s : Str) : split slash (slash :: s) = [] :: split slash s := by
  rw [split, if_pos rfl]

lemma split_componentText {parts : List Str} (h : ∀ part ∈ parts, slash ∉ part) :
    split slash (componentText parts) = [] :: parts := by
  induction parts with
  | nil => rfl
  | cons part parts ih =>
    have hpart := h part List.mem_cons_self
    have hrest := ih (fun q hq => h q (List.mem_cons_of_mem part hq))
    rw [componentText_cons, split_slash_cons]
    cases parts with
    | nil =>
      have hnil : componentText [] = [] := rfl
      rw [hnil, List.append_nil, split_of_notMem hpart]
    | cons next parts =>
      rw [componentText_cons, split_slash_cons] at hrest
      rw [componentText_cons, split_append hpart, (List.cons.inj hrest).2]

lemma ofText_componentText {parts : List Str} (hne : parts ≠ []) (h : ∀ part ∈ parts, IsName part) :
    PosixPath.ofText (componentText parts) = ⟨[slash], parts⟩ := by
  have hroot : PosixPath.rootOf (componentText parts) = [slash] := by
    obtain ⟨part, rest, rfl⟩ := List.exists_cons_of_ne_nil hne
    obtain ⟨hpart, -, hslash⟩ := h part List.mem_cons_self
    obtain ⟨c, part, rfl⟩ := List.exists_cons_of_ne_nil hpart
    have hc : c ≠ slash := by
      intro heq
      rw [heq] at hslash
      exact hslash List.mem_cons_self
    simp [PosixPath.rootOf, componentText_cons, hc]
  have hparts : (split slash (componentText parts)).filter (fun part => part ≠ [] ∧ part ≠ [period]) =
      parts := by
    rw [split_componentText (fun part hpart => (h part hpart).2.2), List.filter_cons_of_neg (by simp)]
    apply List.filter_eq_self.mpr
    intro part hpart
    exact decide_eq_true ⟨(h part hpart).1, (h part hpart).2.1⟩
  rw [PosixPath.ofText, hroot, hparts]

lemma getLast?_componentText {parts : List Str} (h : ∀ part ∈ parts, IsName part) :
    (componentText parts).getLast? ≠ some slash := by
  intro hlast
  rcases List.eq_nil_or_concat parts with rfl | ⟨front, part, rfl⟩
  · cases hlast
  · obtain ⟨hpart, -, hslash⟩ := h part (by simp)
    have hsplit : componentText (front ++ [part]) = componentText front ++ [slash] ++ part := by
      simp [componentText]
    rw [List.concat_eq_append, hsplit, List.getLast?_append_of_ne_nil _ hpart] at hlast
    exact hslash (List.mem_of_getLast? hlast)

/-- Joining a name puts it behind the components. -/
lemma join_name {parts : List Str} {segment : Str} (h : ∀ part ∈ parts, IsName part)
    (hsegment : IsName segment) :
    (⟨[slash], parts⟩ : PosixPath).join segment = ⟨[slash], parts ++ [segment]⟩ := by
  have hhead : segment.head? ≠ some slash := by
    intro hhead
    exact hsegment.2.2 (List.mem_of_head? hhead)
  have hjoin : pathJoin (⟨[slash], parts⟩ : PosixPath).text segment =
      componentText (parts ++ [segment]) := by
    rw [text_absolute, pathJoin, if_neg hhead]
    by_cases hnil : parts = []
    · rw [if_pos hnil, hnil]
      simp [componentText]
    · have hne : componentText parts ≠ [] := by
        obtain ⟨part, rest, rfl⟩ := List.exists_cons_of_ne_nil hnil
        exact List.cons_ne_nil _ _
      rw [if_neg hnil, if_neg (not_or.mpr ⟨hne, getLast?_componentText h⟩)]
      simp [componentText]
  rw [PosixPath.join, hjoin]
  apply ofText_componentText (by simp)
  intro part hpart
  rcases List.mem_append.mp hpart with hpart | hpart
  · exact h part hpart
  · rw [List.mem_singleton.mp hpart]
    exact hsegment

/-! ### Prefixes -/

/-- The first path has the components of the second, up to a longer name in place of the last. -/
def LongerName (parts base : List Str) : Prop :=
  ∃ dir name ext rest, ext ≠ [] ∧ base = dir ++ [name] ∧ parts = dir ++ (name ++ ext) :: rest

lemma longerName_singleton {part name : Str} {parts : List Str} :
    LongerName (part :: parts) [name] ↔ ∃ ext, ext ≠ [] ∧ part = name ++ ext := by
  constructor
  · rintro ⟨dir, name', ext, rest, hext, hbase, hparts⟩
    cases dir with
    | nil =>
      obtain rfl : name = name' := by simpa using hbase
      exact ⟨ext, hext, (List.cons.inj hparts).1⟩
    | cons d dir => simp at hbase
  · rintro ⟨ext, hext, rfl⟩
    exact ⟨[], name, ext, parts, hext, rfl, rfl⟩

lemma longerName_cons {part name next : Str} {parts base : List Str} :
    LongerName (part :: parts) (name :: next :: base) ↔
      part = name ∧ LongerName parts (next :: base) := by
  constructor
  · rintro ⟨dir, name', ext, rest, hext, hbase, hparts⟩
    cases dir with
    | nil => simp at hbase
    | cons d dir =>
      obtain ⟨hname, hbase⟩ := List.cons.inj hbase
      obtain ⟨hpart, hparts⟩ := List.cons.inj hparts
      exact ⟨hpart.trans hname.symm, dir, name', ext, rest, hext, hbase, hparts⟩
  · rintro ⟨rfl, dir, name', ext, rest, hext, hbase, hparts⟩
    exact ⟨part :: dir, name', ext, rest, hext, by rw [hbase]; rfl, by rw [hparts]; rfl⟩

lemma not_longerName_nil {base : List Str} : ¬ LongerName [] base := by
  rintro ⟨dir, name, ext, rest, -, -, hparts⟩
  simp at hparts

section Prefixes

variable {name part s t : Str}

/-- What follows a component starts with a slash. -/
def AfterComponent (t : Str) : Prop :=
  ∀ c ∈ t.head?, c = slash

lemma afterComponent_componentText (parts : List Str) : AfterComponent (componentText parts) := by
  cases parts with
  | nil => simp [AfterComponent, componentText]
  | cons part parts => simp [AfterComponent, componentText]

/-- A name in front of a slash, or of nothing, cannot end inside what follows another component. -/
lemma name_starts (hname : slash ∉ name) (ht : AfterComponent t) (h : name <+: part ++ t) :
    name <+: part := by
  rcases List.prefix_or_prefix_of_prefix h (List.prefix_append part t) with hle | hge
  · exact hle
  · obtain ⟨rest, rfl⟩ := hge
    cases rest with
    | nil => simp
    | cons c rest =>
      obtain ⟨u, hu⟩ := (List.prefix_append_right_inj part).mp h
      have hc : c = slash := ht c (by rw [← hu]; rfl)
      rw [hc] at hname
      simp at hname

lemma name_slash_starts (hname : slash ∉ name) (hpart : slash ∉ part) (ht : AfterComponent t) :
    name ++ slash :: s <+: part ++ t ↔ part = name ∧ slash :: s <+: t := by
  constructor
  · intro h
    obtain ⟨ext, rfl⟩ := name_starts hname ht ((List.prefix_append name _).trans h)
    rw [List.append_assoc, List.prefix_append_right_inj] at h
    cases ext with
    | nil => exact ⟨List.append_nil name, h⟩
    | cons c ext =>
      obtain ⟨hc, -⟩ := List.cons_prefix_cons.mp h
      rw [← hc] at hpart
      simp at hpart
  · rintro ⟨rfl, h⟩
    exact (List.prefix_append_right_inj part).mpr h

end Prefixes

lemma componentText_prefix_iff {parts base : List Str} (hparts : ∀ part ∈ parts, slash ∉ part)
    (hbase : ∀ name ∈ base, slash ∉ name) :
    componentText base <+: componentText parts ↔ base <+: parts ∨ LongerName parts base := by
  induction base generalizing parts with
  | nil => simp [componentText]
  | cons name base ih =>
    cases parts with
    | nil => simp [componentText, not_longerName_nil]
    | cons part parts =>
      have hname := hbase name List.mem_cons_self
      have hpart := hparts part List.mem_cons_self
      have htail := afterComponent_componentText parts
      rw [componentText_cons, componentText_cons, List.cons_prefix_cons, List.cons_prefix_cons, and_iff_right rfl]
      cases base with
      | nil =>
        have hnil : componentText [] = [] := rfl
        rw [hnil, List.append_nil, longerName_singleton]
        constructor
        · intro h
          obtain ⟨ext, rfl⟩ := name_starts hname htail h
          by_cases hext : ext = []
          · exact Or.inl ⟨by rw [hext, List.append_nil], List.nil_prefix⟩
          · exact Or.inr ⟨ext, hext, rfl⟩
        · rintro (⟨rfl, -⟩ | ⟨ext, -, rfl⟩)
          · exact List.prefix_append name _
          · exact (List.prefix_append name ext).trans (List.prefix_append _ _)
      | cons next base =>
        have hrest := ih (fun q hq => hparts q (List.mem_cons_of_mem part hq))
          (fun q hq => hbase q (List.mem_cons_of_mem name hq))
        rw [componentText_cons] at hrest ⊢
        rw [name_slash_starts hname hpart htail, hrest, longerName_cons, eq_comm, and_or_left]

namespace ResolvedPath

/-- `str(p).startswith(str(base))`. -/
theorem text_prefix_iff (p base : ResolvedPath) :
    base.text <+: p.text ↔ base.parts <+: p.parts ∨ LongerName p.parts base.parts := by
  have hslash : ∀ q : ResolvedPath, [slash] <+: q.text := by
    intro q
    rw [text_eq]
    split_ifs with h
    · exact List.prefix_rfl
    · obtain ⟨part, parts, hparts⟩ := List.exists_cons_of_ne_nil h
      rw [hparts]
      exact ⟨_, rfl⟩
  by_cases hbase : base.parts = []
  · have htext : base.text = [slash] := by rw [text_eq, if_pos hbase]
    rw [htext, hbase]
    exact iff_of_true (hslash p) (Or.inl List.nil_prefix)
  · by_cases hp : p.parts = []
    · rw [text_eq, text_eq, if_neg hbase, if_pos hp, hp]
      refine iff_of_false ?_ ?_
      · obtain ⟨name, names, hnames⟩ := List.exists_cons_of_ne_nil hbase
        have hname : name ≠ [] := (base.named name (by simp [hnames])).1
        rw [hnames]
        intro h
        simp [componentText, List.cons_prefix_cons, hname] at h
      · rw [List.prefix_nil, not_or]
        exact ⟨hbase, not_longerName_nil⟩
    · rw [text_eq, text_eq, if_neg hbase, if_neg hp]
      exact componentText_prefix_iff (fun part h => (p.named part h).2.2.2)
        (fun part h => (base.named part h).2.2.2)

/-- `p` lies below `base`, component by component. -/
def ProperDescendant (p base : ResolvedPath) : Prop :=
  ∃ rest, rest ≠ [] ∧ p.parts = base.parts ++ rest

lemma prefix_iff_descendant (p base : ResolvedPath) :
    base.parts <+: p.parts ↔ p.parts = base.parts ∨ p.ProperDescendant base := by
  constructor
  · rintro ⟨rest, hrest⟩
    by_cases hnil : rest = []
    · rw [hnil, List.append_nil] at hrest
      exact Or.inl hrest.symm
    · exact Or.inr ⟨rest, hnil, hrest.symm⟩
  · rintro (h | ⟨rest, -, h⟩)
    · rw [h]
    · rw [h]
      exact List.prefix_append _ _

lemma not_properDescendant_self {p base : ResolvedPath} (h : p.parts = base.parts) :
    ¬ p.ProperDescendant base := by
  rintro ⟨rest, hrest, hparts⟩
  rw [h] at hparts
  exact hrest (List.self_eq_append_right.mp hparts)

lemma not_properDescendant_of_longerName {p base : ResolvedPath}
    (h : LongerName p.parts base.parts) : ¬ p.ProperDescendant base := by
  obtain ⟨dir, name, ext, rest, hext, hbase, hparts⟩ := h
  rintro ⟨below, -, hbelow⟩
  rw [hparts, hbase, List.append_assoc, List.append_cancel_left_eq] at hbelow
  have hname := (List.cons.inj hbelow).1
  exact hext (List.append_right_eq_self.mp hname)

end ResolvedPath

end Py
