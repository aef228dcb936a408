/-
This file is a library for POSIX path names as text: joining a name to a path, and
normalising a path, which drops empty and `.` components and lets each `..` take back the
component before it. No file system is looked at.

A normal path is shown by its components. Whether the text of one normal path is a prefix
of the text of another says less than whether it is an ancestor: the other may be in the
same directory under a longer name.
-/

import LocalNetwork.Delimiters

namespace LocalNetwork

namespace PosixPath

abbrev Path := List Char

/-! ### Joining and normalising -/

/-- `os.path.join` of a path and a name; an absolute name replaces the path. -/
def join (path name : Path) : Path :=
  if name.head? = some '/' then name
  else if path = [] ∨ path.getLast? = some '/' then path ++ name
  else path ++ '/' :: name

/-- The slashes a path begins with. -/
def leading (path : Path) : Path := path.takeWhile (· == '/')

/-- The slashes a normal path begins with: two if there are exactly two, else at most one. -/
def initialSlashes (path : Path) : Nat :=
  if (leading path).length = 2 then 2 else min (leading path).length 1

/-- Go from a directory, given by its components, to a component; there is nothing above the root
directory. -/
def enter (rooted : Bool) (directory : List Path) (component : Path) : List Path :=
  if component = [] ∨ component = ['.'] then directory
  else if component ≠ ['.', '.'] ∨ (rooted = false ∧ directory = []) ∨
      directory.getLast? = some ['.', '.'] then
    directory ++ [component]
  else directory.dropLast

/-- Go from a directory along a list of components. -/
def walk (rooted : Bool) (directory : List Path) (components : List Path) : List Path :=
  components.foldl (enter rooted) directory

/-- A path is absolute. -/
def isRooted (path : Path) : Bool := decide (initialSlashes path ≠ 0)

/-- The components of a path once it is normalised. -/
def components (path : Path) : List Path := walk (isRooted path) [] (splitOn ['/'] path)

/-- The text of a normal path. -/
def showPath (slashes : Nat) (components : List Path) : Path :=
  let text := List.replicate slashes '/' ++ ['/'].intercalate components
  if text = [] then ['.'] else text

/-- `os.path.normpath`. -/
def normpath (path : Path) : Path :=
  if path = [] then ['.'] else showPath (initialSlashes path) (components path)

/-! ### Components -/

/-- What stands between slashes. -/
structure IsComponent (piece : Path) : Prop where
  nonempty : piece ≠ []
  plain : '/' ∉ piece

theorem isComponent_enter {rooted : Bool} {directory : List Path} {component : Path}
    (directories : ∀ piece ∈ directory, IsComponent piece) (plain : '/' ∉ component) :
    ∀ piece ∈ enter rooted directory component, IsComponent piece := by
  unfold enter
  split
  · exact directories
  · rename_i proper
    split
    · intro piece member
      rcases List.mem_append.mp member with old | new
      · exact directories piece old
      · rw [List.mem_singleton.mp new]
        exact ⟨fun empty => proper (.inl empty), plain⟩
    · exact fun piece member => directories piece (List.mem_of_mem_dropLast member)

theorem isComponent_walk {rooted : Bool} {directory names : List Path}
    (directories : ∀ piece ∈ directory, IsComponent piece) (plain : ∀ name ∈ names, '/' ∉ name) :
    ∀ piece ∈ walk rooted directory names, IsComponent piece := by
  induction names generalizing directory with
  | nil => exact directories
  | cons name rest inductionHypothesis =>
    exact inductionHypothesis (isComponent_enter directories (plain name List.mem_cons_self))
      fun other member => plain other (List.mem_cons_of_mem _ member)

theorem plain_of_mem_splitOn {path piece : Path} (member : piece ∈ splitOn ['/'] path) :
    '/' ∉ piece := by
  have absent := not_infix_of_mem_splitOn (List.cons_ne_nil _ _) member
  rwa [List.singleton_infix_iff] at absent

theorem isComponent_components (path : Path) : ∀ piece ∈ components path, IsComponent piece :=
  isComponent_walk (by simp) fun _ member => plain_of_mem_splitOn member

theorem walk_append (rooted : Bool) (directory first second : List Path) :
    walk rooted directory (first ++ second) =
      walk rooted (walk rooted directory first) second :=
  List.foldl_append

/-! ### Joining -/

theorem splitOn_append_slash (first second : Path) :
    splitOn ['/'] (first ++ '/' :: second) = splitOn ['/'] first ++ splitOn ['/'] second := by
  induction length : first.length using Nat.strong_induction_on generalizing first with
  | _ size inductionHypothesis =>
    by_cases present : '/' ∈ first
    · obtain ⟨piece, rest, rfl, absent⟩ := List.eq_append_cons_of_mem present
      have smaller : rest.length < size := by
        rw [← length, List.length_append, List.length_cons]
        omega
      rw [List.append_assoc, List.cons_append, splitOn_symbol _ absent, splitOn_symbol _ absent,
        inductionHypothesis _ smaller rest rfl, List.cons_append]
    · have alone : splitOn ['/'] first = [first] := by
        refine splitOn_of_not (List.cons_ne_nil _ _) ?_
        rwa [List.singleton_infix_iff]
      rw [splitOn_symbol _ present, alone, List.singleton_append]

/-- A component that is empty leads nowhere. -/
theorem walk_nil_component (rooted : Bool) (directory names : List Path) :
    walk rooted directory ([] :: names) = walk rooted directory names := by
  rw [walk, List.foldl_cons, enter, if_pos (.inl rfl)]
  rfl

/-- Joining a relative name goes from the path along the name. -/
theorem walk_join {path name : Path} (relative : name.head? ≠ some '/') (rooted : Bool) :
    walk rooted [] (splitOn ['/'] (join path name)) =
      walk rooted (walk rooted [] (splitOn ['/'] path)) (splitOn ['/'] name) := by
  have empty : splitOn ['/'] ([] : Path) = [[]] := rfl
  rw [join, if_neg relative]
  by_cases here : path = []
  · subst here
    rw [if_pos (.inl rfl), List.nil_append, empty, walk_nil_component]
    rfl
  · by_cases closed : path.getLast? = some '/'
    · obtain ⟨front, rfl⟩ := List.getLast?_eq_some_iff.mp closed
      have front_split : splitOn ['/'] (front ++ ['/']) = splitOn ['/'] front ++ [[]] :=
        splitOn_append_slash front []
      rw [if_pos (.inr closed), front_split, List.append_assoc, List.singleton_append,
        splitOn_append_slash, walk_append, walk_append]
      exact congrArg (walk rooted · _) (walk_nil_component _ _ []).symm
    · rw [if_neg (by rintro (none | some); exacts [here none, closed some]),
        splitOn_append_slash, walk_append]

theorem ne_join {path name : Path} (relative : name.head? ≠ some '/') (nonempty : name ≠ []) :
    path ≠ join path name := by
  have length := List.length_pos_iff.mpr nonempty
  intro same
  have equal := congrArg List.length same
  rw [join, if_neg relative] at equal
  split at equal
  · rw [List.length_append] at equal
    omega
  · rw [List.length_append, List.length_cons] at equal
    omega

theorem leading_append {path name : Path} (relative : name.head? ≠ some '/') :
    leading (path ++ name) = leading path := by
  have unrooted : leading name = [] := by
    cases name with
    | nil => rfl
    | cons first rest =>
      have other : (first == '/') = false := by
        simpa using relative
      rw [leading, List.takeWhile_cons, other]
      rfl
  rw [leading, List.takeWhile_append]
  split
  · rename_i all
    have whole : path.takeWhile (· == '/') = path :=
      (List.takeWhile_prefix _).eq_of_length all
    rw [show name.takeWhile (· == '/') = [] from unrooted, List.append_nil, leading, whole]
  · rfl

/-- Joining a relative name keeps the slashes at the front. -/
theorem leading_join {path name : Path} (relative : name.head? ≠ some '/') :
    leading (join path name) = leading path := by
  rw [join, if_neg relative]
  split
  · exact leading_append relative
  · rename_i inner
    rw [not_or] at inner
    rw [leading, List.takeWhile_append, if_neg]
    · rfl
    · intro all
      have whole : path.takeWhile (· == '/') = path :=
        (List.takeWhile_prefix _).eq_of_length all
      have slash := List.takeWhile_eq_self_iff.mp whole _ (List.getLast_mem inner.1)
      refine inner.2 ?_
      rw [List.getLast?_eq_some_getLast inner.1]
      simpa using slash

theorem initialSlashes_join {path name : Path} (relative : name.head? ≠ some '/') :
    initialSlashes (join path name) = initialSlashes path := by
  rw [initialSlashes, initialSlashes, leading_join relative]

theorem components_join {path name : Path} (relative : name.head? ≠ some '/') :
    components (join path name) = walk (isRooted path) (components path) (splitOn ['/'] name) := by
  rw [components, isRooted, initialSlashes_join relative, walk_join relative]
  rfl

/-! ### Prefixes of texts -/

/-- A path joined from its components, the first of which is named. -/
theorem intercalate_cons (piece : Path) (pieces : List Path) :
    ['/'].intercalate (piece :: pieces) = piece ++ pieces.flatMap fun other => '/' :: other :=
  intercalate_cons_eq ['/'] piece pieces

/-- The second list of components leads to a sibling of what the first one leads to, or below it:
its name there goes on where the name of the first ends. -/
def Sibling (first second : List Path) : Prop :=
  ∃ base last extra rest, first = base ++ [last] ∧ extra ≠ [] ∧
    second = base ++ (last ++ extra) :: rest

theorem prefix_of_plain {piece other rest : Path} (plain : '/' ∉ piece)
    (starts : piece <+: other ++ '/' :: rest) : piece <+: other := by
  have front : other ++ ['/'] <+: other ++ '/' :: rest := ⟨rest, by simp⟩
  rcases List.prefix_or_prefix_of_prefix starts front with short | long
  · rcases List.prefix_concat_iff.mp short with rfl | within
    · exact absurd (List.mem_append_right other List.mem_cons_self) plain
    · exact within
  · exact absurd (long.subset (List.mem_append_right other List.mem_cons_self)) plain

/-- Texts with plain first pieces agree up to the first slash and after it. -/
theorem cut_unique {first second rest others : Path} (plain : '/' ∉ first)
    (otherPlain : '/' ∉ second) (same : first ++ '/' :: rest = second ++ '/' :: others) :
    first = second ∧ rest = others := by
  have cuts := cutAt_symbol rest plain
  rw [same, cutAt_symbol others otherPlain] at cuts
  obtain ⟨equal, later⟩ := Prod.mk.inj (Option.some.inj cuts)
  exact ⟨equal.symm, later.symm⟩

/-- Where the text of one path is a prefix of the text of another, the other is below the first one
or at or below a sibling of it. -/
theorem extends_of_prefix {first second : List Path} (named : first ≠ [])
    (pieces : ∀ piece ∈ first, IsComponent piece) (others : ∀ piece ∈ second, '/' ∉ piece)
    (starts : ['/'].intercalate first <+: ['/'].intercalate second) :
    first <+: second ∨ Sibling first second := by
  induction first generalizing second with
  | nil => exact absurd rfl named
  | cons piece deeper inductionHypothesis =>
    have here := pieces piece List.mem_cons_self
    cases second with
    | nil =>
      rw [intercalate_cons, List.intercalate_nil, List.prefix_nil, List.append_eq_nil_iff] at starts
      exact absurd starts.1 here.nonempty
    | cons other below =>
      have there := others other List.mem_cons_self
      rw [intercalate_cons, intercalate_cons] at starts
      cases deeper with
      | nil =>
        have within : piece <+: other := by
          rw [List.flatMap_nil, List.append_nil] at starts
          cases below with
          | nil => rwa [List.flatMap_nil, List.append_nil] at starts
          | cons next more =>
            rw [List.flatMap_cons, List.cons_append] at starts
            exact prefix_of_plain here.plain starts
        obtain ⟨extra, rfl⟩ := within
        by_cases same : extra = []
        · subst same
          exact .inl ⟨below, by simp⟩
        · exact .inr ⟨[], piece, extra, below, rfl, same, rfl⟩
      | cons next deeper =>
        rw [List.flatMap_cons, List.cons_append] at starts
        cases below with
        | nil =>
          rw [List.flatMap_nil, List.append_nil] at starts
          exact absurd (starts.subset (List.mem_append_right piece List.mem_cons_self)) there
        | cons nextOther below =>
          rw [List.flatMap_cons, List.cons_append] at starts
          obtain ⟨tail, same⟩ := starts
          rw [List.append_assoc, List.cons_append] at same
          obtain ⟨rfl, rest⟩ := cut_unique here.plain there same
          have inner : ['/'].intercalate (next :: deeper) <+:
              ['/'].intercalate (nextOther :: below) := by
            rw [intercalate_cons, intercalate_cons]
            exact ⟨tail, rest⟩
          rcases inductionHypothesis (List.cons_ne_nil _ _)
              (fun inside member => pieces inside (List.mem_cons_of_mem _ member))
              (fun inside member => others inside (List.mem_cons_of_mem _ member)) inner with
            ⟨more, equal⟩ | ⟨base, last, extra, ending, equal, longer, leads⟩
          · exact .inl ⟨more, by rw [List.cons_append, equal]⟩
          · refine .inr ⟨piece :: base, last, extra, ending, ?_, longer, ?_⟩
            · rw [equal, List.cons_append]
            · rw [leads, List.cons_append]

/-- The text of what is below a path goes on with a slash. -/
theorem intercalate_append {first more : List Path} (named : first ≠ []) (below : more ≠ []) :
    ['/'].intercalate (first ++ more) =
      ['/'].intercalate first ++ '/' :: ['/'].intercalate more := by
  cases first with
  | nil => exact absurd rfl named
  | cons piece deeper =>
    cases more with
    | nil => exact absurd rfl below
    | cons next rest =>
      rw [List.cons_append, intercalate_cons, intercalate_cons, intercalate_cons,
        List.flatMap_append, List.flatMap_cons]
      simp

/-- The text of a path in or below a sibling goes on with the rest of the sibling's name. -/
theorem intercalate_sibling {first second : List Path} (sibling : Sibling first second)
    (plain : ∀ piece ∈ second, '/' ∉ piece) :
    ∃ symbol rest, symbol ≠ '/' ∧
      ['/'].intercalate second = ['/'].intercalate first ++ symbol :: rest := by
  obtain ⟨base, last, extra, rest, rfl, longer, rfl⟩ := sibling
  obtain ⟨symbol, name, rfl⟩ := List.exists_cons_of_ne_nil longer
  have other : symbol ≠ '/' := fun same => by
    refine plain (last ++ symbol :: name) (by simp) ?_
    rw [same]
    simp
  refine ⟨symbol, name ++ rest.flatMap fun next => '/' :: next, other, ?_⟩
  cases base with
  | nil => simp [intercalate_cons]
  | cons piece deeper =>
    rw [intercalate_append (List.cons_ne_nil _ _) (List.cons_ne_nil _ _),
      intercalate_append (List.cons_ne_nil _ _) (List.cons_ne_nil _ _)]
    simp [intercalate_cons]

/-! ### Texts of normal paths -/

/-- The components that the text of a normal path names; a path that leads nowhere is named by a
dot. -/
def named (slashes : Nat) (components : List Path) : List Path :=
  if slashes = 0 ∧ components = [] then [['.']] else components

theorem isComponent_named (slashes : Nat) {components : List Path}
    (pieces : ∀ piece ∈ components, IsComponent piece) :
    ∀ piece ∈ named slashes components, IsComponent piece := by
  unfold named
  split
  · intro piece member
    rw [List.mem_singleton.mp member]
    exact ⟨by simp, by simp⟩
  · exact pieces

theorem showPath_eq {slashes : Nat} {components : List Path}
    (pieces : ∀ piece ∈ components, IsComponent piece) :
    showPath slashes components =
      List.replicate slashes '/' ++ ['/'].intercalate (named slashes components) := by
  unfold showPath named
  by_cases nowhere : slashes = 0 ∧ components = []
  · obtain ⟨rfl, rfl⟩ := nowhere
    rfl
  · rw [if_neg nowhere]
    refine if_neg fun empty => nowhere ?_
    obtain ⟨slashless, nothing⟩ := List.append_eq_nil_iff.mp empty
    refine ⟨by simpa using slashless, ?_⟩
    cases components with
    | nil => rfl
    | cons piece rest =>
      rw [intercalate_cons, List.append_eq_nil_iff] at nothing
      exact absurd nothing.1 (pieces piece List.mem_cons_self).nonempty

/-- The text of a normal path. -/
theorem normpath_eq (path : Path) :
    normpath path = List.replicate (initialSlashes path) '/' ++
      ['/'].intercalate (named (initialSlashes path) (components path)) := by
  rw [← showPath_eq (isComponent_components path), normpath]
  split
  · rename_i empty
    subst empty
    rfl
  · rfl

/-- The components of a relative name that is joined to a path and normalised. -/
def destination (path name : Path) : List Path :=
  walk (isRooted path) (components path) (splitOn ['/'] name)

theorem isComponent_destination (path name : Path) :
    ∀ piece ∈ destination path name, IsComponent piece :=
  isComponent_walk (isComponent_components path) fun _ member => plain_of_mem_splitOn member

theorem normpath_join {path name : Path} (relative : name.head? ≠ some '/') :
    normpath (join path name) = List.replicate (initialSlashes path) '/' ++
      ['/'].intercalate (named (initialSlashes path) (destination path name)) := by
  rw [normpath_eq, initialSlashes_join relative, components_join relative, destination]

/-- The root directory, which has two names. -/
def IsRootDirectory (path : Path) : Prop := normpath path = ['/'] ∨ normpath path = ['/', '/']

theorem initialSlashes_le (path : Path) : initialSlashes path ≤ 2 := by
  unfold initialSlashes
  split
  · exact le_rfl
  · exact (Nat.min_le_right _ _).trans (by decide)

theorem isRootDirectory_iff {path : Path} :
    IsRootDirectory path ↔ named (initialSlashes path) (components path) = [] := by
  have pieces : ∀ piece ∈ named (initialSlashes path) (components path), IsComponent piece :=
    isComponent_named _ (isComponent_components path)
  unfold IsRootDirectory
  rw [normpath_eq]
  constructor
  · intro top
    cases shown : named (initialSlashes path) (components path) with
    | nil => rfl
    | cons piece rest =>
      -- The first component would begin with a slash or be empty.
      rw [shown] at top pieces
      obtain ⟨symbol, name, rfl⟩ :=
        List.exists_cons_of_ne_nil (pieces piece List.mem_cons_self).nonempty
      have plain := (pieces _ List.mem_cons_self).plain
      have slash : symbol = '/' := by
        have listed : symbol ∈ List.replicate (initialSlashes path) '/' ++
            ['/'].intercalate ((symbol :: name) :: rest) := by
          rw [intercalate_cons]
          simp
        rcases top with one | two
        · rw [one] at listed
          simpa using listed
        · rw [two] at listed
          simpa using listed
      exact absurd (slash ▸ List.mem_cons_self) plain
  · intro none
    rw [none, List.intercalate_nil, List.append_nil]
    have some_slash : initialSlashes path ≠ 0 := fun zero => by
      unfold named at none
      split at none
      · cases none
      · rename_i rooted
        exact rooted ⟨zero, none⟩
    have few := initialSlashes_le path
    have oneOrTwo : initialSlashes path = 1 ∨ initialSlashes path = 2 := by omega
    rcases oneOrTwo with one | two
    · rw [one]
      exact .inl rfl
    · rw [two]
      exact .inr rfl

/-! ### Paths inside a directory -/

/-- A path is a directory's normal path, or it begins with it and a slash. -/
def Inside (root path : Path) : Prop :=
  path = normpath root ∨ normpath root ++ ['/'] <+: path

/-- A relative name leads from a path to a sibling of it, or below one. -/
def LeadsToSibling (root name : Path) : Prop :=
  Sibling (named (initialSlashes root) (components root))
    (named (initialSlashes root) (destination root name))

variable {root name : Path}

/-- Where the text of a directory is a prefix of the text of a destination, the destination is
inside, or in or below a sibling. -/
theorem inside_or_sibling (relative : name.head? ≠ some '/') (notTop : ¬ IsRootDirectory root)
    (starts : normpath root <+: normpath (join root name)) :
    Inside root (normpath (join root name)) ∨ LeadsToSibling root name := by
  rw [isRootDirectory_iff] at notTop
  have pieces := isComponent_named (initialSlashes root) (isComponent_components root)
  have others := isComponent_named (initialSlashes root) (isComponent_destination root name)
  unfold Inside
  rw [normpath_join relative, normpath_eq root] at starts ⊢
  rw [List.prefix_append_right_inj] at starts
  rcases extends_of_prefix notTop pieces (fun piece member => (others piece member).plain)
    starts with ⟨more, below⟩ | sibling
  · refine .inl ?_
    rw [← below]
    by_cases same : more = []
    · subst same
      exact .inl (by rw [List.append_nil])
    · rw [intercalate_append notTop same]
      exact .inr ⟨['/'].intercalate more, by simp⟩
  · exact .inr sibling

/-- A destination in or below a sibling has the text of the directory as a prefix and is not
inside. -/
theorem sibling_not_inside (relative : name.head? ≠ some '/') (leads : LeadsToSibling root name) :
    normpath root <+: normpath (join root name) ∧ ¬ Inside root (normpath (join root name)) := by
  have others := isComponent_named (initialSlashes root) (isComponent_destination root name)
  obtain ⟨symbol, rest, other, text⟩ :=
    intercalate_sibling leads fun piece member => (others piece member).plain
  unfold Inside
  rw [normpath_join relative, normpath_eq root, text]
  refine ⟨⟨symbol :: rest, by simp⟩, ?_⟩
  rintro (same | ⟨tail, goesOn⟩)
  · simp at same
  · simp only [List.append_assoc, List.append_cancel_left_eq] at goesOn
    exact other (List.cons.inj goesOn).1.symm

/-- The text of named components does not end in a slash. -/
theorem getLast_intercalate {pieces : List Path} (named : pieces ≠ [])
    (proper : ∀ piece ∈ pieces, IsComponent piece) :
    ['/'].intercalate pieces ≠ [] ∧ (['/'].intercalate pieces).getLast? ≠ some '/' := by
  induction pieces with
  | nil => exact absurd rfl named
  | cons piece rest inductionHypothesis =>
    have here := proper piece List.mem_cons_self
    cases rest with
    | nil =>
      rw [List.intercalate_singleton]
      exact ⟨here.nonempty, fun last => here.plain (List.mem_of_getLast? last)⟩
    | cons next rest =>
      obtain ⟨nonempty, last⟩ := inductionHypothesis (List.cons_ne_nil _ _) fun other member =>
        proper other (List.mem_cons_of_mem _ member)
      rw [List.intercalate_cons_cons, List.getLast?_append_of_ne_nil _ nonempty]
      exact ⟨fun empty => nonempty (List.append_eq_nil_iff.mp empty).2, last⟩

/-- Below the root directory no path begins with its text and another slash. -/
theorem top_not_inside (relative : name.head? ≠ some '/') (top : IsRootDirectory root) {file : Path}
    (fileRelative : file.head? ≠ some '/') (nonempty : file ≠ []) :
    normpath root <+: normpath (join root name) ∧
      ¬ Inside root (join (normpath (join root name)) file) := by
  rw [isRootDirectory_iff] at top
  have slashes : initialSlashes root ≠ 0 := fun zero => by
    unfold named at top
    split at top
    · cases top
    · rename_i rooted
      exact rooted ⟨zero, top⟩
  have text : normpath root = List.replicate (initialSlashes root) '/' := by
    rw [normpath_eq, top, List.intercalate_nil, List.append_nil]
  have target : normpath (join root name) = List.replicate (initialSlashes root) '/' ++
      ['/'].intercalate (destination root name) := by
    rw [normpath_join relative, named, if_neg fun both => slashes both.1]
  refine ⟨by rw [text, target]; exact List.prefix_append _ _, ?_⟩
  have goesOn : ∃ symbol rest, symbol ≠ '/' ∧ join (normpath (join root name)) file =
      List.replicate (initialSlashes root) '/' ++ symbol :: rest := by
    obtain ⟨first, others, rfl⟩ := List.exists_cons_of_ne_nil nonempty
    rw [target, join, if_neg fileRelative]
    cases leads : destination root name with
    | nil =>
      refine ⟨first, others, by simpa using fileRelative, ?_⟩
      rw [List.intercalate_nil, List.append_nil, if_pos]
      exact .inr (by simp [List.getLast?_replicate, slashes])
    | cons piece deeper =>
      have here := isComponent_destination root name piece (by rw [leads]; exact List.mem_cons_self)
      obtain ⟨symbol, more, rfl⟩ := List.exists_cons_of_ne_nil here.nonempty
      have other : symbol ≠ '/' := fun same => here.plain (same ▸ List.mem_cons_self)
      rw [intercalate_cons]
      split
      · exact ⟨symbol, more ++ (deeper.flatMap (fun next => '/' :: next) ++ first :: others), other,
          by simp⟩
      · exact ⟨symbol, more ++ (deeper.flatMap (fun next => '/' :: next) ++ '/' :: first :: others),
          other, by simp⟩
  obtain ⟨symbol, rest, other, shown⟩ := goesOn
  unfold Inside
  rw [text, shown]
  rintro (same | ⟨tail, begins⟩)
  · simp at same
  · simp only [List.append_assoc, List.append_cancel_left_eq] at begins
    exact other (List.cons.inj begins).1.symm

/-- What is below a path inside is inside. -/
theorem inside_join {path file : Path} (notTop : ¬ IsRootDirectory root) (inside : Inside root path)
    (relative : file.head? ≠ some '/') : Inside root (join path file) := by
  rw [isRootDirectory_iff] at notTop
  rw [join, if_neg relative]
  rcases inside with rfl | within
  · obtain ⟨nonempty, last⟩ := getLast_intercalate notTop
      (isComponent_named (initialSlashes root) (isComponent_components root))
    have unclosed : ¬ (normpath root = [] ∨ (normpath root).getLast? = some '/') := by
      rw [normpath_eq, List.getLast?_append_of_ne_nil _ nonempty]
      rintro (empty | closed)
      · exact nonempty (List.append_eq_nil_iff.mp empty).2
      · exact last closed
    rw [if_neg unclosed]
    exact .inr ⟨file, by simp⟩
  · split
    · exact .inr (within.trans (List.prefix_append _ _))
    · exact .inr (within.trans (List.prefix_append _ _))

end PosixPath

end LocalNetwork
