import AbiProbe.FileTree

/-! # Opening a file for writing

What is put where a path opens a file is found there by the path, and nothing else in the tree
changes (`AbiProbe.FileTree.resolve_put_of_opened`).
-/

namespace AbiProbe.FileTree

variable {tree after : FileTree} {location other : Location}

/-! ## Nodes after a file was put somewhere -/

theorem lookup_filter_ne (entries : List (Location × Node)) (different : other ≠ location) :
    (entries.filter fun entry => entry.1 ≠ location).lookup other = entries.lookup other := by
  induction entries with
  | nil => rfl
  | cons entry entries ih =>
      obtain ⟨key, node⟩ := entry
      by_cases same : key = location
      · have distinct : (other == key) = false := by
          rw [same]
          exact beq_false_of_ne different
        rw [List.filter_cons_of_neg (by simp [same]), List.lookup_cons, distinct]
        exact ih
      · rw [List.filter_cons_of_pos (by simp [same]), List.lookup_cons, List.lookup_cons, ih]

/-- Whether a location lies on the way to the current directory or to a listed node. -/
def passes (tree : FileTree) (location : Location) : Bool :=
  location.isPrefixOf tree.current ||
    tree.entries.any fun entry => location.isPrefixOf entry.1

theorem passes_iff :
    tree.passes location = true ↔
      location <+: tree.current ∨ ∃ entry ∈ tree.entries, location <+: entry.1 := by
  simp [passes]

theorem node?_eq (tree : FileTree) (location : Location) :
    tree.node? location =
      (tree.entries.lookup location).or
        (if tree.passes location then some .directory else none) := by
  unfold node? passes
  cases tree.entries.lookup location <;> rfl

/-- Whatever lies on the way to a directory is passed. -/
theorem passes_of_prefix (found : tree.node? location = some .directory)
    (before : other <+: location) : tree.passes other = true := by
  rw [node?_eq] at found
  cases listed : tree.entries.lookup location with
  | some node =>
      obtain ⟨front, back, split, -⟩ := List.lookup_eq_some_iff.mp listed
      refine passes_iff.mpr (Or.inr ⟨(location, node), ?_, before⟩)
      rw [split]
      simp
  | none =>
      rw [listed, Option.none_or, Option.ite_none_right_eq_some] at found
      have passed : tree.passes location = true := found.1
      rcases passes_iff.mp passed with current | ⟨entry, member, under⟩
      · exact passes_iff.mpr (Or.inl (before.trans current))
      · exact passes_iff.mpr (Or.inr ⟨entry, member, before.trans under⟩)

theorem node?_put_self (tree : FileTree) (location : Location) (content : List UInt8) :
    (tree.put location content).node? location = some (.file content) := by
  simp [node?, put]

/-- A file put into a directory adds nothing that is passed, apart from itself. -/
theorem passes_put {parent : Location} {name : String}
    (found : tree.node? parent = some .directory) (content : List UInt8)
    (different : other ≠ parent ++ [name]) :
    (tree.put (parent ++ [name]) content).passes other = tree.passes other := by
  rw [Bool.eq_iff_iff]
  constructor
  · intro passed
    rcases passes_iff.mp passed with current | ⟨entry, member, under⟩
    · exact passes_iff.mpr (Or.inl current)
    · rcases List.mem_cons.mp member with rfl | kept
      · -- What leads to the new file leads to its directory already.
        have inside := (List.prefix_concat_iff.mp under).resolve_left different
        exact passes_of_prefix found inside
      · exact passes_iff.mpr (Or.inr ⟨entry, (List.mem_filter.mp kept).1, under⟩)
  · intro passed
    rcases passes_iff.mp passed with current | ⟨entry, member, under⟩
    · exact passes_iff.mpr (Or.inl current)
    · by_cases replaced : entry.1 = parent ++ [name]
      · refine passes_iff.mpr (Or.inr ⟨_, List.mem_cons_self, ?_⟩)
        exact replaced ▸ under
      · refine passes_iff.mpr (Or.inr ⟨entry, List.mem_cons_of_mem _ ?_, under⟩)
        exact List.mem_filter.mpr ⟨member, decide_eq_true replaced⟩

/-- A file put into a directory changes no other node. -/
theorem node?_put_of_ne {parent : Location} {name : String}
    (found : tree.node? parent = some .directory) (content : List UInt8)
    (different : other ≠ parent ++ [name]) :
    (tree.put (parent ++ [name]) content).node? other = tree.node? other := by
  have listed : (tree.put (parent ++ [name]) content).entries.lookup other =
      tree.entries.lookup other := by
    have distinct : (other == parent ++ [name]) = false := beq_false_of_ne different
    rw [put, List.lookup_cons, distinct]
    exact lookup_filter_ne tree.entries different
  rw [node?_eq, node?_eq, listed, passes_put found content different]

/-! ## The way to a written file -/

/-- Where no separator stands at the end, something stands behind the last one. -/
theorem getLast?_splitOnP_ne_nil {α : Type} {isSeparator : α → Bool} {text : List α}
    {last : α} (ends : text.getLast? = some last) (inside : isSeparator last = false) :
    (text.splitOnP isSeparator).getLast? ≠ some [] := by
  induction text with
  | nil => cases ends
  | cons c rest ih =>
      obtain ⟨piece, pieces, split⟩ := List.exists_cons_of_ne_nil (List.splitOnP_ne_nil isSeparator rest)
      rw [List.splitOnP_cons_eq_if_modifyHead, split]
      cases rest with
      | nil =>
          obtain rfl : c = last := Option.some.inj ends
          obtain ⟨rfl, rfl⟩ : [] = piece ∧ [] = pieces := List.cons.inj split
          simp [inside]
      | cons d rest =>
          rw [List.getLast?_cons_cons] at ends
          have kept := ih ends
          rw [split] at kept
          by_cases separates : isSeparator c = true
          · rw [if_pos separates, List.getLast?_cons_cons]
            exact kept
          · rw [if_neg separates]
            cases pieces with
            | nil => simp
            | cons next pieces =>
                rw [List.modifyHead_cons, List.getLast?_cons_cons]
                rwa [List.getLast?_cons_cons] at kept

/-- The last component of a path is not empty unless the path ends with a separator. -/
theorem getLast?_components {path : String} (given : path ≠ "")
    (inside : path.toList.getLast? ≠ some '/') :
    (components path).getLast? ≠ some "" := by
  intro empty
  cases ends : path.toList.getLast? with
  | none =>
      rw [List.getLast?_eq_none_iff] at ends
      exact given (String.toList_eq_nil_iff.mp ends)
  | some last =>
      have kept : decide (last = '/') = false := by
        rw [decide_eq_false_iff_not]
        rintro rfl
        exact inside ends
      rw [components, List.getLast?_map, Option.map_eq_some_iff] at empty
      obtain ⟨piece, split, blank⟩ := empty
      rw [String.ofList_eq_empty_iff] at blank
      rw [blank] at split
      exact getLast?_splitOnP_ne_nil ends kept split

/-- A path leads to a name in a directory, where a file may stand. -/
structure LeadsTo (tree : FileTree) (path : String) (parent : Location) (name : String) :
    Prop where
  taken : checkPath path = .ok ()
  way : ∃ names, components path = names ++ [name] ∧
    names.foldlM tree.step (tree.origin path) = .ok parent
  directory : tree.node? parent = some .directory
  proper : name ≠ "" ∧ name ≠ "." ∧ name ≠ ".."
  short : entry parent name = .ok (parent ++ [name])
  free : tree.node? (parent ++ [name]) ≠ some .directory

theorem entry_eq_ok {parent : Location} {name : String}
    (entered : entry parent name = .ok location) : location = parent ++ [name] := by
  unfold entry at entered
  split at entered
  · cases entered
  · exact (Except.ok.inj entered).symm

theorem ne_empty_of_checkPath {path : String} (taken : checkPath path = .ok ()) : path ≠ "" := by
  rintro rfl
  cases taken

/-- The last name of a path without a separator at its end is its last component. -/
theorem components_eq_concat {path name : String} (given : path ≠ "")
    (inside : path.toList.getLast? ≠ some '/')
    (last : ((components path).reverse.dropWhile (· = "")).head? = some name) :
    components path =
        ((components path).reverse.dropWhile (· = "")).tail.reverse ++ [name] ∧ name ≠ "" := by
  have nonempty := getLast?_components given inside
  rw [← List.head?_reverse] at nonempty
  cases reversed : (components path).reverse with
  | nil =>
      rw [reversed] at last
      cases last
  | cons first names =>
      rw [reversed, List.head?_cons] at nonempty
      have solid : first ≠ "" := fun empty => nonempty (congrArg some empty)
      have kept : (first :: names).dropWhile (· = "") = first :: names :=
        List.dropWhile_cons_of_neg (by simpa using solid)
      rw [reversed, kept] at last
      obtain rfl : first = name := Option.some.inj last
      refine ⟨?_, solid⟩
      rw [kept, List.tail_cons, ← List.reverse_cons, ← reversed, List.reverse_reverse]

/-- A file is opened where its path leads. -/
theorem leadsTo_of_openFile {path : String} (opened : tree.openFile path = .ok location) :
    ∃ parent name, tree.LeadsTo path parent name ∧ location = parent ++ [name] := by
  -- Every way out but the last is an error.
  unfold openFile at opened
  simp only [bind, Except.bind, pure, Except.pure] at opened
  split at opened
  · cases opened
  rename_i taken
  split at opened
  · cases opened
  rename_i parent led
  split at opened
  · cases opened
  · cases opened
  · cases opened
  rename_i directory
  split at opened
  · cases opened
  · cases opened
  · cases opened
  rename_i name notDot notDots last
  split at opened
  · cases opened
  rename_i inside
  split at opened
  · cases opened
  rename_i location entered
  obtain rfl := entry_eq_ok entered
  split at opened
  · cases opened
  rename_i free
  obtain ⟨way, solid⟩ := components_eq_concat (ne_empty_of_checkPath taken) inside last
  exact ⟨parent, name, ⟨taken, ⟨_, way, led⟩, directory, ⟨solid, notDot, notDots⟩, entered, free⟩,
    (Except.ok.inj opened).symm⟩

/-- A directory reached one component further was a directory before. -/
theorem step_eq_ok {component : String} (stepped : tree.step location component = .ok other) :
    tree.node? location = some .directory := by
  unfold step at stepped
  split at stepped
  · cases stepped
  · cases stepped
  · cases stepped
  · assumption

/-- Where directories stay directories, a path leads where it led. -/
theorem foldlM_step_of_directories
    (kept : ∀ location, tree.node? location = some .directory →
      after.node? location = some .directory)
    {names : List String} (led : names.foldlM tree.step location = .ok other) :
    names.foldlM after.step location = .ok other := by
  induction names generalizing location with
  | nil => exact led
  | cons name names ih =>
      rw [List.foldlM_cons] at led ⊢
      cases stepped : tree.step location name with
      | error reason =>
          rw [stepped] at led
          cases led
      | ok next =>
          have found := step_eq_ok stepped
          have same : after.step location name = .ok next := by
            rw [← stepped, step, step, found, kept location found]
          rw [stepped] at led
          rw [same]
          exact ih led

namespace LeadsTo

variable {path : String} {parent : Location} {name : String}

theorem kept (leads : tree.LeadsTo path parent name) (content : List UInt8)
    (found : tree.node? other = some .directory) :
    (tree.put (parent ++ [name]) content).node? other = some .directory := by
  have different : other ≠ parent ++ [name] := by
    rintro rfl
    exact leads.free found
  rw [node?_put_of_ne leads.directory content different, found]

/-- The file that was put where a path leads is what the path leads to. -/
theorem resolve_put (leads : tree.LeadsTo path parent name) (content : List UInt8) :
    (tree.put (parent ++ [name]) content).resolve path =
      .ok (parent ++ [name], .file content) := by
  obtain ⟨names, split, led⟩ := leads.way
  have directory := leads.kept content leads.directory
  have followed := foldlM_step_of_directories (fun _ => leads.kept content) led
  have last : (tree.put (parent ++ [name]) content).step parent name =
      .ok (parent ++ [name]) := by
    obtain ⟨nonempty, notDot, notDots⟩ := leads.proper
    rw [step, directory]
    simp [nonempty, notDot, notDots, leads.short]
  have located : (tree.put (parent ++ [name]) content).locate path =
      .ok (parent ++ [name]) := by
    rw [locate, leads.taken, split]
    change (names ++ [name]).foldlM (tree.put (parent ++ [name]) content).step
      (tree.origin path) = _
    rw [List.foldlM_append, followed]
    change [name].foldlM (tree.put (parent ++ [name]) content).step parent = _
    rw [List.foldlM_cons, last]
    rfl
  simp only [resolve, located, bind, Except.bind, node?_put_self]
  rfl

end LeadsTo

/-- **What is put into an opened file is found by its path.** At every other location stands
what stood there. -/
theorem resolve_put_of_opened {path : String} (opened : tree.openFile path = .ok location)
    (content : List UInt8) :
    (tree.put location content).resolve path = .ok (location, .file content) ∧
      ∀ other, other ≠ location → (tree.put location content).node? other = tree.node? other := by
  obtain ⟨parent, name, leads, rfl⟩ := leadsTo_of_openFile opened
  refine ⟨leads.resolve_put content, ?_⟩
  intro other different
  exact node?_put_of_ne leads.directory content different

end AbiProbe.FileTree
