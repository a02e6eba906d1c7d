import RegisterPlane.Files.Basic
import RegisterPlane.Proofs.Files.Path
import RegisterPlane.Proofs.Outcome

/-!
Trees of files, and what a change leaves alone. A path is followed through directories only, so that it
leads where it did as long as no directory goes away.
-/

namespace RegisterPlane.Files

variable {fs fs' fs'' : Files}

theorem node_root (fs : Files) : fs.node? [] = some .directory := rfl

theorem find_remove (fs : Files) {at' l : Location} (other : l ≠ at') :
    (fs.remove at').nodes.find? (·.1 == l) = fs.nodes.find? (·.1 == l) := by
  simp only [remove, List.find?_filter]
  congr 1
  funext entry
  by_cases here : entry.1 = l <;> simp [here, other]

theorem node_remove (fs : Files) {at' : Location} (below : at' ≠ []) (l : Location) :
    (fs.remove at').node? l = if l = at' then none else fs.node? l := by
  by_cases root : l = []
  · rw [root, node_root, node_root, if_neg (Ne.symm below)]
  · by_cases here : l = at'
    · subst here
      simp [node?, remove, root, List.find?_filter]
    · rw [node?, node?, if_neg root, if_neg root, if_neg here, find_remove fs here]

theorem node_place (fs : Files) {at' : Location} (below : at' ≠ []) (node : FileNode) (l : Location) :
    (fs.place at' node).node? l = if l = at' then some node else fs.node? l := by
  by_cases root : l = []
  · rw [root, node_root, node_root, if_neg (Ne.symm below)]
  · by_cases here : l = at'
    · subst here
      simp [node?, place, root]
    · have passed : ¬(at' == l) = true := fun same => here (beq_iff_eq.mp same).symm
      rw [if_neg here, node?, node?, if_neg root, if_neg root, ← find_remove fs here]
      exact congrArg (Option.map Prod.snd) (List.find?_cons_of_neg passed)

def IsTree (fs : Files) : Prop :=
  ∀ l node, fs.node? l = some node → fs.node? l.dropLast = some .directory

theorem isTree_empty (home : Location) : IsTree ⟨[], home⟩ := by
  intro l node there
  have root : l = [] := by
    by_contra below
    simp [node?, below] at there
  rw [root]
  rfl

theorem IsTree.above (tree : fs.IsTree) (more : List String) {l : Location} {node : FileNode}
    (there : fs.node? (l ++ more) = some node) (some_more : more ≠ []) :
    fs.node? l = some .directory := by
  induction more using List.reverseRecOn generalizing node with
  | nil => exact absurd rfl some_more
  | append_singleton front name ih =>
      have parent := tree _ _ there
      rw [← List.append_assoc, List.dropLast_concat] at parent
      by_cases direct : front = []
      · rwa [direct, List.append_nil] at parent
      · exact ih parent direct

/-- With what lies at `place` and every directory of a tree, `fs'` is a tree again. -/
structure Spares (place : Location) (fs fs' : Files) : Prop where
  tree : fs'.IsTree
  directories : ∀ l, fs.node? l = some .directory → fs'.node? l = some .directory
  here : fs'.node? place = fs.node? place
  home : fs'.workingDirectory = fs.workingDirectory

theorem spares_refl {place : Location} (tree : fs.IsTree) : Spares place fs fs :=
  ⟨tree, fun _ there => there, rfl, rfl⟩

theorem Spares.trans {place : Location} (first : Spares place fs fs') (second : Spares place fs' fs'') :
    Spares place fs fs'' where
  tree := second.tree
  directories := fun l there => second.directories l (first.directories l there)
  here := second.here.trans first.here
  home := second.home.trans first.home

theorem directory_place {at' l : Location} (node : FileNode) (below : at' ≠ [])
    (free : fs.node? at' ≠ some .directory) (there : fs.node? l = some .directory) :
    (fs.place at' node).node? l = some .directory := by
  have apart : l ≠ at' := by
    rintro rfl
    exact free there
  rw [node_place fs below, if_neg apart, there]

theorem isTree_place {at' : Location} (node : FileNode) (tree : fs.IsTree) (below : at' ≠ [])
    (parent : fs.node? at'.dropLast = some .directory) (free : fs.node? at' ≠ some .directory) :
    (fs.place at' node).IsTree := by
  intro l child there
  apply directory_place node below free
  rw [node_place fs below] at there
  split at there
  · rename_i here
    rwa [here]
  · exact tree l child there

theorem spares_place {place at' : Location} (node : FileNode) (tree : fs.IsTree) (below : at' ≠ [])
    (parent : fs.node? at'.dropLast = some .directory) (free : fs.node? at' ≠ some .directory)
    (elsewhere : at' ≠ place) : Spares place fs (fs.place at' node) where
  tree := isTree_place node tree below parent free
  directories := fun l there => directory_place node below free there
  here := by
    rw [node_place fs below, if_neg elsewhere.symm]
  home := rfl

/-! Following a path. -/

theorem follow_ok {at' next : Location} {name : String} (followed : fs.follow at' name = .ok next) :
    fs.node? at' = some .directory ∧ next = Path.lead at' name := by
  unfold follow at followed
  split at followed
  · cases followed
  · rename_i there
    refine ⟨there, ?_⟩
    unfold Path.lead
    split at followed
    · rename_i still
      rw [if_pos still, Except.ok.inj followed]
    · rename_i moves
      split at followed
      · rename_i up
        rw [if_neg moves, if_pos up, Except.ok.inj followed]
      · rename_i down
        split at followed
        · cases followed
        · rw [if_neg moves, if_neg down, Except.ok.inj followed]
  · cases followed

theorem follow_transfer {at' next : Location} {name : String} (followed : fs'.follow at' name = .ok next)
    (there : fs.node? at' = some .directory) : fs.follow at' name = .ok next := by
  have there' := (follow_ok followed).1
  unfold follow at followed ⊢
  rw [there'] at followed
  rw [there]
  exact followed

theorem walk_cons {at' l : Location} {name : String} {names : List String}
    (walked : (name :: names).foldlM fs.follow at' = .ok l) :
    ∃ next, fs.follow at' name = .ok next ∧ names.foldlM fs.follow next = .ok l := by
  rw [List.foldlM_cons] at walked
  exact ok_of_bind walked

theorem walk_ok {at' l : Location} {names : List String} (walked : names.foldlM fs.follow at' = .ok l) :
    l = Path.leads at' names ∧ ∀ front back, names = front ++ back → back ≠ [] →
      fs.node? (Path.leads at' front) = some .directory := by
  induction names generalizing at' with
  | nil =>
      cases walked
      refine ⟨rfl, ?_⟩
      intro front back parts some_name
      exact absurd (List.append_eq_nil_iff.mp parts.symm).2 some_name
  | cons name names ih =>
      obtain ⟨next, followed, rest⟩ := walk_cons walked
      obtain ⟨there, rfl⟩ := follow_ok followed
      obtain ⟨goal, through⟩ := ih rest
      refine ⟨goal, ?_⟩
      intro front back parts some_name
      cases front with
      | nil => exact there
      | cons first front =>
          obtain ⟨rfl, others⟩ := List.cons.inj parts
          exact through front back others some_name

theorem walk_transfer {at' l : Location} {names : List String}
    (walked : names.foldlM fs'.follow at' = .ok l)
    (through : ∀ front back, names = front ++ back → back ≠ [] →
      fs.node? (Path.leads at' front) = some .directory) : names.foldlM fs.follow at' = .ok l := by
  induction names generalizing at' with
  | nil => exact walked
  | cons name names ih =>
      obtain ⟨next, followed, rest⟩ := walk_cons walked
      have here : fs.follow at' name = .ok next :=
        follow_transfer followed (through [] (name :: names) rfl (List.cons_ne_nil _ _))
      have leading := (follow_ok followed).2
      rw [List.foldlM_cons, here]
      apply ih rest
      intro front back parts some_name
      rw [leading]
      exact through (name :: front) back (by rw [parts, List.cons_append]) some_name

theorem locate_ok {path : String} {l : Location} (located : fs.locate path = .ok l) :
    isPath path = true ∧ (Path.names path).foldlM fs.follow (fs.start path) = .ok l := by
  unfold locate at located
  split at located
  · rename_i proper
    exact ⟨proper, located⟩
  · cases located

theorem start_eq (home : fs'.workingDirectory = fs.workingDirectory) (path : String) :
    fs'.start path = fs.start path := by
  unfold start
  rw [home]

/-- Where a path leads, whether or not it can be followed. -/
def destination (fs : Files) (path : String) : Location := Path.leads (fs.start path) (Path.names path)

theorem destination_eq (home : fs'.workingDirectory = fs.workingDirectory) (path : String) :
    fs'.destination path = fs.destination path := by
  unfold destination
  rw [start_eq home]

theorem destination_of_located {path : String} {l : Location} (located : fs.locate path = .ok l) :
    l = fs.destination path := (walk_ok (locate_ok located).2).1

theorem find_of_located {path : String} {l : Location} (located : fs.locate path = .ok l) :
    fs.find? path = (fs.node? (fs.destination path)).map (fs.destination path, ·) := by
  rw [find?, located, destination_of_located located]

theorem find_of_error {path : String} {fault : FileFault} (located : fs.locate path = .error fault) :
    fs.find? path = none := by
  rw [find?, located]

theorem through_of_located {path : String} {l : Location} (located : fs.locate path = .ok l)
    {front back : List String} (parts : Path.names path = front ++ back) (some_name : back ≠ []) :
    fs.node? (Path.leads (fs.start path) front) = some .directory :=
  (walk_ok (locate_ok located).2).2 front back parts some_name

theorem locate_transfer {path : String} {l : Location} (located : fs'.locate path = .ok l)
    (home : fs'.workingDirectory = fs.workingDirectory)
    (through : ∀ front back, Path.names path = front ++ back → back ≠ [] →
      fs.node? (Path.leads (fs.start path) front) = some .directory) : fs.locate path = .ok l := by
  obtain ⟨proper, walked⟩ := locate_ok located
  rw [start_eq home] at walked
  rw [locate, if_pos proper]
  exact walk_transfer walked through

/-- What a path goes through is there already or lies above its destination, so that it does not wait for
a directory that it only passes. -/
def IsDirect (fs : Files) (path : String) : Prop :=
  ∀ front back, Path.steps path = front ++ back → back ≠ [] →
    fs.node? (Path.leads (fs.start path) front) = some .directory ∨
      ∃ more, more ≠ [] ∧ fs.destination path = Path.leads (fs.start path) front ++ more

theorem isDirect_of_forward (fs : Files) {path : String} (forward : ".." ∉ Path.names path) :
    fs.IsDirect path := by
  intro front back parts some_step
  right
  have down : ∀ name ∈ Path.steps path, Path.stays name = false ∧ name ≠ ".." := by
    intro name member
    obtain ⟨here, moves⟩ := List.mem_filter.mp member
    refine ⟨by simpa using moves, ?_⟩
    rintro rfl
    exact forward here
  refine ⟨back, some_step, ?_⟩
  have early : ∀ name ∈ front, Path.stays name = false ∧ name ≠ ".." := by
    intro name member
    exact down name (parts ▸ List.mem_append_left back member)
  rw [destination, ← Path.leads_steps, Path.leads_down _ down, Path.leads_down _ early, parts,
    List.append_assoc]

theorem Spares.next {path : String} (first : Spares (fs.destination path) fs fs')
    (second : Spares (fs'.destination path) fs' fs'') : Spares (fs.destination path) fs fs'' := by
  rw [destination_eq first.home] at second
  exact first.trans second

theorem Spares.isDirect {place : Location} (spares : Spares place fs fs') {path : String}
    (direct : fs.IsDirect path) : fs'.IsDirect path := by
  intro front back parts some_step
  rw [start_eq spares.home, destination_eq spares.home]
  exact (direct front back parts some_step).imp_left (spares.directories _)

theorem IsDirect.through {path : String} (direct : fs.IsDirect path) (tree : fs.IsTree) {node : FileNode}
    (there : fs.node? (fs.destination path) = some node) {front back : List String}
    (parts : Path.names path = front ++ back) (some_step : back.filter (fun name => !Path.stays name) ≠ []) :
    fs.node? (Path.leads (fs.start path) front) = some .directory := by
  have steps : Path.steps path =
      front.filter (fun name => !Path.stays name) ++ back.filter fun name => !Path.stays name := by
    rw [Path.steps, parts, List.filter_append]
  rcases direct _ _ steps some_step with directory | ⟨more, some_more, above⟩
  · rwa [Path.leads_filter] at directory
  · rw [Path.leads_filter] at above
    rw [above] at there
    exact tree.above more there some_more

theorem IsDirect.locate {path : String} (direct : fs.IsDirect path) (tree : fs.IsTree)
    (home : fs'.workingDirectory = fs.workingDirectory) {l : Location} (located : fs'.locate path = .ok l)
    {node : FileNode} (there : fs.node? (fs.destination path) = some node)
    (same : fs'.node? (fs.destination path) = fs.node? (fs.destination path)) :
    fs.locate path = .ok l := by
  apply locate_transfer located home
  intro front back parts some_name
  by_cases still : back.filter (fun name => !Path.stays name) = []
  · -- the names that are left only ask that the destination is a directory
    have arrived : Path.leads (fs.start path) front = fs.destination path := by
      rw [destination, parts, Path.leads_append, ← Path.leads_filter _ back, still]
      rfl
    have directory := through_of_located located parts some_name
    rwa [start_eq home, arrived, same, ← arrived] at directory
  · exact direct.through tree there parts still

theorem find_of_spares {path : String} (tree : fs.IsTree) (direct : fs.IsDirect path)
    (spares : Spares (fs.destination path) fs fs') : fs'.find? path = fs.find? path := by
  cases located : fs.locate path with
  | ok l =>
      have located' : fs'.locate path = .ok l := by
        apply locate_transfer located spares.home.symm
        intro front back parts some_name
        rw [start_eq spares.home]
        exact spares.directories _ (through_of_located located parts some_name)
      rw [find_of_located located, find_of_located located', destination_eq spares.home, spares.here]
  | error fault =>
      rw [find_of_error located]
      cases located' : fs'.locate path with
      | error fault' => exact find_of_error located'
      | ok l =>
          rw [find_of_located located', destination_eq spares.home, spares.here]
          cases there : fs.node? (fs.destination path) with
          | none => rfl
          | some node =>
              rw [direct.locate tree spares.home located' there spares.here] at located
              cases located

end RegisterPlane.Files
