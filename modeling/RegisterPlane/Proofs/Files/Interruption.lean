import RegisterPlane.Files.Interruption
import RegisterPlane.Proofs.Files.Tree

namespace RegisterPlane

open Files

namespace Files

variable {fs fs' : Files}

theorem spares_remove {place at' : Location} (tree : fs.IsTree) (below : at' ≠ [])
    (free : fs.node? at' ≠ some .directory) (elsewhere : at' ≠ place) :
    Spares place fs (fs.remove at') := by
  have directories : ∀ l, fs.node? l = some .directory → (fs.remove at').node? l = some .directory := by
    intro l there
    have apart : l ≠ at' := by
      rintro rfl
      exact free there
    rw [node_remove fs below, if_neg apart, there]
  refine ⟨?_, directories, ?_, rfl⟩
  · intro l node there
    rw [node_remove fs below] at there
    split at there
    · cases there
    · exact directories _ (tree l node there)
  · rw [node_remove fs below, if_neg elsewhere.symm]

theorem lead_missing {at' : Location} {name : String} (tree : fs.IsTree)
    (there : fs.node? at' = some .directory) (missing : fs.node? (Path.lead at' name) ≠ some .directory) :
    Path.lead at' name = at' ++ [name] := by
  unfold Path.lead at missing ⊢
  split
  · rename_i still
    rw [if_pos still] at missing
    exact absurd there missing
  · rename_i moves
    rw [if_neg moves] at missing
    split
    · rename_i up
      rw [if_pos up] at missing
      exact absurd (tree _ _ there) missing
    · rfl

theorem parent_of_located {path : String} {l : Location} (tree : fs.IsTree)
    (located : fs.locate path = .ok l) (free : fs.node? l ≠ some .directory) :
    fs.node? l.dropLast = some .directory := by
  have parts := (List.dropLast_append_getLast (Path.names_ne_nil path)).symm
  have there := through_of_located located parts (List.cons_ne_nil _ _)
  have goal := destination_of_located located
  rw [destination, parts, Path.leads_append] at goal
  rw [goal] at free ⊢
  rw [Path.leads_cons] at free ⊢
  change fs.node? (Path.lead _ _) ≠ _ at free
  change fs.node? (Path.lead _ _).dropLast = _
  rw [lead_missing tree there free, List.dropLast_concat, there]

/-- The location of a file beside another one. -/
structure IsBeside (fs : Files) (place at' : Location) : Prop where
  below : at' ≠ []
  parent : fs.node? at'.dropLast = some .directory
  elsewhere : at' ≠ place

theorem length_extended (name : String) : (name ++ ".tmp").length = name.length + 4 := by
  rw [String.length_append]
  rfl

theorem lead_extended (at' : Location) (name : String) :
    Path.lead at' (name ++ ".tmp") = at' ++ [name ++ ".tmp"] := by
  have long : ∀ short : String, short.length < 4 → name ++ ".tmp" ≠ short := by
    rintro short few same
    have size := length_extended name
    rw [same] at size
    omega
  have moves : ¬Path.stays (name ++ ".tmp") = true := by
    simp [Path.stays, long "" (by decide), long "." (by decide)]
  rw [Path.lead, if_neg moves, if_neg (long ".." (by decide))]

theorem lead_elsewhere (at' : Location) (name : String) : at' ++ [name ++ ".tmp"] ≠ Path.lead at' name := by
  intro same
  have size := congrArg List.length same
  unfold Path.lead at same size
  split at size
  · simp at size
  · rename_i moves
    rw [if_neg moves] at same
    split at size
    · rw [List.length_append, List.length_dropLast, List.length_singleton] at size
      omega
    · rename_i down
      rw [if_neg down] at same
      have names := congrArg String.length (List.cons.inj (List.append_cancel_left same)).1
      rw [length_extended] at names
      omega

theorem isBeside_of_located {path : String} {at' : Location} (located : fs.locate (path ++ ".tmp") = .ok at') :
    fs.IsBeside (fs.destination path) at' := by
  obtain ⟨front, last, names, extended⟩ := Path.names_extended path (show '/' ∉ ".tmp".toList by decide)
  have absolute : Path.isAbsolute (path ++ ".tmp") = Path.isAbsolute path := by
    unfold Path.isAbsolute
    rw [String.toList_append]
    cases path.toList <;> rfl
  have home : fs.start (path ++ ".tmp") = fs.start path := by
    unfold start
    rw [absolute]
  have there := through_of_located located extended (List.cons_ne_nil _ _)
  have beside := destination_of_located located
  rw [home] at there
  rw [destination, extended, home, Path.leads_append] at beside
  change at' = Path.lead _ _ at beside
  rw [lead_extended] at beside
  have goal : fs.destination path = Path.lead (Path.leads (fs.start path) front) last := by
    rw [destination, names, Path.leads_append]
    rfl
  constructor
  · rw [beside]
    exact List.concat_ne_nil _ _
  · rw [beside, List.dropLast_concat, there]
  · rw [beside, goal]
    exact lead_elsewhere _ _

end Files

namespace FileStep

variable {fs fs' : Files} {path : String}

theorem spares_makeAlong {place : Location} (tree : fs.IsTree) (at' : Location) (names : List String)
    (fresh : ∀ front back, names = front ++ back →
      fs.node? (Path.leads at' front) ≠ none ∨ Path.leads at' front ≠ place) :
    Spares place fs (makeAlong fs at' names).2 := by
  induction names generalizing fs at' with
  | nil => exact spares_refl tree
  | cons name names ih =>
      have later : ∀ front back, names = front ++ back →
          fs.node? (Path.leads (Path.lead at' name) front) ≠ none ∨
            Path.leads (Path.lead at' name) front ≠ place := by
        intro front back parts
        exact fresh (name :: front) back (by rw [parts, List.cons_append])
      unfold makeAlong
      cases followed : fs.follow at' name with
      | error fault => exact spares_refl tree
      | ok next =>
          obtain ⟨there, rfl⟩ := follow_ok followed
          dsimp only
          split
          · rename_i missing
            have free : fs.node? (Path.lead at' name) ≠ some .directory := by
              rw [missing]
              exact Option.some_ne_none _ |>.symm
            have down := lead_missing tree there free
            have below : Path.lead at' name ≠ [] := by
              rw [down]
              exact List.concat_ne_nil _ _
            have parent : fs.node? (Path.lead at' name).dropLast = some .directory := by
              rw [down, List.dropLast_concat, there]
            have elsewhere : Path.lead at' name ≠ place :=
              (fresh [name] names rfl).resolve_left (not_not_intro missing)
            have made := spares_place .directory tree below parent free elsewhere
            apply made.trans (ih made.tree _ _)
            intro front back parts
            refine (later front back parts).imp_left fun present => ?_
            rw [node_place fs below]
            split
            · exact Option.some_ne_none _
            · exact present
          · exact ih tree _ later
          · exact spares_refl tree

theorem isAbsolute_of_root {path : String} (still : Path.steps path = []) (filled : Path.parent path ≠ "") :
    Path.isAbsolute path = true := by
  by_contra relative
  apply filled
  rw [Path.parent, if_neg relative, still]
  rfl

theorem fresh_above (direct : fs.IsDirect path) (filled : Path.parent path ≠ "") {front back : List String}
    (parts : Path.names (Path.parent path) = front ++ back) :
    fs.node? (Path.leads (fs.start (Path.parent path)) front) ≠ none ∨
      Path.leads (fs.start (Path.parent path)) front ≠ fs.destination path := by
  have home : fs.start (Path.parent path) = fs.start path := by
    rw [start, start, Path.isAbsolute_parent filled]
  have above := Path.steps_parent path
  rw [Path.steps, parts, List.filter_append] at above
  rw [home, ← Path.leads_filter]
  -- a path without steps leads to where it starts, and otherwise its parent is one step above
  by_cases still : Path.steps path = []
  · left
    rw [still] at above
    rw [(List.append_eq_nil_iff.mp above).1, start, if_pos (isAbsolute_of_root still filled)]
    exact Option.some_ne_none _
  · have steps := (List.dropLast_append_getLast still).symm
    rw [← above, List.append_assoc] at steps
    rcases direct _ _ steps (List.concat_ne_nil _ _) with directory | ⟨more, some_more, below⟩
    · left
      rw [directory]
      exact Option.some_ne_none _
    · right
      intro same
      rw [same] at below
      exact some_more (List.self_eq_append_right.mp below)

theorem spares_directories (tree : fs.IsTree) (direct : fs.IsDirect path) (filled : Path.parent path ≠ "")
    {names : List String} (some_names : names <+: Path.names (Path.parent path)) :
    Spares (fs.destination path) fs (makeAlong fs (fs.start (Path.parent path)) names).2 := by
  apply spares_makeAlong tree
  intro front back parts
  obtain ⟨rest, all⟩ := some_names
  rw [parts, List.append_assoc] at all
  exact fresh_above direct filled all.symm

theorem writeAt_ok {at' : Location} {text : String} (written : writeAt fs at' text = .ok fs') :
    fs.node? at' ≠ some .directory ∧ ∃ mode, fs' = fs.place at' (.file text mode) := by
  unfold writeAt at written
  split at written
  · rename_i missing
    rw [missing]
    exact ⟨nofun, _, (Except.ok.inj written).symm⟩
  · rename_i there
    rw [there]
    exact ⟨nofun, _, (Except.ok.inj written).symm⟩
  · cases written

theorem setModeAt_file {at' : Location} {text : String} {before : Nat}
    (there : fs.node? at' = some (.file text before)) (mode : Nat) :
    setModeAt fs at' mode = .ok (fs.place at' (.file text mode)) := by
  unfold setModeAt
  rw [there]

theorem renameAt_ok {source target : Location} (moved : renameAt fs source target = .ok fs') :
    ∃ node, fs.node? source = some node ∧ fs.node? target ≠ some .directory ∧
      fs' = (fs.remove source).place target node := by
  unfold renameAt at moved
  split at moved
  · cases moved
  · cases moved
  · rename_i node there free
    exact ⟨node, there, free, (Except.ok.inj moved).symm⟩

theorem wholly_ok {result : Except FileFault Files} (applied : wholly fs result = (.ok (), fs')) :
    result = .ok fs' := by
  cases result with
  | error fault => cases applied
  | ok after =>
      cases applied
      rfl

theorem spares_write (tree : fs.IsTree) {at' : Location} {text : String}
    (located : fs.locate (path ++ ".tmp") = .ok at') (written : writeAt fs at' text = .ok fs') :
    Spares (fs.destination path) fs fs' ∧ ∃ mode, fs'.node? at' = some (.file text mode) := by
  obtain ⟨free, mode, rfl⟩ := writeAt_ok written
  obtain ⟨below, parent, elsewhere⟩ := isBeside_of_located located
  refine ⟨spares_place _ tree below parent free elsewhere, mode, ?_⟩
  rw [node_place fs below, if_pos rfl]

theorem spares_makeDirectories (tree : fs.IsTree) (direct : fs.IsDirect path) :
    Spares (fs.destination path) fs ((makeDirectories (Path.parent path)).apply fs).2 := by
  unfold apply
  dsimp only
  split
  · exact spares_refl tree
  · rename_i filled
    split
    · exact spares_directories tree direct filled (List.prefix_refl _)
    · exact spares_refl tree

def Beside (fs : Files) (path : String) (node : FileNode) : Prop :=
  fs.node? (fs.destination (path ++ ".tmp")) = some node

theorem took_write (tree : fs.IsTree) {text : String}
    (applied : (write (path ++ ".tmp") text).apply fs = (.ok (), fs')) :
    Spares (fs.destination path) fs fs' ∧ ∃ mode, Beside fs' path (.file text mode) := by
  obtain ⟨at', located, written⟩ := ok_of_bind (wholly_ok applied)
  obtain ⟨spares, mode, there⟩ := spares_write tree located written
  refine ⟨spares, mode, ?_⟩
  rw [Beside, destination_eq spares.home, ← destination_of_located located, there]

theorem took_setMode (tree : fs.IsTree) {text : String} {before mode : Nat}
    (beside : Beside fs path (.file text before))
    (applied : (setMode (path ++ ".tmp") mode).apply fs = (.ok (), fs')) :
    Spares (fs.destination path) fs fs' ∧ Beside fs' path (.file text mode) := by
  obtain ⟨at', located, changed⟩ := ok_of_bind (wholly_ok applied)
  obtain ⟨below, parent, elsewhere⟩ := isBeside_of_located located
  rw [Beside, ← destination_of_located located] at beside
  obtain rfl := Except.ok.inj ((setModeAt_file beside mode).symm.trans changed)
  have free : fs.node? at' ≠ some .directory := by
    rw [beside]
    exact nofun
  have spares := spares_place (.file text mode) tree below parent free elsewhere
  refine ⟨spares, ?_⟩
  rw [Beside, destination_eq spares.home, ← destination_of_located located, node_place fs below, if_pos rfl]

theorem took_rename (tree : fs.IsTree) (direct : fs.IsDirect path) {text : String} {mode : Nat}
    (beside : Beside fs path (.file text mode))
    (applied : (rename (path ++ ".tmp") path).apply fs = (.ok (), fs')) :
    fs'.IsTree ∧ fs'.IsDirect path ∧ fs'.find? path = some (fs'.destination path, .file text mode) := by
  obtain ⟨source, located, applied⟩ := ok_of_bind (wholly_ok applied)
  obtain ⟨target, goal, moved⟩ := ok_of_bind applied
  obtain ⟨node, there, free, after⟩ := renameAt_ok moved
  obtain ⟨below, -, elsewhere⟩ := isBeside_of_located located
  rw [Beside, ← destination_of_located located] at beside
  rw [← destination_of_located goal] at elsewhere
  cases there.symm.trans beside
  have sourceFree : fs.node? source ≠ some .directory := by
    rw [there]
    exact nofun
  have targetBelow : target ≠ [] := by
    rintro rfl
    exact free (node_root fs)
  have removed := spares_remove tree below sourceFree elsewhere
  have targetParent := removed.directories _ (parent_of_located tree goal free)
  have targetFree : (fs.remove source).node? target ≠ some .directory := by
    rwa [removed.here]
  have placed : Spares source (fs.remove source) fs' := by
    rw [after]
    exact spares_place _ removed.tree targetBelow targetParent targetFree elsewhere.symm
  have arrived : fs'.node? target = some (.file text mode) := by
    rw [after, node_place _ targetBelow, if_pos rfl]
  have home : fs'.workingDirectory = fs.workingDirectory := placed.home.trans removed.home
  have located' : fs'.locate path = .ok target := by
    apply locate_transfer goal home.symm
    intro front back parts some_name
    rw [start_eq home]
    exact placed.directories _ (removed.directories _ (through_of_located goal parts some_name))
  refine ⟨placed.tree, placed.isDirect (removed.isDirect direct), ?_⟩
  rw [find_of_located located', ← destination_of_located located', arrived, Option.map_some]

theorem goes_cons {step : FileStep} {steps taken : List FileStep} {ending : Ending}
    (goes : Goes fs (step :: steps) taken ending fs') :
    (∃ between taken', step.apply fs = (.ok (), between) ∧ taken = step :: taken' ∧
        Goes between steps taken' ending fs') ∨
      taken = [] ∧ ending ≠ .done ∧ step.Leaves fs fs' := by
  cases goes with
  | took applied rest => exact Or.inl ⟨_, _, Prod.ext applied rfl, rfl, rest⟩
  | broke steps left short => exact Or.inr ⟨rfl, short, left⟩

theorem goes_nil {taken : List FileStep} {ending : Ending} (goes : Goes fs [] taken ending fs') :
    taken = [] ∧ ending ≠ .failed ∧ fs' = fs := by
  cases goes with
  | done => exact ⟨rfl, nofun, rfl⟩
  | untold => exact ⟨rfl, nofun, rfl⟩

theorem leaves_of_refused {step : FileStep} {fault : FileFault} (refused : (step.apply fs).1 = .error fault) :
    step.Leaves fs (step.apply fs).2 := by
  have whole : ∀ {result : Except FileFault Files}, (wholly fs result).1 = .error fault →
      (wholly fs result).2 = fs := by
    intro result failed
    cases result with
    | error fault' => rfl
    | ok after => cases failed
  cases step with
  | makeDirectories path =>
      unfold apply at refused ⊢
      dsimp only at refused ⊢
      split
      · exact .nothing _
      · rename_i filled
        split
        · exact .directories filled (List.prefix_refl _)
        · exact .nothing _
  | write path text =>
      rw [apply, whole refused]
      exact .nothing _
  | setMode path mode =>
      rw [apply, whole refused]
      exact .nothing _
  | rename source target =>
      rw [apply, whole refused]
      exact .nothing _
  | remove path =>
      rw [apply, whole refused]
      exact .nothing _

theorem goes_applyAll (fs : Files) (steps : List FileStep) :
    ∃ taken, Goes fs steps taken (match (applyAll fs steps).1 with | .ok () => .done | .error _ => .failed)
      (applyAll fs steps).2 := by
  induction steps generalizing fs with
  | nil => exact ⟨[], .done fs⟩
  | cons step steps ih =>
      cases applied : step.apply fs with
      | mk result between =>
          have first : (step.apply fs).1 = result := congrArg Prod.fst applied
          cases result with
          | ok done =>
              obtain ⟨taken, rest⟩ := ih between
              refine ⟨step :: taken, ?_⟩
              simp only [applyAll, applied]
              apply Goes.took first
              rwa [applied]
          | error fault =>
              refine ⟨[], ?_⟩
              simp only [applyAll, applied]
              have left := leaves_of_refused first
              rw [applied] at left
              exact .broke steps left nofun

end FileStep

end RegisterPlane
