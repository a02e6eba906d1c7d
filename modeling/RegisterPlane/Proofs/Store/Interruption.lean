import RegisterPlane.Proofs.Files.Interruption
import RegisterPlane.Proofs.Store.RegisterFile

namespace RegisterPlane.RegisterFile

open Files

variable {path : String} {fs fs' fs'' : Files}

/-- An attempt to save a document: which steps took place as a whole, and how it ended. -/
structure Attempt where
  document : Document
  taken : List FileStep
  ending : Ending

namespace Attempt

def Happens (path : String) (attempt : Attempt) (fs fs' : Files) : Prop :=
  FileStep.Goes fs (saveSteps path (write attempt.document)) attempt.taken attempt.ending fs'

def moved (path : String) (attempt : Attempt) : Bool :=
  FileStep.rename (path ++ ".tmp") path ∈ attempt.taken

/-- What comes of an attempt: nothing that is seen at the path, or the whole document. -/
inductive Effect (path : String) (attempt : Attempt) (fs fs' : Files) : Prop where
  | stayed (unmoved : attempt.moved path = false) (short : attempt.ending ≠ .done)
      (same : fs'.find? path = fs.find? path)
  | replaced (moved : attempt.moved path = true) (whole : attempt.ending ≠ .failed)
      (there : ∃ at', fs'.find? path = some (at', .file (write attempt.document) privateMode))

end Attempt

theorem spares_leaves (text : String) (tree : fs.IsTree) (direct : fs.IsDirect path) {step : FileStep}
    (member : step ∈ saveSteps path text) (left : step.Leaves fs fs') :
    Spares (fs.destination path) fs fs' := by
  simp only [saveSteps, List.mem_cons, List.not_mem_nil, or_false] at member
  cases left with
  | nothing => exact spares_refl tree
  | directories filled some_names =>
      rcases member with same | same | same | same
      · cases same
        exact FileStep.spares_directories tree direct filled some_names
      all_goals cases same
  | torn torn located written =>
      rcases member with same | same | same | same
      · cases same
      · cases same
        exact (FileStep.spares_write tree located written).1
      all_goals cases same

theorem goes_on (text : String) (tree : fs.IsTree) (direct : fs.IsDirect path) {step : FileStep}
    {steps taken : List FileStep} {ending : Ending} (member : step ∈ saveSteps path text)
    (goes : FileStep.Goes fs (step :: steps) taken ending fs') :
    (∃ between taken', step.apply fs = (.ok (), between) ∧ taken = step :: taken' ∧
        FileStep.Goes between steps taken' ending fs') ∨
      taken = [] ∧ ending ≠ .done ∧ Spares (fs.destination path) fs fs' := by
  rcases FileStep.goes_cons goes with took | ⟨none, short, left⟩
  · exact Or.inl took
  · exact Or.inr ⟨none, short, spares_leaves text tree direct member left⟩

theorem goes_save (tree : fs.IsTree) (direct : fs.IsDirect path) {text : String} {taken : List FileStep}
    {ending : Ending} (goes : FileStep.Goes fs (saveSteps path text) taken ending fs') :
    (FileStep.rename (path ++ ".tmp") path ∉ taken ∧ ending ≠ .done ∧
        Spares (fs.destination path) fs fs') ∨
      FileStep.rename (path ++ ".tmp") path ∈ taken ∧ ending ≠ .failed ∧ fs'.IsTree ∧
        fs'.IsDirect path ∧ ∃ at', fs'.find? path = some (at', .file text privateMode) := by
  rcases goes_on text tree direct (by simp [saveSteps]) goes with
    ⟨fs₁, taken₁, made, rfl, rest₁⟩ | ⟨rfl, short, spares⟩
  swap
  · exact Or.inl ⟨by simp, short, spares⟩
  have spares₁ : Spares (fs.destination path) fs fs₁ := by
    have spares := FileStep.spares_makeDirectories tree direct
    rwa [made] at spares
  rcases goes_on text spares₁.tree (spares₁.isDirect direct) (by simp [saveSteps]) rest₁ with
    ⟨fs₂, taken₂, written, rfl, rest₂⟩ | ⟨rfl, short, spares⟩
  swap
  · exact Or.inl ⟨by simp, short, spares₁.next spares⟩
  obtain ⟨spares, mode, beside⟩ := FileStep.took_write spares₁.tree written
  have spares₂ := spares₁.next spares
  rcases goes_on text spares₂.tree (spares₂.isDirect direct) (by simp [saveSteps]) rest₂ with
    ⟨fs₃, taken₃, hidden, rfl, rest₃⟩ | ⟨rfl, short, spares⟩
  swap
  · exact Or.inl ⟨by simp, short, spares₂.next spares⟩
  obtain ⟨spares, beside⟩ := FileStep.took_setMode spares₂.tree beside hidden
  have spares₃ := spares₂.next spares
  rcases goes_on text spares₃.tree (spares₃.isDirect direct) (by simp [saveSteps]) rest₃ with
    ⟨fs₄, taken₄, renamed, rfl, rest₄⟩ | ⟨rfl, short, spares⟩
  swap
  · exact Or.inl ⟨by simp, short, spares₃.next spares⟩
  obtain ⟨rfl, whole, rfl⟩ := FileStep.goes_nil rest₄
  obtain ⟨tree₄, direct₄, there⟩ :=
    FileStep.took_rename spares₃.tree (spares₃.isDirect direct) beside renamed
  exact Or.inr ⟨by simp, whole, tree₄, direct₄, _, there⟩

theorem Attempt.effect {attempt : Attempt} (tree : fs.IsTree) (direct : fs.IsDirect path)
    (happened : attempt.Happens path fs fs') :
    fs'.IsTree ∧ fs'.IsDirect path ∧ attempt.Effect path fs fs' := by
  rcases goes_save tree direct happened with ⟨unmoved, short, spares⟩ | ⟨moved, whole, tree', direct', there⟩
  · exact ⟨spares.tree, spares.isDirect direct,
      .stayed (decide_eq_false unmoved) short (find_of_spares tree direct spares)⟩
  · exact ⟨tree', direct', .replaced (decide_eq_true moved) whole there⟩

theorem load_same (same : fs'.find? path = fs.find? path) : load path fs' = load path fs := by
  unfold load isPresent text?
  rw [same]

theorem load_written {document : Document} {registers : List Persisted}
    (there : ∃ at', fs.find? path = some (at', .file (write document) privateMode)) :
    load path fs = .ok registers ↔
      (documentOfJson? (documentToJson document)).map (·.registers) = some registers := by
  obtain ⟨at', there⟩ := there
  unfold load isPresent text?
  simp only [there, read_page_document]
  cases documentOfJson? (documentToJson document) <;> simp

/-- All attempts to save at a path, one after another; a restart in between changes no file. -/
inductive History (path : String) (fs : Files) : List Attempt → Files → Prop where
  | start : History path fs [] fs
  | next {attempts : List Attempt} {fs' fs'' : Files} (attempt : Attempt)
      (history : History path fs attempts fs') (happened : attempt.Happens path fs' fs'') :
      History path fs (attempts ++ [attempt]) fs''

/-- The last attempt that moved its file to the path. -/
def lastMoved (path : String) (attempts : List Attempt) : Option Attempt :=
  (attempts.filter (·.moved path)).getLast?

/-- What there is at the path. -/
def Holds (path : String) (fs : Files) (attempts : List Attempt) (fs' : Files) : Prop :=
  match lastMoved path attempts with
  | none => fs'.find? path = fs.find? path
  | some attempt => ∃ at', fs'.find? path = some (at', .file (write attempt.document) privateMode)

theorem holds_of_history (tree : fs.IsTree) (direct : fs.IsDirect path) {attempts : List Attempt}
    (history : History path fs attempts fs') :
    fs'.IsTree ∧ fs'.IsDirect path ∧ Holds path fs attempts fs' := by
  induction history with
  | start => exact ⟨tree, direct, rfl⟩
  | @next attempts fs' fs'' attempt history happened ih =>
      obtain ⟨tree', direct', holds⟩ := ih
      obtain ⟨tree'', direct'', effect⟩ := attempt.effect tree' direct' happened
      refine ⟨tree'', direct'', ?_⟩
      unfold Holds lastMoved at holds ⊢
      rw [List.filter_append]
      cases effect with
      | stayed unmoved short same =>
          rw [List.filter_cons_of_neg (by simp [unmoved]), List.filter_nil, List.append_nil, same]
          exact holds
      | replaced moved whole there =>
          rw [List.filter_cons_of_pos (by simp [moved]), List.filter_nil, List.getLast?_concat]
          exact there

theorem load_whole {document : Document} (carried : document.IsCarried)
    (there : ∃ at', fs.find? path = some (at', .file (write document) privateMode)) :
    load path fs = .ok document.registers := by
  rw [load_written there, documentOfJson_documentToJson carried, Option.map_some]

def endingOf : Except BackingFault Unit → Ending
  | .ok () => .done
  | .error _ => .failed

theorem happens_save (path : String) (now : Timestamp) (registers : List Persisted) (fs : Files) :
    ∃ taken, Attempt.Happens path ⟨⟨now, registers⟩, taken, endingOf (save path now registers fs).1⟩ fs
      (save path now registers fs).2 := by
  obtain ⟨taken, goes⟩ := FileStep.goes_applyAll fs (saveSteps path (write ⟨now, registers⟩))
  refine ⟨taken, ?_⟩
  unfold save
  rcases applied : FileStep.applyAll fs (saveSteps path (write ⟨now, registers⟩)) with ⟨fault | done, fs'⟩
  · rwa [applied] at goes
  · rwa [applied] at goes

/-- The file at a path is never half written, and what is loaded is what was saved last. -/
theorem never_half_written (tree : fs.IsTree) (direct : fs.IsDirect path) {attempts : List Attempt}
    (history : History path fs attempts fs') :
    Holds path fs attempts fs' ∧
      (lastMoved path attempts = none → load path fs' = load path fs) ∧
      (∀ attempt, lastMoved path attempts = some attempt → attempt.document.IsCarried →
        load path fs' = .ok attempt.document.registers) ∧
      (∀ (attempt : Attempt) (fs'' : Files), attempt.Happens path fs' fs'' →
        (attempt.ending = .failed → fs''.find? path = fs'.find? path ∧ load path fs'' = load path fs') ∧
          (attempt.ending = .done → attempt.document.IsCarried →
            load path fs'' = .ok attempt.document.registers)) ∧
      ∀ now registers, ∃ taken,
        Attempt.Happens path ⟨⟨now, registers⟩, taken, endingOf (save path now registers fs').1⟩ fs'
          (save path now registers fs').2 := by
  obtain ⟨tree', direct', holds⟩ := holds_of_history tree direct history
  refine ⟨holds, ?_, ?_, ?_, fun now registers => happens_save path now registers fs'⟩
  · intro none
    rw [Holds, none] at holds
    exact load_same holds
  · intro attempt last carried
    rw [Holds, last] at holds
    exact load_whole carried holds
  · intro attempt fs'' happened
    obtain ⟨-, -, effect⟩ := attempt.effect tree' direct' happened
    cases effect with
    | stayed unmoved short same => exact ⟨fun _ => ⟨same, load_same same⟩, fun done => absurd done short⟩
    | replaced moved whole there =>
        exact ⟨fun failed => absurd failed whole, fun _ carried => load_whole carried there⟩

def leftover : Files := Files.place ⟨[], []⟩ ["regs.json.tmp"] (.file "half" 0o644)

def tornAgain : Files := leftover.place ["regs.json.tmp"] (.file "torn" 0o644)

def crashedAttempt : Attempt := ⟨⟨⟨1600000000, 0⟩, []⟩, [.makeDirectories ""], .crashed⟩

def sumpDocument : Document :=
  ⟨⟨1700000000, 0⟩, [⟨⟨"sump.level", by decide⟩, .array (.natural .w16) [(42 : BitVec 16)], true, none⟩]⟩

theorem history_crashed : History "regs.json" leftover [crashedAttempt] tornAgain := by
  have located : leftover.locate ("regs.json" ++ ".tmp") = .ok ["regs.json.tmp"] := by decide +kernel
  exact .next crashedAttempt .start (.took rfl (.broke _ (.torn "torn" located rfl) (by decide)))

theorem never_half_written_sump : load "regs.json" tornAgain = load "regs.json" leftover ∧
    ∃ fs', save "regs.json" sumpDocument.savedAt sumpDocument.registers tornAgain = (.ok (), fs') ∧
      load "regs.json" fs' = .ok sumpDocument.registers := by
  have tree : leftover.IsTree := isTree_place _ (isTree_empty []) (by decide) rfl (by decide)
  have direct : leftover.IsDirect "regs.json" := isDirect_of_forward leftover (by decide +kernel)
  have told : (save "regs.json" sumpDocument.savedAt sumpDocument.registers tornAgain).1 = .ok () := by
    decide +kernel
  have carried : sumpDocument.IsCarried := by decide +kernel
  obtain ⟨-, unmoved, -, next, saves⟩ := never_half_written tree direct history_crashed
  obtain ⟨taken, saved⟩ := saves sumpDocument.savedAt sumpDocument.registers
  rw [told] at saved
  have loaded := (next _ _ saved).2 rfl carried
  exact ⟨unmoved (by decide), _, Prod.ext told rfl, loaded⟩

def driftingDocument : Document :=
  ⟨⟨1700000000, 0⟩, [⟨⟨"sump.level", by decide⟩,
    .array (.real .double) [.ofRatio .double false 30157979079707502 1000000000000000], true, none⟩]⟩

theorem load_drifting : ∃ fs',
    save "regs.json" driftingDocument.savedAt driftingDocument.registers ⟨[], []⟩ = (.ok (), fs') ∧
      load "regs.json" fs' ≠ .ok driftingDocument.registers := by
  have told : (save "regs.json" driftingDocument.savedAt driftingDocument.registers ⟨[], []⟩).1 =
      .ok () := by
    decide +kernel
  have direct : IsDirect ⟨[], []⟩ "regs.json" := isDirect_of_forward _ (by decide +kernel)
  obtain ⟨taken, saved⟩ :=
    happens_save "regs.json" driftingDocument.savedAt driftingDocument.registers ⟨[], []⟩
  rw [told] at saved
  obtain ⟨-, -, effect⟩ := Attempt.effect (isTree_empty []) direct saved
  refine ⟨_, Prod.ext told rfl, ?_⟩
  cases effect with
  | stayed unmoved short same => exact absurd rfl short
  | replaced moved whole there =>
      have read : (documentOfJson? (documentToJson driftingDocument)).map (·.registers) ≠
          some driftingDocument.registers := by
        decide +kernel
      exact fun same => read ((load_written there).mp same)

/-- What the conditions are for. JSON numbers are read with more than one rounding, so that a save that
succeeds is not always what is loaded; and on a path that only passes a missing directory, a save that
fails may leave a directory where no file was. -/
theorem saved_not_always_loaded :
    (∃ now registers fs', save "regs.json" now registers ⟨[], []⟩ = (.ok (), fs') ∧
        load "regs.json" fs' ≠ .ok registers) ∧
      ∃ now registers fs', save "a/../a" now registers ⟨[], []⟩ = (.error .unreachable, fs') ∧
        load "a/../a" ⟨[], []⟩ = .ok [] ∧ load "a/../a" fs' = .error .unreachable := by
  have told : (save "a/../a" ⟨1700000000, 0⟩ [] ⟨[], []⟩).1 = .error .unreachable := by decide +kernel
  exact ⟨⟨_, _, load_drifting⟩, _, _, _, Prod.ext told rfl, by decide +kernel, by decide +kernel⟩

end RegisterPlane.RegisterFile
