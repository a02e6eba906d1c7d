import RegisterPlane.Files.Basic

/-!
Steps that do not come to their end. A step fails, or the machine stops in the middle of it; what it has
done so far stays. Moving a file is the one step that is never seen half done.
-/

namespace RegisterPlane

inductive Ending where
  | done
  | failed
  | crashed
  deriving DecidableEq, Repr

namespace FileStep

/-- What a step may leave behind that did not take place as a whole: nothing, some of the directories on
the way, or a file with any text in it. -/
inductive Leaves (fs : Files) : FileStep → Files → Prop where
  | nothing (step : FileStep) : Leaves fs step fs
  | directories {path : String} {names : List String} (filled : path ≠ "")
      (some_names : names <+: Path.names path) :
      Leaves fs (.makeDirectories path) (makeAlong fs (fs.start path) names).2
  | torn {path text : String} {at' : Location} {fs' : Files} (torn : String)
      (located : fs.locate path = .ok at') (written : writeAt fs at' torn = .ok fs') :
      Leaves fs (.write path text) fs'

/-- How steps may go, one after another: which of them took place as a whole, how it ended, and the tree
that is left. -/
inductive Goes : Files → List FileStep → List FileStep → Ending → Files → Prop where
  | done (fs : Files) : Goes fs [] [] .done fs
  /-- The machine stopped before anybody was told. -/
  | untold (fs : Files) : Goes fs [] [] .crashed fs
  | took {fs fs' : Files} {step : FileStep} {steps taken : List FileStep} {ending : Ending}
      (applied : (step.apply fs).1 = .ok ()) (rest : Goes (step.apply fs).2 steps taken ending fs') :
      Goes fs (step :: steps) (step :: taken) ending fs'
  | broke {fs fs' : Files} {step : FileStep} {ending : Ending} (steps : List FileStep)
      (left : step.Leaves fs fs') (short : ending ≠ .done) : Goes fs (step :: steps) [] ending fs'

end FileStep

end RegisterPlane
