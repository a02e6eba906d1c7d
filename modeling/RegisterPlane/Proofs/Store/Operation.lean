import RegisterPlane.Proofs.Store.Follows

namespace RegisterPlane.Store

variable {σ World : Type}

inductive Operation where
  | get (name : String)
  | lookup (name : String)
  | set (now : Timestamp) (name : String) (value : Value)
  | access (now : Timestamp) (name : String) (value : Option Value)
  | list
  | nameAt (index : Nat)
  | flush (now : Timestamp)

inductive Answer (σ : Type) where
  | register (result : Except RegisterError Register)
  | found (result : Except RegisterError (Lookup σ))
  | accessed (result : Except Refusal Register)
  | names (names : List RegisterName)
  | name (name : Option RegisterName)
  | flushed (done : Bool)

def perform (backing : Backing World) (s : Store σ) (world : World) :
    Operation → Answer σ × Store σ × World
  | .get name => (.register (s.get name).1, (s.get name).2, world)
  | .lookup name => (.found (s.lookup name), s, world)
  | .set now name value => (.register (s.set now name value).1, (s.set now name value).2, world)
  | .access now name value =>
    (.accessed (s.access now name value).1, (s.access now name value).2, world)
  | .list => (.names s.names, s, world)
  | .nameAt index => (.name (s.nameAt? index), s, world)
  | .flush now =>
    (.flushed (s.flush backing now world).1, (s.flush backing now world).2.1,
      (s.flush backing now world).2.2)

inductive Run (backing : Backing World) (s : Store σ) (world : World) :
    List (Answer σ) → Store σ → World → Prop where
  | start : Run backing s world [] s world
  | perform {answers : List (Answer σ)} {s' : Store σ} {world' : World} (op : Operation)
      (run : Run backing s world answers s' world') :
      Run backing s world (answers ++ [(Store.perform backing s' world' op).1])
        (Store.perform backing s' world' op).2.1 (Store.perform backing s' world' op).2.2
  | elapse {answers : List (Answer σ)} {s' : Store σ} {world' : World} (live : σ) (later : World)
      (run : Run backing s world answers s' world') :
      Run backing s world answers { s' with live } later

def Reachable (backing : Backing World) (s : Store σ) : Prop :=
  ∃ seed start world built answers world', Store.build seed backing start world = .ok built ∧
    Run backing built world answers s world'

theorem reachable_build {seed : Seed σ} {backing : Backing World} {now : Timestamp} {world : World}
    {s : Store σ} (built : Store.build seed backing now world = .ok s) : Reachable backing s :=
  ⟨seed, now, world, s, [], world, built, .start⟩

theorem flush_entries (s : Store σ) (backing : Backing World) (now : Timestamp) (world : World) :
    (s.flush backing now world).2.1.entries = s.entries ∧
      (s.flush backing now world).2.1.durable = s.durable := by
  unfold flush
  split
  · exact ⟨rfl, rfl⟩
  · split <;> exact ⟨rfl, rfl⟩

theorem ascending_build {seed : Seed σ} {backing : Backing World} {now : Timestamp} {world : World}
    {s : Store σ} (built : Store.build seed backing now world = .ok s) : Ascending s.entries := by
  obtain ⟨kept, -, overridden⟩ := build_entries built
  have restored := restoreAll_keeps change_ascending kept (ascending_declare now seed)
  exact (overrideAll_keeps change_ascending restored overridden).1

theorem ascending_perform {s : Store σ} (ordered : Ascending s.entries) (backing : Backing World)
    (world : World) (op : Operation) : Ascending (perform backing s world op).2.1.entries := by
  have step : ∀ {s s' : Store σ}, Moves s s' → Ascending s.entries → Ascending s'.entries :=
    fun moves => change_ascending moves.change
  cases op with
  | get name => exact step (get_moves s name) ordered
  | lookup name => exact ordered
  | set now name value => exact step (set_moves s now name value) ordered
  | access now name value =>
      exact access_keeps step ordered now name value
  | list => exact ordered
  | nameAt index => exact ordered
  | flush now =>
      have same := (flush_entries s backing now world).1
      simpa only [perform, same] using ordered

theorem ascending_run {backing : Backing World} {s s' : Store σ} {world world' : World}
    {answers : List (Answer σ)} (run : Run backing s world answers s' world')
    (ordered : Ascending s.entries) : Ascending s'.entries := by
  induction run with
  | start => exact ordered
  | perform op _ ih => exact ascending_perform ih backing _ op
  | elapse live later _ ih => exact ih

theorem ascending_reachable {backing : Backing World} {s : Store σ} (reachable : Reachable backing s) :
    Ascending s.entries := by
  obtain ⟨seed, start, world, s₀, answers, world', built, run⟩ := reachable
  exact ascending_run run (ascending_build built)

end RegisterPlane.Store
