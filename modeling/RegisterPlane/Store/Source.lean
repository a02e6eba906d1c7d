import RegisterPlane.Store.Basic

namespace RegisterPlane.Computed

variable {σ : Type}

def constant (value : Value) : Computed σ := ⟨fun live => (value, live), none⟩

def fixed (value : Value) : Computed σ := ⟨fun live => (value, live), some fun _ live => live⟩

/-- The value that was written last. -/
def cell (load : σ → Value) (keep : Value → σ → σ) : Computed σ :=
  ⟨fun live => (load live, live), some keep⟩

def counter (load : σ → Nat) (keep : Nat → σ → σ) : Computed σ :=
  ⟨fun live =>
    (.array (.natural .w32) [BitVec.ofNat 32 (load live)], keep (load live + 1) live), none⟩

end RegisterPlane.Computed
