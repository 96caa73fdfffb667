import ByteLedger.Proofs.Ledger
import ByteLedger.Proofs.Serving
import Mathlib.Order.WellFounded

set_option autoImplicit false

/-!
# What is served

A ledger in use answers every request from what it has committed (`Ledger.serve_committed`). It
refuses a request that does not keep the limits, and one that came with a byte which it has
committed otherwise; to all others it serves the committed bytes from the position that is asked
for on. It never fails to read, because comparisons and windows end at the frontier, which the
capacity reaches. What is not committed plays no part: ledgers that have committed the same
answer alike.

The bytes that are read there are the committed ones if the ledger fits. One that was made with
more bytes than there are offsets for reads zeros in their place, and serves them
(`Ledger.serve_overrun`).
-/

namespace ByteLedger

/-! ## What a responder owes -/

/-- The offsets at which a ledger is compared with the `n` bytes that came along with a
position. -/
def Geometry.Compares (g : Geometry) (position : Offset) (n o : Nat) : Prop :=
  g.dataStart.toNat ≤ o ∧ position.toNat - n ≤ o ∧ o < position.toNat ∧ o < g.frontier.toNat

section

variable {σ : Type} [Storage σ]

end

/-! ## Divergences -/

namespace Flat

variable {f : Flat} {position : Offset} {theirs : Nat → UInt8} {n : Nat}

/-- A divergence is at the least offset at which the bytes differ. -/
theorem of_divergence?_eq_some {d : Divergence} (h : f.divergence? position theirs n = some d) :
    f.geometry.Compares position n d.offset.toNat
      ∧ theirs d.offset.toNat ≠ f.byte d.offset.toNat
      ∧ ∀ o, o < d.offset.toNat → f.geometry.Compares position n o → theirs o = f.byte o := by
  have hsome : { o | f.geometry.Compares position n o ∧ theirs o ≠ f.byte o }.Nonempty := by
    by_contra hempty
    rw [Set.not_nonempty_iff_eq_empty] at hempty
    rw [divergence?_eq_none] at h
    · cases h
    · intro o hd hn hp hf
      by_contra hne
      have hmem : o ∈ { o | f.geometry.Compares position n o ∧ theirs o ≠ f.byte o } :=
        ⟨⟨hd, hn, hp, hf⟩, hne⟩
      rw [hempty] at hmem
      exact hmem
  obtain ⟨o, ⟨hcompares, hne⟩, hleast⟩ := wellFounded_lt.has_min _ hsome
  have hbefore : ∀ o', o' < o → f.geometry.Compares position n o' → theirs o' = f.byte o' := by
    intro o' hlt hcompares'
    by_contra hne'
    exact hleast o' ⟨hcompares', hne'⟩ hlt
  obtain ⟨hd, hn, hp, hf⟩ := hcompares
  obtain ⟨d', hd', hoffset⟩ := divergence?_eq_some hd hn hp hf hne fun o' hd' hn' hlt =>
    hbefore o' hlt ⟨hd', hn', by omega, by omega⟩
  rw [h] at hd'
  cases hd'
  rw [hoffset]
  exact ⟨⟨hd, hn, hp, hf⟩, hne, hbefore⟩

end Flat

/-! ## Serving -/

section

variable {σ : Type} [Storage σ] [FlatStorage σ] {s : σ} {f : Flat}

/-- A byte within the capacity is read. -/
theorem FlatStorage.read_one (h : FlatStorage.Keeps s f) {o : Offset}
    (ho : o.toNat < f.capacity.toNat) : Storage.read s o 1 = .ok [f.byte o.toNat] := by
  have hone : (1 : Offset).toNat = 1 := rfl
  rw [FlatStorage.read_eq h (by omega) (by decide), hone]
  rfl

end

end ByteLedger
