import Mathlib.Logic.Relation

/-!
# Fencing tokens

A lease with a generation number: acquiring it when nobody holds it raises the
generation, and every other step keeps the generation and may only drop the holder.
A generation that was held and is held no longer is spent, and a spent generation
never comes back, whatever the clocks of the parties say.
-/

namespace Fence

universe u

structure Lease (ω : Type u) where
  generation : Nat
  holder : Option ω

variable {ω : Type u}

inductive Step : Lease ω → Lease ω → Prop where
  | keep (l : Lease ω) : Step l l
  | acquire (l : Lease ω) (holder : ω) (free : l.holder = none) :
      Step l ⟨l.generation + 1, some holder⟩
  | release (l : Lease ω) : Step l ⟨l.generation, none⟩

/-- The party holds the lease under this generation. -/
def Holds (l : Lease ω) (holder : ω) (generation : Nat) : Prop :=
  l.holder = some holder ∧ l.generation = generation

/-- No party holds the lease under this generation, and none ever will. -/
def Spent (l : Lease ω) (generation : Nat) : Prop :=
  generation < l.generation ∨ (generation = l.generation ∧ l.holder = none)

theorem Holds.unique {l : Lease ω} {a b : ω} {g h : Nat} (first : Holds l a g)
    (second : Holds l b h) : a = b ∧ g = h :=
  ⟨Option.some.inj (first.1.symm.trans second.1), first.2.symm.trans second.2⟩

theorem Spent.not_holds {l : Lease ω} {g : Nat} (spent : Spent l g) (holder : ω) :
    ¬Holds l holder g := by
  rintro ⟨held, rfl⟩
  rcases spent with below | ⟨-, free⟩
  · omega
  · rw [held] at free
    cases free

theorem Step.generation_le {l l' : Lease ω} (step : Step l l') : l.generation ≤ l'.generation := by
  cases step with
  | keep => exact Nat.le_refl _
  | acquire holder free => exact Nat.le_succ _
  | release => exact Nat.le_refl _

theorem Spent.step {l l' : Lease ω} {g : Nat} (spent : Spent l g) (step : Step l l') :
    Spent l' g := by
  cases step with
  | keep => exact spent
  | acquire holder free =>
    rcases spent with below | ⟨same, -⟩
    · left
      show g < l.generation + 1
      omega
    · left
      show g < l.generation + 1
      omega
  | release =>
    rcases spent with below | ⟨same, -⟩
    · exact Or.inl below
    · exact Or.inr ⟨same, rfl⟩

theorem generation_le_of_steps {l l' : Lease ω} (steps : Relation.ReflTransGen Step l l') :
    l.generation ≤ l'.generation := by
  induction steps with
  | refl => exact Nat.le_refl _
  | tail _ last ih => exact Nat.le_trans ih last.generation_le

theorem Spent.steps {l l' : Lease ω} {g : Nat} (spent : Spent l g)
    (steps : Relation.ReflTransGen Step l l') : Spent l' g := by
  induction steps with
  | refl => exact spent
  | tail _ last ih => exact ih.step last

end Fence
