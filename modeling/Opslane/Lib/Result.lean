/-!
# Fallible computations

Inversion of a successful `Except` computation, one step at a time: a
transaction that committed passed each of its checks, and each of its
statements returned.
-/

namespace Except

universe u v w

variable {ε : Type u} {α : Type v} {β : Type v}

theorem bind_eq_ok_iff {x : Except ε α} {f : α → Except ε β} {b : β} :
    (x >>= f) = .ok b ↔ ∃ a, x = .ok a ∧ f a = .ok b := by
  cases x with
  | error e => simp [bind, Except.bind]
  | ok a => simp [bind, Except.bind]

theorem of_bind {x : Except ε α} {f : α → Except ε β} {b : β} (done : (x >>= f) = .ok b) :
    ∃ a, x = .ok a ∧ f a = .ok b := bind_eq_ok_iff.mp done

theorem map_eq_ok_iff {x : Except ε α} {f : α → β} {b : β} :
    x.map f = .ok b ↔ ∃ a, x = .ok a ∧ f a = b := by
  cases x with
  | error e => simp [Except.map]
  | ok a => simp [Except.map]

theorem exists_of_isOk {x : Except ε α} (done : x.isOk = true) : ∃ a, x = .ok a := by
  cases x with
  | error e => cases done
  | ok a => exact ⟨a, rfl⟩

theorem ite_error_eq_ok_iff {p : Prop} [Decidable p] {e : ε} {x : Except ε α} {a : α} :
    (if p then .error e else x) = .ok a ↔ ¬p ∧ x = .ok a := by
  split <;> simp_all

theorem of_guard {p : Prop} [Decidable p] {e : ε} {x : Except ε α} {a : α}
    (done : (if p then .error e else x) = .ok a) : ¬p ∧ x = .ok a := ite_error_eq_ok_iff.mp done

/-- How a computation ends: with an error that is `bad`, or with a value that is `good`. -/
def Ends (bad : ε → Prop) (good : α → Prop) : Except ε α → Prop
  | .error e => bad e
  | .ok a => good a

theorem Ends.bind {bad : ε → Prop} {good : α → Prop} {next : β → Prop} {x : Except ε α}
    {f : α → Except ε β} (first : x.Ends bad good) (rest : ∀ a, good a → (f a).Ends bad next) :
    (x >>= f).Ends bad next := by
  cases x with
  | error e => exact first
  | ok a => exact rest a first

theorem Ends.mono {bad worse : ε → Prop} {good better : α → Prop} {x : Except ε α}
    (ends : x.Ends bad good) (errors : ∀ e, bad e → worse e) (values : ∀ a, good a → better a) :
    x.Ends worse better := by
  cases x with
  | error e => exact errors e ends
  | ok a => exact values a ends

end Except

namespace Option

universe u v

/-- `Scan`: a missing row is an error. -/
def orError {ε : Type u} {α : Type v} (o : Option α) (e : ε) : Except ε α :=
  match o with
  | some a => .ok a
  | none => .error e

@[simp] theorem orError_eq_ok_iff {ε : Type u} {α : Type v} {o : Option α} {e : ε} {a : α} :
    o.orError e = .ok a ↔ o = some a := by
  cases o <;> simp [orError]

end Option
