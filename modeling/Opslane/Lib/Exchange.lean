import Opslane.Lib.Result

/-!
# Programs in exchange with their surroundings

A program tells its surroundings things and is answered, and all of it is entered in a
transcript, the latest entry first. An answer may depend on everything entered before it, so a
property of every run with every choice of answers covers surroundings of any kind.
-/

/-- A computation over a transcript of entries `ω` that may stop with an `ε`. What is entered
stays. -/
structure Exchange (ω ε α : Type) where
  run : List ω → Except ε α × List ω
  grows : ∀ log, log <:+ (run log).2

namespace Exchange

variable {ω ε α β : Type}

def andThen (f : α → Exchange ω ε β) : Except ε α × List ω → Except ε β × List ω
  | (.ok a, log) => (f a).run log
  | (.error e, log) => (.error e, log)

theorem andThen_grows (f : α → Exchange ω ε β) (done : Except ε α × List ω) :
    done.2 <:+ (andThen f done).2 := by
  obtain ⟨outcome, log⟩ := done
  cases outcome with
  | error e => exact List.suffix_rfl
  | ok a => exact (f a).grows log

instance : Monad (Exchange ω ε) where
  pure a := ⟨fun log => (.ok a, log), fun _ => List.suffix_rfl⟩
  bind m f := ⟨fun log => andThen f (m.run log), fun log =>
    (m.grows log).trans (andThen_grows f (m.run log))⟩

def enter (entry : ω) : Exchange ω ε Unit :=
  ⟨fun log => (.ok (), entry :: log), fun log => List.suffix_cons entry log⟩

/-- The answer, entered with what was asked. -/
def ask (answer : List ω → α) (entry : α → ω) : Exchange ω ε α :=
  ⟨fun log => (.ok (answer log), entry (answer log) :: log), fun log => List.suffix_cons _ log⟩

/-- An error among the answers stops the program. -/
def ofExcept (outcome : Except ε α) : Exchange ω ε α :=
  ⟨fun log => (outcome, log), fun _ => List.suffix_rfl⟩

def outcome (m : Exchange ω ε α) : Except ε α := (m.run []).1

/-- The transcript a program leaves. -/
def transcript (m : Exchange ω ε α) : List ω := (m.run []).2

/-- Along fair entries, the program makes good entries only and ends as it should. -/
def Meets (fair good : ω → Prop) (bad : ε → Prop) (m : Exchange ω ε α) (ok : α → Prop) : Prop :=
  ∀ log, (∀ entry ∈ (m.run log).2, fair entry) → (∀ entry ∈ log, good entry) →
    (∀ entry ∈ (m.run log).2, good entry) ∧ (m.run log).1.Ends bad ok

section Rules

variable {fair good : ω → Prop} {bad : ε → Prop} {ok : α → Prop} {next : β → Prop}

theorem Meets.pure {a : α} (holds : ok a) :
    Meets fair good bad (Pure.pure a : Exchange ω ε α) ok :=
  fun _ _ before => ⟨before, holds⟩

theorem Meets.bind {m : Exchange ω ε α} {f : α → Exchange ω ε β} (first : m.Meets fair good bad ok)
    (rest : ∀ a, ok a → (f a).Meets fair good bad next) : (m >>= f).Meets fair good bad next := by
  intro log
  change (∀ entry ∈ (andThen f (m.run log)).2, fair entry) → _ →
    (∀ entry ∈ (andThen f (m.run log)).2, good entry) ∧ (andThen f (m.run log)).1.Ends bad next
  intro fairly before
  have earlier := andThen_grows f (m.run log)
  obtain ⟨kept, ended⟩ := first log (fun entry member => fairly entry (earlier.subset member)) before
  revert fairly kept ended
  cases m.run log with
  | mk outcome log =>
    intro fairly kept ended
    cases outcome with
    | error e => exact ⟨kept, ended⟩
    | ok a => exact rest a ended log fairly kept

theorem Meets.enter {entry : ω} (holds : good entry) :
    Meets fair good bad (Exchange.enter entry : Exchange ω ε Unit) fun _ => True :=
  fun _ _ before => ⟨List.forall_mem_cons.mpr ⟨holds, before⟩, trivial⟩

theorem Meets.ask {answer : List ω → α} {entry : α → ω} (ok : α → Prop)
    (holds : ∀ a, fair (entry a) → good (entry a) ∧ ok a) :
    Meets fair good bad (Exchange.ask answer entry : Exchange ω ε α) ok := by
  intro log fairly before
  obtain ⟨kept, answered⟩ := holds (answer log) (fairly _ List.mem_cons_self)
  exact ⟨List.forall_mem_cons.mpr ⟨kept, before⟩, answered⟩

theorem Meets.askAny {answer : List ω → α} {entry : α → ω} (holds : ∀ a, good (entry a)) :
    Meets fair good bad (Exchange.ask answer entry : Exchange ω ε α) fun _ => True :=
  .ask _ fun a _ => ⟨holds a, trivial⟩

theorem Meets.ofExcept {outcome : Except ε α} (ends : outcome.Ends bad ok) :
    Meets fair good bad (Exchange.ofExcept outcome : Exchange ω ε α) ok :=
  fun _ _ before => ⟨before, ends⟩

theorem Meets.mono {m : Exchange ω ε α} {weaker : α → Prop} (meets : m.Meets fair good bad ok)
    (weakens : ∀ a, ok a → weaker a) : m.Meets fair good bad weaker := by
  intro log fairly before
  obtain ⟨kept, ended⟩ := meets log fairly before
  exact ⟨kept, ended.mono (fun _ => id) weakens⟩

theorem Meets.of_fair {m : Exchange ω ε α} (meets : m.Meets fair good bad ok)
    (fairly : ∀ entry ∈ m.transcript, fair entry) :
    (∀ entry ∈ m.transcript, good entry) ∧ m.outcome.Ends bad ok :=
  meets [] fairly (List.forall_mem_nil _)

end Rules

end Exchange
