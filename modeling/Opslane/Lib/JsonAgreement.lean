import Opslane.Lib.JsonReader

/-!
# Two readers of one JSON text

One reader has the text in UTF-8, the other in UTF-16. If what they read for strings and
numbers agrees, what they read for values does. The second may also stop short in the middle
of a number the first refuses: nothing in an array or an object goes on from there.
-/

namespace JsonReader

open Unicode

variable {ε ε' σ ν τ : Type}

/-- The text goes on inside a number. -/
def Stuck (text : Codes) : Prop :=
  ∃ c rest, text = c :: rest ∧ (isDigit c = true ∨ c = code '.' ∨ c = code 'e' ∨ c = code 'E')

/-- The same result on the same text, or faults that belong together. -/
inductive Agree (fault : ε → ε' → Prop) (cut : ε → Prop) :
    Except ε (τ × Codes) → Except ε' (τ × Codes) → Prop
  | ok {x : τ} {a b : Codes} (same : SameText a b) : Agree fault cut (.ok (x, a)) (.ok (x, b))
  | error {e : ε} {e' : ε'} (together : fault e e') : Agree fault cut (.error e) (.error e')
  | cut {e : ε} {x : τ} {b : Codes} (short : cut e) (stuck : Stuck b) :
      Agree fault cut (.error e) (.ok (x, b))

theorem Agree.mono {fault fault' : ε → ε' → Prop} {cut cut' : ε → Prop}
    (faults : ∀ e e', fault e e' → fault' e e') (cuts : ∀ e, cut e → cut' e)
    {x : Except ε (τ × Codes)} {y : Except ε' (τ × Codes)} (agree : Agree fault cut x y) :
    Agree fault' cut' x y := by
  cases agree with
  | ok same => exact .ok same
  | error together => exact .error (faults _ _ together)
  | cut short stuck => exact .cut (cuts _ short) stuck

structure Grammar.Agrees (g : Grammar ε σ ν) (h : Grammar ε' σ ν) (fault : ε → ε' → Prop)
    (cut : ε → Prop) : Prop where
  string : ∀ {a b}, SameText a b → a.head? = some (code '"') →
    Agree fault (fun _ => False) (g.string a) (h.string b)
  number : ∀ {a b}, SameText a b → startsNumber a = true → Agree fault cut (g.number a) (h.number b)
  invalid : fault g.invalid h.invalid
  tooDeep : fault g.tooDeep h.tooDeep
  duplicate : ∃ e e', g.duplicate = some e ∧ h.duplicate = some e' ∧ fault e e'
  stuck : ∀ e, cut e → fault e h.invalid

theorem isSpace_ascii (c : Nat) (space : isSpace c = true) : c < 0x80 := by
  simp only [isSpace, Bool.or_eq_true, beq_iff_eq] at space
  omega

variable {a b : Codes}

theorem SameText.skipSpace (same : SameText a b) :
    SameText (JsonReader.skipSpace a) (JsonReader.skipSpace b) :=
  (same.run isSpace_ascii).2

theorem Stuck.front {text : Codes} (stuck : Stuck text) :
    ∃ c rest, skipSpace text = c :: rest ∧ c ≠ code ',' ∧ c ≠ code ']' ∧ c ≠ code '\x7d' := by
  obtain ⟨c, rest, rfl, inside⟩ := stuck
  have bounds : code '0' = 0x30 ∧ code '9' = 0x39 ∧ code '.' = 0x2e ∧ code 'e' = 0x65 ∧
      code 'E' = 0x45 ∧ code ',' = 0x2c ∧ code ']' = 0x5d ∧ code '\x7d' = 0x7d := by decide
  simp only [isDigit, Bool.and_eq_true, decide_eq_true_eq, bounds] at inside ⊢
  have notSpace : isSpace c = false := by
    simp only [isSpace, Bool.or_eq_false_iff, beq_eq_false_iff_ne]
    omega
  refine ⟨c, rest, ?_, by omega, by omega, by omega⟩
  rw [skipSpace, List.dropWhile_cons_of_neg (by simp [notSpace])]

variable {fault : ε → ε' → Prop} {cut : ε → Prop} {invalid : ε} {invalid' : ε'} {closing : Nat}
  {element : List τ → Codes → Except ε (τ × Codes)}
  {element' : List τ → Codes → Except ε' (τ × Codes)}

theorem elements_agree (refused : fault invalid invalid') (stuck : ∀ e, cut e → fault e invalid')
    (bracket : closing = code ']' ∨ closing = code '\x7d')
    (shortens : ∀ before, Shortens (element before))
    (shortens' : ∀ before, Shortens (element' before))
    (agrees : ∀ before {a b}, SameText a b → Agree fault cut (element before a) (element' before b))
    {fuel fuel' : Nat} {a b : Codes} (enough : a.length < fuel) (enough' : b.length < fuel')
    (same : SameText a b) (before : List τ) :
    Agree fault (fun _ => False) (elements invalid closing element fuel before a)
      (elements invalid' closing element' fuel' before b) := by
  induction fuel generalizing fuel' a b before with
  | zero => omega
  | succ fuel ih =>
    cases fuel' with
    | zero => omega
    | succ fuel' =>
      have first := agrees before same
      have shorter := shortens before a
      have shorter' := shortens' before b
      unfold elements
      generalize element before a = x at first shorter
      generalize element' before b = y at first shorter'
      cases first with
      | error together => exact .error together
      | @cut e x b' short tail =>
        obtain ⟨c, rest, front, notComma, notBracket, notBrace⟩ := tail.front
        have notClosing : c ≠ closing := by
          rcases bracket with rfl | rfl
          · exact notBracket
          · exact notBrace
        simp only [bind, Except.bind, front, if_neg notClosing, if_neg notComma]
        exact .error (stuck e short)
      | @ok x a' b' same' =>
        have left := shorter _ _ rfl
        have right := shorter' _ _ rfl
        have skipped := length_skipSpace_le a'
        have skipped' := length_skipSpace_le b'
        simp only [bind, Except.bind]
        rcases (SameText.skipSpace same').cases_front with ⟨front, front'⟩ |
          ⟨c, a₁, b₁, single, front, front', behind⟩ | ⟨c, d, a₁, b₁, large, large', front, front'⟩
        · rw [front, front']
          exact .error refused
        · rw [front, List.length_cons] at skipped
          rw [front', List.length_cons] at skipped'
          have left' := length_skipSpace_le a₁
          have right' := length_skipSpace_le b₁
          simp only [front, front']
          split_ifs
          · exact .ok behind
          · exact ih (by omega) (by omega) (SameText.skipSpace behind) _
          · exact .error refused
        · have notClosing : c ≠ closing ∧ d ≠ closing := by
            rcases bracket with rfl | rfl
            · exact ⟨by intro h; rw [h] at large; exact absurd large (by decide),
                by intro h; rw [h] at large'; exact absurd large' (by decide)⟩
            · exact ⟨by intro h; rw [h] at large; exact absurd large (by decide),
                by intro h; rw [h] at large'; exact absurd large' (by decide)⟩
          have notComma : c ≠ code ',' ∧ d ≠ code ',' :=
            ⟨by intro h; rw [h] at large; exact absurd large (by decide),
              by intro h; rw [h] at large'; exact absurd large' (by decide)⟩
          simp only [front, front', if_neg notClosing.1, if_neg notClosing.2, if_neg notComma.1,
            if_neg notComma.2]
          exact .error refused

theorem enclosed_agree (refused : fault invalid invalid') (stuck : ∀ e, cut e → fault e invalid')
    (bracket : closing = code ']' ∨ closing = code '\x7d')
    (shortens : ∀ before, Shortens (element before))
    (shortens' : ∀ before, Shortens (element' before))
    (agrees : ∀ before {a b}, SameText a b → Agree fault cut (element before a) (element' before b))
    {a b : Codes} (same : SameText a b) :
    Agree fault (fun _ => False) (enclosed invalid closing element a)
      (enclosed invalid' closing element' b) := by
  have loop {fuel fuel' : Nat} {a b : Codes} (enough : a.length < fuel) (enough' : b.length < fuel')
      (same : SameText a b) :=
    elements_agree refused stuck bracket shortens shortens' agrees enough enough' same []
  unfold enclosed
  rcases (SameText.skipSpace same).cases_front with ⟨front, front'⟩ |
    ⟨c, a', b', single, front, front', behind⟩ | ⟨c, d, a', b', large, large', front, front'⟩
  · rw [front, front']
    exact loop Nat.one_pos Nat.one_pos .nil
  · simp only [front, front']
    split_ifs
    · exact .ok behind
    · exact loop (by simp) (by simp) (.ascii single behind)
  · have notClosing : c ≠ closing ∧ d ≠ closing := by
      have small : closing < 0x80 := by
        rcases bracket with rfl | rfl
        all_goals decide
      omega
    have whole := SameText.skipSpace same
    rw [front, front'] at whole
    simp only [front, front', if_neg notClosing.1, if_neg notClosing.2]
    exact loop (by simp) (by simp) whole

namespace Grammar

variable {g : Grammar ε σ ν} {h : Grammar ε' σ ν}

theorem expect_agree (g : Grammar ε σ ν) (h : Grammar ε' σ ν) {c : Nat} (single : c < 0x80)
    (same : SameText a b) :
    (∃ a' b', JsonReader.expect g.invalid c a = .ok a' ∧ JsonReader.expect h.invalid c b = .ok b' ∧
        SameText a' b') ∨
      JsonReader.expect g.invalid c a = .error g.invalid ∧
        JsonReader.expect h.invalid c b = .error h.invalid := by
  rcases same.cases_front with ⟨rfl, rfl⟩ | ⟨d, a', b', -, rfl, rfl, behind⟩ |
    ⟨d, d', a', b', large, large', rfl, rfl⟩
  · exact .inr ⟨rfl, rfl⟩
  · by_cases front : d = c
    · exact .inl ⟨a', b', by simp [JsonReader.expect, front], by simp [JsonReader.expect, front],
        behind⟩
    · exact .inr ⟨by simp [JsonReader.expect, front], by simp [JsonReader.expect, front]⟩
  · have other : d ≠ c ∧ d' ≠ c := by omega
    exact .inr ⟨by simp [JsonReader.expect, other], by simp [JsonReader.expect, other]⟩

theorem Agrees.member [DecidableEq σ] (agrees : g.Agrees h fault cut)
    {value : Codes → Except ε (τ × Codes)} {value' : Codes → Except ε' (τ × Codes)}
    (values : ∀ {a b}, SameText a b → Agree fault cut (value a) (value' b)) (before : List (σ × τ))
    (same : SameText a b) :
    Agree fault cut (g.member value before a) (h.member value' before b) := by
  have quoted : a.head? = some (code '"') ↔ b.head? = some (code '"') := by
    rcases same.cases_front with ⟨rfl, rfl⟩ | ⟨d, a', b', -, rfl, rfl, -⟩ |
      ⟨d, d', a', b', large, large', rfl, rfl⟩
    · rfl
    · rfl
    · have other : d ≠ code '"' ∧ d' ≠ code '"' :=
        ⟨by rintro rfl; exact absurd large (by decide), by rintro rfl; exact absurd large' (by decide)⟩
      simp [other]
  unfold Grammar.member
  by_cases front : a.head? = some (code '"')
  · rw [if_pos front, if_pos (quoted.mp front)]
    have named := agrees.string same front
    generalize g.string a = x at named
    generalize h.string b = y at named
    cases named with
    | error together => exact .error together
    | cut short _ => exact short.elim
    | @ok name a' b' same' =>
      simp only [bind, Except.bind]
      obtain ⟨e, e', repeated, repeated', together⟩ := agrees.duplicate
      by_cases known : name ∈ before.map Prod.fst
      · simp only [if_pos known, repeated, repeated']
        exact .error together
      · simp only [if_neg known]
        rcases expect_agree g h (c := code ':') (by decide) (SameText.skipSpace same') with
          ⟨a₁, b₁, colon, colon', behind⟩ | ⟨missing, missing'⟩
        · have valued := values (SameText.skipSpace behind)
          simp only [colon, colon']
          generalize value (skipSpace a₁) = x at valued
          generalize value' (skipSpace b₁) = y at valued
          cases valued with
          | ok same => exact .ok same
          | error together => exact .error together
          | cut short stuck => exact .cut short stuck
        · simp only [missing, missing']
          exact .error agrees.invalid
  · rw [if_neg front, if_neg (mt quoted.mpr front)]
    exact .error agrees.invalid

theorem Agrees.literal {cut' : ε → Prop} (agrees : g.Agrees h fault cut) {spelling : Codes}
    (ascii : ∀ c ∈ spelling, c < 0x80) {tree : JsonTree σ ν} (same : SameText a b) :
    Agree fault cut' (g.literal spelling tree a) (h.literal spelling tree b) := by
  have front : spelling.isPrefixOf a = spelling.isPrefixOf b ∧
      (spelling.isPrefixOf a = true → SameText (a.drop spelling.length) (b.drop spelling.length)) := by
    clear tree
    induction spelling generalizing a b with
    | nil => exact ⟨by simp, fun _ => same⟩
    | cons c spelling ih =>
      have single := ascii c List.mem_cons_self
      rcases same.cases_front with ⟨rfl, rfl⟩ | ⟨d, a', b', -, rfl, rfl, behind⟩ |
        ⟨d, d', a', b', large, large', rfl, rfl⟩
      · exact ⟨rfl, fun inside => absurd inside (by simp)⟩
      · obtain ⟨equal, tail⟩ := ih (fun d member => ascii d (List.mem_cons_of_mem _ member)) behind
        simp only [List.isPrefixOf_cons_cons, equal, Bool.and_eq_true, List.length_cons, List.drop_succ_cons,
          true_and]
        exact fun inside => tail (equal ▸ inside.2)
      · have other : (c == d) = false ∧ (c == d') = false := by
          simp only [beq_eq_false_iff_ne]
          omega
        simp only [List.isPrefixOf_cons_cons, other, Bool.false_and, Bool.false_eq_true, false_implies,
          and_self]
  unfold Grammar.literal
  rw [← front.1]
  split_ifs with inside
  · exact .ok (front.2 inside)
  · exact .error agrees.invalid

theorem codes_ascii (s : String) (ascii : s.toList.all (fun c => c.toNat < 0x80) = true) :
    ∀ c ∈ codes s, c < 0x80 := by
  intro c member
  obtain ⟨d, inside, rfl⟩ := List.mem_map.mp member
  exact of_decide_eq_true (List.all_eq_true.mp ascii d inside)

theorem value_wide [DecidableEq σ] {k : Grammar ε σ ν} {depth c : Nat} {rest : Codes}
    (wide : 0x80 ≤ c) : k.value (depth + 1) (c :: rest) = .error k.invalid := by
  have bounds : code '\x7b' = 0x7b ∧ code '[' = 0x5b ∧ code '"' = 0x22 ∧ code 't' = 0x74 ∧
      code 'f' = 0x66 ∧ code 'n' = 0x6e ∧ code '-' = 0x2d ∧ code '9' = 0x39 := by decide
  unfold Grammar.value
  simp only [isDigit, bounds, Bool.and_eq_true, decide_eq_true_eq]
  rw [if_neg (by omega), if_neg (by omega), if_neg (by omega), if_neg (by omega), if_neg (by omega),
    if_neg (by omega), if_neg (by omega)]

theorem value_number [DecidableEq σ] (k : Grammar ε σ ν) (depth : Nat) {text : Codes}
    (number : startsNumber text = true) :
    k.value (depth + 1) text = (do let (n, rest) ← k.number text; return (.number n, rest)) := by
  cases text with
  | nil => cases number
  | cons c rest =>
    have bounds : code '\x7b' = 0x7b ∧ code '[' = 0x5b ∧ code '"' = 0x22 ∧ code 't' = 0x74 ∧
        code 'f' = 0x66 ∧ code 'n' = 0x6e ∧ code '-' = 0x2d ∧ code '0' = 0x30 ∧ code '9' = 0x39 := by
      decide
    simp only [startsNumber, isDigit, bounds, Bool.or_eq_true, beq_iff_eq, Bool.and_eq_true,
      decide_eq_true_eq] at number
    simp only [Grammar.value, isDigit, bounds, Bool.and_eq_true, decide_eq_true_eq]
    rw [if_neg (by omega), if_neg (by omega), if_neg (by omega), if_neg (by omega), if_neg (by omega),
      if_neg (by omega), if_pos number]

theorem Agrees.value [DecidableEq σ] (agrees : g.Agrees h fault cut) (string : Shortens g.string)
    (number : Shortens g.number) (string' : Shortens h.string) (number' : Shortens h.number)
    (depth : Nat) (same : SameText a b) :
    Agree fault (fun e => cut e ∧ startsNumber a = true) (g.value depth a) (h.value depth b) := by
  induction depth generalizing a b with
  | zero => exact .error agrees.tooDeep
  | succ depth ih =>
    have shortens := value_shortens string number depth
    have shortens' := value_shortens string' number' depth
    have nested {a b : Codes} (same : SameText a b) :
        Agree fault cut (g.value depth a) (h.value depth b) :=
      (ih same).mono (fun _ _ together => together) fun _ short => short.1
    have whole := same
    rcases same.cases_front with ⟨rfl, rfl⟩ | ⟨c, a', b', -, rfl, rfl, behind⟩ |
      ⟨c, d, a', b', large, large', rfl, rfl⟩
    · exact .error agrees.invalid
    · cases digit : startsNumber (c :: a') with
      | true =>
        have digit' : startsNumber (c :: b') = true := digit
        rw [value_number _ _ digit, value_number _ _ digit']
        have inside := agrees.number whole digit
        generalize g.number _ = x at inside
        generalize h.number _ = y at inside
        cases inside with
        | ok same => exact .ok same
        | error together => exact .error together
        | cut short stuck => exact .cut ⟨short, rfl⟩ stuck
      | false =>
        unfold Grammar.value
        refine ite_both (fun _ => ?_) fun _ => ite_both (fun _ => ?_) fun _ => ite_both (fun quote => ?_)
          fun _ => ite_both (fun _ => agrees.literal (codes_ascii _ (by decide +kernel)) whole)
          fun _ => ite_both (fun _ => agrees.literal (codes_ascii _ (by decide +kernel)) whole)
          fun _ => ite_both (fun _ => agrees.literal (codes_ascii _ (by decide +kernel)) whole)
          fun _ => ite_both (fun number => ?_) fun _ => .error agrees.invalid
        · have inside := enclosed_agree agrees.invalid agrees.stuck (.inr rfl)
            (fun before => member_shortens string shortens before)
            (fun before => member_shortens string' shortens' before)
            (fun before {a b} same => agrees.member nested before same) behind
          generalize enclosed g.invalid _ _ a' = x at inside
          generalize enclosed h.invalid _ _ b' = y at inside
          cases inside with
          | ok same => exact .ok same
          | error together => exact .error together
          | cut short _ => exact short.elim
        · have inside := enclosed_agree agrees.invalid agrees.stuck (.inl rfl)
            (fun _ => shortens) (fun _ => shortens') (fun _ {a b} same => nested same) behind
          generalize enclosed g.invalid _ _ a' = x at inside
          generalize enclosed h.invalid _ _ b' = y at inside
          cases inside with
          | ok same => exact .ok same
          | error together => exact .error together
          | cut short _ => exact short.elim
        · have inside := agrees.string whole (by rw [List.head?_cons, quote])
          generalize g.string _ = x at inside
          generalize h.string _ = y at inside
          cases inside with
          | ok same => exact .ok same
          | error together => exact .error together
          | cut short _ => exact short.elim
        · simp [startsNumber] at digit
          rcases number with minus | inside
          · exact absurd minus digit.1
          · rw [digit.2] at inside
            cases inside
    · rw [value_wide large, value_wide large']
      exact .error agrees.invalid

end Grammar

end JsonReader
