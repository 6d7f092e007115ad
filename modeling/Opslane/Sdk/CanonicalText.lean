import Mathlib.Tactic.IntervalCases
import Opslane.Lib.JsonContents
import Opslane.Sdk.NumberText

/-!
# Values and their canonical texts

The canonical text of a value says which value it is, but for the order of members and the
sign of zero: every part of it says where it ends. Values that are alike have one text, since
the names of an object stand in one order.
-/

namespace Opslane.Sdk.DebugId

open CanonicalJson JsonReader Unicode

/-- What is read has scalar values for characters and numbers of 53 bits. -/
def Clean : Value → Prop := JsonTree.Holds (fun s => ∀ c ∈ s, IsScalar c) Double.Canonical

/-- One number, with or without the sign of zero. -/
def SameNumber (x y : Double) : Prop := unsignedZero x = unsignedZero y

theorem piece_quoteChar (c : Nat) (rest : Codes) :
    piece (quoteChar c ++ rest) = some (.plain c, rest) ∨
      piece (quoteChar c ++ rest) = some (.escape c, rest) ∨
      piece (quoteChar c ++ rest) = some (.unit c, rest) := by
  unfold quoteChar
  split_ifs with special b f n r t control
  · rcases special with rfl | rfl
    · exact .inr (.inl rfl)
    · exact .inr (.inl rfl)
  · exact .inr (.inl (by rw [b]; rfl))
  · exact .inr (.inl (by rw [f]; rfl))
  · exact .inr (.inl (by rw [n]; rfl))
  · exact .inr (.inl (by rw [r]; rfl))
  · exact .inr (.inl (by rw [t]; rfl))
  · right; right
    interval_cases c <;> rfl
  · rw [not_or] at special
    left
    simp [piece, special, control]

variable {rest rest' : Codes}

theorem quoteChar_append_inj {c d : Nat} (same : quoteChar c ++ rest = quoteChar d ++ rest') :
    c = d ∧ rest = rest' := by
  have first := piece_quoteChar c rest
  have second := piece_quoteChar d rest'
  rw [same] at first
  rcases first with one | one | one
  all_goals rcases second with two | two | two
  all_goals
    rw [one] at two
    simp only [Option.some.injEq, Prod.mk.injEq, reduceCtorEq, false_and, Piece.plain.injEq,
      Piece.escape.injEq, Piece.unit.injEq] at two
  all_goals exact two

theorem quoteChar_append_ne (c : Nat) (rest rest' : Codes) :
    quoteChar c ++ rest ≠ code '"' :: rest' := by
  intro same
  have closing : piece (code '"' :: rest') = some (.close, rest') := rfl
  rw [← same] at closing
  rcases piece_quoteChar c rest with one | one | one
  all_goals
    rw [one] at closing
    cases closing

theorem quote_append_inj {s t : List Nat} (same : quote s ++ rest = quote t ++ rest') :
    s = t ∧ rest = rest' := by
  simp only [quote, List.cons_append, List.cons.injEq, true_and, List.append_assoc,
    List.nil_append] at same
  induction s generalizing t with
  | nil =>
    cases t with
    | nil => exact ⟨rfl, (List.cons.inj same).2⟩
    | cons d t =>
      rw [List.flatMap_cons, List.append_assoc] at same
      exact absurd same.symm (quoteChar_append_ne d _ _)
  | cons c s ih =>
    cases t with
    | nil =>
      rw [List.flatMap_cons, List.append_assoc] at same
      exact absurd same (quoteChar_append_ne c _ _)
    | cons d t =>
      rw [List.flatMap_cons, List.flatMap_cons, List.append_assoc, List.append_assoc] at same
      obtain ⟨rfl, later⟩ := quoteChar_append_inj same
      obtain ⟨rfl, rests⟩ := ih later
      exact ⟨rfl, rests⟩

/-- What stands between two brackets: the texts, with commas between. -/
structure Separates {τ : Type} (print : τ → Codes) (R : τ → τ → Prop) (closing : Nat)
    (xs ys : List τ) : Prop where
  inj : ∀ x ∈ xs, ∀ y ∈ ys, ∀ rest rest', Delimited rest → Delimited rest' →
    print x ++ rest = print y ++ rest' → R x y ∧ rest = rest'
  front : ∀ x, x ∈ xs ∨ x ∈ ys → ∃ c tail, print x = c :: tail ∧ c ≠ closing
  delimiter : ∀ rest, Delimited (closing :: rest)
  comma : closing ≠ code ','

theorem delimited_comma (rest : Codes) : Delimited (code ',' :: rest) := by
  intro c front
  obtain rfl := Option.some.inj front
  decide

section
variable {τ : Type} {print : τ → Codes} {R : τ → τ → Prop} {closing : Nat}

/-- The texts behind the first one. -/
def tailTexts (print : τ → Codes) (xs : List τ) : Codes := xs.flatMap fun x => code ',' :: print x

theorem join_cons (x : τ) (xs : List τ) :
    join ((x :: xs).map print) = print x ++ tailTexts print xs := by
  induction xs generalizing x with
  | nil => simp [join, tailTexts]
  | cons y xs ih =>
    have step : join ((x :: y :: xs).map print) = print x ++ [code ','] ++ join ((y :: xs).map print) := by
      simp [join, List.intercalate]
    rw [step, ih]
    simp [tailTexts]

theorem delimited_tailTexts (separates : ∀ rest, Delimited (closing :: rest)) (xs : List τ)
    (rest : Codes) : Delimited (tailTexts print xs ++ closing :: rest) := by
  cases xs with
  | nil => exact separates rest
  | cons x xs => exact delimited_comma _

theorem tailTexts_inj {xs ys : List τ} (separates : Separates print R closing xs ys)
    (same : tailTexts print xs ++ closing :: rest = tailTexts print ys ++ closing :: rest') :
    List.Forall₂ R xs ys ∧ rest = rest' := by
  induction xs generalizing ys with
  | nil =>
    cases ys with
    | nil => exact ⟨.nil, (List.cons.inj same).2⟩
    | cons y ys => exact absurd (List.cons.inj same).1 separates.comma
  | cons x xs ih =>
    cases ys with
    | nil => exact absurd (List.cons.inj same).1.symm separates.comma
    | cons y ys =>
      have shape (z : τ) (zs : List τ) (after : Codes) :
          tailTexts print (z :: zs) ++ closing :: after
            = code ',' :: (print z ++ (tailTexts print zs ++ closing :: after)) := by
        simp [tailTexts]
      rw [shape, shape] at same
      obtain ⟨here, later⟩ := separates.inj x List.mem_cons_self y List.mem_cons_self _ _
        (delimited_tailTexts separates.delimiter xs rest)
        (delimited_tailTexts separates.delimiter ys rest') (List.cons.inj same).2
      have inner : Separates print R closing xs ys :=
        { separates with
          inj := fun x member y member' =>
            separates.inj x (List.mem_cons_of_mem _ member) y (List.mem_cons_of_mem _ member')
          front := fun z either => separates.front z
            (either.imp (List.mem_cons_of_mem _) (List.mem_cons_of_mem _)) }
      obtain ⟨all, rests⟩ := ih inner later
      exact ⟨.cons here all, rests⟩

theorem join_inj {xs ys : List τ} (separates : Separates print R closing xs ys)
    (same : join (xs.map print) ++ closing :: rest = join (ys.map print) ++ closing :: rest') :
    List.Forall₂ R xs ys ∧ rest = rest' := by
  have closes (y : τ) (ys : List τ) (c : Nat) (tail : Codes) (front : print y = c :: tail)
      (other : c ≠ closing) (after after' : Codes) :
      closing :: after ≠ join ((y :: ys).map print) ++ after' := by
    rw [join_cons, front]
    exact fun equal => other (List.cons.inj equal).1.symm
  cases xs with
  | nil =>
    cases ys with
    | nil => exact ⟨.nil, (List.cons.inj same).2⟩
    | cons y ys =>
      obtain ⟨c, tail, front, other⟩ := separates.front y (.inr List.mem_cons_self)
      exact absurd same (closes y ys c tail front other _ _)
  | cons x xs =>
    cases ys with
    | nil =>
      obtain ⟨c, tail, front, other⟩ := separates.front x (.inl List.mem_cons_self)
      exact absurd same.symm (closes x xs c tail front other _ _)
    | cons y ys =>
      have commas : tailTexts print (x :: xs) ++ closing :: rest
          = tailTexts print (y :: ys) ++ closing :: rest' := by
        rw [join_cons, join_cons] at same
        simp only [tailTexts, List.flatMap_cons, List.cons_append, List.cons.injEq, true_and]
        exact same
      exact tailTexts_inj separates commas

end

/-- Which kind of value a text begins with. -/
inductive Kind where
  | null | bool | number | string | array | object | none
  deriving DecidableEq

def kindOf (c : Nat) : Kind :=
  if c = code 'n' then .null
  else if c = code 't' ∨ c = code 'f' then .bool
  else if c = code '"' then .string
  else if c = code '[' then .array
  else if c = code '\x7b' then .object
  else if c = code '-' ∨ isDigit c then .number
  else .none

def kind : Value → Kind
  | .null => .null
  | .bool _ => .bool
  | .number _ => .number
  | .string _ => .string
  | .array _ => .array
  | .object _ => .object

theorem kindOf_digit {c : Nat} (digit : isDigit c = true) : kindOf c = .number := by
  have bounds : code '0' ≤ c ∧ c ≤ code '9' := by
    simpa only [isDigit, Bool.and_eq_true, decide_eq_true_eq] using digit
  obtain ⟨low, high⟩ := bounds
  change 48 ≤ c at low
  change c ≤ 57 at high
  interval_cases c <;> decide

theorem doubleText_front {x : Double} (canonical : x.Canonical) :
    ∃ c tail, x.text = c :: tail ∧ kindOf c = .number := by
  by_cases zero : x.significand = 0
  · refine ⟨code '0', [], ?_, by decide⟩
    rw [Double.text]
    dsimp only
    rw [if_pos zero]
    rfl
  · obtain ⟨n, k, digits, positive, readBack, printed⟩ := Double.text_eq canonical zero
    have nonempty : Double.decimalDigits digits ≠ [] := by
      simp [Double.decimalDigits, Nat.toDigits_ne_nil]
    have wellFormed := laidOut_wellFormed x.negative (n := n) readBack.long readBack.short positive
    rw [printed, ← text_laidOut x.negative nonempty n]
    generalize laidOut x.negative (Double.decimalDigits digits) n = l at wellFormed
    obtain ⟨c, tail, split⟩ : ∃ c tail, l.whole = c :: tail := by
      rcases wellFormed.whole with one | ⟨c, tail, split, -⟩
      · exact ⟨_, _, one⟩
      · exact ⟨c, tail, split⟩
    have digit := wellFormed.wholeDigits c (by rw [split]; exact List.mem_cons_self)
    unfold Literal.text
    cases l.negative with
    | true => exact ⟨code '-', _, rfl, by decide⟩
    | false =>
      refine ⟨c, tail ++ l.fractionText ++ l.exponentText, ?_, kindOf_digit digit⟩
      rw [split]
      rfl

def printMember (m : List Nat × Value) : Codes := quote m.1 ++ code ':' :: text m.2

theorem memberTexts_eq (members : List (List Nat × Value)) :
    memberTexts members = members.map fun m => (m.1, printMember m) := by
  induction members with
  | nil => rfl
  | cons m rest ih => rw [memberTexts, ih, List.map_cons, printMember]

theorem text_object (members : List (List Nat × Value)) :
    text (.object members) = code '\x7b' :: (join ((byName members).map printMember) ++ [code '\x7d']) := by
  have sorted : (byName (memberTexts members)).map Prod.snd = (byName members).map printMember := by
    have commutes := List.map_insertionSort nameLe nameLe
      (fun m : List Nat × Value => (m.1, printMember m)) members fun _ _ _ _ => Iff.rfl
    rw [memberTexts_eq, byName, ← commutes, List.map_map]
    rfl
  rw [text, sorted, List.cons_append]

theorem itemTexts_eq (items : List Value) : itemTexts items = items.map text := by
  induction items with
  | nil => rfl
  | cons v rest ih => rw [itemTexts, ih, List.map_cons]

theorem text_array (items : List Value) :
    text (.array items) = code '[' :: (join (items.map text) ++ [code ']']) := by
  rw [text, itemTexts_eq, List.cons_append]

theorem text_front (v : Value) (clean : Clean v) :
    ∃ c tail, text v = c :: tail ∧ kindOf c = kind v := by
  cases v with
  | null => exact ⟨_, _, by rw [text]; rfl, by decide⟩
  | bool b =>
    cases b with
    | true => exact ⟨_, _, by rw [text]; rfl, by decide⟩
    | false => exact ⟨_, _, by rw [text]; rfl, by decide⟩
  | number n =>
    obtain ⟨c, tail, front, number⟩ := doubleText_front clean
    exact ⟨c, tail, by rw [text, front], number⟩
  | string s => exact ⟨_, _, by rw [text, quote, List.cons_append], rfl⟩
  | array items => exact ⟨_, _, text_array items, rfl⟩
  | object members => exact ⟨_, _, text_object members, rfl⟩

theorem kind_of_same {v w : Value} (clean : Clean v) (clean' : Clean w)
    (same : text v ++ rest = text w ++ rest') : kind v = kind w := by
  obtain ⟨c, tail, front, here⟩ := text_front v clean
  obtain ⟨d, tail', front', there⟩ := text_front w clean'
  rw [front, front'] at same
  rw [← here, ← there, (List.cons.inj same).1]

theorem text_ne_closing {v : Value} (clean : Clean v) (none_ : kindOf closing = .none) :
    ∃ c tail, text v = c :: tail ∧ c ≠ closing := by
  obtain ⟨c, tail, front, here⟩ := text_front v clean
  refine ⟨c, tail, front, ?_⟩
  rintro rfl
  rw [none_] at here
  cases v <;> cases here

theorem exists_of_forall₂ {R : τ → τ → Prop} {xs ys : List τ} (all : List.Forall₂ R xs ys) :
    ∀ x ∈ xs, ∃ y ∈ ys, R x y := by
  induction all with
  | nil => simp
  | cons here _ ih =>
    intro x member
    rcases List.mem_cons.mp member with rfl | later
    · exact ⟨_, List.mem_cons_self, here⟩
    · obtain ⟨y, member', related⟩ := ih x later
      exact ⟨y, List.mem_cons_of_mem _ member', related⟩

variable {ms ns : List (List Nat × Value)}

theorem alike_of_sorted
    (sorted : List.Forall₂ (fun m n => m.1 = n.1 ∧ m.2.Alike SameNumber n.2) (byName ms) (byName ns)) :
    (JsonTree.object ms).Alike SameNumber (.object ns) := by
  have there := exists_of_forall₂ sorted
  have back := exists_of_forall₂ sorted.flip
  refine ⟨fun name => ⟨fun named => ?_, fun named => ?_⟩, JsonTree.membersAlike_iff.mpr ?_⟩
  · obtain ⟨m, member, rfl⟩ := List.mem_map.mp named
    obtain ⟨n, member', same, -⟩ := there m ((List.mem_insertionSort nameLe).mpr member)
    exact List.mem_map.mpr ⟨n, (List.mem_insertionSort nameLe).mp member', same.symm⟩
  · obtain ⟨n, member, rfl⟩ := List.mem_map.mp named
    obtain ⟨m, member', same, -⟩ := back n ((List.mem_insertionSort nameLe).mpr member)
    exact List.mem_map.mpr ⟨m, (List.mem_insertionSort nameLe).mp member', same⟩
  · intro m member
    obtain ⟨n, member', same, alike⟩ := there m ((List.mem_insertionSort nameLe).mpr member)
    refine ⟨n.2, ?_, alike⟩
    rw [same]
    exact (List.mem_insertionSort nameLe).mp member'

theorem text_append_inj (v : Value) : ∀ w, Clean v → Clean w → ∀ rest rest', Delimited rest →
    Delimited rest' → text v ++ rest = text w ++ rest' → v.Alike SameNumber w ∧ rest = rest' := by
  induction v using JsonTree.induct with
  | null =>
    intro w clean clean' rest rest' _ _ same
    have kinds := kind_of_same clean clean' same
    cases w with
    | null =>
      rw [text] at same
      exact ⟨trivial, List.append_cancel_left same⟩
    | _ => cases kinds
  | bool a =>
    intro w clean clean' rest rest' _ _ same
    have kinds := kind_of_same clean clean' same
    cases w with
    | bool b =>
      rw [text, text] at same
      have equal : a = b := by
        cases a <;> cases b
        · rfl
        · have first : some (code 'f') = some (code 't') := congrArg List.head? same
          exact absurd first (by decide)
        · have first : some (code 't') = some (code 'f') := congrArg List.head? same
          exact absurd first (by decide)
        · rfl
      subst equal
      exact ⟨rfl, List.append_cancel_left same⟩
    | _ => cases kinds
  | number m =>
    intro w clean clean' rest rest' delimited delimited' same
    have kinds := kind_of_same clean clean' same
    cases w with
    | number n =>
      rw [text, text] at same
      exact doubleText_append_inj clean clean' delimited delimited' same
    | _ => cases kinds
  | string s =>
    intro w clean clean' rest rest' _ _ same
    have kinds := kind_of_same clean clean' same
    cases w with
    | string t =>
      rw [text, text] at same
      exact quote_append_inj same
    | _ => cases kinds
  | array vs ih =>
    intro w clean clean' rest rest' _ _ same
    have kinds := kind_of_same clean clean' same
    cases w with
    | array ws =>
      have all := JsonTree.itemsHold_iff.mp clean
      have all' := JsonTree.itemsHold_iff.mp clean'
      have separates : Separates text (JsonTree.Alike SameNumber) (code ']') vs ws :=
        { inj := fun v member w member' rest rest' delimited delimited' =>
            ih v member w (all v member) (all' w member') rest rest' delimited delimited'
          front := fun v either =>
            text_ne_closing (either.elim (all v) (all' v)) (by decide)
          delimiter := by
            intro rest c front
            obtain rfl := Option.some.inj front
            decide
          comma := by decide }
      rw [text_array, text_array] at same
      simp only [List.cons_append, List.append_assoc, List.nil_append, List.cons.injEq, true_and] at same
      obtain ⟨items, rests⟩ := join_inj separates same
      exact ⟨JsonTree.itemsAlike_iff.mpr items, rests⟩
    | _ => cases kinds
  | object ms ih =>
    intro w clean clean' rest rest' _ _ same
    have kinds := kind_of_same clean clean' same
    cases w with
    | object ns =>
      have all := JsonTree.membersHold_iff.mp clean
      have all' := JsonTree.membersHold_iff.mp clean'
      have inside {m : List Nat × Value} (member : m ∈ byName ms) : m ∈ ms :=
        (List.mem_insertionSort nameLe).mp member
      have inside' {m : List Nat × Value} (member : m ∈ byName ns) : m ∈ ns :=
        (List.mem_insertionSort nameLe).mp member
      have separates : Separates printMember (fun m n => m.1 = n.1 ∧ m.2.Alike SameNumber n.2)
          (code '\x7d') (byName ms) (byName ns) :=
        { inj := by
            intro m member n member' rest rest' delimited delimited' same
            simp only [printMember, List.append_assoc, List.cons_append] at same
            obtain ⟨names, values⟩ := quote_append_inj same
            obtain ⟨alike, rests⟩ := ih m (inside member) n.2 (all m (inside member)).2
              (all' n (inside' member')).2 rest rest' delimited delimited' (List.cons.inj values).2
            exact ⟨⟨names, alike⟩, rests⟩
          front := fun m _ => ⟨code '"', _, by rw [printMember, quote]; rfl, by decide⟩
          delimiter := by
            intro rest c front
            obtain rfl := Option.some.inj front
            decide
          comma := by decide }
      rw [text_object, text_object] at same
      simp only [List.cons_append, List.append_assoc, List.nil_append, List.cons.injEq, true_and] at same
      obtain ⟨members, rests⟩ := join_inj separates same
      exact ⟨alike_of_sorted members, rests⟩
    | _ => cases kinds

instance {τ : Type} : Std.Total (nameLe (τ := τ)) := ⟨fun _ _ => le_total (α := List Nat) _ _⟩

instance {τ : Type} : IsTrans (List Nat × τ) nameLe := ⟨fun _ _ _ => le_trans (α := List Nat)⟩

theorem names_byName (distinct : (ms.map Prod.fst).Nodup) (distinct' : (ns.map Prod.fst).Nodup)
    (scalars : ∀ m ∈ ms, ∀ c ∈ m.1, IsScalar c)
    (names : ∀ name, name ∈ ms.map Prod.fst ↔ name ∈ ns.map Prod.fst) :
    (byName ms).map Prod.fst = (byName ns).map Prod.fst := by
  let alone (name : List Nat) : List Nat × Unit := (name, ())
  have apart (members : List (List Nat × Value)) :
      ((byName members).map Prod.fst).map alone = byName ((members.map Prod.fst).map alone) := by
    rw [List.map_map, List.map_map]
    exact List.map_insertionSort nameLe nameLe (alone ∘ Prod.fst) members fun _ _ _ _ => Iff.rfl
  have permuted : (ms.map Prod.fst).Perm (ns.map Prod.fst) :=
    (List.perm_ext_iff_of_nodup distinct distinct').mpr names
  have valid : ∀ name ∈ ms.map Prod.fst, ∀ c ∈ name, IsScalar c := by
    intro name member
    obtain ⟨m, inside, rfl⟩ := List.mem_map.mp member
    exact scalars m inside
  have sorted (members : List (List Nat × Unit)) : (byName members).Pairwise nameLe :=
    List.pairwise_insertionSort nameLe members
  have same : byName ((ms.map Prod.fst).map alone) = byName ((ns.map Prod.fst).map alone) := by
    refine List.Perm.eq_of_pairwise ?_ (sorted _) (sorted _) ?_
    · rintro ⟨a, _⟩ ⟨b, _⟩ member member' below above
      have here : a ∈ ms.map Prod.fst := by
        obtain ⟨name, inside, equal⟩ := List.mem_map.mp ((List.mem_insertionSort nameLe).mp member)
        exact (Prod.mk.inj equal).1 ▸ inside
      have there : b ∈ ms.map Prod.fst := by
        obtain ⟨name, inside, equal⟩ := List.mem_map.mp ((List.mem_insertionSort nameLe).mp member')
        exact (names b).mpr ((Prod.mk.inj equal).1 ▸ inside)
      have units : a.flatMap utf16 = b.flatMap utf16 := le_antisymm below above
      rw [flatMap_inj utf16_ne_nil (fun _ _ v w _ _ => utf16_append_inj v w) (valid a here)
        (valid b there) units]
    · exact (List.perm_insertionSort _ _).trans
        ((permuted.map alone).trans (List.perm_insertionSort _ _).symm)
  rw [← apart, ← apart] at same
  exact List.map_injective_iff.mpr (fun _ _ equal => (Prod.mk.inj equal).1) same

theorem map_printMember_eq {xs ys : List (List Nat × Value)} (names : xs.map Prod.fst = ys.map Prod.fst)
    (texts : ∀ m ∈ xs, ∀ n ∈ ys, m.1 = n.1 → text m.2 = text n.2) :
    xs.map printMember = ys.map printMember := by
  induction xs generalizing ys with
  | nil =>
    rw [List.map_nil, eq_comm, List.map_eq_nil_iff] at names
    rw [names]
  | cons x xs ih =>
    cases ys with
    | nil => cases names
    | cons y ys =>
      obtain ⟨name, later⟩ := List.cons.inj names
      rw [List.map_cons, List.map_cons, printMember, printMember, name,
        texts x List.mem_cons_self y List.mem_cons_self name,
        ih later fun m member n member' =>
          texts m (List.mem_cons_of_mem _ member) n (List.mem_cons_of_mem _ member')]

theorem map_text_eq {R : Value → Value → Prop} {vs ws : List Value} (related : List.Forall₂ R vs ws)
    (texts : ∀ v ∈ vs, ∀ w ∈ ws, R v w → text v = text w) : vs.map text = ws.map text := by
  induction related with
  | nil => rfl
  | cons here _ ih =>
    rw [List.map_cons, List.map_cons, texts _ List.mem_cons_self _ List.mem_cons_self here,
      ih fun v member w member' =>
        texts v (List.mem_cons_of_mem _ member) w (List.mem_cons_of_mem _ member')]

theorem text_eq_of_alike (v : Value) : ∀ w, Clean v → Clean w → v.NamesDistinct → w.NamesDistinct →
    v.Alike SameNumber w → text v = text w := by
  induction v using JsonTree.induct with
  | null =>
    intro w _ _ _ _ alike
    cases w with
    | null => rfl
    | _ => cases alike
  | bool a =>
    intro w _ _ _ _ alike
    cases w with
    | bool b => rw [show a = b from alike]
    | _ => cases alike
  | number m =>
    intro w _ _ _ _ alike
    cases w with
    | number n =>
      rw [text, text]
      exact doubleText_unsignedZero alike
    | _ => cases alike
  | string s =>
    intro w _ _ _ _ alike
    cases w with
    | string t => rw [show s = t from alike]
    | _ => cases alike
  | array vs ih =>
    intro w clean clean' distinct distinct' alike
    cases w with
    | array ws =>
      have all := JsonTree.itemsHold_iff.mp clean
      have all' := JsonTree.itemsHold_iff.mp clean'
      have names := JsonTree.itemsDistinct_iff.mp distinct
      have names' := JsonTree.itemsDistinct_iff.mp distinct'
      have items : vs.map text = ws.map text :=
        map_text_eq (JsonTree.itemsAlike_iff.mp alike) fun v member w member' =>
          ih v member w (all v member) (all' w member') (names v member) (names' w member')
      rw [text_array, text_array, items]
    | _ => cases alike
  | object ms ih =>
    intro w clean clean' distinct distinct' alike
    cases w with
    | object ns =>
      have all := JsonTree.membersHold_iff.mp clean
      have all' := JsonTree.membersHold_iff.mp clean'
      obtain ⟨nodup, inner⟩ := distinct
      obtain ⟨nodup', inner'⟩ := distinct'
      obtain ⟨names, members⟩ := alike
      have partner := JsonTree.membersAlike_iff.mp members
      rw [text_object, text_object,
        map_printMember_eq (names_byName nodup nodup' (fun m member => (all m member).1) names)]
      intro m member n member' name
      have inside := (List.mem_insertionSort nameLe).mp member
      have inside' := (List.mem_insertionSort nameLe).mp member'
      obtain ⟨w, found, alike⟩ := partner m inside
      -- A name stands for one member, so the partner is the one of the same name.
      have single : n.2 = w := by
        have one := List.inj_on_of_nodup_map nodup' inside' found name.symm
        rw [one]
      rw [single]
      exact ih m inside w (all m inside).2 (all' _ found).2
        (JsonTree.membersDistinct_iff.mp inner m inside)
        (JsonTree.membersDistinct_iff.mp inner' _ found) alike
    | _ => cases alike

theorem isScalar_of_ascii {c : Nat} (small : c < 0x80) : IsScalar c := .inl (by omega)

theorem doubleText_ascii {x : Double} (canonical : x.Canonical) : ∀ c ∈ x.text, c < 0x80 := by
  by_cases zero : x.significand = 0
  · rw [Double.text]
    dsimp only
    rw [if_pos zero]
    decide
  · obtain ⟨n, k, digits, positive, readBack, printed⟩ := Double.text_eq canonical zero
    have nonempty : Double.decimalDigits digits ≠ [] := by
      simp [Double.decimalDigits, Nat.toDigits_ne_nil]
    have wellFormed := laidOut_wellFormed x.negative (n := n) readBack.long readBack.short positive
    rw [printed, ← text_laidOut x.negative nonempty n]
    generalize laidOut x.negative (Double.decimalDigits digits) n = l at wellFormed
    have ascii {a : Codes} (all : Digits a) : ∀ c ∈ a, c < 0x80 := fun c member =>
      isDigit_ascii c (all c member)
    have sign : ∀ c ∈ (if l.negative then [code '-'] else []), c < 0x80 := by
      cases l.negative <;> decide
    have fraction : ∀ c ∈ l.fractionText, c < 0x80 := by
      unfold Literal.fractionText
      split_ifs
      · simp
      · exact List.forall_mem_cons.mpr ⟨by decide, ascii wellFormed.fraction⟩
    have exponent : ∀ c ∈ l.exponentText, c < 0x80 := by
      unfold Literal.exponentText
      split
      · simp
      · rename_i negative ds found
        refine List.forall_mem_cons.mpr ⟨by decide, List.forall_mem_cons.mpr ⟨?_, ?_⟩⟩
        · cases negative <;> decide
        · exact ascii (wellFormed.exponent _ found).1
    unfold Literal.text
    exact List.forall_mem_append.mpr ⟨List.forall_mem_append.mpr
      ⟨List.forall_mem_append.mpr ⟨sign, ascii wellFormed.wholeDigits⟩, fraction⟩, exponent⟩

theorem quote_scalar {s : List Nat} (valid : ∀ c ∈ s, IsScalar c) : ∀ c ∈ quote s, IsScalar c := by
  have hex : ∀ n < 16, CanonicalJson.hexDigit n < 0x80 := by decide
  have single : ∀ c, IsScalar c → ∀ d ∈ quoteChar c, IsScalar d := by
    intro c scalar
    unfold quoteChar
    split_ifs
    all_goals try decide
    · exact List.forall_mem_cons.mpr ⟨by decide, by simpa using scalar⟩
    · refine List.forall_mem_append.mpr ⟨by decide, ?_⟩
      exact List.forall_mem_cons.mpr ⟨isScalar_of_ascii (hex _ (by omega)),
        List.forall_mem_cons.mpr ⟨isScalar_of_ascii (hex _ (by omega)), by simp⟩⟩
    · simpa using scalar
  rw [quote, List.cons_append]
  refine List.forall_mem_cons.mpr ⟨by decide, List.forall_mem_append.mpr ⟨?_, by decide⟩⟩
  intro d member
  obtain ⟨c, inside, member⟩ := List.mem_flatMap.mp member
  exact single c (valid c inside) d member

theorem join_scalar {texts : List Codes} (valid : ∀ t ∈ texts, ∀ c ∈ t, IsScalar c) :
    ∀ c ∈ join texts, IsScalar c := by
  cases texts with
  | nil => simp [join]
  | cons t texts =>
    have shape : join ((t :: texts).map id) = id t ++ tailTexts id texts := join_cons t texts
    rw [List.map_id, id] at shape
    rw [shape]
    refine List.forall_mem_append.mpr ⟨valid t List.mem_cons_self, ?_⟩
    intro c member
    obtain ⟨u, inside, member⟩ := List.mem_flatMap.mp member
    rcases List.mem_cons.mp member with rfl | member
    · decide
    · exact valid u (List.mem_cons_of_mem _ inside) c member

theorem text_scalar (v : Value) : Clean v → ∀ c ∈ text v, IsScalar c := by
  induction v using JsonTree.induct with
  | null =>
    intro _
    rw [text]
    decide
  | bool b =>
    intro _
    rw [text]
    cases b <;> decide
  | number n =>
    intro clean c member
    rw [text] at member
    exact isScalar_of_ascii (doubleText_ascii clean c member)
  | string s =>
    intro clean
    rw [text]
    exact quote_scalar clean
  | array vs ih =>
    intro clean
    have all := JsonTree.itemsHold_iff.mp clean
    rw [text_array]
    refine List.forall_mem_cons.mpr ⟨by decide, List.forall_mem_append.mpr ⟨?_, by decide⟩⟩
    apply join_scalar
    intro t member
    obtain ⟨v, inside, rfl⟩ := List.mem_map.mp member
    exact ih v inside (all v inside)
  | object ms ih =>
    intro clean
    have all := JsonTree.membersHold_iff.mp clean
    rw [text_object]
    refine List.forall_mem_cons.mpr ⟨by decide, List.forall_mem_append.mpr ⟨?_, by decide⟩⟩
    apply join_scalar
    intro t member
    obtain ⟨m, sorted, rfl⟩ := List.mem_map.mp member
    have inside := (List.mem_insertionSort nameLe).mp sorted
    exact List.forall_mem_append.mpr ⟨quote_scalar (all m inside).1,
      List.forall_mem_cons.mpr ⟨by decide, ih m inside (all m inside).2⟩⟩

theorem utf8_lt {n : Nat} (valid : IsScalar n) : ∀ c ∈ utf8 n, c < 0x100 := by
  unfold IsScalar at valid
  unfold utf8
  split_ifs
  all_goals simp only [List.mem_cons, List.not_mem_nil, or_false, forall_eq_or_imp, forall_eq]
  all_goals omega

theorem encode_inj {s t : List Nat} (valid : ∀ c ∈ s, IsScalar c) (valid' : ∀ c ∈ t, IsScalar c)
    (same : encode s = encode t) : s = t := by
  have byte {u : List Nat} (scalars : ∀ c ∈ u, IsScalar c) :
      (encode u).map UInt8.toNat = u.flatMap utf8 := by
    rw [encode, List.map_map]
    refine (List.map_congr_left fun c member => ?_).trans (List.map_id _)
    obtain ⟨n, inside, member⟩ := List.mem_flatMap.mp member
    have small := utf8_lt (scalars n inside) c member
    simp only [Function.comp_apply, id]
    rw [Nat.toUInt8, UInt8.toNat_ofNat', Nat.mod_eq_of_lt small]
  have units := byte valid
  rw [same, byte valid'] at units
  exact (flatMap_inj utf8_ne_nil (fun _ _ v w _ _ => utf8_append_inj v w) valid' valid units).symm

theorem encode_text_eq_iff {v w : Value} (clean : Clean v) (clean' : Clean w)
    (distinct : v.NamesDistinct) (distinct' : w.NamesDistinct) :
    encode (text v) = encode (text w) ↔ v.Alike SameNumber w := by
  constructor
  · intro same
    have texts := encode_inj (text_scalar v clean) (text_scalar w clean') same
    have ended : Delimited [] := fun _ front => by cases front
    exact (text_append_inj v w clean clean' [] [] ended ended (by rw [texts])).1
  · intro alike
    rw [text_eq_of_alike v w clean clean' distinct distinct' alike]

end Opslane.Sdk.DebugId
