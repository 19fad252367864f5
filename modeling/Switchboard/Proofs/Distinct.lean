/-
  Distinct names, compared by index.

  Two names are compared by the lengths of their encodings, then byte by byte; the names of a list
  are compared pair by pair, each with those behind it.  All three loops count an index up and read
  at it.  Here they are taken turn by turn, so that a loop may also run for ever, or read at an
  index that its list does not have (`Loop.outOfRange`).  Neither happens: the loops answer what
  `sameBytes` and `distinct` answer, whatever the names.

  * `Loop.Answers`: a loop comes to an answer and reads nothing out of range on the way;
  * `sameBytes_answers`, `distinct_answers`: what the loops answer;
  * `distinct_iff_injective`: distinct names, by positions;
  * `distinct_iff_addressable`: the loops, what they decide, and the positions that names stand for.
-/
import Mathlib.Data.List.Nodup
import Mathlib.Logic.Function.Iterate
import Switchboard.Bench.Catalog
import Switchboard.Proofs.Names

namespace Switchboard

variable {U : Universe}

/-! ## Loops -/

/-- Where a loop stands: about to take a turn, at its end, or at an index out of range. -/
inductive Loop (σ : Type) where
  | running (place : σ)
  | ended (answer : Bool)
  | outOfRange
  deriving DecidableEq

namespace Loop

variable {σ : Type} {body : σ → Loop σ}

/-- Take one turn.  A loop that has stopped stays as it is. -/
def turn (body : σ → Loop σ) : Loop σ → Loop σ
  | running place => body place
  | ended answer => ended answer
  | outOfRange => outOfRange

/-- After finitely many turns the loop ends with the answer, and no turn reads out of range. -/
structure Answers (body : σ → Loop σ) (loop : Loop σ) (answer : Bool) : Prop where
  ends : ∃ n, (turn body)^[n] loop = ended answer
  inRange : ∀ n, (turn body)^[n] loop ≠ outOfRange

theorem iterate_ended (body : σ → Loop σ) (answer : Bool) (n : Nat) :
    (turn body)^[n] (ended answer) = ended answer :=
  Function.iterate_fixed rfl n

theorem iterate_outOfRange (body : σ → Loop σ) (n : Nat) :
    (turn body)^[n] outOfRange = outOfRange :=
  Function.iterate_fixed rfl n

namespace Answers

theorem ended (body : σ → Loop σ) (answer : Bool) : Answers body (.ended answer) answer where
  ends := ⟨0, rfl⟩
  inRange n := by simp [iterate_ended]

/-- A loop answers what it answers after one more turn. -/
theorem next {place : σ} {answer : Bool} (h : Answers body (body place) answer) :
    Answers body (.running place) answer where
  ends := by
    obtain ⟨n, hn⟩ := h.ends
    exact ⟨n + 1, hn⟩
  inRange n := by
    cases n with
    | zero => simp
    | succ n => exact h.inRange n

end Answers

end Loop

/-! ## Two names -/

/-- One turn of the comparison of two byte sequences, at an index of both. -/
def sameBytesTurn (a b : Bytes) (k : Nat) : Loop Nat :=
  if k < a.length then
    match a[k]?, b[k]? with
    | some x, some y => if x = y then .running (k + 1) else .ended false
    | _, _ => .outOfRange
  else .ended true

/-- The comparison of two byte sequences before its first turn: only sequences of one length are
    compared any further. -/
def sameBytesStart (a b : Bytes) : Loop Nat :=
  if a.length = b.length then .running 0 else .ended false

/-- From an index on, the bytes from there on are compared. -/
theorem sameBytesTurn_answers {a b : Bytes} (hlen : a.length = b.length) (k : Nat) :
    Loop.Answers (sameBytesTurn a b) (.running k) (sameBytes (a.drop k) (b.drop k)) := by
  apply Loop.Answers.next
  by_cases hk : k < a.length
  · have hk' : k < b.length := hlen ▸ hk
    rw [List.drop_eq_getElem_cons hk, List.drop_eq_getElem_cons hk', sameBytes, sameBytesTurn,
      if_pos hk, List.getElem?_eq_getElem hk, List.getElem?_eq_getElem hk']
    by_cases heq : a[k] = b[k]
    · simp only [heq, if_true, beq_self_eq_true, Bool.true_and]
      exact sameBytesTurn_answers hlen (k + 1)
    · simp only [heq, if_false, beq_eq_false_iff_ne.2 heq, Bool.false_and]
      exact .ended _ false
  · have hdrop : a.drop k = [] := List.drop_eq_nil_of_le (by omega)
    have hdrop' : b.drop k = [] := List.drop_eq_nil_of_le (by omega)
    rw [hdrop, hdrop', sameBytes, sameBytesTurn, if_neg hk]
    exact .ended _ true
termination_by a.length - k

/-- **The loop over bytes answers whether the sequences are equal**, also if one is longer. -/
theorem sameBytes_answers (a b : Bytes) :
    Loop.Answers (sameBytesTurn a b) (sameBytesStart a b) (sameBytes a b) := by
  unfold sameBytesStart
  split <;> rename_i hlen
  · simpa using sameBytesTurn_answers hlen 0
  · have hne : sameBytes a b = false := by
      rw [Bool.eq_false_iff, ne_eq, sameBytes_iff]
      rintro rfl
      exact hlen rfl
    rw [hne]
    exact .ended _ false

-- Without the comparison of the lengths, the loop would read behind the end of the shorter one.
example : sameBytesTurn [0x61, 0x62] [0x61] 1 = .outOfRange := by decide

/-! ## All pairs of names -/

/-- Where the comparison of all pairs stands. -/
inductive PairCursor where
  /-- The name at `i` is to be compared with those behind it. -/
  | outer (i : Nat)
  /-- The name at `i` is to be compared with the name at `j`. -/
  | inner (i j : Nat)
  /-- The names at `i` and `j`, with these encodings, are being compared. -/
  | comparing (i j : Nat) (a b : Bytes) (loop : Loop Nat)
  deriving DecidableEq

/-- One turn of the comparison of all pairs; a turn of the comparison of two names is one too. -/
def distinctTurn (names : List String) : PairCursor → Loop PairCursor
  | .outer i => if i < names.length then .running (.inner i (i + 1)) else .ended true
  | .inner i j =>
    if j < names.length then
      match names[i]?, names[j]? with
      | some a, some b =>
        .running (.comparing i j (utf8 a) (utf8 b) (sameBytesStart (utf8 a) (utf8 b)))
      | _, _ => .outOfRange
    else .running (.outer (i + 1))
  | .comparing i j a b (.running k) => .running (.comparing i j a b (sameBytesTurn a b k))
  | .comparing i j _ _ (.ended same) => if same then .ended false else .running (.inner i (j + 1))
  | .comparing _ _ _ _ .outOfRange => .outOfRange

/-- The comparison of all pairs before its first turn. -/
def distinctStart : Loop PairCursor :=
  .running (.outer 0)

section

variable {names : List String} {i j : Nat} {answer : Bool}

/-- A comparison of two names runs to its own answer, and then the loops go on with that. -/
theorem comparing_answers {a b : Bytes} {loop : Loop Nat} {same : Bool}
    (h : Loop.Answers (sameBytesTurn a b) loop same)
    (hthen : Loop.Answers (distinctTurn names)
      (distinctTurn names (.comparing i j a b (.ended same))) answer) :
    Loop.Answers (distinctTurn names) (.running (.comparing i j a b loop)) answer := by
  obtain ⟨n, hn⟩ := h.ends
  clear h
  -- The turns of the comparison are turns of all the loops, one for one.
  induction n generalizing loop with
  | zero =>
    obtain rfl : loop = .ended same := hn
    exact hthen.next
  | succ n ih =>
    cases loop with
    | running k => exact (ih hn).next
    | ended same' => exact ih hn
    | outOfRange => simp [Loop.iterate_outOfRange] at hn

/-- From `j` on, the name at `i` is compared with the names from there on, and then the outer loop
    goes on. -/
theorem inner_answers (hi : i < names.length)
    (hrest : Loop.Answers (distinctTurn names) (.running (.outer (i + 1))) answer) (j : Nat) :
    Loop.Answers (distinctTurn names) (.running (.inner i j))
      ((names.drop j).all (fun other => !sameBytes (utf8 names[i]) (utf8 other)) && answer) := by
  apply Loop.Answers.next
  by_cases hj : j < names.length
  · simp only [distinctTurn, if_pos hj, List.getElem?_eq_getElem hi, List.getElem?_eq_getElem hj]
    apply comparing_answers (sameBytes_answers (utf8 names[i]) (utf8 names[j]))
    rw [List.drop_eq_getElem_cons hj, List.all_cons]
    cases sameBytes (utf8 names[i]) (utf8 names[j]) with
    | true => exact .ended _ false
    | false =>
      simp only [Bool.not_false, Bool.true_and]
      exact inner_answers hi hrest (j + 1)
  · simp only [distinctTurn, if_neg hj]
    rwa [List.drop_eq_nil_of_le (Nat.le_of_not_lt hj), List.all_nil, Bool.true_and]
termination_by names.length - j

/-- From `i` on, the loops answer whether the names from there on are distinct. -/
theorem outer_answers (names : List String) (i : Nat) :
    Loop.Answers (distinctTurn names) (.running (.outer i)) (distinct (names.drop i)) := by
  apply Loop.Answers.next
  by_cases hi : i < names.length
  · simp only [distinctTurn, if_pos hi]
    rw [List.drop_eq_getElem_cons hi, distinct]
    exact inner_answers hi (outer_answers names (i + 1)) (i + 1)
  · simp only [distinctTurn, if_neg hi]
    rw [List.drop_eq_nil_of_le (Nat.le_of_not_lt hi), distinct]
    exact .ended _ true
termination_by names.length - i

end

/-- **The loops over all pairs answer whether the names are distinct.** -/
theorem distinct_answers (names : List String) :
    Loop.Answers (distinctTurn names) distinctStart (distinct names) :=
  outer_answers names 0

example : (Loop.turn (distinctTurn ["a", "a"]))^[5] distinctStart = .ended false := by decide

/-! ## Positions -/

/-- Names are distinct iff no two positions hold the same name. -/
theorem distinct_iff_injective {names : List String} :
    distinct names ↔
      ∀ i j (hi : i < names.length) (hj : j < names.length), names[i] = names[j] → i = j := by
  rw [distinct_iff_nodup, List.nodup_iff_injective_getElem]
  constructor
  · intro h i j hi hj heq
    exact Fin.mk.inj (@h ⟨i, hi⟩ ⟨j, hj⟩ heq)
  · intro h i j heq
    exact Fin.ext (h i j i.isLt j.isLt heq)

/-- Names are distinct iff each position is the one to which the name listed there leads. -/
theorem distinct_operations_iff {c : Contract U} :
    distinct c.operations ↔
      ∀ i (hi : i < c.operations.length), c.resolve c.operations[i] = .ok i := by
  rw [distinct_iff_nodup, Contract.nodup_operations_iff]
  simp only [Contract.resolve_eq_ok_iff]
  constructor
  · intro h i hi
    exact h i _ (List.getElem?_eq_getElem hi)
  · intro h i o ho
    obtain ⟨hi, rfl⟩ := List.getElem?_eq_some_iff.1 ho
    exact h i hi

/-- **Whether names are distinct is decided by index, and decides which slots have a name.**  For
    every list of names the loops over all pairs end and read nothing out of range, and they answer
    whether no two positions hold the same name.  The loop over the bytes of two names does so too,
    and answers whether the names are equal.  The names of a contract are distinct iff every name
    leads to each position at which it is listed. -/
theorem distinct_iff_addressable (names : List String) :
    Loop.Answers (distinctTurn names) distinctStart (distinct names) ∧
    (distinct names ↔
      ∀ i j (hi : i < names.length) (hj : j < names.length), names[i] = names[j] → i = j) ∧
    (∀ a b : String,
      Loop.Answers (sameBytesTurn (utf8 a) (utf8 b)) (sameBytesStart (utf8 a) (utf8 b))
        (sameBytes (utf8 a) (utf8 b)) ∧
      (sameBytes (utf8 a) (utf8 b) ↔ a = b)) ∧
    ∀ c : Contract U, c.operations = names →
      (distinct names ↔ ∀ i (hi : i < names.length), c.resolve names[i] = .ok i) := by
  refine ⟨distinct_answers names, distinct_iff_injective,
    fun a b => ⟨sameBytes_answers (utf8 a) (utf8 b), sameBytes_utf8_iff⟩, ?_⟩
  rintro c rfl
  exact distinct_operations_iff

/-- Names that begin alike, the empty name and names that differ in their last byte alone are
    distinct, and each leads to its own position.  Where a name is listed twice the answer is no, and
    no name leads to the second position. -/
theorem distinct_iff_addressable_prefixes :
    let names := ["read", "reads", "", "ünï", "ünî"]
    let c : Contract U := ⟨"Names", names, fun _ => none⟩
    let shifty := Bench.Key.shifty.contract
    Loop.Answers (distinctTurn names) distinctStart true ∧
      c.operations = names ∧ c.resolve "ünî" = .ok 4 ∧
      ¬ sameBytes (utf8 "read") (utf8 "reads") ∧
      Loop.Answers (distinctTurn shifty.operations) distinctStart false ∧
      shifty.resolve "alpha" = .ok 0 ∧
      ¬ ∀ i (hi : i < shifty.operations.length), shifty.resolve shifty.operations[i] = .ok i := by
  intro names c shifty
  obtain ⟨hloops, -, hbytes, hresolve⟩ := distinct_iff_addressable names
  obtain ⟨hloops', -, -, hresolve'⟩ := distinct_iff_addressable shifty.operations
  have hnames : distinct names = true := by decide
  have hshifty : distinct shifty.operations = false := by decide
  refine ⟨hnames ▸ hloops, rfl, (hresolve c rfl).1 hnames 4 (by decide),
    fun h => absurd ((hbytes "read" "reads").2.1 h) (by decide), hshifty ▸ hloops', rfl, ?_⟩
  rw [← hresolve' shifty rfl, hshifty]
  exact Bool.false_ne_true

end Switchboard
