/-
  Histories of a table.

  A board is a contract as it stands, with a table for it.  A history is a sequence of requests to
  a board: bindings, calls on any data, questions, and changes of the contract's signatures, which
  may be any at any time; the names that the contract lists do not change.  Each request gets a
  response, and the answered requests are the log of the history.

  * `Board.step` is one request, `Board.after` the board after a history, `Board.log` its log;
  * `Board.accepted` are the bindings of a name that were accepted in a history, and
    `Board.lastAccepted` the last of them;
  * `slot?_step`: a request changes the slot of a name only by an accepted binding of that name;
  * `slot?_after`: after any history, the slot at the position of a name holds the last binding
    accepted for that name;
  * `signs_of_lastAccepted`: in a history that changes no signature, that binding has the types
    signed for the name.
-/
import Switchboard.Proofs.Table.Calls
import Switchboard.Session

namespace Switchboard

variable {U : Universe}

/-! ## Requests and responses -/

/-- A request to a table, or a change of its contract's signatures. -/
inductive Request (U : Universe) (κ D : Type) where
  | bind (o : String) (b : Binding U κ D)
  /-- A call on the given data; the routine's own calls are carried out by `dispatch`. -/
  | call (o : String) (A R : Ty U) (args : A.Val) (dispatch : Dispatch U κ D) (data : D)
  | isBound (o : String)
  /-- From now on, names have these signatures. -/
  | declare (signature : String → Option (Signature U))

/-- The request leaves the signatures of the contract. -/
def Request.KeepsSignatures {κ D : Type} : Request U κ D → Prop
  | declare _ => False
  | _ => True

instance {κ D : Type} : DecidablePred (Request.KeepsSignatures (U := U) (κ := κ) (D := D))
  | .declare _ => isFalse id
  | .bind _ _ | .call _ _ _ _ _ _ | .isBound _ => isTrue trivial

/-- The response to a request: how it ended, the events it reported, and for a call the data
    afterwards. -/
structure Response (U : Universe) (D : Type) where
  outcome : Outcome (Except Failure (Reply U))
  events : List Event
  data : Option D

/-- Whether a request was granted: it returned, and not with a refusal. -/
def Response.granted {D : Type} (a : Response U D) : Bool :=
  match a.outcome with
  | .returned (.ok _) => true
  | _ => false

/-- A contract as it stands, with a table for it. -/
structure Board (U : Universe) (κ D : Type) where
  contract : Contract U
  table : Table U κ D

namespace Board

variable {κ D : Type}

/-- The board of a contract whose table is empty. -/
def start (c : Contract U) : Board U κ D := ⟨c, .empty c⟩

/-- One request: the response, and the board after it. -/
def step (s : Board U κ D) : Request U κ D → Response U D × Board U κ D
  | .bind o b =>
    let r := Table.bind s.contract o b s.table
    (⟨r.outcome.map (·.map fun _ => .done), r.events, none⟩, { s with table := r.state })
  | .call o A R args dispatch x =>
    let r := s.table.call s.contract dispatch o A R args x
    (⟨r.outcome.map (·.map (.value R)), r.events, some r.state⟩, s)
  | .isBound o => (⟨.returned ((s.table.isBound s.contract o).map .flag), [], none⟩, s)
  | .declare signature =>
    (⟨.returned (.ok .done), [], none⟩, { s with contract := { s.contract with signature } })

/-- The board after a history. -/
def after (s : Board U κ D) : List (Request U κ D) → Board U κ D
  | [] => s
  | r :: h => (s.step r).2.after h

/-- The requests of a history with their responses. -/
def log (s : Board U κ D) : List (Request U κ D) → List (Request U κ D × Response U D)
  | [] => []
  | r :: h => (r, (s.step r).1) :: (s.step r).2.log h

theorem after_append (s : Board U κ D) (h h' : List (Request U κ D)) :
    s.after (h ++ h') = (s.after h).after h' := by
  induction h generalizing s with
  | nil => rfl
  | cons r h ih => exact ih _

theorem log_append (s : Board U κ D) (h h' : List (Request U κ D)) :
    s.log (h ++ h') = s.log h ++ (s.after h).log h' := by
  induction h generalizing s with
  | nil => rfl
  | cons r h ih => simp only [List.cons_append, log, after, ih]

/-! ## Accepted bindings -/

/-- The binding of `o` that an answered request brought in, if it was such a binding and was
    granted. -/
def install? (o : String) : Request U κ D × Response U D → Option (Binding U κ D)
  | (.bind o' b, a) => if o' = o ∧ a.granted then some b else none
  | _ => none

/-- The bindings of `o` that were accepted in a history, in order. -/
def accepted (s : Board U κ D) (h : List (Request U κ D)) (o : String) : List (Binding U κ D) :=
  (s.log h).filterMap (install? o)

/-- The binding of `o` that was accepted last in a history. -/
def lastAccepted (s : Board U κ D) (h : List (Request U κ D)) (o : String) :
    Option (Binding U κ D) :=
  (s.accepted h o).getLast?

theorem accepted_append (s : Board U κ D) (h h' : List (Request U κ D)) (o : String) :
    s.accepted (h ++ h') o = s.accepted h o ++ (s.after h).accepted h' o := by
  simp only [accepted, log_append, List.filterMap_append]

theorem lastAccepted_append (s : Board U κ D) (h h' : List (Request U κ D)) (o : String) :
    s.lastAccepted (h ++ h') o = ((s.after h).lastAccepted h' o).or (s.lastAccepted h o) := by
  simp only [lastAccepted, accepted_append, List.getLast?_append]

theorem lastAccepted_cons (s : Board U κ D) (r : Request U κ D) (h : List (Request U κ D))
    (o : String) :
    s.lastAccepted (r :: h) o =
      ((s.step r).2.lastAccepted h o).or (install? o (r, (s.step r).1)) := by
  have hr : s.lastAccepted [r] o = install? o (r, (s.step r).1) := by
    simp only [lastAccepted, accepted, log, List.filterMap_cons, List.filterMap_nil]
    cases install? o (r, (s.step r).1) <;> rfl
  rw [← hr]
  exact s.lastAccepted_append [r] h o

/-! ## What requests keep -/

/-- There is one slot for each listed name. -/
def Fits (s : Board U κ D) : Prop := s.table.slots.length = s.contract.operations.length

theorem start_fits (c : Contract U) : (start c : Board U κ D).Fits := Table.slots_length_empty c

/-- **What a request does to a board.**  Only an accepted binding changes the table, and of the
    contract only the signatures change. -/
theorem step_cases (s : Board U κ D) (r : Request U κ D) :
    (∃ o b i, r = .bind o b ∧ s.contract.position? o = some i ∧
      s.contract.Signs o b.params b.ret ∧ (s.step r).1.granted ∧
      (s.step r).2 = { s with table := ⟨s.table.slots.set i (some b)⟩ }) ∨
    ((∀ o, install? o (r, (s.step r).1) = none) ∧
      ∃ signature, (s.step r).2 = { s with contract := { s.contract with signature } }) := by
  cases r with
  | bind o b =>
    rcases Table.bind_cases s.contract o b s.table with ⟨i, hi, hs, h⟩ | ⟨-, e, h⟩
    · refine Or.inl ⟨o, b, i, rfl, hi, hs, ?_, ?_⟩
      · simp only [step, h]; rfl
      · simp only [step, h]
    · refine Or.inr ⟨fun o' => ?_, s.contract.signature, ?_⟩
      · simp only [install?, step, h, Response.granted, Outcome.map, Except.map]
        simp
      · simp only [step, h]
  | call o A R args dispatch x => exact Or.inr ⟨fun _ => rfl, s.contract.signature, rfl⟩
  | isBound o => exact Or.inr ⟨fun _ => rfl, s.contract.signature, rfl⟩
  | declare signature => exact Or.inr ⟨fun _ => rfl, signature, rfl⟩

/-- Name and operations of the contract stay. -/
theorem step_redeclares (s : Board U κ D) (r : Request U κ D) :
    ∃ signature, (s.step r).2.contract = { s.contract with signature } := by
  rcases s.step_cases r with ⟨o, b, i, -, -, -, -, h⟩ | ⟨-, signature, h⟩
  · exact ⟨s.contract.signature, by rw [h]⟩
  · exact ⟨signature, by rw [h]⟩

theorem after_redeclares (s : Board U κ D) (h : List (Request U κ D)) :
    ∃ signature, (s.after h).contract = { s.contract with signature } := by
  induction h generalizing s with
  | nil => exact ⟨s.contract.signature, rfl⟩
  | cons r h ih =>
    obtain ⟨signature, hs⟩ := s.step_redeclares r
    obtain ⟨signature', hs'⟩ := ih (s.step r).2
    exact ⟨signature', by rw [after, hs', hs]⟩

@[simp]
theorem after_operations (s : Board U κ D) (h : List (Request U κ D)) :
    (s.after h).contract.operations = s.contract.operations := by
  obtain ⟨signature, hs⟩ := s.after_redeclares h
  rw [hs]

@[simp]
theorem after_name (s : Board U κ D) (h : List (Request U κ D)) :
    (s.after h).contract.name = s.contract.name := by
  obtain ⟨signature, hs⟩ := s.after_redeclares h
  rw [hs]

/-- Names keep their positions. -/
theorem after_position? (s : Board U κ D) (h : List (Request U κ D)) (o : String) :
    (s.after h).contract.position? o = s.contract.position? o := by
  simp only [Contract.position?, after_operations]

theorem step_fits {s : Board U κ D} (hs : s.Fits) (r : Request U κ D) : (s.step r).2.Fits := by
  unfold Fits at hs ⊢
  rcases s.step_cases r with ⟨o, b, i, -, -, -, -, h⟩ | ⟨-, signature, h⟩
  · rw [h, ← hs]; exact List.length_set
  · rw [h]; exact hs

/-! ## Slots and accepted bindings -/

/-- **The slot of a name changes only by an accepted binding of that name**, which it then
    holds. -/
theorem slot?_step {s : Board U κ D} (hs : s.Fits) {o : String} {i : Nat}
    (hi : s.contract.position? o = some i) (r : Request U κ D) :
    (s.step r).2.table.slot? i = (install? o (r, (s.step r).1)).or (s.table.slot? i) := by
  rcases s.step_cases r with ⟨o', b, j, rfl, hj, -, hg, h⟩ | ⟨hn, signature, h⟩
  · rw [h]
    by_cases ho : o' = o
    · subst ho
      obtain rfl : i = j := Option.some.inj (hi.symm.trans hj)
      have hlt : i < s.table.slots.length := by rw [hs]; exact Contract.position?_lt hi
      rw [Table.slot?_set_self hlt]
      simp [install?, hg]
    · -- another name stands at another position
      have hij : j ≠ i := by
        rintro rfl
        exact ho (Contract.position?_inj hj hi)
      rw [Table.slot?_set_other _ hij]
      simp [install?, ho]
  · rw [h, hn]; rfl

/-- **The slot of a name holds the last binding accepted for it**, or what it held at first. -/
theorem slot?_after {s : Board U κ D} (hs : s.Fits) {o : String} {i : Nat}
    (hi : s.contract.position? o = some i) (h : List (Request U κ D)) :
    (s.after h).table.slot? i = (s.lastAccepted h o).or (s.table.slot? i) := by
  induction h generalizing s with
  | nil => rfl
  | cons r h ih =>
    have hi' : (s.step r).2.contract.position? o = some i := by
      rw [← hi]; exact s.after_position? [r] o
    rw [after, ih (step_fits hs r) hi', slot?_step hs hi, lastAccepted_cons, Option.or_assoc]

/-- From an empty table on, the slot of a name holds the last binding accepted for it. -/
theorem slot?_after_start {c : Contract U} {h : List (Request U κ D)} {o : String} {i : Nat}
    (hi : ((start c : Board U κ D).after h).contract.position? o = some i) :
    ((start c).after h).table.slot? i = (start c : Board U κ D).lastAccepted h o := by
  have hfits : (start c : Board U κ D).Fits := start_fits c
  rw [after_position?] at hi
  rw [slot?_after hfits hi, start, Table.slot?_empty, Option.or_none]

/-- A binding is accepted only for a listed name, and with the types signed at that moment. -/
theorem signs_of_install? {s : Board U κ D} {r : Request U κ D} {o : String} {b : Binding U κ D}
    (hb : install? o (r, (s.step r).1) = some b) :
    ∃ i, s.contract.position? o = some i ∧ s.contract.Signs o b.params b.ret := by
  rcases s.step_cases r with ⟨o', b', i, rfl, hi, hs, -, -⟩ | ⟨hn, -⟩
  · simp only [install?] at hb
    split at hb
    · rename_i ho
      obtain rfl := ho.1
      cases hb
      exact ⟨i, hi, hs⟩
    · cases hb
  · rw [hn] at hb; cases hb

/-- A name for which a binding was accepted is listed. -/
theorem listed_of_lastAccepted {s : Board U κ D} {h : List (Request U κ D)} {o : String}
    {b : Binding U κ D} (hb : s.lastAccepted h o = some b) : o ∈ s.contract.operations := by
  induction h generalizing s with
  | nil => cases hb
  | cons r h ih =>
    rw [lastAccepted_cons] at hb
    rcases Option.or_eq_some_iff.1 hb with hb | ⟨-, hb⟩
    · rw [← s.after_operations [r]]; exact ih hb
    · obtain ⟨i, hi, -⟩ := signs_of_install? hb
      exact Contract.exists_position?_iff.1 ⟨i, hi⟩

/-- A binding that was accepted last stands in the slot of its name. -/
theorem exists_slot?_of_lastAccepted {c : Contract U} {h : List (Request U κ D)} {o : String}
    {b : Binding U κ D} (hb : (start c : Board U κ D).lastAccepted h o = some b) :
    ∃ i, ((start c : Board U κ D).after h).contract.position? o = some i ∧
      ((start c).after h).table.slot? i = some b := by
  obtain ⟨i, hi⟩ := Contract.exists_position?_iff.2 (listed_of_lastAccepted hb)
  rw [← after_position? _ h] at hi
  exact ⟨i, hi, (slot?_after_start hi).trans hb⟩

/-! ## Fixed signatures -/

theorem step_contract (s : Board U κ D) {r : Request U κ D} (hr : r.KeepsSignatures) :
    (s.step r).2.contract = s.contract := by
  cases r with
  | declare signature => exact hr.elim
  | _ => rfl

theorem after_contract (s : Board U κ D) {h : List (Request U κ D)}
    (hh : ∀ r ∈ h, r.KeepsSignatures) : (s.after h).contract = s.contract := by
  induction h generalizing s with
  | nil => rfl
  | cons r h ih =>
    obtain ⟨hr, hh⟩ := List.forall_mem_cons.1 hh
    rw [after, ih _ hh, step_contract s hr]

/-- **Where signatures stay, what was accepted has the signed types.** -/
theorem signs_of_lastAccepted {s : Board U κ D} {h : List (Request U κ D)}
    (hh : ∀ r ∈ h, r.KeepsSignatures) {o : String} {b : Binding U κ D}
    (hb : s.lastAccepted h o = some b) : s.contract.Signs o b.params b.ret := by
  induction h generalizing s with
  | nil => cases hb
  | cons r h ih =>
    obtain ⟨hr, hh⟩ := List.forall_mem_cons.1 hh
    rw [lastAccepted_cons] at hb
    rcases Option.or_eq_some_iff.1 hb with hb | ⟨-, hb⟩
    · rw [← step_contract s hr]; exact ih hh hb
    · obtain ⟨i, -, hs⟩ := signs_of_install? hb
      exact hs

end Board

end Switchboard
