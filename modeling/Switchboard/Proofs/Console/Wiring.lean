/-
  Wired consoles.

  A console is wired when its tables hold its own reading and writing (`Console.wired`).  There are
  two ways to wire a console, and from any console that has one slot per operation both lead to the
  same one.  Every console at a desk has one slot per operation, whatever was done to it before.

  * `Instance.Fits`: there is one slot per operation in each table;
  * `bindDefaults_eq`, `wire_eq`, `run_eq`: what the two wirings do, and what follows one in a run;
  * `DeskAction.tables_apply_cases`: what an action at a desk does to the tables of its console;
  * `Desk.run_fits`: every console at a desk can be wired;
  * `Desk.step_wired`: what keeps a console wired.
-/
import Switchboard.Bench.Desk
import Switchboard.Proofs.Session.Frame

namespace Switchboard

variable {U : Universe}

/-! ## Slots for every operation -/

namespace Instance

variable {κ D : Type} {contracts : κ → Contract U}

/-- Each table has one slot per operation of its contract. -/
def Fits (contracts : κ → Contract U) (x : Instance U κ D) : Prop :=
  ∀ k, (x.tables k).slots.length = (contracts k).operations.length

theorem fresh_fits (contracts : κ → Contract U) (data : D) : (fresh contracts data).Fits contracts :=
  fun k => Table.slots_length_empty (contracts k)

end Instance

theorem Action.apply_fits {κ D : Type} [DecidableEq κ] {contracts : κ → Contract U}
    {x : Instance U κ D} (hx : x.Fits contracts) (depth : Nat) (a : Action U κ D) :
    (a.apply contracts depth x).state.Fits contracts := by
  intro k
  rcases a.table_apply_cases contracts depth x k with h | h | ⟨o, b, p, -, -, h⟩
  · rw [h]
    exact hx k
  · rw [h]
    exact Table.slots_length_empty (contracts k)
  · rw [h, ← hx k]
    exact List.length_set

/-! ## Wiring -/

/-- An effect that returned is followed by the next one, on the state it left. -/
theorem Effect.bind_run_of_returned {σ α β : Type} {x : Effect σ α} {f : α → Effect σ β} {s s' : σ}
    {a : α} {es : List Event} (h : x s = ⟨.returned a, s', es⟩) :
    (x >>= f) s = (f a s').after es := by
  rw [bind_run, h]
  rfl

namespace Standard

/-- The operation of a standard contract. -/
def operation (U : Universe) : Standard → Declaration U
  | readable => read
  | writable => write

theorem position?_operation (k : Standard) :
    (k.contract (U := U)).position? (k.operation U).name = some 0 := by
  cases k <;> rfl

theorem signs_operation (k : Standard) :
    k.contract.Signs (k.operation U).name (.tuple (k.operation U).params) (k.operation U).ret := by
  cases k <;> exact ⟨_, rfl, rfl, rfl⟩

/-- A table for a standard contract has a single slot. -/
theorem exists_slots_eq {k : Standard} {κ D : Type} {t : Table U κ D}
    (ht : t.slots.length = (k.contract (U := U)).operations.length) : ∃ b, t.slots = [b] := by
  rw [← List.length_eq_one_iff, ht]
  cases k <;> rfl

end Standard

namespace Console

/-- A console's own routine for the operation of a standard contract, to be bound. -/
def ownBinding : Standard → Binding U Standard Outlet
  | .readable => readBinding
  | .writable => writeBinding

/-- The tables that hold a console's own reading and writing. -/
def ownTables (k : Standard) : Table U Standard Outlet :=
  ⟨[some (ownBinding k)]⟩

/-- A wired console. -/
def wired (outlet : Outlet) : Console U :=
  ⟨outlet, ownTables⟩

theorem wired_fits (outlet : Outlet) : (wired (U := U) outlet).Fits Standard.contract := by
  intro k
  cases k <;> rfl

theorem capabilities_wired (outlet : Outlet) : (wired (U := U) outlet).capabilities = .all := by
  show (Capabilities.empty.set .readable true).set .writable true = .all
  decide

theorem signs_ownBinding (k : Standard) :
    k.contract.Signs (k.operation U).name (ownBinding k).params (ownBinding (U := U) k).ret := by
  cases k <;> exact Standard.signs_operation _

/-- Binding a console's own routine is accepted, and leaves nothing of what was bound before. -/
theorem onTable_bind_own {c : Console U} (hc : c.Fits Standard.contract) (k : Standard) :
    Instance.onTable k (Table.bind k.contract (k.operation U).name (ownBinding k)) c =
      ⟨.returned (.ok ()), c.withTable k (ownTables k),
        [.bound k.name (k.operation U).name ((c.tables k).slot? 0).isSome]⟩ := by
  have hlisted : (k.operation U).name ∈ k.contract.operations :=
    Contract.exists_position?_iff.1 ⟨0, k.position?_operation⟩
  rcases Table.bind_cases k.contract (k.operation U).name (ownBinding k) (c.tables k) with
    ⟨i, hi, -, h⟩ | ⟨hn, -⟩
  · obtain rfl : 0 = i := Option.some.inj (k.position?_operation.symm.trans hi)
    obtain ⟨b, hb⟩ := Standard.exists_slots_eq (hc k)
    have hset : (⟨(c.tables k).slots.set 0 (some (ownBinding k))⟩ : Table U Standard Outlet) =
        ownTables k := by
      rw [hb]
      rfl
    simp only [Instance.onTable, Effect.zoom, h, hset]
    rfl
  · exact absurd ⟨hlisted, signs_ownBinding k⟩ hn

theorem withTable_own (c : Console U) :
    (c.withTable .readable (ownTables .readable)).withTable .writable (ownTables .writable) =
      wired c.data := by
  have htables : ((c.withTable .readable (ownTables .readable)).withTable .writable
      (ownTables .writable)).tables = ownTables := by
    funext k
    cases k <;> rfl
  rw [wired, ← htables]
  rfl

/-- The events with which a wiring reports the two bindings. -/
def wiringEvents (c : Console U) : List Event :=
  [.bound "Readable" "read" ((c.tables .readable).slot? 0).isSome,
    .bound "Writable" "write" ((c.tables .writable).slot? 0).isSome]

/-- **Binding the defaults succeeds, and leaves the console's own routines in its tables.** -/
theorem bindDefaults_eq {c : Console U} (hc : c.Fits Standard.contract) :
    bindDefaults c = ⟨.returned (.ok ()), wired c.data, c.wiringEvents⟩ := by
  let c' := c.withTable .readable (ownTables .readable)
  have hc' : c'.Fits Standard.contract := by
    intro k
    cases k with
    | readable => rfl
    | writable => exact hc .writable
  have hread : Instance.onTable .readable
        (Table.bind Standard.readable.contract "read" readBinding) c =
      ⟨.returned (.ok ()), c', _⟩ := onTable_bind_own hc .readable
  have hwrite : Instance.onTable .writable
        (Table.bind Standard.writable.contract "write" writeBinding) c' =
      ⟨.returned (.ok ()), c'.withTable .writable (ownTables .writable), _⟩ :=
    onTable_bind_own hc' .writable
  rw [withTable_own] at hwrite
  rw [bindDefaults, Effect.bind_run_of_returned hread]
  show (Instance.onTable .writable _ c').after _ = _
  rw [hwrite]
  rfl

/-- Wiring is binding the defaults, and a report of the capabilities if that succeeded. -/
theorem wire_eq_bindDefaults :
    wire (U := U) = bindDefaults >>= fun
      | .error e => pure (.error e)
      | .ok () => fun c => ⟨.returned (.ok ()), c, [.wired c.capabilities]⟩ := by
  simp only [wire, bindDefaults, bind_assoc]
  congr
  funext r
  rcases r with e | _ <;> rfl

/-- **Wiring succeeds, and leaves the console's own routines in its tables.** -/
theorem wire_eq {c : Console U} (hc : c.Fits Standard.contract) :
    wire c = ⟨.returned (.ok ()), wired c.data, c.wiringEvents ++ [.wired .all]⟩ := by
  rw [wire_eq_bindDefaults, Effect.bind_run_of_returned (bindDefaults_eq hc),
    ← capabilities_wired c.data]
  rfl

/-- A run greets with the console's own routines, whatever was bound before. -/
theorem run_eq {c : Console U} (hc : c.Fits Standard.contract) (depth : Nat) (g : Greeting) :
    run depth g c =
      (Instance.perform Standard.contract (depth + 1) (greet g) (wired c.data)).after
        (c.wiringEvents ++ [.wired .all]) := by
  rw [run, Effect.bind_run_of_returned (wire_eq hc)]

end Console

/-! ## Consoles at a desk -/

/-- Whether the action is one that may change a table. -/
def Action.changesTables {κ D : Type} : Action U κ D → Bool
  | bind _ _ _ => true
  | clear _ => true
  | _ => false

theorem Action.tables_apply {κ D : Type} [DecidableEq κ] {a : Action U κ D}
    (ha : a.changesTables = false) (contracts : κ → Contract U) (depth : Nat) (x : Instance U κ D) :
    (a.apply contracts depth x).state.tables = x.tables := by
  cases a with
  | bind k o b => cases ha
  | clear k => cases ha
  | invoke k o A R args =>
    simp only [apply, Effect.bind_pure_run]
    rfl
  | perform r =>
    simp only [apply, Effect.bind_pure_run]
    rfl
  | isBound k o => rfl
  | inspect k => rfl

namespace Bench

namespace DeskAction

theorem bindDefaults_apply {c : Console U} (hc : c.Fits Standard.contract) (depth : Nat) :
    bindDefaults.apply depth c =
      ⟨.returned (.common (.ok .done)), Console.wired c.data, c.wiringEvents⟩ := by
  simp only [apply, Effect.bind_pure_run, Console.bindDefaults_eq hc]
  rfl

theorem wire_apply {c : Console U} (hc : c.Fits Standard.contract) (depth : Nat) :
    wire.apply depth c =
      ⟨.returned (.common (.ok .done)), Console.wired c.data, c.wiringEvents ++ [.wired .all]⟩ := by
  simp only [apply, Effect.bind_pure_run, Console.wire_eq hc]
  rfl

theorem run_apply {c : Console U} (hc : c.Fits Standard.contract) (depth : Nat) (g : Greeting) :
    let r := Instance.perform Standard.contract (depth + 1) (greet g) (Console.wired (U := U) c.data)
    (run g).apply depth c =
      ⟨r.outcome.map fun line => .common (line.map .line), ⟨r.state.data, Console.ownTables⟩,
        c.wiringEvents ++ [.wired .all] ++ r.events⟩ := by
  simp only [apply, Effect.bind_pure_run, Console.run_eq hc]
  rfl

/-- **What an action at a desk does to the tables of its console.**  It does what an action on any
    instance does, or leaves the tables, or wires the console. -/
theorem tables_apply_cases {c : Console U} (hc : c.Fits Standard.contract) (depth : Nat)
    (a : DeskAction U) :
    let tables := (a.apply depth c).state.tables
    (∃ b, a = .common b ∧ tables = (b.apply Standard.contract depth c).state.tables) ∨
      tables = c.tables ∨ tables = Console.ownTables := by
  intro tables
  cases a with
  | common b => exact Or.inl ⟨b, rfl, by simp only [tables, apply, Effect.bind_pure_run]⟩
  | read =>
    refine Or.inr (Or.inl ?_)
    simp only [tables, apply, Effect.bind_pure_run]
    rfl
  | write message =>
    refine Or.inr (Or.inl ?_)
    simp only [tables, apply, Effect.bind_pure_run]
    rfl
  | bindDefaults =>
    refine Or.inr (Or.inr ?_)
    simp only [tables, bindDefaults_apply hc]
    rfl
  | wire =>
    refine Or.inr (Or.inr ?_)
    simp only [tables, wire_apply hc]
    rfl
  | run g =>
    refine Or.inr (Or.inr ?_)
    simp only [tables, run_apply hc]
  | detail => exact Or.inr (Or.inl rfl)
  | capabilities => exact Or.inr (Or.inl rfl)
  | intoWriter => exact Or.inr (Or.inl rfl)

theorem apply_fits {c : Console U} (hc : c.Fits Standard.contract) (depth : Nat) (a : DeskAction U) :
    (a.apply depth c).state.Fits Standard.contract := by
  intro k
  rcases a.tables_apply_cases hc depth with ⟨b, -, h⟩ | h | h
  · rw [h]
    exact Action.apply_fits hc depth b k
  · rw [h]
    exact hc k
  · rw [h]
    exact Console.wired_fits c.data k

/-- Whether a wired console is sure to be there and wired after the action. -/
def keepsWiring : DeskAction U → Bool
  | common a => !a.changesTables
  | intoWriter => false
  | _ => true

theorem consumes_of_keepsWiring {a : DeskAction U} (ha : a.keepsWiring) : a.consumes = false := by
  cases a <;> first | rfl | cases ha

theorem tables_of_keepsWiring {a : DeskAction U} (ha : a.keepsWiring) (depth : Nat) {c : Console U}
    (hc : c.tables = Console.ownTables) : (a.apply depth c).state.tables = Console.ownTables := by
  have hfits : c.Fits Standard.contract := by
    intro k
    rw [hc]
    exact Console.wired_fits c.data k
  rcases a.tables_apply_cases hfits depth with ⟨b, rfl, h⟩ | h | h
  · rw [h, Action.tables_apply (by simpa [keepsWiring] using ha), hc]
  · rw [h, hc]
  · exact h

end DeskAction

namespace Desk

variable {n : Nat} {d : Desk U n} {i : Fin n} {s : Seat U}

/-- The console at every seat has one slot per operation. -/
def Fits (d : Desk U n) : Prop :=
  ∀ (i : Fin n) s, d.seats.get i = some s → (d.console s).Fits Standard.contract

/-- There is a wired console at seat `i`. -/
def Wired (i : Fin n) (d : Desk U n) : Prop :=
  ∃ s, d.seats.get i = some s ∧ s.tables = Console.ownTables

theorem step_vacant (h : d.seats.get i = none) (depth : Nat) (a : DeskAction U) :
    d.step depth i a = (.consumed, d) := by
  simp only [step, h]

theorem step_seated (h : d.seats.get i = some s) (depth : Nat) (a : DeskAction U) :
    let r := a.apply depth (d.console s)
    d.step depth i a =
      (.answered ⟨r.outcome, r.events, a.shownTable.map fun k => (r.state.tables k).detail k.contract⟩
          (r.state.data.buffers.map (·.bytes.length)),
        ⟨r.state.data.buffers, d.seats.set i
          (if a.consumes then none else some ⟨r.state.data.out, r.state.tables⟩) i.isLt⟩) := by
  simp only [step, h]

theorem get_set_seats (d : Desk U n) (i j : Fin n) (seat : Option (Seat U)) :
    (d.seats.set i seat i.isLt).get j = if j = i then seat else d.seats.get j := by
  by_cases h : j = i
  · subst h
    rw [if_pos rfl]
    exact Vector.getElem_set_self j.isLt
  · have hne : (i : Nat) ≠ j := fun he => h (Fin.ext he.symm)
    rw [if_neg h]
    exact Vector.getElem_set_ne i.isLt j.isLt hne

/-- A step leaves the other seats. -/
theorem get_step_other {j : Fin n} (h : j ≠ i) (depth : Nat) (a : DeskAction U) :
    (d.step depth i a).2.seats.get j = d.seats.get j := by
  rcases hi : d.seats.get i with _ | s
  · rw [step_vacant hi]
  · rw [step_seated hi, get_set_seats, if_neg h]

/-- What is at a seat after a step there. -/
theorem get_step_self (hs : d.seats.get i = some s) (depth : Nat) (a : DeskAction U) :
    let r := a.apply depth (d.console s)
    (d.step depth i a).2.seats.get i =
      if a.consumes then none else some ⟨r.state.data.out, r.state.tables⟩ := by
  rw [step_seated hs, get_set_seats, if_pos rfl]

theorem get_start (buffers : Nat) (writers : Vector Writer n) (i : Fin n) :
    (start (U := U) buffers writers).seats.get i =
      some ⟨.new (writers.get i), fun k => .empty k.contract⟩ := by
  show (writers.map _)[i] = some (⟨.new writers[i], _⟩ : Seat U)
  simp

theorem start_fits (buffers : Nat) (writers : Vector Writer n) :
    (start (U := U) buffers writers).Fits := by
  intro i s hs
  obtain rfl := Option.some.inj ((get_start buffers writers i).symm.trans hs)
  exact Instance.fresh_fits Standard.contract _

theorem step_fits (hd : d.Fits) (depth : Nat) (i : Fin n) (a : DeskAction U) :
    (d.step depth i a).2.Fits := by
  intro j s' hs'
  by_cases h : j = i
  · subst h
    rcases hj : d.seats.get j with _ | s
    · rw [step_vacant hj, hj] at hs'
      cases hs'
    · rw [get_step_self hj] at hs'
      split at hs'
      · cases hs'
      · cases hs'
        exact a.apply_fits (hd j s hj) depth
  · rw [get_step_other h] at hs'
    exact hd j s' hs'

/-- **Every console at a desk has one slot per operation**, whatever was done before. -/
theorem run_fits (hd : d.Fits) (depth : Nat) (steps : List (Fin n × DeskAction U)) :
    (d.run depth steps).2.Fits := by
  induction steps generalizing d with
  | nil => exact hd
  | cons p steps ih => exact ih (step_fits hd depth p.1 p.2)

/-- A console stays at its seat as long as its writer is not taken out. -/
theorem step_occupied (hd : (d.seats.get i).isSome) (depth : Nat) {j : Fin n} {a : DeskAction U}
    (ha : j = i → a.consumes = false) : ((d.step depth j a).2.seats.get i).isSome := by
  by_cases h : i = j
  · subst h
    obtain ⟨s, hs⟩ := Option.isSome_iff_exists.1 hd
    rw [get_step_self hs, ha rfl]
    rfl
  · rw [get_step_other h]
    exact hd

theorem run_occupied (hd : (d.seats.get i).isSome) (depth : Nat)
    {steps : List (Fin n × DeskAction U)} (h : ∀ p ∈ steps, p.1 = i → p.2.consumes = false) :
    ((d.run depth steps).2.seats.get i).isSome := by
  induction steps generalizing d with
  | nil => exact hd
  | cons p steps ih =>
    exact ih (step_occupied hd depth (h p (.head _))) fun q hq => h q (.tail _ hq)

/-- A wired console stays wired in steps at other seats, and in those at its own that keep it so. -/
theorem step_wired (hd : d.Wired i) (depth : Nat) {j : Fin n} {a : DeskAction U}
    (ha : j = i → a.keepsWiring) : (d.step depth j a).2.Wired i := by
  obtain ⟨s, hs, htables⟩ := hd
  by_cases h : i = j
  · subst h
    let r := a.apply depth (d.console s)
    refine ⟨⟨r.state.data.out, r.state.tables⟩, ?_,
      DeskAction.tables_of_keepsWiring (ha rfl) depth htables⟩
    rw [get_step_self hs, DeskAction.consumes_of_keepsWiring (ha rfl)]
    rfl
  · exact ⟨s, (get_step_other h depth a).trans hs, htables⟩

/-- The desk with the console at seat `i` wired. -/
def rewired (d : Desk U n) (i : Fin n) (out : Lock Writer) : Desk U n :=
  ⟨d.buffers, d.seats.set i (some ⟨out, Console.ownTables⟩) i.isLt⟩

theorem rewired_wired (d : Desk U n) (i : Fin n) (out : Lock Writer) : (d.rewired i out).Wired i :=
  ⟨_, (get_set_seats d i i _).trans (if_pos rfl), rfl⟩

theorem step_bindDefaults (hd : d.Fits) (hs : d.seats.get i = some s) (depth : Nat) :
    d.step depth i .bindDefaults =
      (.answered ⟨.returned (.common (.ok .done)), (d.console s).wiringEvents, none⟩
        (d.buffers.map (·.bytes.length)), d.rewired i s.out) := by
  rw [step_seated hs, DeskAction.bindDefaults_apply (hd i s hs)]
  rfl

theorem step_wire (hd : d.Fits) (hs : d.seats.get i = some s) (depth : Nat) :
    d.step depth i .wire =
      (.answered ⟨.returned (.common (.ok .done)),
        (d.console s).wiringEvents ++ [.wired .all], none⟩
        (d.buffers.map (·.bytes.length)), d.rewired i s.out) := by
  rw [step_seated hs, DeskAction.wire_apply (hd i s hs)]
  rfl

end Desk

end Bench

end Switchboard
