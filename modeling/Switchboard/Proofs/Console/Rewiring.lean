/-
  The two wirings are one.

  A console can be wired by itself or from outside, and the second way reports the capabilities at
  the end.  Apart from that report they cannot be told apart: both put the console's own routines in
  the place of whatever was bound, so that each undoes what the other found, and a second wiring
  finds nothing to change.

  * `Wiring`: the two ways, with what they report;
  * `step_wiring`: what a wiring does to a console, whatever was done to it before;
  * `rewired_rewired`: only the last wiring counts;
  * `wirings_interchangeable`: the two ways, once, twice and in a row, from any state of a console.
-/
import Switchboard.Proofs.Console.Native

namespace Switchboard.Bench

variable {U : Universe}

/-- The two ways to wire a console: by itself, or from outside with a report at the end. -/
inductive Wiring where
  | byItself
  | fromOutside

namespace Wiring

def action : Wiring → DeskAction U
  | byItself => .bindDefaults
  | fromOutside => .wire

/-- What a wiring reports after its two bindings. -/
def report : Wiring → List Event
  | byItself => []
  | fromOutside => [.wired .all]

/-- What a wiring reports, given whether reading and writing were bound before. -/
def events (w : Wiring) (read write : Bool) : List Event :=
  [.bound "Readable" "read" read, .bound "Writable" "write" write] ++ w.report

end Wiring

namespace Desk

variable {n : Nat} {d : Desk U n} {i : Fin n} {s : Seat U}

/-- The operation of a standard contract is bound iff the only slot of its table is filled. -/
theorem isBound_operation (k : Standard) (t : Table U Standard Outlet) :
    t.isBound k.contract (k.operation U).name = .ok (t.slot? 0).isSome := by
  rw [Table.isBound, Contract.resolve_eq_ok_iff.2 k.position?_operation]
  rfl

/-- **What a wiring does.**  It succeeds, reports what was bound before, and leaves the console
    wired. -/
theorem step_wiring (hd : d.Fits) (hs : d.seats.get i = some s) (depth : Nat) (w : Wiring)
    {read write : Bool}
    (hread : (s.tables .readable).isBound Standard.readable.contract "read" = .ok read)
    (hwrite : (s.tables .writable).isBound Standard.writable.contract "write" = .ok write) :
    d.step depth i w.action =
      (.answered ⟨.returned (.common (.ok .done)), w.events read write, none⟩
        (d.buffers.map (·.bytes.length)), d.rewired i s.out) := by
  obtain rfl := Except.ok.inj ((isBound_operation .readable (s.tables .readable)).symm.trans hread)
  obtain rfl := Except.ok.inj ((isBound_operation .writable (s.tables .writable)).symm.trans hwrite)
  cases w with
  | byItself => exact step_bindDefaults hd hs depth
  | fromOutside => exact step_wire hd hs depth

/-- Of two wirings in a row only the last counts. -/
theorem rewired_rewired (d : Desk U n) (i : Fin n) (out out' : Lock Writer) :
    (d.rewired i out).rewired i out' = d.rewired i out' := by
  simp only [rewired, Vector.set_set]

theorem get_rewired (d : Desk U n) (i : Fin n) (out : Lock Writer) :
    (d.rewired i out).seats.get i = some ⟨out, Console.ownTables⟩ :=
  (get_set_seats d i i _).trans (if_pos rfl)

/-- Wiring a wired console changes nothing, and reports that both operations were bound. -/
theorem step_wiring_rewired (hd : d.Fits) (hs : d.seats.get i = some s) (depth : Nat)
    (w : Wiring) :
    let wired := d.rewired i s.out
    wired.step depth i w.action =
      (.answered ⟨.returned (.common (.ok .done)), w.events true true, none⟩
        (d.buffers.map (·.bytes.length)), wired) := by
  intro wired
  have hfits : wired.Fits := by
    have := step_fits hd depth i .bindDefaults
    rwa [step_bindDefaults hd hs] at this
  have hstep := step_wiring hfits (get_rewired d i s.out) depth w (isBound_operation .readable _)
    (isBound_operation .writable _)
  rwa [rewired_rewired] at hstep

/-- The console `s` at seat `i` is wired alike in either way, and `read` and `write` tell whether its
    operations were bound before. -/
structure WiresAlike (depth : Nat) (d : Desk U n) (i : Fin n) (s : Seat U) (read write : Bool) :
    Prop where
  isBound_read : (s.tables .readable).isBound Standard.readable.contract "read" = .ok read
  isBound_write : (s.tables .writable).isBound Standard.writable.contract "write" = .ok write
  /-- Wiring succeeds, reports what was bound before and leads to the same desk, in which the console
      keeps its writer and the others are as they were. -/
  wire : ∀ w : Wiring, d.step depth i w.action =
    (.answered ⟨.returned (.common (.ok .done)), w.events read write, none⟩
      (d.buffers.map (·.bytes.length)), d.rewired i s.out)
  /-- Calls run the console's own routines then. -/
  call : ∀ u : Use,
    let table := (d.rewired i s.out).step depth i u.throughTable
    let native := (d.rewired i s.out).step depth i u.native
    table.2 = native.2 ∧ u.Agree table.1 native.1
  /-- Wiring once more leaves that desk, and reports that both operations were bound. -/
  again : ∀ w : Wiring, (d.rewired i s.out).step depth i w.action =
    (.answered ⟨.returned (.common (.ok .done)), w.events true true, none⟩
      (d.buffers.map (·.bytes.length)), d.rewired i s.out)
  /-- Whether wired once or twice, and however, what follows is the same. -/
  later : ∀ (first second other : Wiring) (steps : List (Fin n × DeskAction U)),
    let once := (d.step depth i first.action).2
    let twice := (once.step depth i second.action).2
    let otherwise := (d.step depth i other.action).2
    once.run depth steps = otherwise.run depth steps ∧
      twice.run depth steps = otherwise.run depth steps

/-- **The two wirings are interchangeable.**  Consoles with any writers were used in any way, and one
    of them is still there.  Wiring it succeeds in either way, reports the same two bindings with
    what was bound before, and leads to the same desk, in which the console keeps its writer and the
    others are as they were; only one of the ways reports the capabilities besides.  Whatever was
    bound before, calls then run the console's own routines.  A second wiring, in either way, leaves
    that desk and reports that both operations were bound.  So however the console is wired, once or
    twice, every sequence of steps that follows gets the same answers and leads to the same desk. -/
theorem wirings_interchangeable (depth buffers : Nat) (writers : Vector Writer n)
    (prior : List (Fin n × DeskAction U)) (i : Fin n)
    (hprior : ∀ p ∈ prior, p.1 = i → p.2.consumes = false) :
    let d := ((start buffers writers).run depth prior).2
    ∃ s read write, d.seats.get i = some s ∧ WiresAlike depth d i s read write := by
  intro d
  have hi : (d.seats.get i).isSome := run_occupied (by rw [get_start]; rfl) depth hprior
  obtain ⟨s, hs⟩ := Option.isSome_iff_exists.1 hi
  have hd : d.Fits := run_fits (start_fits buffers writers) depth prior
  have hread := isBound_operation .readable (s.tables .readable)
  have hwrite := isBound_operation .writable (s.tables .writable)
  have hwire := fun w => step_wiring hd hs depth w hread hwrite
  have hagain := step_wiring_rewired hd hs depth
  refine ⟨s, _, _, hs, hread, hwrite, hwire,
    step_throughTable (d.rewired_wired i s.out) depth, hagain, fun first second other steps => ?_⟩
  intro once twice otherwise
  have honce : once = d.rewired i s.out := congrArg Prod.snd (hwire first)
  have htwice : twice = d.rewired i s.out := by
    simp only [twice, honce, hagain]
  have hotherwise : otherwise = d.rewired i s.out := congrArg Prod.snd (hwire other)
  rw [honce, htwice, hotherwise]
  exact ⟨rfl, rfl⟩

/-- Reading was bound to something else and writing to nothing, while the other console wrote into
    the shared buffer: both ways report so, and what follows both of them is what follows one. -/
theorem wirings_interchangeable_override :
    let other : Binding types Standard Outlet := ⟨.tuple [], .text, fun _ => .done "other"⟩
    let prior : List (Fin 2 × DeskAction types) :=
      [(0, .common (.bind .readable "read" other)), (1, .write "x")]
    let d := ((start 1 #v[.shared 0, .shared 0]).run 0 prior).2
    (∀ p ∈ prior, p.1 = 0 → p.2.consumes = false) ∧
      (∀ w : Wiring, (d.step 0 0 w.action).1 =
        .answered ⟨.returned (.common (.ok .done)), w.events true false, none⟩ [2]) ∧
      ∀ steps, ((d.step 0 0 .bindDefaults).2.step 0 0 .wire).2.run 0 steps =
        (d.step 0 0 .wire).2.run 0 steps := by
  intro other prior d
  have hprior : ∀ p ∈ prior, p.1 = 0 → p.2.consumes = false := by decide
  obtain ⟨s, read, write, hs, halike⟩ :=
    wirings_interchangeable 0 1 #v[.shared 0, .shared 0] prior 0 hprior
  let tables (k : Standard) : Table types Standard Outlet := .empty k.contract
  have hstart : start 1 #v[.shared 0, .shared 0] =
      ⟨[.new []], #v[some ⟨.new (.shared 0), tables⟩, some ⟨.new (.shared 0), tables⟩]⟩ := by
    simp only [start, Vector.map_mk, List.map_toArray]
    rfl
  have hbound : (d.seats.get 0).map (fun s =>
      ((s.tables .readable).isBound Standard.readable.contract "read",
        (s.tables .writable).isBound Standard.writable.contract "write")) =
      some (.ok true, .ok false) := by
    simp only [d, hstart]
    rfl
  have hwritten : d.buffers.map (·.bytes.length) = [2] := by
    simp only [d, hstart]
    rfl
  rw [hs, Option.map_some, halike.isBound_read, halike.isBound_write] at hbound
  cases hbound
  refine ⟨hprior, fun w => ?_,
    fun steps => (halike.later .byItself .fromOutside .fromOutside steps).2⟩
  rw [halike.wire w]
  exact congrArg _ hwritten

end Desk

end Switchboard.Bench
