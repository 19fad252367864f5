/-
  The bytes that events report.

  A console reports the length of its line, which it counts from the message, and a greeting counts
  its line once more.  What the writer took is another number, added up over as many offers as its
  answers make necessary (`Writer.taken`).

  * `WriteReply.offer`: what a script takes of an offer, said without the bytes;
  * `transfer_offer`, `writeLine_taken`: what arrives is what the offers took;
  * `flush_decides`: what a line ends with once all of it was taken;
  * `events_account_for_bytes`: the numbers reported are the number of bytes taken, and nothing is
    reported of a line that failed.
-/
import Switchboard.Proofs.Greeting.Runs

namespace Switchboard

variable {U : Universe}

/-! ## Offers -/

namespace WriteReply

/-- The number of bytes that an answer takes of an offer of `n`. -/
def takes : WriteReply → Nat → Nat
  | accept k, n => min k n
  | fail _, _ => 0
  | panic, _ => 0

/-- Offer `n` bytes until all of them are taken: the number of bytes taken, added up over the offers,
    and the answers left over, if writing did not end before. -/
def offer : List WriteReply → Nat → Nat × Option (List WriteReply)
  | replies, 0 => (0, some replies)
  | [], n => (n, some [])
  | r :: replies, n =>
    if r.GoesOn then
      let rest := offer replies (n - r.takes n)
      (r.takes n + rest.1, rest.2)
    else (r.takes n, none)

theorem offer_cons (r : WriteReply) (replies : List WriteReply) {n : Nat} (hn : n ≠ 0) :
    offer (r :: replies) n =
      if r.GoesOn then
        (r.takes n + (offer replies (n - r.takes n)).1, (offer replies (n - r.takes n)).2)
      else (r.takes n, none) := by
  cases n with
  | zero => exact absurd rfl hn
  | succ n => rfl

end WriteReply

/-- A transfer delivers what the offers take, and succeeds iff writing does not end before. -/
theorem transfer_offer (replies : List WriteReply) (data : Bytes) :
    let t := transfer replies data
    WriteReply.offer replies data.length =
      (t.delivered.length, if t.outcome = .done then some t.left else none) := by
  have hlen {data : Bytes} (hd : data ≠ []) : data.length ≠ 0 := mt List.length_eq_zero_iff.1 hd
  fun_induction transfer replies data with
  | case1 replies => simp [WriteReply.offer]
  | case2 data hd => cases data <;> rfl
  | case3 replies data hd =>
    rw [WriteReply.offer_cons _ _ (hlen hd)]
    simp [WriteReply.takes, WriteReply.GoesOn]
  | case4 n replies data hd hn t ih =>
    have hgo : (WriteReply.accept n).GoesOn := Nat.pos_of_ne_zero hn
    have hleft : data.length - min n data.length = (data.drop n).length := by
      rw [List.length_drop]
      omega
    rw [WriteReply.offer_cons _ _ (hlen hd), if_pos hgo, WriteReply.takes, hleft, ih]
    simp [t]
  | case5 e replies data hd hk ih =>
    have hgo : (WriteReply.fail e).GoesOn := hk
    rw [WriteReply.offer_cons _ _ (hlen hd), if_pos hgo, WriteReply.takes, Nat.sub_zero, ih]
    simp
  | case6 e replies data hd hk =>
    have hstop : ¬ (WriteReply.fail e).GoesOn := hk
    rw [WriteReply.offer_cons _ _ (hlen hd), if_neg hstop]
    simp [WriteReply.takes]
  | case7 replies data hd =>
    rw [WriteReply.offer_cons _ _ (hlen hd)]
    rfl

/-- The number of bytes that a writer takes of a message and then of the newline, which is offered
    if the message was taken whole. -/
def Writer.taken (w : Writer) (message : String) : Nat :=
  match w.script with
  | .replies writes _ =>
    let forMessage := WriteReply.offer writes (byteLength message)
    forMessage.1 + match forMessage.2 with
      | some left => (WriteReply.offer left 1).1
      | none => 0
  | .refusal _ => 0

theorem Writer.writeLine_taken (w : Writer) (message : String) :
    (w.writeLine message).delivered.length = w.taken message := by
  rw [(w.writeLine_like_script message).delivered, taken]
  rcases w.script with ⟨writes, flushes⟩ | r
  · have hm := transfer_offer writes (utf8 message)
    simp only [Script.writer, writeLine, writeAll, utf8_newline, byteLength, hm]
    rcases transfer writes (utf8 message) with ⟨_ | e | m, bytes, left⟩
    · have hn : WriteReply.offer left 1 = _ := transfer_offer left [0x0a]
      simp only [Delivery.andThen_done, if_true, hn]
      rcases transfer left [0x0a] with ⟨_ | e | m, bytes', left'⟩
      · simp only [Delivery.andThen_done, flush_scripted, List.append_nil, List.length_append]
      · exact List.length_append
      · exact List.length_append
    · rfl
    · rfl
  · rw [Script.writer, writeLine_refusing]
    rfl

/-- A line that was taken whole ends as its flush does. -/
theorem Writer.flush_decides {b : Nat} {writes : List WriteReply} {flushes : List FlushReply}
    {message : String} :
    let d := (scripted b writes flushes).writeLine message
    d.delivered.length = byteLength message + 1 →
      d.outcome = (flushes.head?.getD .done).ending := by
  intro d hall
  rcases writeLine_cases b writes message with
    ⟨used, left, -, -, -, h⟩ | ⟨used, r, left, -, -, -, h⟩
  · exact congrArg Delivery.outcome (h flushes)
  · have hle : d.delivered.length ≤ byteLength message := by
      simp only [d, h]
      exact List.length_take_le' _ _
    omega

/-! ## Reports -/

namespace Console

/-- **Events account for the bytes taken.**  Whatever the console, the message and the answers of
    its writer, the console's own writing reports one line if it succeeds and nothing otherwise; the
    number that it reports is that of the bytes that its offers took, and as many are added to the
    output.  A greeting of a wired console reports its two calls, and then, if it succeeds, the
    line written and the greeting, of which the first is longer by one byte, the newline.  If it
    fails, nothing follows the calls, not even if all bytes were taken and just the flush failed. -/
theorem events_account_for_bytes :
    (∀ {κ : Type} (contracts : κ → Contract U) (depth : Nat) (x : Instance U κ Outlet)
        (message : String),
      let r := Instance.perform contracts depth (write message) x
      let taken := x.data.writer.taken message
      (∃ bytes, x.data.Gains bytes r.state.data ∧ bytes.length = taken) ∧
      (r.outcome = .returned (.ok ()) → r.events = [.wroteLine taken]) ∧
      (r.outcome ≠ .returned (.ok ()) → r.events = [])) ∧
    ∀ (depth : Nat) (g : Greeting) (outlet : Outlet),
      let line := "hello" ++ g.suffix
      let r := Instance.perform (U := U) Standard.contract (depth + 1) (greet g) (wired outlet)
      let calls := [.invoking "Readable" "read", .invoking "Writable" "write"]
      ∃ bytes, outlet.Gains bytes r.state.data ∧
        bytes.length = outlet.writer.taken line ∧
        (∀ text, r.outcome = .returned (.ok text) →
          text = line ∧ bytes.length = byteLength text + 1 ∧
          r.events = calls ++ [.wroteLine bytes.length, .greeted (byteLength text)]) ∧
        ((∀ text, r.outcome ≠ .returned (.ok text)) → r.events = calls) ∧
        ∀ b writes reply flushes, outlet.writer = .scripted b writes (reply :: flushes) →
          bytes.length = byteLength line + 1 →
          r.outcome = reply.ending.toGreeting line ∧ (reply ≠ .done → r.events = calls) := by
  refine ⟨?_, ?_⟩
  · intro κ contracts depth x message r taken
    let d := x.data.writer.writeLine message
    have htaken : d.delivered.length = taken := x.data.writer.writeLine_taken message
    have hwrote := x.data.writer.writeLine_wrote message
    have hr : r = _ := perform_write contracts depth message x
    refine ⟨⟨d.delivered, ?_, htaken⟩, fun hok => ?_, fun hfail => ?_⟩
    · rw [hr]
      exact x.data.gains_receive message
    · rw [hr] at hok ⊢
      have hdone := WriteOutcome.toOutcome_eq_ok_iff.1 hok
      rw [← htaken, hwrote.whole hdone]
      simp [hdone, byteLength]
    · rw [hr] at hfail ⊢
      exact if_neg fun hdone => hfail (WriteOutcome.toOutcome_eq_ok_iff.2 hdone)
  · intro depth g outlet line r calls
    let d := outlet.writer.writeLine line
    have hwrote := outlet.writer.writeLine_wrote line
    have hr : r = ⟨d.outcome.toGreeting line, wired (outlet.receive d), calls ++
        if d.outcome = .done then [.wroteLine (byteLength line + 1), .greeted (byteLength line)]
        else []⟩ := greet_delivers depth g outlet
    have hfailed : d.outcome ≠ .done → r.events = calls := by
      intro h
      simp [hr, h]
    refine ⟨d.delivered, ?_, outlet.writer.writeLine_taken line, ?_, ?_, ?_⟩
    · rw [hr]
      exact outlet.gains_receive line
    · intro text hok
      rw [hr] at hok
      obtain ⟨hdone, rfl⟩ := WriteOutcome.toGreeting_eq_ok_iff.1 hok
      have hlen : d.delivered.length = byteLength line + 1 := by
        rw [hwrote.whole hdone]
        simp [byteLength]
      refine ⟨rfl, hlen, ?_⟩
      rw [hlen]
      simp [hr, hdone]
    · intro hfail
      refine hfailed fun hdone => hfail line ?_
      simp [hr, hdone, WriteOutcome.toGreeting]
    · intro b writes reply flushes hw hall
      have hflush : d.outcome = reply.ending := by
        simp only [d, hw] at hall ⊢
        exact Writer.flush_decides hall
      refine ⟨?_, fun hreply => hfailed ?_⟩
      · rw [hr, hflush]
      · rw [hflush]
        cases reply <;> simp [FlushReply.ending] at hreply ⊢

/-- Short writes and an interruption: whether the line is reported depends on the flush alone, and
    nine bytes arrive in either case. -/
theorem events_account_for_bytes_flush :
    let outlet (reply : FlushReply) : Outlet := ⟨.new (.scripted 0
      [.accept 2, .fail (.simple .interrupted), .accept 3, .accept 7] [reply]), [.new [0x3e]]⟩
    let console (reply : FlushReply) : Console .empty := wired (outlet reply)
    let written := Instance.perform Standard.contract 0 (write "é") (console .done)
    let greeted (reply : FlushReply) :=
      Instance.perform Standard.contract 1 (greet { suffix := " é" }) (console reply)
    let calls := [.invoking "Readable" "read", .invoking "Writable" "write"]
    let failure : FlushReply := .fail (.system .brokenPipe)
    written.events = [.wroteLine 3] ∧
      (greeted .done).events = calls ++ [.wroteLine 9, .greeted 8] ∧
      (greeted failure).outcome = .returned (.error (.stream (.system .brokenPipe))) ∧
      (greeted failure).events = calls ∧
      ∃ bytes, bytes.length = 9 ∧ (outlet failure).Gains bytes (greeted failure).state.data := by
  intro outlet console written greeted calls failure
  refine ⟨?_, ?_, ?_⟩
  · exact (events_account_for_bytes.1 Standard.contract 0 (console .done) "é").2.1 rfl
  · obtain ⟨bytes, -, htaken, hok, -, hflush⟩ :=
      events_account_for_bytes.2 0 { suffix := " é" } (outlet .done)
    obtain ⟨houtcome, -⟩ := hflush _ _ _ _ rfl htaken
    obtain ⟨-, -, hevents⟩ := hok "hello é" houtcome
    rw [htaken] at hevents
    exact hevents
  · obtain ⟨bytes, hgains, htaken, -, -, hflush⟩ :=
      events_account_for_bytes.2 0 { suffix := " é" } (outlet failure)
    obtain ⟨houtcome, hevents⟩ := hflush _ _ _ _ rfl htaken
    exact ⟨houtcome, hevents nofun, bytes, htaken, hgains⟩

end Console

end Switchboard
