/-
  The text in a shared buffer.

  Lines that were written into a buffer, however many consoles wrote them and wherever each of them
  stopped, can be read from its text one by one: each adds what is there of it as whole characters,
  and one replacement character if it stopped inside of one.  What a line adds does not depend on
  what follows.

  * `Desk.linesInto`: the lines that go into one buffer, with what became of each;
  * `contents_by_pieces`: the text of a buffer after lines.
-/
import Switchboard.Bench.Handles
import Switchboard.Proofs.Console.Sharing
import Switchboard.Proofs.Decoding

namespace Switchboard

variable {U : Universe}

theorem utf8_line (message : String) : utf8 (message ++ "\n") = utf8 message ++ [0x0a] := by
  rw [utf8_append, utf8_newline]

namespace Bench

/-- What a handle on a buffer tells of its text. -/
def contents (buffers : List SharedBuffer) (b : Nat) : HandleReply :=
  (Handles.step ⟨buffers, [some b]⟩ (.contents 0)).1

namespace Desk

variable {n : Nat}

/-- The lines at the consoles that write into buffer `b`, each with what became of it. -/
def linesInto (writers : Fin n → Writer) (b : Nat) (lines : List (Fin n × String)) :
    List (String × Delivery) :=
  ((lines.zip (deliveries writers lines)).filter fun p => (writers p.1.1).buffer? == some b).map
    fun p => (p.1.2, p.2)

theorem received_eq_flatten (writers : Fin n → Writer) (b : Nat) (lines : List (Fin n × String)) :
    received writers b lines = ((linesInto writers b lines).map (·.2.delivered)).flatten := by
  simp [received, linesInto, List.flatMap, Function.comp_def]

theorem linesInto_wrote {writers : Fin n → Writer} {b : Nat} {lines : List (Fin n × String)}
    {message : String} {d : Delivery} (h : (message, d) ∈ linesInto writers b lines) :
    ∃ w : Writer, w.Wrote message d := by
  obtain ⟨⟨⟨i, message⟩, d⟩, hmem, heq⟩ := List.mem_map.1 h
  cases heq
  obtain ⟨t, ht⟩ := List.mem_iff_getElem?.1 (List.mem_filter.1 hmem).1
  obtain ⟨hline, hd⟩ := List.getElem?_zip_eq_some.1 ht
  rw [deliveries, List.getElem?_mapIdx, hline] at hd
  rw [← Option.some.inj hd]
  exact ⟨_, Writer.writeLine_wrote _ message⟩

/-- **The text of a buffer is made of one piece for each line.**  Consoles with any writers, of which
    any may deliver into buffer `b`, are given lines in any order, and each line may stop at any byte.
    Then the text of the buffer is what it was before, followed by one piece for each line at the
    consoles of that buffer, in order.  The piece of a line that delivered `k` bytes is the longest
    front part of its text that fits into `k` bytes, with one replacement character if the cut is
    inside of a character; if all lines succeeded, the pieces are the lines. -/
theorem contents_by_pieces (depth : Nat) (buffers : List SharedBuffer)
    (consoles : Vector (Seat U) n) (lines : List (Fin n × String)) (b : Nat)
    (hb : b < buffers.length) :
    let writers := fun i : Fin n => (consoles.get i).out.value
    let run := (seated buffers consoles).run depth (lines.map fun p => (p.1, .write p.2))
    let written := linesInto writers b lines
    run.1.map (·.answer?) =
      (lines.zip (deliveries writers lines)).map (fun p => some (lineAnswer p.1.2 p.2)) ∧
    ∃ before, contents buffers b = .text before ∧
      contents run.2.buffers b =
        .text (before ++ String.join (written.map fun p => Lossy.decode p.2.delivered)) ∧
      (∀ p ∈ written, p.2.delivered <+: utf8 (p.1 ++ "\n") ∧
        CutAfter p.2.delivered.length (p.1 ++ "\n").toList (Lossy.decode p.2.delivered).toList) ∧
      ((∀ p ∈ written, p.2.outcome = .done) →
        contents run.2.buffers b = .text (before ++ String.join (written.map (·.1 ++ "\n")))) := by
  intro writers run written
  obtain ⟨hbuffers, -, hanswers⟩ := run_write depth buffers consoles lines
  have hpart : ∀ p ∈ written, p.2.delivered <+: utf8 (p.1 ++ "\n") := by
    intro p hp
    obtain ⟨w, hw⟩ := linesInto_wrote hp
    rw [utf8_line]
    exact hw.part
  have hbegins : ∀ part ∈ written.map (·.2.delivered), ∀ b ∈ part.head?, Lossy.Begins b := by
    intro part hmem
    obtain ⟨p, hp, rfl⟩ := List.mem_map.1 hmem
    exact Lossy.begins_part (hpart p hp)
  have hcontents : contents run.2.buffers b =
      .text (Lossy.decode (buffers.getD b (.new [])).bytes ++
        String.join (written.map fun p => Lossy.decode p.2.delivered)) := by
    have hheld : (run.2.buffers.getD b (.new [])).bytes =
        (buffers.getD b (.new [])).bytes ++ (written.map (·.2.delivered)).flatten := by
      rw [← received_eq_flatten, List.getD_eq_getElem?_getD, hbuffers]
      simp [hb, writers]
    show HandleReply.text (Lossy.decode (run.2.buffers.getD b (.new [])).bytes) = _
    rw [hheld, Lossy.decode_flatten hbegins, List.map_map]
    rfl
  refine ⟨hanswers, _, rfl, hcontents, fun p hp => ⟨hpart p hp, Lossy.decode_part (hpart p hp)⟩, ?_⟩
  intro hdone
  rw [hcontents]
  congr 3
  refine List.map_congr_left fun p hp => ?_
  obtain ⟨w, hw⟩ := linesInto_wrote hp
  rw [hw.whole (hdone p hp), ← utf8_line, Lossy.decode_utf8]

/-- Two consoles share a buffer.  One of them stops inside of characters of two, three and four bytes
    and then before the first byte; all that it leaves behind is one replacement for each character
    it stopped in.  If the other one writes alone, its lines are there as they are. -/
theorem contents_by_pieces_cuts :
    let tables (k : Standard) : Table types Standard Outlet := .empty k.contract
    let script := Writer.scripted 0
      [.accept 1, .fail (.system .brokenPipe), .accept 3, .panic, .accept 4, .accept 0, .panic] []
    let consoles : Vector (Seat types) 2 := #v[⟨.new script, tables⟩, ⟨.new (.shared 0), tables⟩]
    let run (lines : List (Fin 2 × String)) :=
      (seated [.new []] consoles).run 0 (lines.map fun p => (p.1, .write p.2))
    contents (run [(0, "é"), (1, "ok"), (0, "a€"), (0, "x😀"), (0, "z"), (1, "")]).2.buffers 0 =
        .text "\ufffdok\na\ufffdx\ufffd\n" ∧
      contents (run [(1, "é"), (1, "😀")]).2.buffers 0 = .text "é\n😀\n" := by
  intro tables script consoles run
  refine ⟨?_, ?_⟩
  · obtain ⟨-, before, hbefore, hcontents, -⟩ := contents_by_pieces 0 [.new []] consoles
      [(0, "é"), (1, "ok"), (0, "a€"), (0, "x😀"), (0, "z"), (1, "")] 0 (by decide)
    obtain rfl : Lossy.decode [] = before := HandleReply.text.inj hbefore
    rw [hcontents]
    refine congrArg HandleReply.text ?_
    decide +kernel
  · obtain ⟨-, before, hbefore, -, -, hwhole⟩ := contents_by_pieces 0 [.new []] consoles
      [(1, "é"), (1, "😀")] 0 (by decide)
    obtain rfl : Lossy.decode [] = before := HandleReply.text.inj hbefore
    rw [hwhole (by decide)]
    refine congrArg HandleReply.text ?_
    decide +kernel

end Desk

end Bench

end Switchboard
