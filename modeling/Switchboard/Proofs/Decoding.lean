/-
  Decoding what was cut from an encoding.

  No byte with which the encoding of a character begins continues another one (`Begins`).  So the
  decoder finds its place again at the next such byte, whatever came before, and texts that follow
  each other are decoded one by one.  Of a text that was cut after some bytes it gives back the
  characters that are there as a whole (`LongestWithin`), and one replacement character if the cut
  is inside of a character (`CutsInside`).

  * `encodeChar_cases`: the four forms of the encoding of a character;
  * `decode_append`, `decode_flatten`: decoding part by part;
  * `decodeStep_encodeChar`, `decode_utf8`: decoding undoes encoding;
  * `decode_part`: what is left of a text of which a part arrived.
-/
import Switchboard.Text.Lossy
import Switchboard.Text.Split

namespace Switchboard

/-! ## Encodings -/

/-- **The four forms of the encoding of a character**, by the values of the bytes. -/
theorem encodeChar_cases (c : Char) :
    let v := c.toNat
    let e := String.utf8EncodeChar c
    (∃ b, e = [b] ∧ b.toNat = v ∧ v < 0x80) ∨
    (∃ b b₁, e = [b, b₁] ∧ b.toNat = v / 64 + 0xc0 ∧ b₁.toNat = v % 64 + 0x80 ∧
      0x80 ≤ v ∧ v < 0x800) ∨
    (∃ b b₁ b₂, e = [b, b₁, b₂] ∧ b.toNat = v / 4096 + 0xe0 ∧ b₁.toNat = v / 64 % 64 + 0x80 ∧
      b₂.toNat = v % 64 + 0x80 ∧ 0x800 ≤ v ∧ v < 0x10000 ∧ (v < 0xd800 ∨ 0xdfff < v)) ∨
    ∃ b b₁ b₂ b₃, e = [b, b₁, b₂, b₃] ∧ b.toNat = v / 262144 + 0xf0 ∧
      b₁.toNat = v / 4096 % 64 + 0x80 ∧ b₂.toNat = v / 64 % 64 + 0x80 ∧
      b₃.toNat = v % 64 + 0x80 ∧ 0x10000 ≤ v ∧ v < 0x110000 := by
  intro v e
  have hv : v < 0xd800 ∨ 0xdfff < v ∧ v < 0x110000 := c.valid
  have he : e = String.utf8EncodeChar c := rfl
  have hval : c.val.toNat = v := rfl
  simp only [String.utf8EncodeChar, hval] at he
  split at he
  · refine Or.inl ⟨_, he, ?_⟩
    simp only [UInt8.toNat_ofNat']
    omega
  · split at he
    · refine Or.inr (Or.inl ⟨_, _, he, ?_⟩)
      simp only [UInt8.toNat_ofNat']
      omega
    · split at he
      · refine Or.inr (Or.inr (Or.inl ⟨_, _, _, he, ?_⟩))
        simp only [UInt8.toNat_ofNat']
        omega
      · refine Or.inr (Or.inr (Or.inr ⟨_, _, _, _, he, ?_⟩))
        simp only [UInt8.toNat_ofNat']
        omega

namespace Lossy

/-! ## Where characters begin -/

/-- The encoding of a character may begin with this byte: it does not continue one. -/
def Begins (b : UInt8) : Prop :=
  b < 0x80 ∨ 0xbf < b

/-- Only a byte that continues a character is waited for. -/
def Pending.Proper (p : Pending) : Prop :=
  0x80 ≤ p.low ∧ p.high ≤ 0xbf

theorem start_proper (b : UInt8) : ∀ p ∈ (start b).2, p.Proper := by
  fun_cases start b with
  | case1 | case2 | case6 => nofun
  | case3 =>
    intro p hp
    obtain rfl : _ = p := Option.some.inj hp
    exact ⟨UInt8.le_refl _, UInt8.le_refl _⟩
  | case4 | case5 =>
    intro p hp
    obtain rfl : _ = p := Option.some.inj hp
    refine ⟨?_, ?_⟩ <;> dsimp only <;> split <;> decide

theorem feed_proper (s : Option Pending) (b : UInt8) : ∀ p ∈ (feed s b).2, p.Proper := by
  fun_cases feed s b with
  | case1 => exact start_proper b
  | case2 => nofun
  | case3 =>
    intro p hp
    obtain rfl : _ = p := Option.some.inj hp
    exact ⟨UInt8.le_refl _, UInt8.le_refl _⟩
  | case4 => exact start_proper b

theorem decodeStep_proper {bytes : Bytes} {s : Option Pending} (hs : ∀ p ∈ s, p.Proper) :
    ∀ p ∈ (decodeStep s bytes).2, p.Proper := by
  induction bytes generalizing s with
  | nil => exact hs
  | cons b bytes ih => exact ih (feed_proper s b)

theorem feed_none (b : UInt8) : feed none b = start b := rfl

/-- A byte with which a character begins ends the one that was read, and is read afresh. -/
theorem feed_begins {p : Pending} (hp : p.Proper) {b : UInt8} (hb : Begins b) :
    feed (some p) b = (replacement :: (start b).1, (start b).2) := by
  have hout : ¬ (p.low ≤ b ∧ b ≤ p.high) := by
    obtain ⟨hlow, hhigh⟩ := hp
    rintro ⟨h, h'⟩
    rcases hb with hb | hb
    · exact absurd (UInt8.le_trans hlow h) (UInt8.not_le.2 hb)
    · exact absurd (UInt8.le_trans h' hhigh) (UInt8.not_le.2 hb)
  simp only [feed, if_neg hout]

/-- **The decoder finds its place again** where a character begins. -/
theorem decode_append {a rest : Bytes} (h : ∀ b ∈ rest.head?, Begins b) :
    decode (a ++ rest) = decode a ++ decode rest := by
  have hproper : ∀ p ∈ (decodeStep none a).2, p.Proper := decodeStep_proper nofun
  rw [decode, decode, decode, ← String.ofList_append, decodeFrom_append]
  congr 1
  rcases hstate : (decodeStep none a).2 with _ | p
  · simp [decodeFrom, hstate, settle]
  · have hp : p.Proper := hproper p hstate
    rcases rest with _ | ⟨b, rest⟩
    · simp [decodeFrom, decodeStep, hstate, settle]
    · have hb : Begins b := h b rfl
      simp [decodeFrom, decodeStep, hstate, settle, feed_begins hp hb, feed_none]

theorem decode_flatten {held : Bytes} {parts : List Bytes}
    (h : ∀ part ∈ parts, ∀ b ∈ part.head?, Begins b) :
    decode (held ++ parts.flatten) = decode held ++ String.join (parts.map decode) := by
  induction parts generalizing held with
  | nil => simp
  | cons part parts ih =>
    obtain ⟨hpart, hparts⟩ := List.forall_mem_cons.1 h
    rw [List.flatten_cons, ← List.append_assoc, ih hparts, decode_append hpart, List.map_cons,
      String.join_cons, String.append_assoc]

theorem begins_encodeChar (c : Char) : ∀ b ∈ (String.utf8EncodeChar c).head?, Begins b := by
  intro b hb
  simp only [Begins, UInt8.lt_iff_toNat_lt, UInt8.reduceToNat]
  rcases encodeChar_cases c with ⟨b₀, he, h⟩ | ⟨b₀, _, he, h⟩ | ⟨b₀, _, _, he, h⟩ |
    ⟨b₀, _, _, _, he, h⟩
  all_goals
    rw [he] at hb
    obtain rfl : b₀ = b := Option.some.inj hb
    omega

/-! ## Characters -/

theorem start_two {b : UInt8} (h : 0xc2 ≤ b.toNat) (h' : b.toNat < 0xe0) :
    start b = ([], some ⟨b.toNat - 0xc0, 0, 0x80, 0xbf⟩) := by
  simp only [start, UInt8.lt_iff_toNat_lt, UInt8.reduceToNat]
  simp (disch := omega) only [if_neg, if_pos]

theorem start_three {b : UInt8} (h : 0xe0 ≤ b.toNat) (h' : b.toNat < 0xf0) :
    start b = ([], some ⟨b.toNat - 0xe0, 1, if b = 0xe0 then 0xa0 else 0x80,
      if b = 0xed then 0x9f else 0xbf⟩) := by
  simp only [start, UInt8.lt_iff_toNat_lt, UInt8.reduceToNat]
  simp (disch := omega) only [if_neg, if_pos]

theorem start_four {b : UInt8} (h : 0xf0 ≤ b.toNat) (h' : b.toNat < 0xf5) :
    start b = ([], some ⟨b.toNat - 0xf0, 2, if b = 0xf0 then 0x90 else 0x80,
      if b = 0xf4 then 0x8f else 0xbf⟩) := by
  simp only [start, UInt8.lt_iff_toNat_lt, UInt8.reduceToNat]
  simp (disch := omega) only [if_neg, if_pos]

section
variable {bits missing : Nat} {low high b : UInt8} (h : low.toNat ≤ b.toNat)
  (h' : b.toNat ≤ high.toNat)
include h h'

theorem feed_more : feed (some ⟨bits, missing + 1, low, high⟩) b =
    ([], some ⟨64 * bits + (b.toNat - 0x80), missing, 0x80, 0xbf⟩) := by
  simp only [feed, UInt8.le_iff_toNat_le, h, h', and_self, if_true]

theorem feed_last : feed (some ⟨bits, 0, low, high⟩) b =
    ([Char.ofNat (64 * bits + (b.toNat - 0x80))], none) := by
  simp only [feed, UInt8.le_iff_toNat_le, h, h', and_self, if_true]

end

theorem toNat_ite (b k x y : UInt8) :
    (if b = k then x else y).toNat = if b.toNat = k.toNat then x.toNat else y.toNat := by
  rw [apply_ite UInt8.toNat]
  simp [UInt8.toNat_inj]

/-- **Decoding undoes encoding**, and is then at the start of a character again. -/
theorem decodeStep_encodeChar (c : Char) :
    decodeStep none (String.utf8EncodeChar c) = ([c], none) := by
  rcases encodeChar_cases c with ⟨b, he, hb, hc⟩ | ⟨b, b₁, he, hb, hb₁, h⟩ |
    ⟨b, b₁, b₂, he, hb, hb₁, hb₂, h⟩ | ⟨b, b₁, b₂, b₃, he, hb, hb₁, hb₂, hb₃, h⟩
  · have hstart : start b = ([Char.ofNat b.toNat], none) := by
      simp [start, UInt8.lt_iff_toNat_lt, hb, hc]
    simp [he, decodeStep, feed_none, hstart, hb]
  · have hstart := start_two (b := b) (by omega) (by omega)
    have hlast : feed (some ⟨b.toNat - 0xc0, 0, 0x80, 0xbf⟩) b₁ = _ :=
      feed_last (by simp; omega) (by simp; omega)
    have hbits : 64 * (b.toNat - 0xc0) + (b₁.toNat - 0x80) = c.toNat := by omega
    simp [he, decodeStep, feed_none, hstart, hlast, hbits]
  · -- the second byte of the least values is bounded below, and that before the surrogates above
    have hlow : (if b = 0xe0 then 0xa0 else 0x80 : UInt8).toNat ≤ b₁.toNat := by
      simp only [toNat_ite, UInt8.reduceToNat]
      split <;> omega
    have hhigh : b₁.toNat ≤ (if b = 0xed then 0x9f else 0xbf : UInt8).toNat := by
      simp only [toNat_ite, UInt8.reduceToNat]
      split <;> omega
    have hstart := start_three (b := b) (by omega) (by omega)
    have hmore : feed (some ⟨b.toNat - 0xe0, 1, _, _⟩) b₁ = _ := feed_more hlow hhigh
    have hlast : feed (some ⟨64 * (b.toNat - 0xe0) + (b₁.toNat - 0x80), 0, 0x80, 0xbf⟩) b₂ = _ :=
      feed_last (by simp; omega) (by simp; omega)
    have hbits : 64 * (64 * (b.toNat - 0xe0) + (b₁.toNat - 0x80)) + (b₂.toNat - 0x80) =
        c.toNat := by omega
    simp [he, decodeStep, feed_none, hstart, hmore, hlast, hbits]
  · have hlow : (if b = 0xf0 then 0x90 else 0x80 : UInt8).toNat ≤ b₁.toNat := by
      simp only [toNat_ite, UInt8.reduceToNat]
      split <;> omega
    have hhigh : b₁.toNat ≤ (if b = 0xf4 then 0x8f else 0xbf : UInt8).toNat := by
      simp only [toNat_ite, UInt8.reduceToNat]
      split <;> omega
    let bits := 64 * (b.toNat - 0xf0) + (b₁.toNat - 0x80)
    have hstart := start_four (b := b) (by omega) (by omega)
    have hmore : feed (some ⟨b.toNat - 0xf0, 2, _, _⟩) b₁ = ([], some ⟨bits, 1, 0x80, 0xbf⟩) :=
      feed_more hlow hhigh
    have hmore' : feed (some ⟨bits, 1, 0x80, 0xbf⟩) b₂ = _ :=
      feed_more (by simp; omega) (by simp; omega)
    have hlast : feed (some ⟨64 * bits + (b₂.toNat - 0x80), 0, 0x80, 0xbf⟩) b₃ = _ :=
      feed_last (by simp; omega) (by simp; omega)
    have hbits : 64 * (64 * bits + (b₂.toNat - 0x80)) + (b₃.toNat - 0x80) = c.toNat := by
      omega
    simp [he, decodeStep, feed_none, hstart, hmore, hmore', hlast, hbits]

/-! ## Parts of characters -/

theorem start_silent (b : UInt8) : (start b).1 = [] → (start b).2 ≠ none := by
  fun_cases start b with
  | case1 | case2 | case6 => nofun
  | case3 | case4 | case5 => simp

/-- A step that gives out nothing leaves the decoder inside of a character. -/
theorem feed_silent (s : Option Pending) (b : UInt8) : (feed s b).1 = [] → (feed s b).2 ≠ none := by
  fun_cases feed s b with
  | case1 => exact start_silent b
  | case2 => nofun
  | case3 => simp
  | case4 => nofun

theorem decodeStep_silent {bytes : Bytes} {s : Option Pending} (hne : bytes ≠ [])
    (h : (decodeStep s bytes).1 = []) : (decodeStep s bytes).2 ≠ none := by
  induction bytes generalizing s with
  | nil => exact absurd rfl hne
  | cons b bytes ih =>
    obtain ⟨hb, hbytes⟩ := List.append_eq_nil_iff.1 h
    by_cases hlast : bytes = []
    · subst hlast
      exact feed_silent s b hb
    · exact ih hlast hbytes

/-- Of a character of which a part is missing, one replacement is left. -/
theorem decodeFrom_take_encodeChar {c : Char} {k : Nat} (hk : 0 < k) (hc : k < c.utf8Size) :
    decodeFrom none ((String.utf8EncodeChar c).take k) = [replacement] := by
  let e := String.utf8EncodeChar c
  have hlen : e.length = c.utf8Size := String.length_utf8EncodeChar c
  have htake : e.take k ≠ [] := by
    rw [ne_eq, List.take_eq_nil_iff, ← List.length_eq_zero_iff]
    omega
  have hdrop : e.drop k ≠ [] := by
    rw [ne_eq, List.drop_eq_nil_iff]
    omega
  have hwhole := decodeStep_encodeChar c
  rw [← List.take_append_drop k (String.utf8EncodeChar c), decodeStep_append] at hwhole
  obtain ⟨hchars, hend⟩ := Prod.mk.inj hwhole
  -- the rest of the character ends outside, so that it is the rest which gave out the character
  have hrest : (decodeStep (decodeStep none (e.take k)).2 (e.drop k)).1 ≠ [] :=
    fun h => decodeStep_silent hdrop h hend
  have hfront : (decodeStep none (e.take k)).1 = [] := by
    rcases List.append_eq_singleton_iff.1 hchars with ⟨h, -⟩ | ⟨-, h⟩
    · exact h
    · exact absurd h hrest
  obtain ⟨p, hp⟩ := Option.ne_none_iff_exists'.1 (decodeStep_silent htake hfront)
  simp [decodeFrom, e, hfront, hp, settle]

end Lossy

/-! ## Texts that are cut -/

/-- Of the front parts of a text whose encodings fit into `k` bytes, this is the longest. -/
structure LongestWithin (k : Nat) (text front : List Char) : Prop where
  part : front <+: text
  fits : byteCount front ≤ k
  longest : ∀ other, other <+: text → byteCount other ≤ k → other <+: front

/-- The place after `k` bytes is strictly inside of the encoding of a character. -/
def CutsInside (k : Nat) (text : List Char) : Prop :=
  ∃ before c after, text = before ++ c :: after ∧
    byteCount before < k ∧ k < byteCount before + c.utf8Size

/-- This is to be read where a text was cut after `k` bytes: the longest front part that fits, and
    one replacement if the cut is inside of a character. -/
def CutAfter (k : Nat) (text piece : List Char) : Prop :=
  ∃ front, LongestWithin k text front ∧
    (CutsInside k text → piece = front ++ [Lossy.replacement]) ∧
    (¬ CutsInside k text → piece = front)

theorem LongestWithin.cons {k : Nat} {c : Char} {text front : List Char} (hc : c.utf8Size ≤ k)
    (h : LongestWithin (k - c.utf8Size) text front) : LongestWithin k (c :: text) (c :: front) := by
  refine ⟨?_, ?_, ?_⟩
  · simpa using h.part
  · have := h.fits
    rw [byteCount]
    omega
  · intro other hother hfits
    rcases other with _ | ⟨c', other⟩
    · exact List.nil_prefix
    · obtain ⟨rfl, hrest⟩ := List.cons_prefix_cons.1 hother
      rw [byteCount] at hfits
      exact List.cons_prefix_cons.2 ⟨rfl, h.longest other hrest (by omega)⟩

theorem LongestWithin.of_lt {k : Nat} {c : Char} (hc : k < c.utf8Size) (text : List Char) :
    LongestWithin k (c :: text) [] := by
  refine ⟨List.nil_prefix, Nat.zero_le k, ?_⟩
  intro other hother hfits
  rcases other with _ | ⟨c', other⟩
  · exact List.nil_prefix
  · obtain ⟨rfl, -⟩ := List.cons_prefix_cons.1 hother
    rw [byteCount] at hfits
    omega

theorem cutsInside_cons {k : Nat} {c : Char} {text : List Char} :
    CutsInside k (c :: text) ↔
      (0 < k ∧ k < c.utf8Size) ∨ (c.utf8Size ≤ k ∧ CutsInside (k - c.utf8Size) text) := by
  constructor
  · rintro ⟨before, c', after, htext, hlow, hhigh⟩
    rcases before with _ | ⟨c'', before⟩
    · obtain ⟨rfl, rfl⟩ := List.cons.inj htext
      simp only [byteCount, Nat.zero_add] at hlow hhigh
      exact Or.inl ⟨hlow, hhigh⟩
    · obtain ⟨rfl, rfl⟩ := List.cons.inj htext
      simp only [byteCount] at hlow hhigh
      exact Or.inr ⟨by omega, before, c', after, rfl, by omega, by omega⟩
  · rintro (⟨hlow, hhigh⟩ | ⟨hc, before, c', after, rfl, hlow, hhigh⟩)
    · exact ⟨[], c, text, rfl, by simpa [byteCount], by simpa [byteCount]⟩
    · refine ⟨c :: before, c', after, rfl, ?_, ?_⟩ <;> rw [byteCount] <;> omega

namespace Lossy

theorem decodeStep_encode (text : List Char) :
    decodeStep none (text.flatMap String.utf8EncodeChar) = (text, none) := by
  induction text with
  | nil => rfl
  | cons c text ih => simp [decodeStep_append, decodeStep_encodeChar, ih]

/-- **The text of an encoding.** -/
theorem decode_utf8 (text : String) : decode (utf8 text) = text := by
  simp [decode, decodeFrom, utf8, decodeStep_encode, settle]

theorem decodeFrom_take (k : Nat) (text : List Char) :
    CutAfter k text (decodeFrom none ((text.flatMap String.utf8EncodeChar).take k)) := by
  induction text generalizing k with
  | nil =>
    have hinside : ¬ CutsInside k [] := by
      rintro ⟨before, c, after, h, -⟩
      simp at h
    refine ⟨[], ⟨List.prefix_rfl, Nat.zero_le k, by simp⟩, fun h => absurd h hinside, fun _ => ?_⟩
    simp [decodeFrom, decodeStep, settle]
  | cons c text ih =>
    have hlen : (String.utf8EncodeChar c).length = c.utf8Size := String.length_utf8EncodeChar c
    rw [List.flatMap_cons, List.take_append, hlen]
    by_cases hc : c.utf8Size ≤ k
    · obtain ⟨front, hlongest, hinside, houtside⟩ := ih (k - c.utf8Size)
      have hcut : CutsInside k (c :: text) ↔ CutsInside (k - c.utf8Size) text := by
        simp [cutsInside_cons, hc, Nat.not_lt.2 hc]
      have hdecode (rest : Bytes) :
          decodeFrom none (String.utf8EncodeChar c ++ rest) = c :: decodeFrom none rest := by
        simp [decodeFrom_append, decodeStep_encodeChar]
      rw [List.take_of_length_le (by omega), hdecode]
      refine ⟨c :: front, hlongest.cons hc, fun h => ?_, fun h => ?_⟩
      · rw [hinside (hcut.1 h)]
        rfl
      · rw [houtside (mt hcut.2 h)]
    · have hlt : k < c.utf8Size := Nat.lt_of_not_le hc
      have hcut : CutsInside k (c :: text) ↔ 0 < k := by
        simp [cutsInside_cons, hc, hlt]
      rw [Nat.sub_eq_zero_of_le (Nat.le_of_lt hlt), List.take_zero, List.append_nil]
      refine ⟨[], .of_lt hlt text, fun h => ?_, fun h => ?_⟩
      · exact decodeFrom_take_encodeChar (hcut.1 h) hlt
      · obtain rfl : k = 0 := Nat.eq_zero_of_not_pos (mt hcut.2 h)
        rfl

/-- **What is left of a text of which a part arrived.** -/
theorem decode_part {text : String} {part : Bytes} (h : part <+: utf8 text) :
    CutAfter part.length text.toList (decode part).toList := by
  have hpart := decodeFrom_take part.length text.toList
  rw [← utf8, ← List.prefix_iff_eq_take.1 h] at hpart
  rwa [decode, String.toList_ofList]

/-- A part of an encoding begins where a character does. -/
theorem begins_part {text : String} {part : Bytes} (h : part <+: utf8 text) :
    ∀ b ∈ part.head?, Begins b := by
  intro b hb
  obtain ⟨part, rfl⟩ := List.head?_eq_some_iff.1 hb
  obtain ⟨rest, hrest⟩ := h
  rw [utf8] at hrest
  rcases htext : text.toList with _ | ⟨c, text⟩
  · simp [htext] at hrest
  · rw [htext, List.flatMap_cons] at hrest
    apply begins_encodeChar c
    simpa [String.utf8EncodeChar_ne_nil] using (congrArg List.head? hrest).symm

end Lossy

end Switchboard
