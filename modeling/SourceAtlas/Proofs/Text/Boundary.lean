import SourceAtlas.Proofs.Text.Utf8

/-!
# Cutting octets between characters

The octets of a text may be cut between two characters, but not inside of one.  Where a cut may be
made can be told from a single octet, because those that begin a character have other values than
those that go on with one.

* `isBoundary_octetsOf_iff` — the boundaries of a text are the lengths of its fronts, so a cut at a
  boundary leaves two texts (`splitAt?_octetsOf_append`).
* `octetsOf_prefix_iff` — the octets of a text begin with those of a word exactly if the text begins
  with the word.  A cut behind a word that was found by its octets is therefore a good one.
* `lastBoundary?` — the search for a boundary, downwards from a given place; it fails where it would
  have to go on below the beginning.
-/

namespace SourceAtlas
namespace Text

/-! ## The octets of a text -/

/-- The octets of characters. -/
def octetsOf (chars : List Char) : List UInt8 := chars.flatMap String.utf8EncodeChar

@[simp] theorem octetsOf_nil : octetsOf [] = [] := rfl

@[simp] theorem octetsOf_cons (c : Char) (chars : List Char) :
    octetsOf (c :: chars) = String.utf8EncodeChar c ++ octetsOf chars := rfl

@[simp] theorem octetsOf_append (front back : List Char) :
    octetsOf (front ++ back) = octetsOf front ++ octetsOf back := List.flatMap_append

theorem length_octetsOf_cons (c : Char) (chars : List Char) :
    (octetsOf (c :: chars)).length = c.utf8Size + (octetsOf chars).length := by
  rw [octetsOf_cons, List.length_append, String.length_utf8EncodeChar]

theorem encode_eq_octetsOf (s : String) : encode s = octetsOf s.toList := encode_eq_flatMap s

theorem length_octetsOf_toList (s : String) : (octetsOf s.toList).length = s.utf8ByteSize := by
  rw [← encode_eq_octetsOf, encode, String.toUTF8_eq_toByteArray, Array.length_toList]
  rfl

theorem octetsOf_eq_nil_iff {chars : List Char} : octetsOf chars = [] ↔ chars = [] := by
  cases chars with
  | nil => simp
  | cons c chars => simp [String.utf8EncodeChar_ne_nil]

/-! ## Words at the front of a text -/

/-- The first character of a text, and what follows it, can be told from the octets. -/
theorem utf8EncodeChar_append_inj {c d : Char} {x y : List UInt8}
    (h : String.utf8EncodeChar c ++ x = String.utf8EncodeChar d ++ y) : c = d ∧ x = y := by
  obtain ⟨b, tail, hc⟩ := List.exists_cons_of_ne_nil (String.utf8EncodeChar_ne_nil (c := c))
  obtain ⟨b', tail', hd⟩ := List.exists_cons_of_ne_nil (String.utf8EncodeChar_ne_nil (c := d))
  rw [hc, hd, List.cons_append, List.cons_append] at h
  obtain ⟨rfl, htail⟩ := List.cons.inj h
  have hread := readChar_of_octets hc.symm x
  rw [htail, readChar_of_octets hd.symm y] at hread
  simp only [Except.ok.injEq, Prod.mk.injEq] at hread
  exact ⟨hread.1.symm, hread.2.2.symm⟩

/-- **The octets of a text begin with those of a word exactly if the text begins with the word.** -/
theorem octetsOf_prefix_iff {word text : List Char} :
    octetsOf word <+: octetsOf text ↔ word <+: text := by
  constructor
  · intro h
    induction word generalizing text with
    | nil => exact List.nil_prefix
    | cons c word ih =>
        obtain ⟨more, hmore⟩ := h
        rw [octetsOf_cons, List.append_assoc] at hmore
        cases text with
        | nil => simp [String.utf8EncodeChar_ne_nil] at hmore
        | cons d text =>
            obtain ⟨rfl, hrest⟩ := utf8EncodeChar_append_inj hmore
            exact List.cons_prefix_cons.2 ⟨rfl, ih ⟨more, hrest⟩⟩
  · rintro ⟨more, rfl⟩
    rw [octetsOf_append]
    exact List.prefix_append _ _

theorem isPrefixOf_octetsOf (word text : List Char) :
    (octetsOf word).isPrefixOf (octetsOf text) = word.isPrefixOf text := by
  rw [Bool.eq_iff_iff, List.isPrefixOf_iff_prefix, List.isPrefixOf_iff_prefix, octetsOf_prefix_iff]

/-- The first character of a text, read from its octets. -/
def first? : List UInt8 → Option Char
  | [] => none
  | b :: rest => (readChar b rest).toOption.map (·.1)

theorem first?_octetsOf_cons (c : Char) (text : List Char) :
    first? (octetsOf (c :: text)) = some c := by
  obtain ⟨b, tail, hc⟩ := List.exists_cons_of_ne_nil (String.utf8EncodeChar_ne_nil (c := c))
  rw [octetsOf_cons, hc, List.cons_append, first?, readChar_of_octets hc.symm]
  rfl

/-! ## Boundaries -/

/-- Whether an octet begins a character; the others go on with one. -/
def beginsCharacter (b : UInt8) : Bool := b.toNat < 0x80 || 0xC0 ≤ b.toNat

/-- Whether octets may be cut at a place: at the beginning, at the end, or before an octet that
begins a character. -/
def isBoundary (octets : List UInt8) (place : Nat) : Bool :=
  place == 0 || octets[place]?.elim (place == octets.length) beginsCharacter

/-- Cuts octets at a boundary; there is no cut anywhere else. -/
def splitAt? (octets : List UInt8) (place : Nat) : Option (List UInt8 × List UInt8) :=
  if isBoundary octets place then some (octets.take place, octets.drop place) else none

/-- The first octet of a code point has the value of one that begins a character, the others have
not. -/
theorem octetValues_eq_cons (v : Nat) :
    ∃ n tail, octetValues v = n :: tail ∧ (n < 0x80 ∨ 0xC0 ≤ n) ∧
      ∀ m ∈ tail, 0x80 ≤ m ∧ m < 0xC0 := by
  rcases width_cases v with h₁ | ⟨h₁, h₂⟩ | ⟨h₁, h₂⟩ | h₁
  · exact ⟨_, _, octetValues_one h₁, by omega, by simp⟩
  · exact ⟨_, _, octetValues_two h₁ h₂, by omega, by simp; omega⟩
  · exact ⟨_, _, octetValues_three h₁ h₂, by omega, by simp; omega⟩
  · exact ⟨_, _, octetValues_four h₁, by omega, by simp; omega⟩

theorem beginsCharacter_iff {c : Char} {i : Nat} {b : UInt8}
    (h : (String.utf8EncodeChar c)[i]? = some b) : beginsCharacter b = true ↔ i = 0 := by
  obtain ⟨n, tail, hvalues, hfirst, htail⟩ := octetValues_eq_cons c.toNat
  have hvalue : (n :: tail)[i]? = some b.toNat := by
    rw [← hvalues, ← map_toNat_utf8EncodeChar, List.getElem?_map, h, Option.map_some]
  cases i with
  | zero =>
      obtain rfl : n = b.toNat := Option.some.inj hvalue
      simpa [beginsCharacter] using hfirst
  | succ i =>
      have hb := htail b.toNat (List.mem_of_getElem? hvalue)
      simp only [beginsCharacter, Bool.or_eq_true, decide_eq_true_eq]
      omega

/-- In the octets of a text the beginning is no special case. -/
theorem isBoundary_octetsOf (text : List Char) (place : Nat) :
    isBoundary (octetsOf text) place =
      (octetsOf text)[place]?.elim (place == (octetsOf text).length) beginsCharacter := by
  cases place with
  | succ place => rfl
  | zero =>
      cases text with
      | nil => rfl
      | cons c text =>
          obtain ⟨b, tail, hc⟩ := List.exists_cons_of_ne_nil (String.utf8EncodeChar_ne_nil (c := c))
          have hb : beginsCharacter b = true :=
            (beginsCharacter_iff (c := c) (i := 0) (by rw [hc]; rfl)).2 rfl
          simp [isBoundary, hc, hb]

/-- Behind a character the boundaries are those of the rest. -/
theorem isBoundary_octetsOf_cons (c : Char) (text : List Char) (place : Nat) :
    isBoundary (octetsOf (c :: text)) (c.utf8Size + place) = isBoundary (octetsOf text) place := by
  have hend : (c.utf8Size + place == c.utf8Size + (octetsOf text).length) =
      (place == (octetsOf text).length) := by
    rw [Bool.eq_iff_iff, beq_iff_eq, beq_iff_eq, Nat.add_left_cancel_iff]
  rw [isBoundary_octetsOf, isBoundary_octetsOf, octetsOf_cons,
    List.getElem?_append_right (by simp), List.length_append, String.length_utf8EncodeChar,
    Nat.add_sub_cancel_left, hend]

/-- There is no boundary inside a character. -/
theorem isBoundary_inside {c : Char} {place : Nat} (hpos : place ≠ 0) (hlt : place < c.utf8Size)
    (text : List Char) : isBoundary (octetsOf (c :: text)) place = false := by
  rw [← String.length_utf8EncodeChar] at hlt
  have hget := List.getElem?_eq_getElem hlt
  have hnot := mt (beginsCharacter_iff hget).1 hpos
  rw [isBoundary_octetsOf, octetsOf_cons, List.getElem?_append_left hlt, hget]
  simpa using hnot

/-- **The boundaries of a text are the lengths of its fronts.** -/
theorem isBoundary_octetsOf_iff {text : List Char} {place : Nat} :
    isBoundary (octetsOf text) place = true ↔
      ∃ front, front <+: text ∧ place = (octetsOf front).length := by
  induction text generalizing place with
  | nil => simp [isBoundary]
  | cons c text ih =>
      by_cases hzero : place = 0
      · subst hzero
        exact ⟨fun _ => ⟨[], List.nil_prefix, rfl⟩, fun _ => rfl⟩
      by_cases hlt : place < c.utf8Size
      · rw [isBoundary_inside hzero hlt]
        refine ⟨fun h => (Bool.false_ne_true h).elim, ?_⟩
        rintro ⟨front, hfront, rfl⟩
        cases front with
        | nil => exact absurd rfl hzero
        | cons d front =>
            obtain ⟨rfl, -⟩ := List.cons_prefix_cons.1 hfront
            rw [length_octetsOf_cons] at hlt
            omega
      · obtain ⟨place, rfl⟩ := Nat.exists_eq_add_of_le (Nat.le_of_not_lt hlt)
        rw [isBoundary_octetsOf_cons, ih]
        constructor
        · rintro ⟨front, hfront, rfl⟩
          exact ⟨c :: front, List.cons_prefix_cons.2 ⟨rfl, hfront⟩,
            (length_octetsOf_cons c front).symm⟩
        · rintro ⟨front, hfront, hlength⟩
          cases front with
          | nil => exact absurd hlength hzero
          | cons d front =>
              obtain ⟨rfl, hprefix⟩ := List.cons_prefix_cons.1 hfront
              rw [length_octetsOf_cons] at hlength
              exact ⟨front, hprefix, by omega⟩

/-- A cut between two texts gives the two. -/
theorem splitAt?_octetsOf_append (front back : List Char) :
    splitAt? (octetsOf (front ++ back)) (octetsOf front).length =
      some (octetsOf front, octetsOf back) := by
  rw [splitAt?, if_pos (isBoundary_octetsOf_iff.2 ⟨front, List.prefix_append _ _, rfl⟩)]
  simp

theorem splitAt?_octetsOf_cons (c : Char) (text : List Char) :
    splitAt? (octetsOf (c :: text)) c.utf8Size = some (String.utf8EncodeChar c, octetsOf text) := by
  have hsplit := splitAt?_octetsOf_append [c] text
  simpa using hsplit

/-! ## The search for a boundary -/

/-- The last boundary that is not beyond a place.  The search goes down by one octet at a time, and
fails if the beginning is no boundary either. -/
def lastBoundary? : List UInt8 → Nat → Option Nat
  | octets, 0 => if isBoundary octets 0 then some 0 else none
  | octets, place + 1 =>
    if isBoundary octets (place + 1) then some (place + 1) else lastBoundary? octets place

theorem lastBoundary?_eq_some {octets : List UInt8} {place last : Nat} (hle : last ≤ place)
    (hlast : isBoundary octets last = true)
    (hbetween : ∀ n, last < n → n ≤ place → isBoundary octets n = false) :
    lastBoundary? octets place = some last := by
  induction place with
  | zero =>
      obtain rfl := Nat.le_zero.1 hle
      exact if_pos hlast
  | succ place ih =>
      rcases Nat.lt_or_eq_of_le hle with hlt | rfl
      · rw [lastBoundary?, hbetween _ hlt (Nat.le_refl _), if_neg Bool.false_ne_true]
        exact ih (Nat.le_of_lt_succ hlt) fun n hn hplace => hbetween n hn (Nat.le_succ_of_le hplace)
      · exact if_pos hlast

end Text
end SourceAtlas
