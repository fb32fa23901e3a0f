import SourceAtlas.Proofs.Comment.Moves
import SourceAtlas.Proofs.Text.Boundary

/-!
# Scans come to an end

The scanner once more, on the octets of a text and without a bound on its steps.  Delimiters are
found by their octets, and to go on in the text is to cut off octets from its front, as many as the
delimiter or the character has.  A round fails if that cut is not made between two characters.

* `OctetScan.step?` — one round; `Loop` — rounds for as long as there are octets left.
* `OctetScan.step?_ofScan` — a round does to the octets what a step of the scanner does to the text,
  so no cut is made inside a character.
* `Loop.of_run` — a run that reaches the end of the text is a loop that ends there.
* `Stuck.not_loop` — where an empty pair of delimiters comes first, no loop ends.
* `scan_terminates` — the main result.
-/

namespace SourceAtlas
namespace Comment

open Text

/-- A scan in progress, over octets. -/
structure OctetScan where
  /-- Where the scanner stands. -/
  region : Region
  /-- The octets that have not been read yet. -/
  rest : List UInt8
  /-- What has been written so far, last character first. -/
  written : List Char

namespace OctetScan

variable {d : Delimiters}

/-! ## Rounds on octets -/

/-- The octets behind the next `n`; the cut has to be between two characters. -/
def advance? (s : OctetScan) (n : Nat) : Option (List UInt8) := (splitAt? s.rest n).map (·.2)

/-- Whether a word stands next in the text. -/
def ahead (s : OctetScan) (word : List Char) : Bool := (octetsOf word).isPrefixOf s.rest

/-- The region behind a character of the program. -/
def enter (d : Delimiters) (c : Char) : Region :=
  if d.quotes.contains c then .literal c false
  else if d.multilineQuotes.contains c then .literal c true
  else .code

/-- One round in code. -/
def stepCode? (d : Delimiters) (s : OctetScan) (c : Char) : Option OctetScan :=
  match d.block.find? fun pair => s.ahead pair.1 with
  | some (opener, closer) => do
    let rest ← s.advance? (octetsOf opener).length
    some ⟨.blockComment closer, rest, ' ' :: s.written⟩
  | none =>
    if d.line.any s.ahead then some { s with region := .lineComment }
    else do
      let rest ← s.advance? c.utf8Size
      some ⟨enter d c, rest, c :: s.written⟩

/-- One round in a line comment. -/
def stepLine? (s : OctetScan) (c : Char) : Option OctetScan := do
  let rest ← s.advance? c.utf8Size
  some (if c = '\n' then ⟨.code, rest, '\n' :: s.written⟩ else { s with rest := rest })

/-- One round in a block comment. -/
def stepBlock? (closer : List Char) (s : OctetScan) (c : Char) : Option OctetScan :=
  if s.ahead closer then do
    let rest ← s.advance? (octetsOf closer).length
    some ⟨.code, rest, s.written⟩
  else do
    let rest ← s.advance? c.utf8Size
    some ⟨s.region, rest, if c = '\n' then '\n' :: s.written else s.written⟩

/-- One round in a string literal.  A backslash is cut off first, and then the character after it,
if there is one. -/
def stepLiteral? (quote : Char) (multiline : Bool) (s : OctetScan) (c : Char) :
    Option OctetScan := do
  let rest ← s.advance? c.utf8Size
  let s' : OctetScan := ⟨s.region, rest, c :: s.written⟩
  if c = '\\' then
    if rest.isEmpty then some s'
    else
      let e ← first? rest
      let rest' ← s'.advance? e.utf8Size
      some ⟨s.region, rest', e :: c :: s.written⟩
  else if c = quote || (c = '\n' && !multiline) then some { s' with region := .code }
  else some s'

/-- One round, which begins by reading a character. -/
def step? (d : Delimiters) (s : OctetScan) : Option OctetScan := do
  let c ← first? s.rest
  match s.region with
  | .code => s.stepCode? d c
  | .lineComment => s.stepLine? c
  | .blockComment closer => s.stepBlock? closer c
  | .literal quote multiline => s.stepLiteral? quote multiline c

/-- A scan of a text, seen as one of its octets. -/
def ofScan (s : Scan) : OctetScan := ⟨s.region, octetsOf s.rest, s.written⟩

/-! ## Rounds are steps -/

theorem ahead_ofScan (s : Scan) : (ofScan s).ahead = fun word => word.isPrefixOf s.rest := by
  funext word
  exact isPrefixOf_octetsOf word s.rest

theorem advance?_cons (region : Region) (c : Char) (rest written : List Char) :
    advance? ⟨region, octetsOf (c :: rest), written⟩ c.utf8Size = some (octetsOf rest) := by
  rw [advance?, splitAt?_octetsOf_cons]
  rfl

/-- A cut behind a word that stands next is made between two characters. -/
theorem advance?_word {word text : List Char} (h : word.isPrefixOf text = true) (region : Region)
    (written : List Char) :
    advance? ⟨region, octetsOf text, written⟩ (octetsOf word).length =
      some (octetsOf (text.drop word.length)) := by
  obtain ⟨rest, rfl⟩ := List.isPrefixOf_iff_prefix.1 h
  rw [advance?, splitAt?_octetsOf_append, List.drop_left]
  rfl

theorem stepCode?_ofScan (c : Char) (rest written : List Char) :
    (ofScan ⟨.code, c :: rest, written⟩).stepCode? d c =
      some (ofScan (Scan.stepCode d ⟨.code, c :: rest, written⟩ c rest)) := by
  -- octets and characters find the same opener and the same marker, so both go the same way
  simp only [stepCode?, Scan.stepCode, ahead_ofScan]
  cases hfind : d.block.find? fun pair => pair.1.isPrefixOf (c :: rest) with
  | some pair =>
      have hopener : pair.1.isPrefixOf (c :: rest) = true := by simpa using List.find?_some hfind
      simp only [ofScan, advance?_word hopener]
      rfl
  | none =>
      dsimp only
      split
      · rfl
      · simp only [ofScan, advance?_cons, enter, Option.bind_eq_bind, Option.bind_some]
        split
        · rfl
        · split <;> rfl

theorem stepLine?_ofScan (c : Char) (rest written : List Char) :
    (ofScan ⟨.lineComment, c :: rest, written⟩).stepLine? c =
      some (ofScan (Scan.stepLine ⟨.lineComment, c :: rest, written⟩ c rest)) := by
  simp only [stepLine?, Scan.stepLine, ofScan, advance?_cons]
  split <;> rfl

theorem stepBlock?_ofScan (closer : List Char) (c : Char) (rest written : List Char) :
    (ofScan ⟨.blockComment closer, c :: rest, written⟩).stepBlock? closer c =
      some (ofScan (Scan.stepBlock closer ⟨.blockComment closer, c :: rest, written⟩ c rest)) := by
  simp only [stepBlock?, Scan.stepBlock, ahead_ofScan]
  split
  · rename_i hcloser
    simp only [ofScan, advance?_word hcloser]
    rfl
  · simp only [ofScan, advance?_cons]
    split <;> rfl

theorem stepLiteral?_ofScan (quote : Char) (multiline : Bool) (c : Char)
    (rest written : List Char) :
    (ofScan ⟨.literal quote multiline, c :: rest, written⟩).stepLiteral? quote multiline c =
      some (ofScan (Scan.stepLiteral quote multiline
        ⟨.literal quote multiline, c :: rest, written⟩ c rest)) := by
  simp only [stepLiteral?, Scan.stepLiteral, ofScan, advance?_cons, Option.bind_eq_bind,
    Option.bind_some]
  split
  · cases rest with
    | nil => rfl
    | cons e rest =>
        have hmore : (octetsOf (e :: rest)).isEmpty = false := by
          simp [String.utf8EncodeChar_ne_nil]
        simp only [hmore, Bool.false_eq_true, if_false, first?_octetsOf_cons, Option.bind_some,
          advance?_cons]
  · split <;> rfl

/-- **A round does to the octets what a step does to the text.**  In particular, it never fails. -/
theorem step?_ofScan {s : Scan} (h : s.rest ≠ []) :
    (ofScan s).step? d = some (ofScan (s.step d)) := by
  obtain ⟨region, text, written⟩ := s
  obtain ⟨c, rest, rfl⟩ := List.exists_cons_of_ne_nil h
  have hfirst : first? (ofScan ⟨region, c :: rest, written⟩).rest = some c :=
    first?_octetsOf_cons c rest
  rw [step?, hfirst, Option.bind_eq_bind, Option.bind_some]
  cases region with
  | code => exact stepCode?_ofScan c rest written
  | lineComment => exact stepLine?_ofScan c rest written
  | blockComment closer => exact stepBlock?_ofScan closer c rest written
  | literal quote multiline => exact stepLiteral?_ofScan quote multiline c rest written

end OctetScan

/-! ## The loop -/

variable {d : Delimiters}

/-- `Loop d n s t`: from `s` on there are `n` rounds, none of which fails, and they end with `t`,
where no octets are left. -/
inductive Loop (d : Delimiters) : Nat → OctetScan → OctetScan → Prop where
  /-- At the end of the octets there is no other round. -/
  | done {s : OctetScan} (h : s.rest = []) : Loop d 0 s s
  /-- As long as there are octets, there is another round. -/
  | round {n : Nat} {s s' t : OctetScan} (h : s.rest ≠ []) (hstep : s.step? d = some s')
      (hloop : Loop d n s' t) : Loop d (n + 1) s t

theorem ofScan_rest_eq_nil_iff {s : Scan} : (OctetScan.ofScan s).rest = [] ↔ s.rest = [] :=
  octetsOf_eq_nil_iff

/-- A run that reaches the end of the text is a loop. -/
theorem Loop.of_run {n : Nat} {s : Scan} (h : (s.run d n).rest = []) :
    ∃ rounds ≤ n, Loop d rounds (.ofScan s) (.ofScan (s.run d n)) := by
  induction n generalizing s with
  | zero => exact ⟨0, Nat.le_refl _, .done (ofScan_rest_eq_nil_iff.2 h)⟩
  | succ n ih =>
      by_cases hrest : s.rest = []
      · rw [run_of_rest_nil hrest]
        exact ⟨0, Nat.zero_le _, .done (ofScan_rest_eq_nil_iff.2 hrest)⟩
      · have hne : ¬ s.rest.isEmpty = true := mt List.isEmpty_iff.1 hrest
        rw [Scan.run, if_neg hne] at h ⊢
        obtain ⟨rounds, hle, hloop⟩ := ih h
        exact ⟨rounds + 1, Nat.succ_le_succ hle,
          .round (mt ofScan_rest_eq_nil_iff.1 hrest) (OctetScan.step?_ofScan hrest) hloop⟩

/-! ## An empty pair of delimiters -/

/-- A scan with `text` ahead, in code or in a block comment that ends with the empty word. -/
structure Stuck (text : List Char) (s : Scan) : Prop where
  rest_eq : s.rest = text
  region_eq : s.region = .code ∨ s.region = .blockComment []

/-- Where an empty pair comes first, it opens and closes in turn, and nothing is read. -/
theorem Stuck.step (hd : d.block.head? = some ([], [])) {text : List Char} {s : Scan}
    (h : Stuck text s) : Stuck text (s.step d) := by
  obtain ⟨more, hblock⟩ := List.head?_eq_some_iff.1 hd
  obtain ⟨region, rest, written⟩ := s
  obtain ⟨hrest, hregion⟩ := h
  subst hrest
  cases rest with
  | nil => exact ⟨rfl, hregion⟩
  | cons c rest =>
      rcases hregion with hregion | hregion
      · subst hregion
        exact ⟨by simp [Scan.step, Scan.stepCode, hblock],
          .inr (by simp [Scan.step, Scan.stepCode, hblock])⟩
      · subst hregion
        exact ⟨by simp [Scan.step, Scan.stepBlock], .inl (by simp [Scan.step, Scan.stepBlock])⟩

theorem Stuck.not_loop (hd : d.block.head? = some ([], [])) {text : List Char} (hne : text ≠ [])
    (n : Nat) (t : OctetScan) : ∀ {s : Scan}, Stuck text s → ¬ Loop d n (.ofScan s) t := by
  induction n with
  | zero =>
      intro s h hloop
      cases hloop with
      | done hrest => exact hne (h.rest_eq ▸ ofScan_rest_eq_nil_iff.1 hrest)
  | succ n ih =>
      intro s h hloop
      cases hloop with
      | round _ hstep hnext =>
          rw [OctetScan.step?_ofScan (h.rest_eq ▸ hne)] at hstep
          cases hstep
          exact ih (h.step hd) hnext

/-! ## Termination -/

/-- **Every scan comes to an end**, unless some block comment has both delimiters empty.  The loop
has at most twice as many rounds as the text has characters, none of its cuts is made inside a
character, and it ends where the bounded scan does, at the end of the text.  Where an empty pair of
delimiters comes first, on the other hand, the loop has an end for the empty text only. -/
theorem scan_terminates :
    (∀ d : Delimiters, d.Productive → ∀ text : List Char,
      (scan d text).rest = [] ∧
      ∃ rounds ≤ 2 * text.length,
        Loop d rounds (.ofScan (.start text)) (.ofScan (scan d text))) ∧
    (∀ d : Delimiters, d.block.head? = some ([], []) → ∀ text : List Char, text ≠ [] →
      ¬ ∃ rounds last, Loop d rounds (.ofScan (.start text)) last) := by
  constructor
  · intro d hd text
    have hend : (scan d text).rest = [] :=
      run_reaches_end hd (2 * text.length) .code text [] (Nat.le_refl _)
    exact ⟨hend, Loop.of_run hend⟩
  · rintro d hd text hne ⟨rounds, last, hloop⟩
    exact Stuck.not_loop hd hne rounds last ⟨rfl, .inl rfl⟩ hloop

/-- An empty line marker, an opener without a closer, and a longer opener that begins with a quote,
among characters of two octets; and an empty pair before one of the usual kind. -/
theorem scan_terminates_guillemets :
    Delimiters.Productive (.ofStrings [""] [("«", ""), ("\"«", "»")] "\"" "") ∧
    (∃ rounds ≤ 14, Loop (.ofStrings [""] [("«", ""), ("\"«", "»")] "\"" "") rounds
      (.ofScan (.start "\"«é»«\né".toList)) ⟨.lineComment, [], ['\n', ' ', ' ']⟩) ∧
    ¬ ∃ rounds last, Loop (.ofStrings [] [("", ""), ("/*", "*/")] "" "") rounds
      (.ofScan (.start "é".toList)) last := by
  have hd : Delimiters.Productive (.ofStrings [""] [("«", ""), ("\"«", "»")] "\"" "") := by
    simp [Delimiters.Productive, Delimiters.ofStrings]
  have hscan : scan (.ofStrings [""] [("«", ""), ("\"«", "»")] "\"" "") "\"«é»«\né".toList =
      ⟨.lineComment, [], ['\n', ' ', ' ']⟩ := by
    decide +kernel
  obtain ⟨hends, hendless⟩ := scan_terminates
  refine ⟨hd, ?_, hendless _ rfl _ (by decide)⟩
  have hloop := (hends _ hd "\"«é»«\né".toList).2
  rw [hscan] at hloop
  exact hloop

end Comment
end SourceAtlas
