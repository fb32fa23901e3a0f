import SourceAtlas.Proofs.Comment.Stripping

/-!
# Strokes: what a scan writes, and where it stands

A *stroke* is a character of the stripped text together with the region in which the scanner wrote
it and the region in which it went on.  The strokes of a text say of every character of the stripped
text whether it was copied from program text, and of every line in which region it begins.

* `strokes` — the strokes of a text, by the steps of its scan; `map_char_strokes` says that their
  characters are the stripped text.
* `strokesFrom_move` — the strokes from a region on follow the moves of the scanner.
* `ScannedLine`, `scannedLines` — the lines of the stripped text as strokes
  (`map_chars_scannedLines`).
-/

namespace SourceAtlas
namespace Comment

variable {d : Delimiters} {region region' : Region} {text text' out : List Char}

/-- A written character. -/
structure Stroke where
  /-- The character. -/
  char : Char
  /-- Where the scanner stood when it wrote the character. -/
  within : Region
  /-- Where the scanner stood after the step that wrote the character. -/
  next : Region
  deriving DecidableEq, Repr

/-- What a step from `s` to `s'` has written. -/
def Scan.newlyWritten (s s' : Scan) : List Char :=
  (s'.written.take (s'.written.length - s.written.length)).reverse

/-- The strokes of at most `n` steps. -/
def Scan.strokes (d : Delimiters) : Nat → Scan → List Stroke
  | 0, _ => []
  | n + 1, s =>
    if s.rest.isEmpty then []
    else (s.newlyWritten (s.step d)).map (⟨·, s.region, (s.step d).region⟩) ++
      Scan.strokes d n (s.step d)

/-- The strokes of a text. -/
def strokes (d : Delimiters) (text : List Char) : List Stroke :=
  (Scan.start text).strokes d (2 * text.length)

/-! ## Strokes follow moves -/

theorem strokes_of_rest_nil {s : Scan} (h : s.rest = []) (n : Nat) : s.strokes d n = [] := by
  cases n with
  | zero => rfl
  | succ n => simp [Scan.strokes, h]

theorem strokes_move (h : Move d region text out region' text') (n : Nat) (written : List Char) :
    Scan.strokes d (n + 1) ⟨region, text, written⟩ =
      out.map (⟨·, region, region'⟩) ++
        Scan.strokes d n ⟨region', text', out.reverse ++ written⟩ := by
  have hne : text.isEmpty = false := List.isEmpty_eq_false_iff.2 h.ne_nil
  have hnew : Scan.newlyWritten ⟨region, text, written⟩
      ⟨region', text', out.reverse ++ written⟩ = out := by
    simp [Scan.newlyWritten]
  rw [Scan.strokes, step_of_move h, hnew]
  simp only [hne, Bool.false_eq_true, if_false]

/-- What was written before has no influence on strokes, nor has the number of steps, as long as the
potential allows it. -/
theorem strokes_eq_strokes (hd : d.Productive) (m : Nat) :
    ∀ (n : Nat) (region : Region) (text written written' : List Char),
      potential region text ≤ m + 1 → potential region text ≤ n + 1 →
      Scan.strokes d m ⟨region, text, written⟩ = Scan.strokes d n ⟨region, text, written'⟩ := by
  induction m with
  | zero =>
      intro n region text written written' hm hn
      have hnil : text = [] := by
        refine List.eq_nil_of_length_eq_zero ?_
        rw [potential] at hm
        omega
      rw [strokes_of_rest_nil hnil, strokes_of_rest_nil hnil]
  | succ m ih =>
      intro n region text written written' hm hn
      by_cases hne : text = []
      · rw [strokes_of_rest_nil hne, strokes_of_rest_nil hne]
      · obtain ⟨out, region', text', hmove⟩ := exists_move (d := d) region hne
        have hlt := hmove.potential_lt hd
        obtain ⟨n, rfl⟩ : ∃ n', n = n' + 1 := by
          have hpos := List.length_pos_iff.2 hne
          rw [potential] at hn
          exact ⟨n - 1, by omega⟩
        rw [strokes_move hmove, strokes_move hmove]
        exact congrArg _ (ih n region' text' _ _ (by omega) (by omega))

/-- The strokes of a text from a region on. -/
def strokesFrom (d : Delimiters) (region : Region) (text : List Char) : List Stroke :=
  Scan.strokes d (2 * text.length + 2) ⟨region, text, []⟩

theorem strokes_eq_strokesFrom (hd : d.Productive) (text : List Char) :
    strokes d text = strokesFrom d .code text :=
  strokes_eq_strokes hd _ _ .code text [] [] (by simp [potential])
    (Nat.le_succ_of_le (potential_le .code text))

@[simp] theorem strokesFrom_nil (region : Region) : strokesFrom d region [] = [] :=
  strokes_of_rest_nil rfl _

/-- Strokes begin with those of the first move. -/
theorem strokesFrom_move (hd : d.Productive) (h : Move d region text out region' text') :
    strokesFrom d region text = out.map (⟨·, region, region'⟩) ++ strokesFrom d region' text' := by
  have hlt := h.potential_lt hd
  have hle := potential_le region text
  rw [strokesFrom, strokes_move h]
  exact congrArg _ (strokes_eq_strokes hd _ _ region' text' _ _ (by omega)
    (Nat.le_succ_of_le (potential_le region' text')))

theorem map_char_strokesFrom (hd : d.Productive) (region : Region) (text : List Char) :
    (strokesFrom d region text).map Stroke.char = emitted d region text := by
  induction region, text using move_induction hd with
  | nil region => rw [strokesFrom_nil, emitted_nil, List.map_nil]
  | move region text out region' text' hmove ih =>
      rw [strokesFrom_move hd hmove, emitted_move hd hmove, List.map_append, ih, List.map_map]
      simp [Function.comp_def]

/-- The characters of the strokes are the stripped text. -/
theorem map_char_strokes (hd : d.Productive) (text : List Char) :
    (strokes d text).map Stroke.char = strip d text := by
  rw [strokes_eq_strokesFrom hd, map_char_strokesFrom hd, strip_eq_emitted hd]

/-! ## Lines of strokes -/

/-- A line of a stripped text. -/
structure ScannedLine where
  /-- Where the scanner stood before the line. -/
  start : Region
  /-- The strokes of the line, without its line break. -/
  strokes : List Stroke
  deriving DecidableEq, Repr

/-- The characters of a line. -/
def ScannedLine.chars (l : ScannedLine) : List Char := l.strokes.map Stroke.char

/-- The lines of strokes, the first of which begins in the given region. -/
def linesFrom : Region → List Stroke → List ScannedLine
  | start, [] => [⟨start, []⟩]
  | start, s :: rest =>
    if s.char = '\n' then ⟨start, []⟩ :: linesFrom s.next rest
    else (linesFrom start rest).modifyHead fun l => { l with strokes := s :: l.strokes }

/-- The lines of a stripped text. -/
def scannedLines (d : Delimiters) (text : List Char) : List ScannedLine :=
  linesFrom .code (strokes d text)

theorem map_chars_linesFrom (strokes : List Stroke) :
    ∀ start, (linesFrom start strokes).map ScannedLine.chars =
      (strokes.map Stroke.char).splitOn '\n' := by
  induction strokes with
  | nil => exact fun start => rfl
  | cons s rest ih =>
      intro start
      rw [linesFrom, List.map_cons, List.splitOn_cons_eq_if_modifyHead]
      by_cases hs : s.char = '\n'
      · rw [if_pos hs, if_pos (beq_iff_eq.2 hs), List.map_cons, ih]
        rfl
      · rw [if_neg hs, if_neg (by simpa using hs), ← ih start]
        cases linesFrom start rest <;> rfl

/-- The lines of strokes are the lines of the stripped text. -/
theorem map_chars_scannedLines (hd : d.Productive) (text : List Char) :
    (scannedLines d text).map ScannedLine.chars = (strip d text).splitOn '\n' := by
  rw [scannedLines, map_chars_linesFrom, map_char_strokes hd]

/-- The first line of strokes begins where they do. -/
theorem exists_linesFrom_eq_cons (start : Region) (strokes : List Stroke) :
    ∃ strokes' others, linesFrom start strokes = ⟨start, strokes'⟩ :: others := by
  induction strokes with
  | nil => exact ⟨[], [], rfl⟩
  | cons s rest ih =>
      rw [linesFrom]
      split
      · exact ⟨[], _, rfl⟩
      · obtain ⟨strokes', others, hlines⟩ := ih
        exact ⟨s :: strokes', others, by rw [hlines]; rfl⟩

/-- Strokes without a line break stand in front of the first line. -/
theorem linesFrom_append {front : List Stroke} (hfront : ∀ s ∈ front, s.char ≠ '\n')
    {start : Region} {rest strokes' : List Stroke} {others : List ScannedLine}
    (hrest : linesFrom start rest = ⟨start, strokes'⟩ :: others) :
    linesFrom start (front ++ rest) = ⟨start, front ++ strokes'⟩ :: others := by
  induction front with
  | nil => exact hrest
  | cons s front ih =>
      have hs := hfront s (List.mem_cons_self ..)
      have hlines := ih fun s' hs' => hfront s' (List.mem_cons_of_mem s hs')
      rw [List.cons_append, linesFrom, if_neg hs, hlines]
      rfl

end Comment
end SourceAtlas
