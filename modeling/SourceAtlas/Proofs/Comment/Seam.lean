import Mathlib.Data.List.Find
import SourceAtlas.Proofs.Comment.Stripping

/-!
# Scans of texts in two parts

If the scanner is back in program text after the first part and a line break, then the line break
divides the scan: what is written for the whole is what is written for the two parts, with the line
break between them.

No delimiter contains a line break, so the first part is scanned as it would be alone
(`Move.append_break`), except that a backslash at its very end, inside a literal, now escapes the
line break; but then the scanner is not back in program text.
-/

namespace SourceAtlas
namespace Comment

variable {d : Delimiters} {region region' : Region} {text text' out : List Char}

/-- A word without line breaks does not reach beyond a line break. -/
theorem prefix_append_break_iff {w : List Char} (hw : '\n' ∉ w) (later : List Char) :
    w <+: text ++ '\n' :: later ↔ w <+: text := by
  constructor
  · intro h
    rcases List.prefix_or_prefix_of_prefix h (List.prefix_append text _) with hshort | ⟨s, rfl⟩
    · exact hshort
    · rcases List.prefix_cons_iff.1 ((List.prefix_append_right_inj text).1 h) with rfl | ⟨s', rfl, -⟩
      · simp
      · exact absurd (List.mem_append_right text (List.mem_cons_self ..)) hw
  · exact fun h => h.trans (List.prefix_append text _)

theorem not_prefix_append_break {w : List Char} (hw : '\n' ∉ w) (h : ¬ w <+: text)
    (later : List Char) : ¬ w <+: text ++ '\n' :: later :=
  mt (prefix_append_break_iff hw later).1 h

theorem noComment_append_break (hd : d.Seamless) (h : d.NoComment text) (later : List Char) :
    d.NoComment (text ++ '\n' :: later) := by
  refine ⟨?_, ?_⟩
  · intro pair hpair
    exact not_prefix_append_break (hd.opener pair hpair).2.2 (h.1 pair hpair) later
  · intro marker hmarker
    exact not_prefix_append_break (hd.marker marker hmarker).2.2 (h.2 marker hmarker) later

theorem find?_opener_append_break (hd : d.Seamless) (later : List Char) :
    d.block.find? (fun pair => pair.1.isPrefixOf (text ++ '\n' :: later)) =
      d.block.find? (fun pair => pair.1.isPrefixOf text) := by
  refine List.find?_congr fun pair hpair => ?_
  rw [Bool.eq_iff_iff, List.isPrefixOf_iff_prefix, List.isPrefixOf_iff_prefix]
  exact prefix_append_break_iff (hd.opener pair hpair).2.2 later

/-- A move can be made also if a line break follows the text; only a backslash at the end of a
literal then escapes the line break. -/
theorem Move.append_break (hd : d.Seamless) (hregion : region.Unbroken)
    (h : Move d region text out region' text') :
    (∀ later, Move d region (text ++ '\n' :: later) out region' (text' ++ '\n' :: later)) ∨
      text = ['\\'] ∧ ∃ quote multiline, region = .literal quote multiline := by
  cases h with
  | @openBlock opener closer rest hne hfind =>
      refine Or.inl fun later => ?_
      rw [← find?_opener_append_break hd later] at hfind
      rw [List.append_assoc] at hfind ⊢
      exact .openBlock (by simp) hfind
  | @openLine c rest hblock hline =>
      refine Or.inl fun later => .openLine ?_ ?_
      · intro pair hpair
        have hopener := (hd.opener pair hpair).2.2
        have hnot := not_prefix_append_break hopener (hblock pair hpair) later
        exact hnot
      · obtain ⟨marker, hmarker, hprefix⟩ := hline
        exact ⟨marker, hmarker, hprefix.trans (List.prefix_append (c :: rest) _)⟩
  | openLiteral hplain hquote =>
      exact Or.inl fun later => .openLiteral (noComment_append_break hd hplain later) hquote
  | copyCode hplain hquote =>
      exact Or.inl fun later => .copyCode (noComment_append_break hd hplain later) hquote
  | endLine => exact Or.inl fun later => .endLine
  | dropLine hc => exact Or.inl fun later => .dropLine hc
  | closeBlock hne =>
      refine Or.inl fun later => ?_
      rw [List.append_assoc]
      exact .closeBlock (by simp)
  | breakBlock hopen =>
      have hnot := not_prefix_append_break hregion hopen
      exact Or.inl fun later => .breakBlock (hnot later)
  | dropBlock hopen hc =>
      have hnot := not_prefix_append_break hregion hopen
      exact Or.inl fun later => .dropBlock (hnot later) hc
  | escape => exact Or.inl fun later => .escape
  | escapeEnd => exact Or.inr ⟨rfl, _, _, rfl⟩
  | endLiteral hc hend => exact Or.inl fun later => .endLiteral hc hend
  | copyLiteral hc hgo => exact Or.inl fun later => .copyLiteral hc hgo

/-- The scanner is back in program text after a line break only if it keeps the line break and
reads on in program text, whatever comes later. -/
theorem emitted_break (hd : d.Seamless) (hregion : region.Unbroken)
    (h : lastRegion d region ['\n'] = .code) (later : List Char) :
    emitted d region ('\n' :: later) = '\n' :: emitted d .code later := by
  have hp := hd.productive
  have hcode : ∀ later, Move d .code ('\n' :: later) ['\n'] .code later :=
    Move.copy_blank hd (Or.inr rfl)
  cases region with
  | code => exact emitted_move hp (hcode later)
  | lineComment => exact emitted_move hp .endLine
  | blockComment closer =>
      by_cases hcloser : closer = []
      · subst hcloser
        have hclose : Move d (.blockComment []) ('\n' :: later) [] .code ('\n' :: later) :=
          .closeBlock (List.cons_ne_nil _ _)
        rw [emitted_move hp hclose, emitted_move hp (hcode later)]
        rfl
      · have hopen : ¬ closer <+: ['\n'] := by
          intro hprefix
          exact hcloser (List.prefix_nil.1 ((prefix_append_break_iff hregion []).1 hprefix))
        rw [lastRegion_move hp (.breakBlock hopen), lastRegion_nil] at h
        cases h
  | literal quote multiline =>
      have hc : '\n' ≠ '\\' := by decide
      by_cases hend : '\n' = quote ∨ '\n' = '\n' ∧ multiline = false
      · exact emitted_move hp (.endLiteral hc hend)
      · rw [lastRegion_move hp (.copyLiteral hc hend), lastRegion_nil] at h
        cases h

/-- **A line break in program text divides a scan.** -/
theorem emitted_append_break (hd : d.Seamless) (hunbroken : d.Unbroken) (region : Region)
    (text : List Char) : region.Unbroken → lastRegion d region (text ++ ['\n']) = .code →
      ∀ later, emitted d region (text ++ '\n' :: later) =
        emitted d region text ++ '\n' :: emitted d .code later := by
  have hp := hd.productive
  induction region, text using move_induction hp with
  | nil region =>
      intro hregion hlast later
      rw [emitted_nil]
      exact emitted_break hd hregion hlast later
  | move region text out region' text' hmove ih =>
      intro hregion hlast later
      rcases hmove.append_break hd hregion with hbreak | ⟨rfl, quote, multiline, rfl⟩
      · rw [lastRegion_move hp (hbreak [])] at hlast
        rw [emitted_move hp (hbreak later), emitted_move hp hmove, List.append_assoc,
          ih (hmove.unbroken hunbroken hregion) hlast]
      · rw [List.singleton_append, lastRegion_move hp .escape, lastRegion_nil] at hlast
        cases hlast

theorem strip_append_break (hd : d.Seamless) (hunbroken : d.Unbroken) {text : List Char}
    (h : (scan d (text ++ ['\n'])).region = .code) (later : List Char) :
    strip d (text ++ '\n' :: later) = strip d text ++ '\n' :: strip d later := by
  rw [scan_eq_complete hd.productive] at h
  simp only [strip_eq_emitted hd.productive]
  exact emitted_append_break hd hunbroken .code text True.intro h later

end Comment
end SourceAtlas
