import SourceAtlas.Proofs.Pattern.Known

/-!
# Places that a pattern reaches

A pattern leads from a place in a line to other places.  `Reaches` says which, without the order in
which they are tried, and whatever a pattern finds is a place that it reaches (`exists_reaches`,
`reaches_of_search`).  Two things can then be read off a pattern once and for all:

* `consumes`, `Reaches.ahead` — whether it reads at least one character on every way;
* `reports`, `fits_eq_isSome_capture?` — whether its group covers some text on every way, so that
  it has a capture wherever it fits.
-/

namespace SourceAtlas
namespace Pattern

variable {p : Pattern} {cur cur' mid done : Cursor}

/-- A way through a pattern from one place to another. -/
inductive Reaches : Pattern → Cursor → Cursor → Prop
  | empty {cur : Cursor} : Reaches .empty cur cur
  | one {accepts : Char → Bool} {cur : Cursor} {c : Char} {rest : List Char}
      (hrest : cur.rest = c :: rest) (hc : accepts c = true) :
      Reaches (.one accepts) cur (cur.next c rest)
  | span {accepts : Char → Bool} {greedy : Bool} {cur cur' : Cursor}
      (h : cur' ∈ cur.stops accepts) : Reaches (.span accepts greedy) cur cur'
  | seq {p q : Pattern} {cur mid cur' : Cursor} (hp : Reaches p cur mid)
      (hq : Reaches q mid cur') : Reaches (.seq p q) cur cur'
  | left {p q : Pattern} {cur cur' : Cursor} (h : Reaches p cur cur') :
      Reaches (.alt p q) cur cur'
  | right {p q : Pattern} {cur cur' : Cursor} (h : Reaches q cur cur') :
      Reaches (.alt p q) cur cur'
  | stop {body : Pattern} {cur : Cursor} : Reaches (.star body) cur cur
  | round {body : Pattern} {cur mid cur' : Cursor} (hbody : Reaches body cur mid)
      (hrest : Reaches (.star body) mid cur') : Reaches (.star body) cur cur'
  | group {body : Pattern} {cur cur' : Cursor} (h : Reaches body cur cur') :
      Reaches (.group body) cur
        { cur' with covered := some (cur.rest, cur'.offset - cur.offset) }
  | lineStart {cur : Cursor} (h : cur.offset = 0) : Reaches .lineStart cur cur
  | lineEnd {cur : Cursor} (h : cur.rest = []) : Reaches .lineEnd cur cur
  | wordEdge {cur : Cursor} (h : cur.atWordEdge = true) : Reaches .wordEdge cur cur

/-! ## What is found is reached -/

theorem exists_reaches_rounds {body : Pattern}
    (hbody : ∀ (cur : Cursor) (k : Continuation), body.run cur k = some done →
      ∃ cur', Reaches body cur cur' ∧ k cur' = some done) (n : Nat) :
    ∀ (cur : Cursor) (k : Continuation), rounds body.run n cur k = some done →
      ∃ cur', Reaches (.star body) cur cur' ∧ k cur' = some done := by
  induction n with
  | zero => exact fun cur k h => ⟨cur, .stop, h⟩
  | succ n ih =>
      intro cur k h
      rw [rounds_succ, Option.or_eq_some_iff] at h
      rcases h with h | ⟨-, h⟩
      · obtain ⟨mid, hmid, hagain⟩ := hbody cur _ h
        split at hagain
        · obtain ⟨cur', hcur', hdone⟩ := ih mid k hagain
          exact ⟨cur', .round hmid hcur', hdone⟩
        · cases hagain
      · exact ⟨cur, .stop, h⟩

/-- A pattern passes only places on to what follows that it reaches. -/
theorem exists_reaches (p : Pattern) :
    ∀ (cur : Cursor) (k : Continuation), p.run cur k = some done →
      ∃ cur', Reaches p cur cur' ∧ k cur' = some done := by
  induction p with
  | empty => exact fun cur k h => ⟨cur, .empty, h⟩
  | one accepts =>
      intro cur k h
      rw [run] at h
      split at h
      · rename_i c rest hrest
        split at h
        · rename_i hc
          exact ⟨cur.next c rest, .one hrest hc, h⟩
        · cases h
      · cases h
  | span accepts greedy =>
      intro cur k h
      obtain ⟨cur', hmem, hk⟩ := List.exists_of_findSome?_eq_some h
      refine ⟨cur', .span ?_, hk⟩
      split at hmem
      · exact hmem
      · exact List.mem_reverse.1 hmem
  | seq p q ihp ihq =>
      intro cur k h
      obtain ⟨mid, hmid, hrest⟩ := ihp cur _ h
      obtain ⟨cur', hcur', hk⟩ := ihq mid k hrest
      exact ⟨cur', .seq hmid hcur', hk⟩
  | alt p q ihp ihq =>
      intro cur k h
      rw [run_alt, Option.or_eq_some_iff] at h
      rcases h with h | ⟨-, h⟩
      · obtain ⟨cur', hcur', hk⟩ := ihp cur k h
        exact ⟨cur', .left hcur', hk⟩
      · obtain ⟨cur', hcur', hk⟩ := ihq cur k h
        exact ⟨cur', .right hcur', hk⟩
  | star body ih => exact fun cur k h => exists_reaches_rounds ih cur.rest.length cur k h
  | group body ih =>
      intro cur k h
      obtain ⟨cur', hcur', hk⟩ := ih cur _ h
      exact ⟨_, .group hcur', hk⟩
  | lineStart =>
      intro cur k h
      rw [run] at h
      split at h
      · rename_i hstart
        exact ⟨cur, .lineStart hstart, h⟩
      · cases h
  | lineEnd =>
      intro cur k h
      rw [run] at h
      split at h
      · rename_i hend
        exact ⟨cur, .lineEnd (List.isEmpty_iff.1 hend), h⟩
      · cases h
  | wordEdge =>
      intro cur k h
      rw [run] at h
      split at h
      · rename_i hedge
        exact ⟨cur, .wordEdge hedge, h⟩
      · cases h

theorem reaches_of_run (h : p.run cur some = some done) : Reaches p cur done := by
  obtain ⟨cur', hcur', hdone⟩ := exists_reaches p cur some h
  rw [← Option.some.inj hdone]
  exact hcur'

theorem reaches_of_searchFrom (rest : List Char) :
    ∀ cur : Cursor, p.searchFrom rest cur = some done → ∃ first, Reaches p first done := by
  induction rest with
  | nil => exact fun cur h => ⟨cur, reaches_of_run h⟩
  | cons c rest ih =>
      intro cur h
      rw [searchFrom] at h
      split at h
      · rename_i hrun
        cases h
        exact ⟨cur, reaches_of_run hrun⟩
      · exact ih _ h

/-- The end of a match is reached from somewhere in the line. -/
theorem reaches_of_search {line : List Char} (h : p.search line = some done) :
    ∃ first, Reaches p first done :=
  reaches_of_searchFrom line _ h

/-! ## What is read on the way -/

/-- Reading the text `w` leads from the place `cur` to the place `cur'`. -/
structure Cursor.Ahead (w : List Char) (cur cur' : Cursor) : Prop where
  rest : cur.rest = w ++ cur'.rest
  offset : cur'.offset = cur.offset + w.length

theorem Cursor.Ahead.refl (cur : Cursor) : Cursor.Ahead [] cur cur := ⟨rfl, rfl⟩

theorem Cursor.Ahead.trans {w w' : List Char} (h : Cursor.Ahead w cur mid)
    (h' : Cursor.Ahead w' mid cur') : Cursor.Ahead (w ++ w') cur cur' where
  rest := by rw [h.rest, h'.rest, List.append_assoc]
  offset := by rw [h'.offset, h.offset, List.length_append, Nat.add_assoc]

theorem ahead_next {c : Char} {rest : List Char} (hrest : cur.rest = c :: rest) :
    Cursor.Ahead [c] cur (cur.next c rest) :=
  ⟨hrest, rfl⟩

theorem mem_stopsFrom {accepts : Char → Bool} (rest : List Char) :
    ∀ (cur : Cursor) (known : List Cursor), cur.rest = rest →
      cur' ∈ Cursor.stopsFrom accepts rest cur known →
      cur' ∈ known ∨
        ∃ w, w.all accepts = true ∧ Cursor.Ahead w cur cur' ∧ cur'.covered = cur.covered := by
  induction rest with
  | nil => exact fun cur known _ h => Or.inl h
  | cons c rest ih =>
      intro cur known hrest h
      rw [Cursor.stopsFrom] at h
      split at h
      · rename_i hc
        have hnext := ahead_next hrest
        rcases ih _ _ rfl h with hmem | ⟨w, hw, hahead, hcovered⟩
        · rcases List.mem_cons.1 hmem with rfl | hmem
          · exact Or.inr ⟨[c], by simpa using hc, hnext, rfl⟩
          · exact Or.inl hmem
        · exact Or.inr ⟨c :: w, by simp [hc, hw], hnext.trans hahead, hcovered⟩
      · exact Or.inl h

/-- A span reads characters of its class. -/
theorem mem_stops {accepts : Char → Bool} (h : cur' ∈ cur.stops accepts) :
    ∃ w, w.all accepts = true ∧ Cursor.Ahead w cur cur' ∧ cur'.covered = cur.covered := by
  rcases mem_stopsFrom cur.rest cur [cur] rfl h with hmem | hahead
  · rw [List.mem_singleton.1 hmem]
    exact ⟨[], rfl, .refl cur, rfl⟩
  · exact hahead

/-- Whether every way through a pattern reads at least one character. -/
def consumes : Pattern → Bool
  | .one _ => true
  | .seq p q => consumes p || consumes q
  | .alt p q => consumes p && consumes q
  | .group p => consumes p
  | _ => false

/-- A way through a pattern reads on in the line. -/
theorem Reaches.ahead (h : Reaches p cur cur') :
    ∃ w, Cursor.Ahead w cur cur' ∧ (p.consumes = true → w ≠ []) := by
  induction h with
  | @empty cur => exact ⟨[], .refl cur, by simp [consumes]⟩
  | @one accepts cur c rest hrest hc => exact ⟨[c], ahead_next hrest, by simp⟩
  | span h =>
      obtain ⟨w, -, hahead, -⟩ := mem_stops h
      exact ⟨w, hahead, by simp [consumes]⟩
  | seq _ _ ihp ihq =>
      obtain ⟨w, hw, hp⟩ := ihp
      obtain ⟨w', hw', hq⟩ := ihq
      refine ⟨w ++ w', hw.trans hw', fun h => ?_⟩
      rw [consumes, Bool.or_eq_true] at h
      rcases h with h | h
      · simp [hp h]
      · simp [hq h]
  | left _ ih =>
      obtain ⟨w, hw, hp⟩ := ih
      exact ⟨w, hw, fun h => hp (Bool.and_eq_true_iff.1 h).1⟩
  | right _ ih =>
      obtain ⟨w, hw, hq⟩ := ih
      exact ⟨w, hw, fun h => hq (Bool.and_eq_true_iff.1 h).2⟩
  | @stop body cur => exact ⟨[], .refl cur, by simp [consumes]⟩
  | round _ _ ihbody ihrest =>
      obtain ⟨w, hw, -⟩ := ihbody
      obtain ⟨w', hw', -⟩ := ihrest
      exact ⟨w ++ w', hw.trans hw', by simp [consumes]⟩
  | group _ ih =>
      obtain ⟨w, hw, hbody⟩ := ih
      exact ⟨w, ⟨hw.rest, hw.offset⟩, hbody⟩
  | @lineStart cur h | @lineEnd cur h | @wordEdge cur h =>
      exact ⟨[], .refl cur, by simp [consumes]⟩

/-! ## What the group covers -/

/-- Whether a pattern has a group somewhere. -/
def hasGroup : Pattern → Bool
  | .seq p q => hasGroup p || hasGroup q
  | .alt p q => hasGroup p || hasGroup q
  | .star p => hasGroup p
  | .group _ => true
  | _ => false

/-- Whether on every way through a pattern the group covers some text in the end. -/
def reports : Pattern → Bool
  | .seq p q => reports q || (reports p && !hasGroup q)
  | .alt p q => reports p && reports q
  | .group p => consumes p
  | _ => false

/-- Without a group in it, a pattern leaves alone what the group of another has covered. -/
theorem Reaches.covered_eq (h : Reaches p cur cur') (hp : p.hasGroup = false) :
    cur'.covered = cur.covered := by
  induction h with
  | empty | one | stop | lineStart | lineEnd | wordEdge => rfl
  | span h =>
      obtain ⟨w, -, -, hcovered⟩ := mem_stops h
      exact hcovered
  | seq _ _ ihp ihq =>
      rw [hasGroup, Bool.or_eq_false_iff] at hp
      rw [ihq hp.2, ihp hp.1]
  | left _ ih => exact ih (Bool.or_eq_false_iff.1 hp).1
  | right _ ih => exact ih (Bool.or_eq_false_iff.1 hp).2
  | round _ _ ihbody ihrest => rw [ihrest hp, ihbody hp]
  | group => cases hp

/-- **A pattern that reports has a group with some text on every way.** -/
theorem Reaches.groupText_ne_nil (h : Reaches p cur cur') (hp : p.reports = true) :
    ∃ w, w ≠ [] ∧ cur'.groupText = some w := by
  induction h with
  | seq _ hq ihp ihq =>
      -- the last group on the way counts, so what follows must report or have no group at all
      rw [reports, Bool.or_eq_true, Bool.and_eq_true, Bool.not_eq_true'] at hp
      rcases hp with hp | ⟨hp, hgroup⟩
      · exact ihq hp
      · rw [Cursor.groupText, hq.covered_eq hgroup]
        exact ihp hp
  | left _ ih => exact ih (Bool.and_eq_true_iff.1 hp).1
  | right _ ih => exact ih (Bool.and_eq_true_iff.1 hp).2
  | group hbody _ =>
      obtain ⟨w, hw, hne⟩ := hbody.ahead
      refine ⟨w, hne hp, ?_⟩
      simp [Cursor.groupText, hw.rest, hw.offset]
  | _ => cases hp

/-- A pattern that reports has a capture exactly where it fits. -/
theorem fits_eq_isSome_capture? (hp : p.reports = true) (line : List Char) :
    p.fits line = (p.capture? line).isSome := by
  rw [fits, capture?, groupIn?]
  cases hsearch : p.search line with
  | none => rfl
  | some done =>
      obtain ⟨first, hreaches⟩ := reaches_of_search hsearch
      obtain ⟨w, hne, hgroup⟩ := hreaches.groupText_ne_nil hp
      simp [hgroup, hne]

/-! ## Lines that begin with a known word -/

theorem reaches_seq_iff {p q : Pattern} :
    Reaches (.seq p q) cur cur' ↔ ∃ mid, Reaches p cur mid ∧ Reaches q mid cur' := by
  constructor
  · intro h
    cases h with
    | seq hp hq => exact ⟨_, hp, hq⟩
  · rintro ⟨mid, hp, hq⟩
    exact .seq hp hq

/-- A line that fits a pattern of whole lines with a word in front begins with that word, after its
indentation. -/
theorem head?_trimStart_of_fits {c : Char} {word : List Char} (hc : Text.isBlank c = false)
    {ps : List Pattern} {line : List Char}
    (h : (Pattern.line (text (String.ofList (c :: word)) :: ps)).fits line = true) :
    (Text.trimStart line).head? = some c := by
  obtain ⟨done, hdone⟩ := Option.isSome_iff_exists.1 h
  rw [search_of_anchored rfl] at hdone
  have hreaches := reaches_of_run hdone
  simp only [Pattern.line, blanks, many, text, all, String.toList_ofList, List.map_cons,
    List.foldr_cons, reaches_seq_iff] at hreaches
  obtain ⟨_, hstart, place, hindent, _, ⟨_, hfirst, -⟩, -⟩ := hreaches
  cases hstart
  cases hindent with
  | span hstop =>
      obtain ⟨indent, hblank, hahead, -⟩ := mem_stops hstop
      cases hfirst with
      | one hrest hc' =>
          have hline : line = indent ++ place.rest := hahead.rest
          rw [hrest, beq_iff_eq.1 hc'] at hline
          rw [Text.trimStart, hline, List.dropWhile_append_of_pos (by simpa using hblank)]
          simp [hc]

end Pattern
end SourceAtlas
