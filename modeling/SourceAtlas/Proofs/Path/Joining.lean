import SourceAtlas.Proofs.Resolve.Relative

/-!
# Joining paths

A relative path is joined onto a directory segment by segment, on a stack of directories, and the
stack is spelled out as a path again.  Nothing is lost on the way through that spelling, so a path
may be joined in two pieces just as well as at once.

* `stepInto_cases`, `stepInto_eq_none_iff` — what one segment does to the stack;
* `forall_of_foldlM_stepInto` — what all segments together keep: whatever holds of the directories
  on the stack and of the names that are added to it;
* `foldlM_stepInto_eq_none_iff` — when the root is left: as soon as more double dots have been read
  than there were directories and names;
* `resolve?_eq_some` — the result of joining is the spelling of a stack of names, from which the
  stack is read back;
* `resolve_acts` — joining is an action of relative paths that fails only above the root.
-/

namespace SourceAtlas
namespace Path

/-- The segments that a path is made of.  The root is made of none. -/
def parts (path : String) : List String := if path = "" then [] else segments path

/-! ## One segment -/

section

variable {dirs dirs' : List String} {segment : String}

/-- A segment leaves the stack alone, takes the innermost directory off, or adds a name. -/
theorem stepInto_cases (h : stepInto dirs segment = some dirs') :
    (segment = "" ∨ segment = ".") ∧ dirs' = dirs ∨
      segment = ".." ∧ (∃ innermost, dirs = innermost :: dirs') ∨
      IsPlain segment ∧ dirs' = segment :: dirs := by
  unfold stepInto at h
  split at h
  · rename_i hstay
    cases h
    exact Or.inl ⟨by simpa using hstay, rfl⟩
  · rename_i hmove
    simp only [Bool.or_eq_true, decide_eq_true_eq, not_or] at hmove
    split at h
    · rename_i hup
      cases dirs with
      | nil => cases h
      | cons innermost outer =>
          cases h
          exact Or.inr (Or.inl ⟨hup, innermost, rfl⟩)
    · rename_i hdown
      cases h
      exact Or.inr (Or.inr ⟨⟨hmove.1, hmove.2, hdown⟩, rfl⟩)

/-- It fails only where there is no directory to leave. -/
theorem stepInto_eq_none_iff : stepInto dirs segment = none ↔ segment = ".." ∧ dirs = [] := by
  unfold stepInto
  constructor
  · intro h
    split at h
    · cases h
    · split at h
      · rename_i hup
        cases dirs with
        | nil => exact ⟨hup, rfl⟩
        | cons innermost outer => cases h
      · cases h
  · rintro ⟨rfl, rfl⟩
    rfl

end

/-! ## All segments -/

/-- What holds of the directories on the stack and of every name among the segments holds of all
directories that are on the stack in the end. -/
theorem forall_of_foldlM_stepInto {P : String → Prop} {segs : List String} :
    ∀ {dirs dirs' : List String}, segs.foldlM stepInto dirs = some dirs' →
      (∀ s ∈ segs, IsPlain s → P s) → (∀ d ∈ dirs, P d) → ∀ d ∈ dirs', P d := by
  induction segs with
  | nil =>
      intro dirs dirs' h _ hdirs
      cases h
      exact hdirs
  | cons s segs ih =>
      intro dirs dirs' h hsegs hdirs
      obtain ⟨hs, hsegs⟩ := List.forall_mem_cons.1 hsegs
      rw [List.foldlM_cons, Option.bind_eq_bind, Option.bind_eq_some_iff] at h
      obtain ⟨next, hstep, hrest⟩ := h
      refine ih hrest hsegs ?_
      obtain ⟨-, rfl⟩ | ⟨-, innermost, rfl⟩ | ⟨hplain, rfl⟩ := stepInto_cases hstep
      · exact hdirs
      · exact (List.forall_mem_cons.1 hdirs).2
      · exact List.forall_mem_cons.2 ⟨hs hplain, hdirs⟩

/-- The front of a path overshoots from a directory of the given depth: it goes up more often than
there are directories above it and names in it. -/
def Overshoots (depth : Nat) (front : List String) : Prop :=
  depth + front.countP (fun s => IsPlain s) < front.count ".."

theorem exists_overshoots_cons {depth : Nat} {s : String} {segs : List String} :
    (∃ front, front <+: s :: segs ∧ Overshoots depth front) ↔
      ∃ front, front <+: segs ∧ Overshoots depth (s :: front) := by
  constructor
  · rintro ⟨front, hfront, h⟩
    rcases List.prefix_cons_iff.1 hfront with rfl | ⟨front', rfl, hfront'⟩
    · exact absurd h (Nat.not_lt_zero _)
    · exact ⟨front', hfront', h⟩
  · rintro ⟨front, hfront, h⟩
    exact ⟨s :: front, List.cons_prefix_cons.2 ⟨rfl, hfront⟩, h⟩

theorem foldlM_stepInto_eq_none_iff (segs : List String) : ∀ dirs : List String,
    segs.foldlM stepInto dirs = none ↔
      ∃ front, front <+: segs ∧ Overshoots dirs.length front := by
  induction segs with
  | nil => simp [Overshoots]
  | cons s segs ih =>
      intro dirs
      rw [exists_overshoots_cons, List.foldlM_cons]
      cases hstep : stepInto dirs s with
      | none =>
          obtain ⟨rfl, rfl⟩ := stepInto_eq_none_iff.1 hstep
          have hnow : Overshoots 0 [".."] := by unfold Overshoots; decide
          exact ⟨fun _ => ⟨[], List.nil_prefix, hnow⟩, fun _ => rfl⟩
      | some next =>
          rw [Option.bind_eq_bind, Option.bind_some, ih]
          refine exists_congr fun front => and_congr_right fun _ => ?_
          unfold Overshoots
          -- Each segment changes the depth by as much as it changes the counts.
          obtain ⟨hstay, rfl⟩ | ⟨rfl, innermost, rfl⟩ | ⟨hplain, rfl⟩ := stepInto_cases hstep
          · have hname : ¬ IsPlain s := by rcases hstay with rfl | rfl <;> decide
            have hup : s ≠ ".." := by rcases hstay with rfl | rfl <;> decide
            rw [List.countP_cons_of_neg (by simpa using hname), List.count_cons_of_ne hup]
          · rw [List.countP_cons_of_neg (by decide), List.count_cons_self, List.length_cons]
            omega
          · rw [List.countP_cons_of_pos (by simpa using hplain), List.count_cons_of_ne hplain.2.2,
              List.length_cons]
            omega

/-! ## Through the spelling of a path -/

section

variable {base relative path : String}

theorem isName_of_mem_steps {s : String} (h : s ∈ steps base) : IsName s := by
  obtain ⟨hmem, hne⟩ := List.mem_filter.1 h
  exact ⟨by simpa using hne, slash_not_mem_of_mem_segments hmem⟩

/-- A path that is the result of joining is the spelling of a stack of names. -/
theorem resolve?_eq_some (h : resolve? base relative = some path) :
    ∃ dirs, (segments relative).foldlM stepInto (steps base).reverse = some dirs ∧
      (∀ d ∈ dirs.reverse, IsName d) ∧ path = ofSegments dirs.reverse := by
  obtain ⟨dirs, hfold, rfl⟩ := Option.map_eq_some_iff.1 h
  refine ⟨dirs, hfold, fun d hd => ?_, rfl⟩
  refine forall_of_foldlM_stepInto hfold ?_ ?_ d (List.mem_reverse.1 hd)
  · exact fun s hs hplain => ⟨hplain.1, slash_not_mem_of_mem_segments hs⟩
  · exact fun s hs => isName_of_mem_steps (List.mem_reverse.1 hs)

/-- Joining in two pieces: the stack of the first piece is found again in its spelling. -/
theorem resolve?_append_slash (base r₁ r₂ : String) :
    resolve? base (r₁ ++ "/" ++ r₂) = (resolve? base r₁).bind (resolve? · r₂) := by
  have hwhole : resolve? base (r₁ ++ "/" ++ r₂) =
      (((segments r₁).foldlM stepInto (steps base).reverse).bind
        ((segments r₂).foldlM stepInto)).map fun dirs => ofSegments dirs.reverse := by
    rw [resolve?, segments_append_slash, List.foldlM_append]
    rfl
  rw [hwhole]
  cases hfirst : resolve? base r₁ with
  | none =>
      have hfold : (segments r₁).foldlM stepInto (steps base).reverse = none :=
        Option.map_eq_none_iff.1 hfirst
      rw [hfold]
      rfl
  | some path =>
      obtain ⟨dirs, hfold, hnames, rfl⟩ := resolve?_eq_some hfirst
      have hsteps := steps_ofSegments hnames
      rw [steps] at hsteps
      rw [hfold, Option.bind_some, Option.bind_some, resolve?, hsteps, List.reverse_reverse]

theorem resolve?_eq_none_iff : resolve? base relative = none ↔
    ∃ front, front <+: segments relative ∧ Overshoots (steps base).length front := by
  rw [resolve?, Option.map_eq_none_iff, foldlM_stepInto_eq_none_iff, List.length_reverse]
  rfl

theorem parts_ofSegments {segs : List String} (h : ∀ s ∈ segs, IsName s) :
    parts (ofSegments segs) = segs := by
  by_cases hsegs : segs = []
  · rw [hsegs]
    rfl
  · have hne : ofSegments segs ≠ "" := by
      rw [← List.dropLast_concat_getLast hsegs] at h ⊢
      exact ofSegments_concat_ne_empty h
    rw [parts, if_neg hne, segments_ofSegments hsegs fun s hs => (h s hs).2]

theorem resolve?_of_parts_plain (h : ∀ s ∈ parts path, IsPlain s) :
    resolve? "" path = some path := by
  by_cases hroot : path = ""
  · rw [hroot]
    rfl
  · rw [parts, if_neg hroot] at h
    have hfold := foldlM_stepInto_plain h []
    rw [List.append_nil] at hfold
    have hstart : ((segments "").filter (· ≠ "")).reverse = [] := rfl
    rw [resolve?, hstart, hfold, Option.map_some, List.reverse_reverse, ofSegments_segments]

end

/-- **Joining paths is an action.**  A path that is put together from two pieces is joined like its
pieces one after the other, and fails where one of them does.  Joining fails exactly if some front
of the path overshoots, however the path goes on.  Onto a directory without dots it gives the root
or a path of plain segments, which is joined onto the root without any change. -/
theorem resolve_acts :
    (∀ base r₁ r₂ : String,
      resolve? base (r₁ ++ "/" ++ r₂) = (resolve? base r₁).bind (resolve? · r₂)) ∧
    (∀ base relative : String, resolve? base relative = none ↔
      ∃ front, front <+: segments relative ∧ Overshoots (steps base).length front) ∧
    (∀ base relative path : String, (∀ s ∈ segments base, s ≠ "." ∧ s ≠ "..") →
      resolve? base relative = some path →
        (∀ s ∈ parts path, IsPlain s) ∧ resolve? "" path = some path) := by
  refine ⟨resolve?_append_slash, fun base relative => resolve?_eq_none_iff, ?_⟩
  intro base relative path hbase h
  obtain ⟨dirs, hfold, hnames, rfl⟩ := resolve?_eq_some h
  have hplain : ∀ s ∈ parts (ofSegments dirs.reverse), IsPlain s := by
    rw [parts_ofSegments hnames]
    intro s hs
    refine forall_of_foldlM_stepInto hfold (fun _ _ hs => hs) ?_ s (List.mem_reverse.1 hs)
    intro d hd
    obtain ⟨hmem, hne⟩ := List.mem_filter.1 (List.mem_reverse.1 hd)
    exact ⟨by simpa using hne, hbase d hmem⟩
  exact ⟨hplain, resolve?_of_parts_plain hplain⟩

/-- A way out of the root and back again, which is no way; and one with an empty segment and dots,
in two pieces. -/
theorem resolve_acts_detour :
    resolve? "src/app" "../../../src/app/main" = none ∧
    (resolve? "src/app" "../lib").bind (resolve? · "./core//io") = some "src/lib/core/io" ∧
    (∀ s ∈ parts "src/lib/core/io", IsPlain s) ∧
    resolve? "" "src/lib/core/io" = some "src/lib/core/io" := by
  obtain ⟨hact, hnone, hsome⟩ := resolve_acts
  have hjoined : resolve? "src/app" ("../lib" ++ "/" ++ "./core//io") = some "src/lib/core/io" := by
    decide +kernel
  refine ⟨?_, ?_, ?_⟩
  · rw [hnone]
    refine ⟨["..", "..", ".."], by decide +kernel, ?_⟩
    unfold Overshoots
    decide +kernel
  · rw [← hact]
    exact hjoined
  · exact hsome "src/app" _ _ (by decide +kernel) hjoined

end Path
end SourceAtlas
