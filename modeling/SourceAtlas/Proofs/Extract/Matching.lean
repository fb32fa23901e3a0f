import Mathlib.Data.List.Induction
import SourceAtlas.Extract.Scopes

/-!
# Open scopes are unmatched braces

The tracker of scopes is told of declarations and given lines to read.  All that bears on scopes in
a sequence of such calls are its *marks*: declarations, braces and semicolons outside string
literals, and the ends of lines.  Two questions about marks have answers that do not mention a
stack:

* `Matched`, `openPlaces` — which opening brace belongs to which closing brace, and which opening
  braces have none: two braces match if what stands between them is balanced.
* `waiting` — which declaration waits for its body: the last one that nothing has replaced, taken or
  dropped since (`waiting_eq_some_iff`).

The open scopes are the opening braces without a match, each with the declaration that waited where
it stands (`opened_foldl_mark`, `opened_after`).  The proof goes from the front of the marks to
their end, with any scopes open to begin with: `surplus` says how many of those get closed.
-/

namespace SourceAtlas
namespace Scopes

/-! ## Calls and marks -/

/-- What the tracker is asked to do. -/
inductive Call where
  /-- Note a declaration. -/
  | declare (scope : Scope)
  /-- Read a comment-free line. -/
  | advance (line : List Char)
  deriving DecidableEq, Repr

/-- The effect of a call. -/
def call (d : Delimiters) (s : Scopes) : Call → Scopes
  | .declare scope => s.declare scope
  | .advance line => s.advance d line

/-- The scopes behind a sequence of calls. -/
def after (d : Delimiters) (s : Scopes) (calls : List Call) : Scopes := calls.foldl (call d) s

/-- Something that bears on scopes. -/
inductive Mark where
  /-- A declaration. -/
  | declared (scope : Scope)
  /-- An opening brace. -/
  | opening
  /-- A closing brace. -/
  | closing
  /-- A semicolon. -/
  | semicolon
  /-- The end of a line, after which a body may still follow or not. -/
  | lineEnd (continues : Bool)
  deriving DecidableEq, Repr

/-- The mark that a character makes outside string literals. -/
def Mark.ofChar? (c : Char) : Option Mark :=
  if c = '\x7b' then some .opening
  else if c = '\x7d' then some .closing
  else if c = ';' then some .semicolon
  else none

/-- The marks of a call, in order. -/
def Call.marks (d : Delimiters) : Call → List Mark
  | .declare scope => [.declared scope]
  | .advance line =>
    (unquoted d line).filterMap Mark.ofChar? ++ [.lineEnd (continuesSignature line)]

/-- The marks of a sequence of calls. -/
def marksOf (d : Delimiters) (calls : List Call) : List Mark := calls.flatMap (Call.marks d)

/-! ## Which declaration waits -/

/-- Whether a declaration goes on waiting at a mark that is no declaration itself. -/
def Mark.keeps (scope : Scope) : Mark → Bool
  | .closing => true
  | .lineEnd continues => scope ≠ .callable || continues
  | _ => false

/-- The declaration that waits behind a mark. -/
def Mark.pending (first : Option Scope) : Mark → Option Scope
  | .declared scope => some scope
  | m => first.filter (m.keeps ·)

@[simp] theorem Mark.pending_opening (first : Option Scope) :
    Mark.opening.pending first = none := by
  cases first <;> rfl

@[simp] theorem Mark.pending_closing (first : Option Scope) :
    Mark.closing.pending first = first := by
  cases first <;> rfl

@[simp] theorem Mark.pending_semicolon (first : Option Scope) :
    Mark.semicolon.pending first = none := by
  cases first <;> rfl

theorem Mark.pending_lineEnd (first : Option Scope) (continues : Bool) :
    (Mark.lineEnd continues).pending first =
      if first = some .callable && !continues then none else first := by
  cases first with
  | none => rfl
  | some scope => cases scope <;> cases continues <;> rfl

/-- The declaration that waits behind marks, if `first` waits before them. -/
def waitingFrom (first : Option Scope) (marks : List Mark) : Option Scope :=
  marks.foldl Mark.pending first

/-- The declaration that waits behind marks. -/
def waiting (marks : List Mark) : Option Scope := waitingFrom none marks

theorem Mark.pending_eq_some_iff {first : Option Scope} {m : Mark} {scope : Scope} :
    m.pending first = some scope ↔
      m = .declared scope ∨ (first = some scope ∧ m.keeps scope = true) := by
  cases m <;> simp [pending, keeps, Option.filter_eq_some_iff]

/-- **A declaration waits until something replaces, takes or drops it.** -/
theorem waiting_eq_some_iff (marks : List Mark) (scope : Scope) :
    waiting marks = some scope ↔
      ∃ before later, marks = before ++ .declared scope :: later ∧
        ∀ m ∈ later, m.keeps scope = true := by
  induction marks using List.reverseRecOn with
  | nil => simp [waiting, waitingFrom]
  | append_singleton marks m ih =>
      have hstep : waiting (marks ++ [m]) = m.pending (waiting marks) := by
        simp [waiting, waitingFrom]
      rw [hstep, Mark.pending_eq_some_iff, ih]
      constructor
      · rintro (rfl | ⟨⟨before, later, rfl, hlater⟩, hm⟩)
        · exact ⟨marks, [], rfl, by simp⟩
        · refine ⟨before, later ++ [m], by simp, fun m' hm' => ?_⟩
          rcases List.mem_append.1 hm' with hm' | hm'
          · exact hlater m' hm'
          · rw [List.mem_singleton.1 hm']
            exact hm
      · rintro ⟨before, later, hmarks, hlater⟩
        rcases List.eq_nil_or_concat later with rfl | ⟨later, last, rfl⟩
        · left
          exact (List.append_inj' hmarks rfl).2 |> List.singleton_inj.1
        · right
          rw [List.concat_eq_append, ← List.cons_append, ← List.append_assoc] at hmarks
          obtain ⟨hfront, hlast⟩ := List.append_inj' hmarks rfl
          rw [List.singleton_inj.1 hlast]
          refine ⟨⟨before, later, hfront, fun m' hm' => hlater m' ?_⟩, hlater last ?_⟩
          · simp [hm']
          · simp

/-! ## Which braces match -/

/-- No beginning of the marks closes more than it opens. -/
def Nested (marks : List Mark) : Prop :=
  ∀ k ≤ marks.length, (marks.take k).count .closing ≤ (marks.take k).count .opening

/-- The marks open as much as they close, and no beginning of them closes more than it opens. -/
def Balanced (marks : List Mark) : Prop :=
  marks.count .opening = marks.count .closing ∧ Nested marks

instance (marks : List Mark) : Decidable (Nested marks) :=
  inferInstanceAs (Decidable (∀ k ≤ marks.length, _))

instance (marks : List Mark) : Decidable (Balanced marks) :=
  inferInstanceAs (Decidable (_ ∧ _))

/-- The opening brace at the place `i` belongs to the closing brace at the place `j`. -/
def Matched (marks : List Mark) (i j : Nat) : Prop :=
  i < j ∧ marks[i]? = some .opening ∧ marks[j]? = some .closing ∧
    Balanced ((marks.take j).drop (i + 1))

instance (marks : List Mark) (i j : Nat) : Decidable (Matched marks i j) :=
  inferInstanceAs (Decidable (_ ∧ _))

/-- An opening brace that belongs to no closing brace. -/
def Unmatched (marks : List Mark) (i : Nat) : Prop :=
  marks[i]? = some .opening ∧ ∀ j < marks.length, ¬ Matched marks i j

instance (marks : List Mark) (i : Nat) : Decidable (Unmatched marks i) :=
  inferInstanceAs (Decidable (_ ∧ _))

/-- The places of the opening braces without a match, in order. -/
def openPlaces (marks : List Mark) : List Nat :=
  (List.range marks.length).filter (Unmatched marks ·)

/-- What opened the brace at a place: the declaration that waits there, or else a block. -/
def tagAt (marks : List Mark) (i : Nat) : Scope := (waiting (marks.take i)).getD .block

/-- How many scopes of those open before the marks are closed by them. -/
def surplus : List Mark → Nat
  | [] => 0
  | .opening :: rest => surplus rest - 1
  | .closing :: rest => surplus rest + 1
  | _ :: rest => surplus rest

/-- A bound on all beginnings, the empty one apart. -/
theorem forall_take_cons (m : Mark) (rest : List Mark) (P : List Mark → Prop) :
    (∀ k ≤ (m :: rest).length, P ((m :: rest).take k)) ↔
      P [] ∧ ∀ k ≤ rest.length, P (m :: rest.take k) := by
  refine ⟨fun h => ⟨h 0 (by simp), fun k hk => h (k + 1) (by simpa using hk)⟩, ?_⟩
  rintro ⟨hnil, hcons⟩ (_ | k) hk
  · exact hnil
  · exact hcons k (by simpa using hk)

theorem surplus_le_iff (marks : List Mark) :
    ∀ n, surplus marks ≤ n ↔
      ∀ k ≤ marks.length, (marks.take k).count .closing ≤ (marks.take k).count .opening + n := by
  induction marks with
  | nil => simp [surplus]
  | cons m rest ih =>
      intro n
      rw [forall_take_cons m rest fun beginning =>
        beginning.count .closing ≤ beginning.count .opening + n]
      cases m with
      | opening =>
          have hrest := ih (n + 1)
          simp only [surplus, Nat.sub_le_iff_le_add, hrest, List.count_cons]
          simp [Nat.add_right_comm _ 1, Nat.add_assoc]
      | closing =>
          cases n with
          | zero =>
              simp [surplus]
              exact ⟨0, by simp⟩
          | succ n => simp [surplus, ih n, ← Nat.add_assoc]
      | declared | semicolon | lineEnd => simp [surplus, ih n]

theorem nested_iff (marks : List Mark) : Nested marks ↔ surplus marks = 0 := by
  rw [← Nat.le_zero, surplus_le_iff]
  rfl

/-- A closing brace that closes a scope below `n` others that are open before the marks. -/
theorem exists_closing (marks : List Mark) :
    ∀ n < surplus marks, ∃ j, marks[j]? = some .closing ∧
      (marks.take j).count .closing = (marks.take j).count .opening + n ∧
      surplus (marks.take j) ≤ n := by
  induction marks with
  | nil => simp [surplus]
  | cons m rest ih =>
      intro n hn
      cases m with
      | opening =>
          obtain ⟨j, hj, hcount, hbefore⟩ := ih (n + 1) (by simp only [surplus] at hn; omega)
          refine ⟨j + 1, hj, ?_, ?_⟩
          · simp [hcount]
            omega
          · simp only [List.take_succ_cons, surplus]
            omega
      | closing =>
          cases n with
          | zero => exact ⟨0, by simp [surplus]⟩
          | succ n =>
              obtain ⟨j, hj, hcount, hbefore⟩ := ih n (by simp only [surplus] at hn; omega)
              refine ⟨j + 1, hj, ?_, ?_⟩
              · simp [hcount]
                omega
              · simp only [List.take_succ_cons, surplus]
                omega
      | declared | semicolon | lineEnd =>
          obtain ⟨j, hj, hcount, hbefore⟩ := ih n hn
          exact ⟨j + 1, hj, by simpa using hcount, by simpa [surplus] using hbefore⟩

/-- No closing brace has balanced marks before it exactly if none is left over. -/
theorem surplus_eq_zero_iff (marks : List Mark) :
    surplus marks = 0 ↔
      ∀ j < marks.length, ¬ (marks[j]? = some .closing ∧ Balanced (marks.take j)) := by
  constructor
  · rintro hzero j hj ⟨hclosing, hcount, -⟩
    have hnext := (nested_iff marks).2 hzero (j + 1) hj
    rw [List.take_add_one, hclosing] at hnext
    simp at hnext
    omega
  · intro h
    by_contra hne
    obtain ⟨j, hj, hcount, hbefore⟩ := exists_closing marks 0 (by omega)
    have hlt : j < marks.length := (List.getElem?_eq_some_iff.1 hj).1
    refine h j hlt ⟨hj, hcount.symm, ?_⟩
    rw [nested_iff]
    omega

/-! ## The open places of longer marks -/

theorem matched_cons_succ (m : Mark) (rest : List Mark) (i j : Nat) :
    Matched (m :: rest) (i + 1) (j + 1) ↔ Matched rest i j := by
  simp [Matched]

theorem matched_cons_zero (m : Mark) (rest : List Mark) (j : Nat) :
    Matched (m :: rest) 0 (j + 1) ↔
      m = .opening ∧ rest[j]? = some .closing ∧ Balanced (rest.take j) := by
  simp [Matched]

theorem unmatched_cons_succ (m : Mark) (rest : List Mark) (i : Nat) :
    Unmatched (m :: rest) (i + 1) ↔ Unmatched rest i := by
  rw [Unmatched, Unmatched, List.getElem?_cons_succ]
  refine and_congr_right fun _ => ⟨fun h j hj => ?_, fun h j hj => ?_⟩
  · rw [← matched_cons_succ m]
    exact h (j + 1) (by simpa using hj)
  · cases j with
    | zero => exact fun hmatched => absurd hmatched.1 (by simp)
    | succ j =>
        rw [matched_cons_succ]
        exact h j (by simpa using hj)

theorem unmatched_cons_zero (m : Mark) (rest : List Mark) :
    Unmatched (m :: rest) 0 ↔ m = .opening ∧ surplus rest = 0 := by
  rw [Unmatched, surplus_eq_zero_iff]
  simp only [List.getElem?_cons_zero, Option.some.injEq]
  refine and_congr_right fun hm => ⟨fun h j hj hclosing => ?_, fun h j hj => ?_⟩
  · exact h (j + 1) (by simpa using hj) ((matched_cons_zero m rest j).2 ⟨hm, hclosing⟩)
  · cases j with
    | zero => exact fun hmatched => absurd hmatched.1 (by simp)
    | succ j =>
        rw [matched_cons_zero]
        exact fun hmatched => h j (by simpa using hj) hmatched.2

theorem openPlaces_cons (m : Mark) (rest : List Mark) :
    openPlaces (m :: rest) =
      (if m = .opening ∧ surplus rest = 0 then [0] else []) ++ (openPlaces rest).map (· + 1) := by
  have hrest : ((List.range rest.length).map (· + 1)).filter (Unmatched (m :: rest) ·) =
      (openPlaces rest).map (· + 1) := by
    rw [openPlaces, List.filter_map]
    simp [Function.comp_def, unmatched_cons_succ]
  rw [openPlaces, List.length_cons, List.range_succ_eq_map, List.filter_cons, hrest]
  simp only [unmatched_cons_zero, decide_eq_true_eq]
  split <;> rfl

/-- Every opening brace is closed or stays open, and every closing brace closes one of them or is
left over. -/
theorem count_opening_add_surplus (marks : List Mark) :
    marks.count .opening + surplus marks = marks.count .closing + (openPlaces marks).length := by
  induction marks with
  | nil => simp [surplus, openPlaces]
  | cons m rest ih =>
      rw [openPlaces_cons]
      cases m with
      | opening =>
          by_cases hrest : surplus rest = 0
          · simp [surplus, hrest] at ih ⊢
            omega
          · simp [surplus, hrest] at ih ⊢
            omega
      | closing =>
          simp [surplus] at ih ⊢
          omega
      | declared | semicolon | lineEnd => simpa [surplus] using ih

theorem Balanced.surplus_eq_zero {marks : List Mark} (h : Balanced marks) : surplus marks = 0 :=
  (nested_iff marks).1 h.2

theorem Balanced.openPlaces_eq_nil {marks : List Mark} (h : Balanced marks) :
    openPlaces marks = [] := by
  have hcount := count_opening_add_surplus marks
  rw [h.surplus_eq_zero, h.1] at hcount
  exact List.eq_nil_of_length_eq_zero (by omega)

/-! ## The tracker -/

/-- The effect of a mark. -/
def mark (s : Scopes) (m : Mark) : Scopes where
  opened :=
    match m with
    | .opening => s.pending.getD .block :: s.opened
    | .closing => s.opened.tail
    | _ => s.opened
  pending := m.pending s.pending

theorem read_eq_foldl_mark (s : Scopes) (c : Char) :
    s.read c = (Mark.ofChar? c).toList.foldl mark s := by
  rw [read, Mark.ofChar?]
  split
  · simp [mark]
  · split
    · simp [mark]
    · split
      · simp [mark]
      · rfl

theorem foldl_read_eq_foldl_mark (chars : List Char) :
    ∀ s : Scopes, chars.foldl read s = (chars.filterMap Mark.ofChar?).foldl mark s := by
  induction chars with
  | nil => exact fun s => rfl
  | cons c chars ih =>
      intro s
      rw [List.foldl_cons, ih, read_eq_foldl_mark, ← List.foldl_append]
      cases hc : Mark.ofChar? c <;> simp [hc]

theorem advance_eq_foldl_mark (d : Delimiters) (s : Scopes) (line : List Char) :
    s.advance d line = ((Call.advance line).marks d).foldl mark s := by
  rw [advance, foldl_read_eq_foldl_mark, Call.marks, List.foldl_append, List.foldl_cons,
    List.foldl_nil]
  simp only [mark, Mark.pending_lineEnd]
  split <;> rfl

theorem after_eq_foldl_mark (d : Delimiters) (calls : List Call) :
    ∀ s : Scopes, after d s calls = (marksOf d calls).foldl mark s := by
  induction calls with
  | nil => exact fun s => rfl
  | cons c calls ih =>
      intro s
      rw [after, List.foldl_cons, ← after, ih, marksOf, marksOf, List.flatMap_cons,
        List.foldl_append]
      cases c with
      | declare scope => rfl
      | advance line => rw [call, advance_eq_foldl_mark]

/-- What opened the brace at a place, if `first` waits before the marks. -/
def tagFrom (first : Option Scope) (marks : List Mark) (i : Nat) : Scope :=
  (waitingFrom first (marks.take i)).getD .block

/-- **The tracker matches braces.**  Behind any marks, the innermost open scopes are the opening
braces without a match, last first; below them stand the scopes that were open before, less those
that closing braces without a match have closed. -/
theorem opened_foldl_mark (marks : List Mark) :
    ∀ s : Scopes, (marks.foldl mark s).opened =
      ((openPlaces marks).map (tagFrom s.pending marks)).reverse ++
        s.opened.drop (surplus marks) := by
  -- from the front: what the first mark opens is closed again if the rest has a surplus
  induction marks with
  | nil => exact fun s => rfl
  | cons m rest ih =>
      intro s
      have htags : (openPlaces rest).map (tagFrom s.pending (m :: rest) ∘ (· + 1)) =
          (openPlaces rest).map (tagFrom (m.pending s.pending) rest) := rfl
      rw [List.foldl_cons, ih, openPlaces_cons, List.map_append, List.map_map, htags]
      cases m with
      | opening =>
          by_cases hrest : surplus rest = 0
          · simp [mark, surplus, hrest, tagFrom, waitingFrom]
          · obtain ⟨n, hn⟩ := Nat.exists_eq_succ_of_ne_zero hrest
            simp [mark, surplus, hn]
      | closing => simp [mark, surplus]
      | declared | semicolon | lineEnd => simp [mark, surplus]

theorem pending_foldl_mark (marks : List Mark) :
    ∀ s : Scopes, (marks.foldl mark s).pending = waitingFrom s.pending marks := by
  induction marks with
  | nil => exact fun s => rfl
  | cons m rest ih => exact fun s => ih (s.mark m)

theorem atTopLevel_iff {s : Scopes} {tags : List Scope} (h : s.opened.reverse = tags) :
    s.atTopLevel = true ↔ ∀ tag ∈ tags, tag ≠ .type ∧ tag ≠ .callable := by
  have hblock : ∀ tag : Scope, tag = .block ↔ tag ≠ .type ∧ tag ≠ .callable := by
    intro tag
    cases tag <;> simp
  simp [atTopLevel, ← h, hblock]

/-- Calls with balanced braces leave the open scopes as they were. -/
theorem opened_after_of_balanced {d : Delimiters} {calls : List Call}
    (h : Balanced (marksOf d calls)) (s : Scopes) : (after d s calls).opened = s.opened := by
  rw [after_eq_foldl_mark, opened_foldl_mark, h.openPlaces_eq_nil, h.surplus_eq_zero]
  rfl

/-- **The open scopes are the unmatched braces.**  After any declarations and lines, the open
scopes, outermost first, are the opening braces outside string literals that no closing brace
matches, each with the declaration that waited where the brace stands, or else a block.  A
declaration waits until something replaces, takes or drops it.  The tracker is at top level if none
of these braces was opened by a type or a function.  So calls with balanced braces, made at any
point, leave the open scopes as they were. -/
theorem opened_after (d : Delimiters) (calls : List Call) :
    (after d empty calls).opened.reverse =
        (openPlaces (marksOf d calls)).map (tagAt (marksOf d calls)) ∧
      (after d empty calls).pending = waiting (marksOf d calls) ∧
      (∀ (marks : List Mark) (scope : Scope), waiting marks = some scope ↔
        ∃ before later, marks = before ++ .declared scope :: later ∧
          ∀ m ∈ later, m.keeps scope = true) ∧
      ((after d empty calls).atTopLevel = true ↔
        ∀ i ∈ openPlaces (marksOf d calls),
          tagAt (marksOf d calls) i ≠ .type ∧ tagAt (marksOf d calls) i ≠ .callable) ∧
      ∀ (s : Scopes) (more : List Call), Balanced (marksOf d more) →
        (after d s more).opened = s.opened := by
  have hopened : (after d empty calls).opened.reverse =
      (openPlaces (marksOf d calls)).map (tagAt (marksOf d calls)) := by
    rw [after_eq_foldl_mark, opened_foldl_mark, empty, List.drop_nil, List.append_nil,
      List.reverse_reverse]
    rfl
  refine ⟨hopened, ?_, waiting_eq_some_iff, ?_, ?_⟩
  · rw [after_eq_foldl_mark, pending_foldl_mark]
    rfl
  · rw [atTopLevel_iff hopened]
    simp
  · intro s more hmore
    exact opened_after_of_balanced hmore s

/-- A type with a method whose head is wrapped, read up to the middle of the method's body. -/
def wrappedHead : List Call :=
  [.advance "\x7d".toList, .declare .type, .advance "class A".toList, .advance "\x7b".toList,
   .declare .callable, .advance "void f(int a,".toList, .advance "  int b) \x7b".toList,
   .advance "if (a) \x7b".toList]

/-- Balanced lines with a declaration and with braces in a literal. -/
def balancedLines : List Call :=
  [.declare .callable, .advance "void g() \x7b puts(\"\x7d\");".toList, .advance "\x7d".toList]

theorem opened_after_wrappedHead :
    Balanced (marksOf Delimiters.slashStyle balancedLines) ∧
      (after Delimiters.slashStyle empty wrappedHead).opened = [.block, .callable, .type] ∧
      openPlaces (marksOf Delimiters.slashStyle wrappedHead) = [4, 8, 10] ∧
      (after Delimiters.slashStyle (after Delimiters.slashStyle empty wrappedHead)
        balancedLines).opened = [.block, .callable, .type] := by
  have hbalanced : Balanced (marksOf Delimiters.slashStyle balancedLines) := by decide +kernel
  have hopened : (after Delimiters.slashStyle empty wrappedHead).opened =
      [.block, .callable, .type] := by decide +kernel
  obtain ⟨-, -, -, -, hmore⟩ := opened_after Delimiters.slashStyle wrappedHead
  refine ⟨hbalanced, hopened, by decide +kernel, ?_⟩
  rw [hmore _ _ hbalanced, hopened]

end Scopes
end SourceAtlas
