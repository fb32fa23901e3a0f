import SourceAtlas.Pattern.Build

/-!
# Patterns on lines of which the beginning is known

What a pattern does on a line is often settled by the first few characters.  `Pattern.ways` runs a
pattern on the part of a line that is known and lists the places that it can reach, in the order in
which it tries them; if it would have to look beyond the known part, it gives no answer.  Where it
does, the answer holds for every continuation of the line (`run_extend`).

* `ways` — the places reached on the known part of a line.
* `shuns`, `search_of_shuns` — a pattern of whole lines that fits no line with a given beginning.
* `capture?_quotation` — a pattern that reaches a quotation reports what is quoted.
-/

namespace SourceAtlas
namespace Pattern

variable {p q : Pattern} {cur : Cursor} {known tail : List Char}

/-! ## Ways through a pattern -/

/-- The same place of a longer line. -/
def Cursor.extend (cur : Cursor) (tail : List Char) : Cursor :=
  { cur with
    rest := cur.rest ++ tail
    covered := cur.covered.map fun (text, length) => (text ++ tail, length) }

@[simp] theorem Cursor.offset_extend (cur : Cursor) (tail : List Char) :
    (cur.extend tail).offset = cur.offset := rfl

@[simp] theorem Cursor.rest_extend (cur : Cursor) (tail : List Char) :
    (cur.extend tail).rest = cur.rest ++ tail := rfl

/-- All answers of a list of questions, if each has one. -/
def allWays (f : Cursor → Option (List Cursor)) : List Cursor → Option (List Cursor)
  | [] => some []
  | cur :: others => do
    let places ← f cur
    let later ← allWays f others
    some (places ++ later)

/-- The ways through up to `n` rounds of a body. -/
def roundsWays (body : Cursor → Option (List Cursor)) : Nat → Cursor → Option (List Cursor)
  | 0, _ => none
  | n + 1, cur => do
    let places ← body cur
    let later ← allWays
      (fun cur' => if cur.offset < cur'.offset then roundsWays body n cur' else some []) places
    some (later ++ [cur])

/-- The places that a pattern reaches, in the order in which it tries them, if what is left of the
line settles that. -/
def ways : Pattern → Cursor → Option (List Cursor)
  | .empty, cur => some [cur]
  | .one accepts, cur =>
    match cur.rest with
    | c :: rest => some (if accepts c then [cur.next c rest] else [])
    | [] => none
  | .span accepts greedy, cur =>
    if cur.rest.all accepts then none
    else some (if greedy then cur.stops accepts else (cur.stops accepts).reverse)
  | .seq p q, cur => (ways p cur).bind (allWays (ways q))
  | .alt p q, cur => do
    let places ← ways p cur
    let others ← ways q cur
    some (places ++ others)
  | .star p, cur => roundsWays (ways p) cur.rest.length cur
  | .group p, cur => (ways p cur).map fun places => places.map fun cur' =>
      { cur' with covered := some (cur.rest, cur'.offset - cur.offset) }
  | .lineStart, cur => some (if cur.offset = 0 then [cur] else [])
  | .lineEnd, cur => if cur.rest.isEmpty then none else some []
  | .wordEdge, cur =>
    if cur.rest.isEmpty then none else some (if cur.atWordEdge then [cur] else [])

/-! ## What each kind of pattern does -/

theorem run_empty (cur : Cursor) (k : Continuation) : empty.run cur k = k cur := rfl

theorem run_one {c : Char} {rest : List Char} (h : cur.rest = c :: rest) (accepts : Char → Bool)
    (k : Continuation) :
    (one accepts).run cur k = if accepts c then k (cur.next c rest) else none := by
  obtain ⟨offset, before, rest', covered⟩ := cur
  obtain rfl : rest' = c :: rest := h
  rfl

theorem run_span (accepts : Char → Bool) (greedy : Bool) (cur : Cursor) (k : Continuation) :
    (span accepts greedy).run cur k =
      (if greedy then cur.stops accepts else (cur.stops accepts).reverse).findSome? k := rfl

theorem run_seq (p q : Pattern) (cur : Cursor) (k : Continuation) :
    (seq p q).run cur k = p.run cur fun cur' => q.run cur' k := rfl

theorem run_alt (p q : Pattern) (cur : Cursor) (k : Continuation) :
    (alt p q).run cur k = (p.run cur k).or (q.run cur k) := by
  rw [run]
  cases p.run cur k <;> rfl

theorem run_group (p : Pattern) (cur : Cursor) (k : Continuation) :
    (group p).run cur k = p.run cur fun cur' =>
      k { cur' with covered := some (cur.rest, cur'.offset - cur.offset) } := rfl

theorem run_lineStart (cur : Cursor) (k : Continuation) :
    lineStart.run cur k = if cur.offset = 0 then k cur else none := rfl

theorem run_lineEnd (cur : Cursor) (k : Continuation) :
    lineEnd.run cur k = if cur.rest.isEmpty then k cur else none := rfl

theorem run_wordEdge (cur : Cursor) (k : Continuation) :
    wordEdge.run cur k = if cur.atWordEdge then k cur else none := rfl

theorem rounds_succ (body : Cursor → Continuation → Option Cursor) (n : Nat) (cur : Cursor)
    (k : Continuation) :
    rounds body (n + 1) cur k =
      (body cur fun cur' => if cur.offset < cur'.offset then rounds body n cur' k else none).or
        (k cur) := by
  rw [rounds]
  cases body cur fun cur' => if cur.offset < cur'.offset then rounds body n cur' k else none <;> rfl

/-! ## Nothing behind the known part matters -/

theorem stopsFrom_extend (accepts : Char → Bool) (rest : List Char) :
    ∀ (cur : Cursor) (found : List Cursor), rest.all accepts = false →
      Cursor.stopsFrom accepts (rest ++ tail) (cur.extend tail) (found.map (·.extend tail)) =
        (Cursor.stopsFrom accepts rest cur found).map (·.extend tail) := by
  induction rest with
  | nil =>
      intro cur found h
      simp at h
  | cons c rest ih =>
      intro cur found h
      rw [List.cons_append, Cursor.stopsFrom, Cursor.stopsFrom]
      by_cases hc : accepts c = true
      · rw [if_pos hc, if_pos hc]
        rw [List.all_cons, hc, Bool.true_and] at h
        exact ih (cur.next c rest) (cur.next c rest :: found) h
      · rw [if_neg hc, if_neg hc]

theorem stops_extend {accepts : Char → Bool} (h : cur.rest.all accepts = false) :
    (cur.extend tail).stops accepts = (cur.stops accepts).map (·.extend tail) :=
  stopsFrom_extend accepts cur.rest cur [cur] h

/-- A search through places goes through the ways from each of them. -/
theorem findSome?_allWays {f : Cursor → Option (List Cursor)} {g h : Cursor → Option Cursor}
    (hfg : ∀ cur places, f cur = some places → g cur = places.findSome? h)
    (froms : List Cursor) :
    ∀ places, allWays f froms = some places → froms.findSome? g = places.findSome? h := by
  induction froms with
  | nil =>
      intro places hplaces
      cases hplaces
      rfl
  | cons cur others ih =>
      intro places hplaces
      simp only [allWays, Option.bind_eq_bind, Option.bind_eq_some_iff, Option.some.injEq]
        at hplaces
      obtain ⟨first, hfirst, later, hlater, rfl⟩ := hplaces
      rw [List.findSome?_append, ← ih later hlater, ← hfg cur first hfirst, List.findSome?_cons]
      cases g cur <;> rfl

theorem rounds_extend {body : Cursor → Continuation → Option Cursor}
    {bodyWays : Cursor → Option (List Cursor)}
    (hbody : ∀ cur places, bodyWays cur = some places → ∀ k,
      body (cur.extend tail) k = places.findSome? fun place => k (place.extend tail)) (n : Nat) :
    ∀ (m : Nat) (cur : Cursor) (places : List Cursor), n ≤ m →
      roundsWays bodyWays n cur = some places → ∀ k,
      rounds body m (cur.extend tail) k = places.findSome? fun place => k (place.extend tail) := by
  induction n with
  | zero =>
      intro m cur places _ h
      cases h
  | succ n ih =>
      intro m cur places hm h k
      obtain ⟨m, rfl⟩ : ∃ m', m = m' + 1 := ⟨m - 1, by omega⟩
      simp only [roundsWays, Option.bind_eq_bind, Option.bind_eq_some_iff, Option.some.injEq] at h
      obtain ⟨firsts, hfirsts, later, hlater, rfl⟩ := h
      have hrounds : ∀ cur' places',
          (if cur.offset < cur'.offset then roundsWays bodyWays n cur' else some []) =
              some places' →
            (if cur.offset < cur'.offset then rounds body m (cur'.extend tail) k else none) =
              places'.findSome? fun place => k (place.extend tail) := by
        intro cur' places' hplaces'
        by_cases hlt : cur.offset < cur'.offset
        · rw [if_pos hlt] at hplaces' ⊢
          exact ih m cur' places' (by omega) hplaces' k
        · rw [if_neg hlt] at hplaces' ⊢
          cases hplaces'
          rfl
      rw [rounds_succ, hbody cur firsts hfirsts, List.findSome?_append,
        ← findSome?_allWays hrounds firsts later hlater, List.findSome?_singleton]
      rfl

/-- **The ways through the known part are the ways through the whole line.** -/
theorem run_extend (tail : List Char) (p : Pattern) :
    ∀ (cur : Cursor) (places : List Cursor), p.ways cur = some places → ∀ k,
      p.run (cur.extend tail) k = places.findSome? fun place => k (place.extend tail) := by
  induction p with
  | empty =>
      intro cur places h k
      cases h
      rw [List.findSome?_singleton]
      rfl
  | one accepts =>
      intro cur places h k
      obtain ⟨offset, before, rest, covered⟩ := cur
      cases rest with
      | nil => cases h
      | cons c rest =>
          cases h
          rw [run_one (List.cons_append ..)]
          split
          · rw [List.findSome?_singleton]
            rfl
          · rfl
  | span accepts greedy =>
      intro cur places h k
      rw [ways] at h
      split at h
      · cases h
      · rename_i hall
        cases h
        rw [run_span, stops_extend (by simpa using hall)]
        cases greedy with
        | true =>
            simp only [if_true, List.findSome?_map]
            rfl
        | false =>
            simp only [Bool.false_eq_true, if_false, ← List.map_reverse, List.findSome?_map]
            rfl
  | seq p q ihp ihq =>
      intro cur places h k
      obtain ⟨froms, hfroms, hplaces⟩ := Option.bind_eq_some_iff.1 h
      rw [run_seq, ihp cur froms hfroms]
      exact findSome?_allWays (fun from' places' hplaces' => ihq from' places' hplaces' k)
        froms places hplaces
  | alt p q ihp ihq =>
      intro cur places h k
      simp only [ways, Option.bind_eq_bind, Option.bind_eq_some_iff, Option.some.injEq] at h
      obtain ⟨firsts, hfirsts, others, hothers, rfl⟩ := h
      rw [run_alt, ihp cur firsts hfirsts, ihq cur others hothers,
        List.findSome?_append]
  | star p ih =>
      intro cur places h k
      have hlength : cur.rest.length ≤ (cur.extend tail).rest.length := by simp
      exact rounds_extend ih cur.rest.length _ cur places hlength h k
  | group p ih =>
      intro cur places h k
      obtain ⟨froms, hfroms, rfl⟩ := Option.map_eq_some_iff.1 h
      rw [run_group, ih cur froms hfroms, List.findSome?_map]
      rfl
  | lineStart =>
      intro cur places h k
      cases h
      rw [run_lineStart, Cursor.offset_extend]
      split
      · rw [List.findSome?_singleton]
      · rfl
  | lineEnd =>
      intro cur places h k
      rw [ways] at h
      split at h
      · cases h
      · rename_i hrest
        cases h
        have hne : ¬ (cur.extend tail).rest.isEmpty = true := by
          simp only [Cursor.rest_extend, List.isEmpty_iff, List.append_eq_nil_iff] at hrest ⊢
          exact fun hnil => hrest hnil.1
        rw [run_lineEnd, if_neg hne]
        rfl
  | wordEdge =>
      intro cur places h k
      rw [ways] at h
      split at h
      · cases h
      · rename_i hrest
        have hedge : (cur.extend tail).atWordEdge = cur.atWordEdge := by
          obtain ⟨offset, before, rest, covered⟩ := cur
          cases rest with
          | nil => simp at hrest
          | cons c rest => rfl
        cases h
        rw [run_wordEdge, hedge]
        split
        · rw [List.findSome?_singleton]
        · rfl

/-! ## Patterns of whole lines -/

/-- Whether a pattern begins with the beginning of the line. -/
def anchored : Pattern → Bool
  | .seq .lineStart _ => true
  | _ => false

theorem run_of_anchored (h : p.anchored = true) (hoffset : cur.offset ≠ 0) (k : Continuation) :
    p.run cur k = none := by
  unfold anchored at h
  split at h
  · rw [run_seq, run_lineStart, if_neg hoffset]
  · cases h

theorem searchFrom_of_anchored (h : p.anchored = true) (rest : List Char) :
    ∀ cur : Cursor, cur.offset ≠ 0 → p.searchFrom rest cur = none := by
  induction rest with
  | nil => exact fun cur hoffset => run_of_anchored h hoffset some
  | cons c rest ih =>
      intro cur hoffset
      rw [searchFrom, run_of_anchored h hoffset some]
      exact ih (cur.next c rest) (Nat.succ_ne_zero _)

/-- A pattern of whole lines is tried at the beginning of the line only. -/
theorem search_of_anchored (h : p.anchored = true) (line : List Char) :
    p.search line = p.run (Cursor.start line) some := by
  rw [search]
  cases line with
  | nil => rfl
  | cons c rest =>
      rw [searchFrom, searchFrom_of_anchored h rest _ (Nat.succ_ne_zero _)]
      cases p.run (Cursor.start (c :: rest)) some <;> rfl

/-- Whether a pattern of whole lines has no way through the lines with a known beginning. -/
def shuns (p : Pattern) (known : List Char) : Bool :=
  p.anchored && (p.ways (Cursor.start known)).any List.isEmpty

theorem search_of_shuns (h : p.shuns known = true) (tail : List Char) :
    p.search (known ++ tail) = none := by
  rw [shuns, Bool.and_eq_true, Option.any_eq_true] at h
  obtain ⟨hanchored, places, hplaces, hempty⟩ := h
  rw [search_of_anchored hanchored]
  have hrun := run_extend tail p (Cursor.start known) places hplaces some
  rw [List.isEmpty_iff.1 hempty] at hrun
  exact hrun

theorem capture?_of_shuns (h : p.shuns known = true) (tail : List Char) :
    p.capture? (known ++ tail) = none := by
  rw [capture?, groupIn?, search_of_shuns h]
  rfl

theorem fits_of_shuns (h : p.shuns known = true) (tail : List Char) :
    p.fits (known ++ tail) = false := by
  rw [fits, search_of_shuns h]
  rfl

/-! ## Quotations -/

theorem run_all_append (ps qs : List Pattern) :
    ∀ (cur : Cursor) (k : Continuation),
      (all (ps ++ qs)).run cur k = (all ps).run cur fun cur' => (all qs).run cur' k := by
  induction ps with
  | nil => exact fun cur k => rfl
  | cons p ps ih =>
      intro cur k
      simp only [List.cons_append, all, List.foldr_cons, run_seq]
      exact congrArg _ (funext fun cur' => ih cur' k)

/-- A pattern that reads exactly the character `c`, where it stands next. -/
def Reads (p : Pattern) (c : Char) : Prop :=
  ∀ (cur : Cursor) (rest : List Char) (k : Continuation), cur.rest = c :: rest →
    p.run cur k = k (cur.next c rest)

theorem reads_one {accepts : Char → Bool} {c : Char} (hc : accepts c = true) :
    (one accepts).Reads c := by
  intro cur rest k hrest
  rw [run_one hrest, if_pos hc]

theorem reads_all_singleton {c : Char} (h : p.Reads c) : (all [p]).Reads c := by
  intro cur rest k hrest
  simp only [all, List.foldr_cons, List.foldr_nil, run_empty, run_seq]
  exact h cur rest k hrest

/-- The first place that a greedy span tries is the one behind all accepted characters. -/
theorem stopsFrom_append {accepts : Char → Bool} {c : Char} (hc : accepts c = false)
    (more w : List Char) : w.all accepts = true →
    ∀ (cur : Cursor) (found : List Cursor), cur.rest = w ++ c :: more →
      ∃ before others, Cursor.stopsFrom accepts (w ++ c :: more) cur (cur :: found) =
        ⟨cur.offset + w.length, before, c :: more, cur.covered⟩ :: others := by
  induction w with
  | nil =>
      intro _ cur found hrest
      refine ⟨cur.before, found, ?_⟩
      rw [List.nil_append, Cursor.stopsFrom, if_neg (by simp [hc])]
      rw [List.nil_append] at hrest
      rw [← hrest]
      rfl
  | cons a w ih =>
      intro hw cur found hrest
      rw [List.all_cons, Bool.and_eq_true] at hw
      obtain ⟨before, others, hstops⟩ :=
        ih hw.2 (cur.next a (w ++ c :: more)) (cur :: found) rfl
      refine ⟨before, others, ?_⟩
      rw [List.cons_append, Cursor.stopsFrom, if_pos hw.1, hstops, List.length_cons,
        Nat.add_comm w.length 1, ← Nat.add_assoc]
      rfl

theorem stops_append {accepts : Char → Bool} {c : Char} (hc : accepts c = false)
    {more w : List Char} (hw : w.all accepts = true) (hrest : cur.rest = w ++ c :: more) :
    ∃ before others, cur.stops accepts =
      ⟨cur.offset + w.length, before, c :: more, cur.covered⟩ :: others := by
  obtain ⟨before, others, hstops⟩ := stopsFrom_append hc more w hw cur [] hrest
  refine ⟨before, others, ?_⟩
  rw [Cursor.stops, hrest, hstops]

/-- Characters of a class are read up to the first other one, if it is possible to go on there. -/
theorem run_many1 {accepts : Char → Bool} {c : Char} (hc : accepts c = false) {w : List Char}
    (hne : w ≠ []) (hw : w.all accepts = true) {more : List Char}
    (hrest : cur.rest = w ++ c :: more)
    {k : Continuation} {done : Cursor}
    (hk : ∀ before, k ⟨cur.offset + w.length, before, c :: more, cur.covered⟩ = some done) :
    (many1 accepts).run cur k = some done := by
  obtain ⟨a, w, rfl⟩ := List.exists_cons_of_ne_nil hne
  rw [List.all_cons, Bool.and_eq_true] at hw
  have hnext : (cur.next a (w ++ c :: more)).rest = w ++ c :: more := rfl
  obtain ⟨before, others, hstops⟩ := stops_append hc hw.2 hnext
  have hplace : k ⟨(cur.next a (w ++ c :: more)).offset + w.length, before, c :: more,
      (cur.next a (w ++ c :: more)).covered⟩ = some done := by
    rw [← hk before, List.length_cons, Nat.add_comm w.length 1, ← Nat.add_assoc]
    rfl
  rw [many1, run_seq, reads_one hw.1 cur (w ++ c :: more) _ hrest, many, run_span, if_pos rfl,
    hstops, List.findSome?_cons, hplace]

/-- A quotation is read up to its end, and the group covers what is quoted. -/
theorem run_quotation {first last : Pattern} {accepts : Char → Bool} {c c' : Char}
    (hfirst : first.Reads c) (hlast : last.Reads c') (hc' : accepts c' = false)
    {w : List Char} (hne : w ≠ []) (hw : w.all accepts = true) {more : List Char}
    (hrest : cur.rest = c :: (w ++ c' :: more)) :
    ∃ done, (all [first, captured [many1 accepts], last]).run cur some = some done ∧
      done.groupText = some w := by
  let inside := cur.next c (w ++ c' :: more)
  refine ⟨⟨inside.offset + w.length + 1, some c', more, some (w ++ c' :: more, w.length)⟩, ?_, ?_⟩
  · simp only [all, captured, List.foldr_cons, List.foldr_nil, run_empty, run_seq, run_group]
    rw [hfirst cur _ _ hrest]
    refine run_many1 hc' hne hw rfl fun before => ?_
    rw [hlast _ more _ rfl]
    simp [Cursor.next, inside]
  · simp [Cursor.groupText]

/-- **A pattern that comes to a quotation reports what is quoted.**  Here `known` is the beginning
of the line up to and with the character that opens the quotation. -/
theorem capture?_quotation {ps : List Pattern} {first last : Pattern} {accepts : Char → Bool}
    {c c' : Char}
    (hknown : ((line ps).ways (Cursor.start known)).bind
      (fun places => places.head?.map Cursor.rest) = some [c])
    (hfirst : first.Reads c) (hlast : last.Reads c') (hc' : accepts c' = false)
    {w : List Char} (hne : w ≠ []) (hw : w.all accepts = true) (more : List Char) :
    (line (ps ++ [first, captured [many1 accepts], last])).capture? (known ++ (w ++ c' :: more)) =
      some (String.ofList w) := by
  obtain ⟨places, hplaces, hhead⟩ := Option.bind_eq_some_iff.1 hknown
  obtain ⟨place, hplace, hrest⟩ := Option.map_eq_some_iff.1 hhead
  obtain ⟨others, rfl⟩ := List.head?_eq_some_iff.1 hplace
  have hrest' : (place.extend (w ++ c' :: more)).rest = c :: (w ++ c' :: more) := by
    rw [Cursor.rest_extend, hrest]
    rfl
  obtain ⟨done, hrun, hgroup⟩ := run_quotation hfirst hlast hc' hne hw hrest'
  have hsearch : (line (ps ++ [first, captured [many1 accepts], last])).search
      (known ++ (w ++ c' :: more)) = some done := by
    rw [search_of_anchored rfl, line, ← List.cons_append, ← List.cons_append, run_all_append]
    have hways := run_extend (w ++ c' :: more) (line ps) (Cursor.start known) _ hplaces
    refine (hways _).trans ?_
    rw [List.findSome?_cons, hrun]
  rw [capture?, groupIn?, hsearch, Option.bind_some, hgroup]
  simp [hne]

end Pattern
end SourceAtlas
