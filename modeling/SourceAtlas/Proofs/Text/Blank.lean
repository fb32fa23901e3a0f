import Mathlib.Data.List.DropRight
import Mathlib.Data.List.TakeWhile
import SourceAtlas.Text.Blank

/-!
# Trimming

A text is trimmed by dropping the blanks at its ends.  The result has none there (`unpadded_trim`),
a text that has none is left as it is (`Unpadded.trim_eq`), and blanks put around a text make no
difference (`trim_pad`).  Nothing else needs to be known of trimming.
-/

namespace SourceAtlas
namespace Text

variable {c d : Char} {p : Char → Bool} {s t front before after : List Char}

/-! ## Dropping blanks -/

/-- Nothing is dropped from the end beyond a character that stays. -/
theorem rdropWhile_append (hlast : front.getLast? = some c) (hc : p c = false) (back : List Char) :
    (front ++ back).rdropWhile p = front ++ back.rdropWhile p := by
  obtain ⟨before, rfl⟩ := List.getLast?_eq_some_iff.1 hlast
  induction back using List.reverseRecOn with
  | nil => simp [List.rdropWhile_concat_neg, hc]
  | append_singleton back d ih =>
      rw [← List.append_assoc, List.rdropWhile_concat, List.rdropWhile_concat, ih]
      split <;> simp

theorem trimEnd_trimEnd (s : List Char) : trimEnd (trimEnd s) = trimEnd s :=
  List.rdropWhile_idempotent isBlank s

theorem trimEnd_append_blank (h : ∀ c ∈ after, isBlank c = true) (s : List Char) :
    trimEnd (s ++ after) = trimEnd s := by
  unfold trimEnd
  rw [List.reverse_append, List.dropWhile_append_of_pos (by simpa using h)]

/-- Blanks around a text make no difference. -/
theorem trim_pad (hbefore : ∀ c ∈ before, isBlank c = true) (hafter : ∀ c ∈ after, isBlank c = true)
    (s : List Char) : trim (before ++ s ++ after) = trim s := by
  unfold trim trimStart
  rw [List.append_assoc, List.dropWhile_append_of_pos hbefore, List.dropWhile_append]
  split
  · rename_i hblank
    rw [List.isEmpty_iff.1 hblank, List.dropWhile_eq_nil_iff.2 hafter]
  · exact trimEnd_append_blank hafter _

theorem mem_of_mem_trim (h : c ∈ trim s) : c ∈ s :=
  (List.dropWhile_suffix _).subset ((List.rdropWhile_prefix _ _).subset h)

/-! ## Texts without blanks at their ends -/

/-- A text does not begin with a blank. -/
def StartsPlain (s : List Char) : Prop := ∀ c ∈ s.head?, isBlank c = false

/-- A text does not end in a blank. -/
def EndsPlain (s : List Char) : Prop := ∀ c ∈ s.getLast?, isBlank c = false

instance (s : List Char) : Decidable (StartsPlain s) :=
  decidable_of_iff (s.head?.all (!isBlank ·) = true) (by simp [StartsPlain, Option.all_eq_true])

instance (s : List Char) : Decidable (EndsPlain s) :=
  decidable_of_iff (s.getLast?.all (!isBlank ·) = true) (by simp [EndsPlain, Option.all_eq_true])

/-- No blank stands at either end of a text. -/
structure Unpadded (s : List Char) : Prop where
  start : StartsPlain s
  stop : EndsPlain s

theorem StartsPlain.append (hs : StartsPlain s) (ht : StartsPlain t) : StartsPlain (s ++ t) := by
  cases s with
  | nil => exact ht
  | cons c rest => exact hs

theorem EndsPlain.append (hs : EndsPlain s) (ht : EndsPlain t) : EndsPlain (s ++ t) := by
  unfold EndsPlain at *
  intro c hc
  rw [List.getLast?_append, Option.mem_def, Option.or_eq_some_iff] at hc
  rcases hc with hc | ⟨-, hc⟩
  · exact ht c hc
  · exact hs c hc

/-- Only what stands at the ends of a text counts. -/
theorem Unpadded.around (hs : Unpadded s) (ht : Unpadded t) (hsne : s ≠ []) (htne : t ≠ [])
    (middle : List Char) : Unpadded (s ++ middle ++ t) := by
  constructor
  · intro c hc
    rw [List.append_assoc, List.head?_append_of_ne_nil _ hsne] at hc
    exact hs.start c hc
  · intro c hc
    rw [List.getLast?_append_of_ne_nil _ htne] at hc
    exact ht.stop c hc

theorem unpadded_intercalate {sep : List Char} {parts : List (List Char)}
    (h : ∀ part ∈ parts, part ≠ [] ∧ Unpadded part) : Unpadded (sep.intercalate parts) := by
  induction parts with
  | nil => exact ⟨by simp [StartsPlain], by simp [EndsPlain]⟩
  | cons part parts ih =>
      obtain ⟨hne, hpart⟩ := h part List.mem_cons_self
      have hrest := ih fun part' hpart' => h part' (List.mem_cons_of_mem _ hpart')
      cases parts with
      | nil => simpa using hpart
      | cons next parts =>
          have hnext : sep.intercalate (next :: parts) ≠ [] := by
            obtain ⟨c, next', rfl⟩ := List.exists_cons_of_ne_nil (h next (by simp)).1
            simp
          rw [List.intercalate_cons_cons]
          exact hpart.around hrest hne hnext sep

theorem StartsPlain.trimStart_eq (h : StartsPlain s) : trimStart s = s := by
  cases s with
  | nil => rfl
  | cons c rest => simp [trimStart, h c rfl]

theorem EndsPlain.trimEnd_eq (h : EndsPlain s) : trimEnd s = s := by
  show s.rdropWhile isBlank = s
  rw [List.rdropWhile_eq_self_iff]
  intro hne
  simpa using h _ (List.getLast?_eq_some_getLast hne)

theorem Unpadded.trim_eq (h : Unpadded s) : trim s = s := by
  unfold trim
  rw [h.start.trimStart_eq, h.stop.trimEnd_eq]

/-- Where dropping stops, a character stays. -/
theorem head?_dropWhile_eq_false (h : c ∈ (s.dropWhile p).head?) : p c = false := by
  have hhead := List.head?_dropWhile_not p s
  rw [Option.mem_def.1 h] at hhead
  exact hhead

/-- The front of a text that does not begin with a blank does not either. -/
theorem StartsPlain.of_prefix (h : StartsPlain t) (hfront : s <+: t) : StartsPlain s := by
  obtain ⟨dropped, rfl⟩ := hfront
  exact fun c hc => h c (List.mem_head?_append_of_mem_head? hc)

theorem unpadded_trim (s : List Char) : Unpadded (trim s) := by
  constructor
  · have hstart : StartsPlain (trimStart s) := fun c hc => head?_dropWhile_eq_false hc
    exact hstart.of_prefix (List.rdropWhile_prefix isBlank _)
  · intro c hc
    unfold trim trimEnd at hc
    rw [List.getLast?_reverse] at hc
    exact head?_dropWhile_eq_false hc

theorem unpadded_trimmed (s : String) : Unpadded (trimmed s).toList := by
  unfold trimmed
  rw [String.toList_ofList]
  exact unpadded_trim _

/-- What is put behind a text that does not end in a blank stays where it is. -/
theorem trim_append (hs : EndsPlain s) (ht : Unpadded t) : trim (s ++ t) = trim s ++ t := by
  have hsplit : s = s.takeWhile isBlank ++ trimStart s := List.takeWhile_append_dropWhile.symm
  have hend : trim s = trimStart s := by
    refine EndsPlain.trimEnd_eq fun c hc => hs c ?_
    rw [hsplit]
    exact List.mem_getLast?_append_of_mem_getLast? hc
  have hwhole : Unpadded (trim s ++ t) :=
    ⟨(unpadded_trim s).start.append ht.start, (unpadded_trim s).stop.append ht.stop⟩
  have hblank : ∀ c ∈ s.takeWhile isBlank, isBlank c = true :=
    fun c hc => List.mem_takeWhile_imp hc
  calc trim (s ++ t) = trim (s.takeWhile isBlank ++ (trim s ++ t) ++ []) := by
        rw [hend, List.append_nil, ← List.append_assoc, ← hsplit]
    _ = trim (trim s ++ t) := trim_pad hblank (List.forall_mem_nil _) _
    _ = trim s ++ t := hwhole.trim_eq

/-- A word keeps its place when the blanks around a text are dropped. -/
theorem trim_word (hfirst : front.head? = some c) (hc : isBlank c = false)
    (hlast : front.getLast? = some d) (hd : isBlank d = false) (back : List Char) :
    trim (front ++ back) = front ++ trimEnd back := by
  obtain ⟨tail, rfl⟩ := List.head?_eq_some_iff.1 hfirst
  have hstart : trimStart (c :: tail ++ back) = c :: tail ++ back := by
    simp [trimStart, hc]
  rw [trim, hstart]
  exact rdropWhile_append hlast hd back

theorem Unpadded.trim_append_eq (h : Unpadded front) (hne : front ≠ []) (back : List Char) :
    trim (front ++ back) = front ++ trimEnd back := by
  have hfirst := List.head?_eq_some_head hne
  have hlast := List.getLast?_eq_some_getLast hne
  exact trim_word hfirst (h.start _ hfirst) hlast (h.stop _ hlast) back

end Text
end SourceAtlas
