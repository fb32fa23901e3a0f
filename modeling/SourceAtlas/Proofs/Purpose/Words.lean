import SourceAtlas.Proofs.Purpose.Directories
import SourceAtlas.Proofs.Text.Letters

/-!
# The words of a name

Cutting a name into words loses nothing of it: the words hold the small forms of its alphanumeric
characters, in order and once each.  No word is empty, and no look at a neighbouring character goes
beyond a separator or the beginning of the name.

* `flatten_readWords`, `ne_nil_of_mem_readWords` — what the words of a name hold, after an open word
  and finished ones.
* `Reading` — the same words read by position, where the character before is looked up in the name;
  `Tracks` — the open word is not empty and ends with the character that is looked up.
* `Tracks.read`, `Tracks.foldlM_read` — each character is read alike in both ways, and so is the
  name.
* `nameTokens_lossless` — all of this for the words of a name.
-/

namespace SourceAtlas
namespace Purpose

/-! ## What the words hold -/

/-- The letters of an open word; between two words there are none. -/
def openLetters : Option OpenWord → List Char
  | some w => w.letters.reverse
  | none => []

/-- The small forms of the alphanumeric characters of a name. -/
def spelled (name : List Char) : List Char :=
  (name.filter Text.isAlphanumeric).flatMap Text.smallForm

theorem spelled_cons_of_neg {c : Char} (h : ¬ Text.isAlphanumeric c = true) (rest : List Char) :
    spelled (c :: rest) = spelled rest := by
  rw [spelled, List.filter_cons_of_neg h, spelled]

theorem spelled_cons_of_pos {c : Char} (h : Text.isAlphanumeric c = true) (rest : List Char) :
    spelled (c :: rest) = Text.smallForm c ++ spelled rest := by
  rw [spelled, List.filter_cons_of_pos h, List.flatMap_cons, spelled]

theorem flatten_reverse_closeWord (current : Option OpenWord) :
    (closeWord current []).reverse.flatten = openLetters current := by
  cases current <;> simp [closeWord, openLetters]

/-- The words hold the open word and all that is still to be read. -/
theorem flatten_readWords (name : List Char) : ∀ current : Option OpenWord,
    (readWords current [] name).flatten = openLetters current ++ spelled name := by
  induction name with
  | nil =>
      intro current
      rw [readWords, flatten_reverse_closeWord]
      exact (List.append_nil _).symm
  | cons c rest ih =>
      intro current
      rw [readWords]
      split
      · rename_i hseparates
        rw [readWords_done, List.flatten_append, flatten_reverse_closeWord, ih none,
          spelled_cons_of_neg (by simpa using hseparates)]
        rfl
      · rename_i hletter
        rw [spelled_cons_of_pos (by simpa using hletter)]
        cases current with
        | none =>
            dsimp only
            rw [ih]
            simp [openLetters]
        | some w =>
            dsimp only
            split
            · rw [readWords_done, List.flatten_append, ih]
              simp [openLetters]
            · rw [ih]
              simp [openLetters]

theorem ne_nil_of_mem_closeWord {current : Option OpenWord} {done : List (List Char)}
    (hopen : ∀ w, current = some w → w.letters ≠ []) (hdone : ∀ word ∈ done, word ≠ []) :
    ∀ word ∈ closeWord current done, word ≠ [] := by
  cases current with
  | none => exact hdone
  | some w => exact List.forall_mem_cons.2 ⟨by simpa using hopen w rfl, hdone⟩

/-- No word is empty, because no character has an empty small form. -/
theorem ne_nil_of_mem_readWords (name : List Char) :
    ∀ {current : Option OpenWord} {done : List (List Char)},
      (∀ w, current = some w → w.letters ≠ []) → (∀ word ∈ done, word ≠ []) →
        ∀ word ∈ readWords current done name, word ≠ [] := by
  induction name with
  | nil =>
      intro current done hopen hdone word hword
      exact ne_nil_of_mem_closeWord hopen hdone word (List.mem_reverse.1 hword)
  | cons c rest ih =>
      intro current done hopen hdone
      have hsmall : (Text.smallForm c).reverse ≠ [] := by simpa using Text.smallForm_ne_nil c
      rw [readWords]
      split
      · exact ih (by simp) (ne_nil_of_mem_closeWord hopen hdone)
      · cases current with
        | none => exact ih (by simpa using hsmall) hdone
        | some w =>
            dsimp only
            split
            · exact ih (by simpa using hsmall) (ne_nil_of_mem_closeWord hopen hdone)
            · exact ih (by simp [Text.smallForm_ne_nil c]) hdone

/-! ## Reading by position -/

/-- The character before a position of a name.  The first position has none. -/
def before? (name : List Char) (i : Nat) : Option Char := if i = 0 then none else name[i - 1]?

/-- A name that is read by position: the letters of the open word, last first, of which there are
none between two words; and the finished words, last first. -/
structure Reading where
  letters : List Char
  done : List (List Char)

namespace Reading

/-- Finishes the open word, if there is one. -/
def close (r : Reading) : Reading :=
  if r.letters.isEmpty then r else ⟨[], r.letters.reverse :: r.done⟩

/-- Whether the character `c` at position `i` begins a new word.  The character before it is looked
up where a capital stands inside a word, and the answer fails if there is none. -/
def begins? (name : List Char) (r : Reading) (c : Char) (i : Nat) : Option Bool :=
  if Text.isUppercase c && !r.letters.isEmpty then
    (before? name i).map fun previous =>
      Text.isLowercase previous || previous.isDigit ||
        (Text.isUppercase previous && name[i + 1]?.any Text.isLowercase)
  else some false

/-- Reads a character at its position. -/
def read (name : List Char) (r : Reading) : Char × Nat → Option Reading
  | (c, i) =>
    if !Text.isAlphanumeric c then some r.close
    else (r.begins? name c i).map fun begins =>
      let r := if begins then r.close else r
      ⟨(Text.smallForm c).reverse ++ r.letters, r.done⟩

/-- The words that have been read. -/
def words (r : Reading) : List (List Char) := r.close.done.reverse

end Reading

/-- The words of a name, read by position; none if a character is looked up before the first. -/
def wordsByPosition? (name : String) : Option (List String) :=
  (name.toList.zipIdx.foldlM (Reading.read name.toList) ⟨[], []⟩).map fun r =>
    r.words.map String.ofList

/-- After `front` has been read, `letters` are those of the open word.  It is not empty, and it ends
with the last character of `front`. -/
inductive Tracks (front : List Char) : Option OpenWord → List Char → Prop
  | between : Tracks front none []
  | inside {w : OpenWord} : w.letters ≠ [] → front.getLast? = some w.previous →
      Tracks front (some w) w.letters

theorem before?_length (front rest : List Char) :
    before? (front ++ rest) front.length = front.getLast? := by
  induction front using List.reverseRecOn with
  | nil => rfl
  | append_singleton front c _ =>
      rw [List.length_append, List.length_singleton, before?, if_neg (Nat.succ_ne_zero _),
        Nat.add_sub_cancel, List.append_assoc, List.getElem?_append_right (Nat.le_refl _),
        Nat.sub_self, List.getLast?_concat]
      rfl

theorem getElem?_length_succ (front : List Char) (c : Char) (rest : List Char) :
    (front ++ c :: rest)[front.length + 1]? = rest.head? := by
  rw [List.getElem?_append_right (Nat.le_add_right _ 1), Nat.add_sub_cancel_left,
    List.getElem?_cons_succ, List.head?_eq_getElem?]

namespace Tracks

variable {front : List Char} {current : Option OpenWord} {letters : List Char}

theorem close (h : Tracks front current letters) (done : List (List Char)) :
    Reading.close ⟨letters, done⟩ = ⟨[], closeWord current done⟩ := by
  cases h with
  | between => rfl
  | inside hletters _ => simp [Reading.close, closeWord, hletters]

/-- The character before an open word is there to be looked up. -/
theorem begins? (h : Tracks front current letters) (done : List (List Char)) (c : Char)
    (rest : List Char) :
    Reading.begins? (front ++ c :: rest) ⟨letters, done⟩ c front.length =
      some (current.any fun w => beginsWord w.previous c rest) := by
  unfold Reading.begins?
  cases h with
  | between => simp
  | @inside w hletters hlast =>
      rw [before?_length, getElem?_length_succ, hlast]
      by_cases hcapital : Text.isUppercase c = true
      · simp [beginsWord, hletters, hcapital]
      · simp [beginsWord, hcapital]

/-- An alphanumeric character goes on with the open word, unless it begins a new one. -/
theorem readWords_cons (h : Tracks front current letters) (done : List (List Char)) {c : Char}
    (hc : Text.isAlphanumeric c = true) (rest : List Char) :
    readWords current done (c :: rest) =
      if current.any fun w => beginsWord w.previous c rest then
        readWords (some ⟨c, (Text.smallForm c).reverse ++ []⟩) (closeWord current done) rest
      else readWords (some ⟨c, (Text.smallForm c).reverse ++ letters⟩) done rest := by
  rw [readWords, if_neg (by simp [hc])]
  cases h with
  | between => simp
  | inside _ _ => simp [closeWord]

/-- A word to which a character has just been added. -/
theorem extend (front : List Char) (c : Char) (letters : List Char) :
    Tracks (front ++ [c]) (some ⟨c, (Text.smallForm c).reverse ++ letters⟩)
      ((Text.smallForm c).reverse ++ letters) := by
  refine .inside ?_ List.getLast?_concat
  simp [Text.smallForm_ne_nil c]

/-- **One character** is read alike in both ways. -/
theorem read (h : Tracks front current letters) (done : List (List Char)) (c : Char)
    (rest : List Char) :
    ∃ current' letters' done',
      Reading.read (front ++ c :: rest) ⟨letters, done⟩ (c, front.length) =
        some ⟨letters', done'⟩ ∧
      Tracks (front ++ [c]) current' letters' ∧
      readWords current done (c :: rest) = readWords current' done' rest := by
  by_cases hc : Text.isAlphanumeric c = true
  · rw [h.readWords_cons done hc]
    simp only [Reading.read, hc, h.begins?, h.close, Bool.not_true, Bool.false_eq_true, if_false,
      Option.map_some]
    by_cases hbegins : (current.any fun w => beginsWord w.previous c rest) = true
    · simp only [hbegins, if_true]
      exact ⟨_, _, _, rfl, extend front c [], rfl⟩
    · simp only [hbegins, Bool.false_eq_true, if_false]
      exact ⟨_, _, _, rfl, extend front c letters, rfl⟩
  · simp only [Reading.read, readWords, hc, h.close, Bool.not_false, if_true]
    exact ⟨_, _, _, rfl, .between, rfl⟩

/-- **The whole name** is read alike in both ways. -/
theorem foldlM_read {name : List Char} (rest : List Char) : ∀ {front : List Char}
    {current : Option OpenWord} {letters : List Char} (done : List (List Char)),
    Tracks front current letters → name = front ++ rest →
      ((rest.zipIdx front.length).foldlM (Reading.read name) ⟨letters, done⟩).map Reading.words =
        some (readWords current done rest) := by
  induction rest with
  | nil =>
      intro front current letters done h _
      rw [List.zipIdx_nil, List.foldlM_nil, Option.pure_def, Option.map_some, Reading.words, h.close,
        readWords]
  | cons c rest ih =>
      intro front current letters done h hname
      obtain ⟨current', letters', done', hread, hnext, hwords⟩ := h.read done c rest
      rw [List.zipIdx_cons, List.foldlM_cons, hname, hread, hwords, Option.bind_eq_bind,
        Option.bind_some]
      have hfront : (front ++ [c]).length = front.length + 1 := List.length_append
      rw [← hfront, ← hname]
      exact ih done' hnext (by rw [hname]; simp)

end Tracks

/-- The character before is always there when it is looked up, so a name is read to its end. -/
theorem wordsByPosition?_eq (name : String) : wordsByPosition? name = some (nameTokens name) := by
  have hread := Tracks.foldlM_read name.toList [] (.between : Tracks [] none []) rfl
  obtain ⟨r, hr, hwords⟩ := Option.map_eq_some_iff.1 hread
  rw [wordsByPosition?, nameTokens, ← hwords]
  exact Option.map_eq_some_iff.2 ⟨r, hr, rfl⟩

/-! ## Names -/

theorem ne_empty_of_mem_nameTokens {name word : String} (h : word ∈ nameTokens name) :
    word ≠ "" := by
  obtain ⟨letters, hletters, rfl⟩ := List.mem_map.1 h
  have hne := ne_nil_of_mem_readWords name.toList (by simp) (by simp) letters hletters
  simpa using hne

theorem join_nameTokens (name : String) :
    String.join (nameTokens name) = String.ofList (spelled name.toList) := by
  have hflatten := flatten_readWords name.toList none
  rw [openLetters, List.nil_append] at hflatten
  rw [← String.toList_inj, String.toList_join, String.toList_ofList, ← hflatten, nameTokens,
    List.flatMap_map]
  simp [List.flatMap_id']

/-- **Cutting a name into words loses nothing.**  No word is empty, and the words put together are
the small forms of the alphanumeric characters of the name, in order.  The words of two names with
any other character between them are those of the first, followed by those of the second.  Read by
position, the name has the same words; in particular, no character is looked up before its first. -/
theorem nameTokens_lossless :
    (∀ name, (∀ word ∈ nameTokens name, word ≠ "") ∧
      String.join (nameTokens name) =
        String.ofList ((name.toList.filter Text.isAlphanumeric).flatMap Text.smallForm)) ∧
    (∀ separator, Text.isAlphanumeric separator = false → ∀ front back : String,
      nameTokens (front ++ String.singleton separator ++ back) =
        nameTokens front ++ nameTokens back) ∧
    (∀ name, wordsByPosition? name = some (nameTokens name)) := by
  refine ⟨fun name => ⟨?_, join_nameTokens name⟩, ?_, wordsByPosition?_eq⟩
  · exact fun word hword => ne_empty_of_mem_nameTokens hword
  · intro separator hseparates front back
    exact nameTokens_append hseparates (Text.isLowercase_eq_false hseparates) (by simp)

/-- Capitals in a row, a capital whose small form has two characters, and a digit before a capital,
with an arrow between the two names. -/
theorem nameTokens_lossless_arrow :
    Text.isAlphanumeric '→' = false ∧
    nameTokens ("HTTPServer" ++ String.singleton '→' ++ "İzmir2Bay") =
      ["http", "server"] ++ ["i\u0307zmir2", "bay"] ∧
    String.join ["i\u0307zmir2", "bay"] = "i\u0307zmir2bay" ∧
    wordsByPosition? "İzmir2Bay" = some ["i\u0307zmir2", "bay"] := by
  obtain ⟨hwords, happend, hposition⟩ := nameTokens_lossless
  have harrow : Text.isAlphanumeric '→' = false := by decide +kernel
  have hserver : nameTokens "HTTPServer" = ["http", "server"] := by decide +kernel
  have hbay : nameTokens "İzmir2Bay" = ["i\u0307zmir2", "bay"] := by decide +kernel
  refine ⟨harrow, ?_, ?_, ?_⟩
  · rw [happend '→' harrow, hserver, hbay]
  · rw [← hbay, (hwords "İzmir2Bay").2]
    decide +kernel
  · rw [hposition, hbay]

end Purpose
end SourceAtlas
