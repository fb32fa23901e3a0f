import SourceAtlas.Model.ImportRoot
import SourceAtlas.Proofs.Path.Segments
import SourceAtlas.Proofs.Resolve.Crate
import SourceAtlas.Proofs.Text.Blank
import SourceAtlas.Proofs.Text.Cut

/-!
# The packages of imports

The package of an import is a front part of it: some of its segments where it has slashes, and
otherwise what stands before the first double colon, backslash or dot.

* `Text.IsFront` — a front part that ends just before a mark, or with the whole text.
* `isFront_takeWhile`, `isFront_headD_splitDoubleColon`, `Path.isFront_take` — the cuts that are
  made; one after the other they make a cut again (`IsFront.trans`).
* `IsPackage` — where a package is found; `IsWord.importRoot?_eq` — the package of a path of
  modules.
* `StandsIn` — a package is not empty, and it is a front part of its import.
-/

namespace SourceAtlas

/-! ## Front parts -/

namespace Text

variable {marks marks' : List String} {s t front : List Char} {c : Char}

/-- A front part of a text that is all of it or ends just before a mark. -/
def IsFront (marks : List String) (s front : List Char) : Prop :=
  ∃ rest, s = front ++ rest ∧ (rest = [] ∨ ∃ mark ∈ marks, mark.toList <+: rest)

theorem IsFront.refl (marks : List String) (s : List Char) : IsFront marks s s :=
  ⟨[], by simp, Or.inl rfl⟩

theorem IsFront.mono (h : IsFront marks s front) (hmarks : marks ⊆ marks') :
    IsFront marks' s front := by
  obtain ⟨rest, hs, hrest⟩ := h
  refine ⟨rest, hs, hrest.imp_right ?_⟩
  rintro ⟨mark, hmark, hmore⟩
  exact ⟨mark, hmarks hmark, hmore⟩

/-- A front part of a front part. -/
theorem IsFront.trans (h : IsFront marks s t) (ht : IsFront marks t front) :
    IsFront marks s front := by
  obtain ⟨rest, rfl, hrest⟩ := h
  obtain ⟨rest', rfl, hrest'⟩ := ht
  refine ⟨rest' ++ rest, List.append_assoc _ _ _, ?_⟩
  rcases hrest' with rfl | ⟨mark, hmark, hmore⟩
  · exact hrest
  · exact Or.inr ⟨mark, hmark, hmore.trans (List.prefix_append _ _)⟩

theorem isFront_takeWhile (c : Char) (s : List Char) :
    IsFront [String.singleton c] s (s.takeWhile (· ≠ c)) := by
  refine ⟨s.dropWhile (· ≠ c), List.takeWhile_append_dropWhile.symm, ?_⟩
  cases hrest : s.dropWhile (· ≠ c) with
  | nil => exact Or.inl rfl
  | cons d rest =>
      have hhead : d ∈ (s.dropWhile (· ≠ c)).head? := by
        rw [hrest]
        rfl
      have hd : d = c := by simpa using head?_dropWhile_eq_false hhead
      refine Or.inr ⟨_, List.mem_singleton_self _, ?_⟩
      simp [hd]

theorem isFront_headD_splitDoubleColon (s : List Char) :
    IsFront ["::"] s ((splitDoubleColon s).headD []) := by
  fun_induction splitDoubleColon s with
  | case1 => exact IsFront.refl _ _
  | case2 rest ih =>
      exact ⟨':' :: ':' :: rest, rfl, Or.inr ⟨"::", List.mem_singleton_self _, ⟨rest, rfl⟩⟩⟩
  | case3 c rest _ piece pieces hpieces ih =>
      rw [hpieces] at ih
      obtain ⟨more, hrest, hmore⟩ := ih
      refine ⟨more, ?_, hmore⟩
      rw [hrest]
      rfl
  | case4 c rest _ hnil ih => exact absurd hnil (splitDoubleColon_ne_nil rest)

/-- The colons at the front of a text go in pairs, as long as there are two. -/
theorem exists_dropDoubleColons (s : List Char) :
    ∃ pairs : Nat, s = (List.replicate pairs "::".toList).flatten ++ dropDoubleColons s ∧
      ¬ "::".toList <+: dropDoubleColons s := by
  fun_induction dropDoubleColons s with
  | case1 rest ih =>
      obtain ⟨pairs, hrest, hnot⟩ := ih
      refine ⟨pairs + 1, ?_, hnot⟩
      rw [List.replicate_succ, List.flatten_cons, List.append_assoc, ← hrest]
      rfl
  | case2 s hs =>
      refine ⟨0, rfl, ?_⟩
      rintro ⟨rest, hrest⟩
      exact hs rest hrest.symm

end Text

theorem Path.isFront_take {kept : Nat} (hkept : 0 < kept) (path : String) :
    Text.IsFront ["/"] path.toList (ofSegments ((segments path).take kept)).toList := by
  have hfirst : (segments path).take kept ≠ [] := by
    simp [segments_ne_nil, Nat.pos_iff_ne_zero.1 hkept]
  have hpath := ofSegments_segments path
  rw [← List.take_append_drop kept (segments path)] at hpath
  by_cases hmore : (segments path).drop kept = []
  · rw [hmore, List.append_nil] at hpath
    rw [hpath]
    exact Text.IsFront.refl _ _
  · rw [ofSegments_append hfirst hmore] at hpath
    refine ⟨("/" ++ ofSegments ((segments path).drop kept)).toList, ?_, Or.inr ⟨"/", by simp, ?_⟩⟩
    · rw [← String.toList_append, ← String.append_assoc, hpath]
    · rw [String.toList_append]
      exact List.prefix_append _ _

/-! ## Imports without slashes -/

theorem isFront_dottedRoot (name : List Char) :
    Text.IsFront ["::", "\\", "."] (Text.dropDoubleColons name) (dottedRoot name) := by
  have hcolons := Text.isFront_headD_splitDoubleColon (Text.dropDoubleColons name)
  have hbackslash := Text.isFront_takeWhile '\\'
    ((Text.splitDoubleColon (Text.dropDoubleColons name)).headD [])
  have hdot := Text.isFront_takeWhile '.' (((Text.splitDoubleColon
    (Text.dropDoubleColons name)).headD []).takeWhile (· ≠ '\\'))
  exact ((hcolons.mono (by decide)).trans (hbackslash.mono (by decide))).trans
    (hdot.mono (by decide))

theorem mem_dottedRoot {c : Char} {name : List Char} (h : c ∈ dottedRoot name) :
    c ≠ '.' ∧ c ∈ name := by
  obtain ⟨rest, hrest, -⟩ := isFront_dottedRoot name
  obtain ⟨pairs, hname, -⟩ := Text.exists_dropDoubleColons name
  refine ⟨by simpa using List.mem_takeWhile_imp h, ?_⟩
  rw [hname, hrest]
  exact List.mem_append_right _ (List.mem_append_left _ h)

/-- A word that holds no marks is all that is taken of an import that goes on with a double colon or
not at all. -/
theorem dottedRoot_word {word rest : List Char} (hne : word ≠ [])
    (hword : ∀ c ∈ word, c ≠ ':' ∧ c ≠ '\\' ∧ c ≠ '.')
    (hrest : rest = [] ∨ "::".toList <+: rest) : dottedRoot (word ++ rest) = word := by
  obtain ⟨first, others, rfl⟩ := List.exists_cons_of_ne_nil hne
  have hcolon : ':' ∉ first :: others := fun hmem => (hword _ hmem).1 rfl
  have hhead : (Text.splitDoubleColon (first :: others ++ rest)).headD [] = first :: others := by
    rcases hrest with rfl | ⟨more, rfl⟩
    · rw [List.append_nil, Text.splitDoubleColon_of_not_mem hcolon]
      rfl
    · show (Text.splitDoubleColon (first :: others ++ ':' :: ':' :: more)).headD [] = _
      rw [Text.splitDoubleColon_append hcolon]
      rfl
  have hbackslash : (first :: others).takeWhile (· ≠ '\\') = first :: others := by
    rw [List.takeWhile_eq_self_iff]
    exact fun c hc => by simpa using (hword c hc).2.1
  have hdot : (first :: others).takeWhile (· ≠ '.') = first :: others := by
    rw [List.takeWhile_eq_self_iff]
    exact fun c hc => by simpa using (hword c hc).2.2
  unfold dottedRoot
  rw [List.cons_append, Text.dropDoubleColons_cons (hword first List.mem_cons_self).1,
    ← List.cons_append]
  dsimp only
  rw [hhead, hbackslash, hdot]

/-! ## Packages -/

/-- Where the package of an import is found, once the import is trimmed. -/
inductive IsPackage (text : List Char) (root : String) : Prop where
  /-- In its first segments. -/
  | segments (kept : Nat) (kept_pos : 0 < kept) (slashed : text.head? = some '@' ∨ '/' ∈ text)
      (first : text.head? ≠ some '.' ∧ text.head? ≠ some '/')
      (root_eq : root = Path.ofSegments ((Path.segments (String.ofList text)).take kept))
  /-- Before the first mark. -/
  | dotted (unscoped : text.head? ≠ some '@') (unslashed : '/' ∉ text)
      (root_ne : dottedRoot text ≠ []) (root_eq : root = String.ofList (dottedRoot text))

variable {name root : String} {c : Char} {rest : List Char}

/-- How many segments of an import with slashes belong to its package. -/
def keptSegments (text : List Char) : Nat :=
  if Text.contains ((Path.segments (String.ofList text)).headD "") "." then 3 else 1

theorem importRoot?_of_trim (h : Text.trim name.toList = c :: rest) :
    importRoot? name =
      if c = '.' ∨ c = '/' then none
      else if c = '@' then
        some (Path.ofSegments ((Path.segments (String.ofList (c :: rest))).take 2))
      else if '/' ∈ c :: rest then
        some (Path.ofSegments ((Path.segments (String.ofList (c :: rest))).take
          (keptSegments (c :: rest))))
      else if dottedRoot (c :: rest) = [] then none
      else some (String.ofList (dottedRoot (c :: rest))) := by
  have hslash : Text.contains (String.ofList (c :: rest)) "/" = true ↔ '/' ∈ c :: rest := by
    rw [Text.contains_slash, String.toList_ofList]
  unfold importRoot?
  rw [h]
  simp only [hslash, keptSegments, Bool.or_eq_true, decide_eq_true_eq]
  cases dottedRoot (c :: rest) <;> simp

theorem isPackage_of_importRoot? (h : importRoot? name = some root) :
    IsPackage (Text.trim name.toList) root := by
  cases htrim : Text.trim name.toList with
  | nil => simp [importRoot?, htrim] at h
  | cons c rest =>
      rw [importRoot?_of_trim htrim] at h
      split at h
      · cases h
      · rename_i hfirst
        have hfirst' : (c :: rest).head? ≠ some '.' ∧ (c :: rest).head? ≠ some '/' := by
          simpa using hfirst
        split at h
        · rename_i hat
          exact .segments 2 (by decide) (Or.inl (by rw [hat]; rfl)) hfirst' (Option.some.inj h).symm
        · rename_i hat
          split at h
          · rename_i hslash
            refine .segments _ ?_ (Or.inr hslash) hfirst' (Option.some.inj h).symm
            unfold keptSegments
            split <;> decide
          · rename_i hslash
            split at h
            · cases h
            · rename_i hroot
              exact .dotted (by simpa using hat) hslash hroot (Option.some.inj h).symm

/-- The marks that end the name of a package. -/
def separators : List String := ["/", "::", "\\", "."]

/-- An import that begins with a dot or a slash belongs to no package. -/
theorem importRoot?_of_relative (h : name.toList.head? = some c) (hc : c = '.' ∨ c = '/') :
    importRoot? name = none := by
  obtain ⟨rest, hname⟩ := List.head?_eq_some_iff.1 h
  have hplain : Text.isBlank c = false := by rcases hc with rfl | rfl <;> decide
  have htrim : Text.trim name.toList = c :: Text.trimEnd rest := by
    rw [hname]
    exact Text.trim_word (show [c].head? = some c from rfl) hplain rfl hplain rest
  rw [importRoot?_of_trim htrim, if_pos hc]

/-- A name without marks. -/
structure IsWord (word : List Char) : Prop where
  ne_nil : word ≠ []
  unscoped : word.head? ≠ some '@'
  unmarked : ∀ c ∈ word, c ≠ ':' ∧ c ≠ '\\' ∧ c ≠ '.' ∧ c ≠ '/'

theorem IsWord.importRoot?_of_trim {word : List Char} (h : IsWord word)
    (htrim : Text.trim name.toList = word ++ rest) :
    importRoot? name =
      if '/' ∈ rest then
        some (Path.ofSegments ((Path.segments (String.ofList (word ++ rest))).take
          (keptSegments (word ++ rest))))
      else if dottedRoot (word ++ rest) = [] then none
      else some (String.ofList (dottedRoot (word ++ rest))) := by
  obtain ⟨first, others, rfl⟩ := List.exists_cons_of_ne_nil h.ne_nil
  have hfirst := h.unmarked first List.mem_cons_self
  have hslash : '/' ∉ first :: others := fun hmem => (h.unmarked _ hmem).2.2.2 rfl
  rw [List.cons_append] at htrim ⊢
  rw [SourceAtlas.importRoot?_of_trim htrim, if_neg (by simpa using hfirst.2.2),
    if_neg (by simpa using h.unscoped)]
  simp only [← List.cons_append, List.mem_append, hslash, false_or]

/-- The package of an import with a word for its first name, behind which nothing or a double colon
stands. -/
theorem IsWord.importRoot?_eq {word : List Char} (h : IsWord word)
    (hrest : rest = [] ∨ "::".toList <+: rest) (htrim : Text.trim name.toList = word ++ rest)
    (hslash : '/' ∉ rest) : importRoot? name = some (String.ofList word) := by
  have hroot : dottedRoot (word ++ rest) = word :=
    dottedRoot_word h.ne_nil (fun c hc => ⟨(h.unmarked c hc).1, (h.unmarked c hc).2.1,
      (h.unmarked c hc).2.2.1⟩) hrest
  rw [h.importRoot?_of_trim htrim, if_neg hslash, hroot, if_neg h.ne_nil]

/-- How a package stands in its import, once the import is trimmed. -/
structure StandsIn (text : List Char) (root : String) : Prop where
  ne_empty : root ≠ ""
  /-- An import with a scope or with slashes begins with its package. -/
  slashed : text.head? = some '@' ∨ '/' ∈ text → Text.IsFront separators text root.toList
  /-- Any other one has nothing before its package but pairs of colons. -/
  unslashed : text.head? ≠ some '@' → '/' ∉ text →
    ∃ (pairs : Nat) (rest : List Char),
      text = (List.replicate pairs "::".toList).flatten ++ rest ∧
      ¬ "::".toList <+: rest ∧ Text.IsFront separators rest root.toList

/-- **A package is a front part of its import**, up to a mark or to its end. -/
theorem standsIn_of_importRoot? (h : importRoot? name = some root) :
    StandsIn (Text.trim name.toList) root := by
  cases isPackage_of_importRoot? h with
  | segments kept kept_pos slashed first root_eq =>
      have hfront := Path.isFront_take kept_pos (String.ofList (Text.trim name.toList))
      rw [String.toList_ofList, ← root_eq] at hfront
      refine ⟨?_, fun _ => hfront.mono (by decide), fun hat hslash => ?_⟩
      · -- before the first slash of an import that does not begin with one, something stands
        rintro rfl
        obtain ⟨rest, htext, hrest⟩ := hfront
        rw [String.toList_empty, List.nil_append] at htext
        rw [← htext] at hrest
        rcases hrest with hnil | ⟨mark, hmark, more, hmore⟩
        · simp [hnil] at slashed
        · obtain rfl := List.mem_singleton.1 hmark
          exact first.2 (by rw [← hmore]; rfl)
      · rcases slashed with hat' | hslash'
        · exact absurd hat' hat
        · exact absurd hslash' hslash
  | dotted unscoped unslashed root_ne root_eq =>
      refine ⟨?_, ?_, fun _ _ => ?_⟩
      · rw [root_eq]
        simpa using root_ne
      · rintro (hat | hslash)
        · exact absurd hat unscoped
        · exact absurd hslash unslashed
      · obtain ⟨pairs, htext, hnot⟩ := Text.exists_dropDoubleColons (Text.trim name.toList)
        refine ⟨pairs, _, htext, hnot, ?_⟩
        rw [root_eq, String.toList_ofList]
        exact (isFront_dottedRoot _).mono (by decide)

/-- A package does not begin like a relative import. -/
theorem head?_of_importRoot? (h : importRoot? name = some root) :
    root.toList.head? ≠ some '.' ∧ root.toList.head? ≠ some '/' := by
  cases isPackage_of_importRoot? h with
  | segments kept kept_pos slashed first root_eq =>
      have hstands := standsIn_of_importRoot? h
      obtain ⟨rest, htext, -⟩ := hstands.slashed slashed
      have hhead : (Text.trim name.toList).head? = root.toList.head? := by
        rw [htext]
        exact List.head?_append_of_ne_nil _ (by simpa using hstands.ne_empty)
      rwa [hhead] at first
  | dotted unscoped unslashed root_ne root_eq =>
      rw [root_eq, String.toList_ofList]
      constructor
      · intro hdot
        exact (mem_dottedRoot (List.mem_of_mem_head? hdot)).1 rfl
      · intro hslash
        exact unslashed (mem_dottedRoot (List.mem_of_mem_head? hslash)).2

end SourceAtlas
