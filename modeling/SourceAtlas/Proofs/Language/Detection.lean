import Mathlib
import SourceAtlas.Language.Registry
import SourceAtlas.Proofs.Text.Cut

/-!
# The language of a file name

The extensions are kept in a table, in which the first language that claims an extension owns it.
An extension is looked up as it is written and, if it has a capital letter, once more without regard
to case; that second search goes through the entries of the table in whatever order they are listed.

* `register`, `table` — the table; `find?_foldl_register` — a table that was filled answers with the
  first claim.
* `lookupIn`, `detectIn` — the search through the entries in a given order; no order changes its
  answer (`lookupIn_eq_owner?`).
* `owner?_behind_dot` — an extension with a dot in it belongs to the owner of what follows the dot.
* `Decides` — the language of a file name, by what follows the last dot of it.
* `detect_decides` — the detection, which tries the longest extension first and looks it up in any
  order of the table, finds the language that the last extension decides.
-/

namespace SourceAtlas
namespace Registry

open Text (asciiLowered)

/-! ## Small letters -/

theorem toList_asciiLowered (s : String) :
    (asciiLowered s).toList = s.toList.map Text.asciiSmall := String.toList_ofList

theorem asciiLowered_asciiLowered (s : String) :
    asciiLowered (asciiLowered s) = asciiLowered s := by
  rw [← String.toList_inj]
  simp [toList_asciiLowered, Text.asciiSmall]

theorem asciiLowered_of_no_capital {s : String} (h : s.toList.any Char.isUpper = false) :
    asciiLowered s = s := by
  rw [← String.toList_inj, toList_asciiLowered]
  calc s.toList.map Text.asciiSmall = s.toList.map id :=
        List.map_congr_left fun c hc => Char.toLower_eq_of_not_isUpper (List.any_eq_false.1 h c hc)
    _ = s.toList := List.map_id _

theorem asciiLowered_dot (front back : String) :
    asciiLowered (front ++ "." ++ back) = asciiLowered front ++ "." ++ asciiLowered back := by
  rw [← String.toList_inj]
  simp [toList_asciiLowered, Text.asciiSmall]

theorem dot_mem_asciiLowered_iff {s : String} : '.' ∈ (asciiLowered s).toList ↔ '.' ∈ s.toList := by
  rw [toList_asciiLowered, List.mem_map]
  constructor
  · rintro ⟨c, hc, hdot⟩
    by_cases hupper : c.isUpper = true
    · have halpha : Char.isAlpha c = true := by simp [Char.isAlpha, hupper]
      rw [← Char.isAlpha_toLower_eq_isAlpha, show c.toLower = '.' from hdot] at halpha
      cases halpha
    · rw [Text.asciiSmall, Char.toLower_eq_of_not_isUpper hupper] at hdot
      exact hdot ▸ hc
  · exact fun h => ⟨'.', h, rfl⟩

/-! ## The table of extensions -/

/-- Registers an extension; one that is registered already stays with its owner. -/
def register (table : List (String × Language)) (claim : String × Language) :
    List (String × Language) :=
  if table.any (·.1 == claim.1) then table else table ++ [claim]

/-- All extensions, each with its owner. -/
def table : List (String × Language) := registered.foldl register []

section

variable {entries entries' : List (String × Language)} {claim : String × Language}
  {extension : String}

/-- **One registration.**  It changes the answer only for an extension without an owner. -/
theorem find?_register : (register entries claim).find? (·.1 == extension) =
    (entries ++ [claim]).find? (·.1 == extension) := by
  unfold register
  split
  · rename_i htaken
    rw [List.find?_append]
    by_cases hext : claim.1 = extension
    · obtain ⟨entry, hentry⟩ : ∃ entry, entries.find? (·.1 == extension) = some entry := by
        rw [← Option.isSome_iff_exists, List.find?_isSome]
        simpa [hext] using htaken
      simp [hentry]
    · simp [hext]
  · rfl

/-- **All registrations.**  The first claim of an extension is the one that counts. -/
theorem find?_foldl_register (claimed : List (String × Language)) :
    ∀ entries : List (String × Language),
      (claimed.foldl register entries).find? (·.1 == extension) =
        (entries ++ claimed).find? (·.1 == extension) := by
  induction claimed with
  | nil => simp
  | cons claim claimed ih =>
      intro entries
      rw [List.foldl_cons, ih, List.find?_append, find?_register, ← List.find?_append]
      simp

theorem find?_table : table.find? (·.1 == extension) = registered.find? (·.1 == extension) :=
  find?_foldl_register registered []

theorem nodup_register (h : (entries.map Prod.fst).Nodup) :
    ((register entries claim).map Prod.fst).Nodup := by
  unfold register
  split
  · exact h
  · rename_i hfree
    rw [List.map_append, List.nodup_append]
    refine ⟨h, List.nodup_singleton _, ?_⟩
    rintro key hkey other hother rfl
    obtain ⟨entry, hentry, rfl⟩ := List.mem_map.1 hkey
    refine hfree (List.any_eq_true.2 ⟨entry, hentry, ?_⟩)
    simpa using hother

theorem nodup_foldl_register (claimed : List (String × Language)) :
    ∀ {entries : List (String × Language)}, (entries.map Prod.fst).Nodup →
      ((claimed.foldl register entries).map Prod.fst).Nodup := by
  induction claimed with
  | nil => exact fun h => h
  | cons claim claimed ih => exact fun h => ih (nodup_register h)

theorem nodup_table : (table.map Prod.fst).Nodup := nodup_foldl_register registered List.nodup_nil

theorem find?_eq_some_iff_mem (h : (entries.map Prod.fst).Nodup) {entry : String × Language} :
    entries.find? (·.1 == extension) = some entry ↔ entry ∈ entries ∧ entry.1 = extension := by
  constructor
  · intro hfind
    exact ⟨List.mem_of_find?_eq_some hfind, by simpa using List.find?_some hfind⟩
  · rintro ⟨hmem, rfl⟩
    obtain ⟨other, hother⟩ : ∃ other, entries.find? (·.1 == entry.1) = some other := by
      rw [← Option.isSome_iff_exists, List.find?_isSome]
      exact ⟨entry, hmem, beq_self_eq_true _⟩
    have hkey : other.1 = entry.1 := by simpa using List.find?_some hother
    rw [hother, List.inj_on_of_nodup_map h (List.mem_of_find?_eq_some hother) hmem hkey]

/-- Where every extension has one entry, the order of the entries does not matter. -/
theorem find?_of_perm (hperm : entries'.Perm entries) (h : (entries.map Prod.fst).Nodup) :
    entries'.find? (·.1 == extension) = entries.find? (·.1 == extension) := by
  have h' : (entries'.map Prod.fst).Nodup := (hperm.map Prod.fst).nodup_iff.2 h
  ext entry
  rw [find?_eq_some_iff_mem h, find?_eq_some_iff_mem h', hperm.mem_iff]

end

/-! ## Looking an extension up -/

/-- Looks an extension up in the entries of a table, as they are listed: first as it is written, and
if it has a capital letter also without regard to case. -/
def lookupIn (entries : List (String × Language)) (extension : String) : Option Language :=
  match entries.find? (·.1 == extension) with
  | some entry => some entry.2
  | none =>
      if extension.toList.any Char.isUpper then
        (entries.find? fun entry => asciiLowered entry.1 == asciiLowered extension).map (·.2)
      else none

/-- The language of a file name, by its longest extension that is found in the entries. -/
def detectIn (entries : List (String × Language)) (name : String) : Language :=
  (((suffixes name.toList).filter (!·.isEmpty)).findSome?
    (lookupIn entries <| String.ofList ·)).getD .unknown

theorem asciiLowered_of_mem_table {entry : String × Language} (h : entry ∈ table) :
    asciiLowered entry.1 = entry.1 := by
  have hsmall : ∀ claim ∈ registered, claim.1.toList.any Char.isUpper = false := by decide +kernel
  have hfind : registered.find? (·.1 == entry.1) = some entry := by
    rw [← find?_table, find?_eq_some_iff_mem nodup_table]
    exact ⟨h, rfl⟩
  exact asciiLowered_of_no_capital (hsmall entry (List.mem_of_find?_eq_some hfind))

theorem owner?_eq {extension : String} :
    owner? extension = (table.find? (·.1 == asciiLowered extension)).map (·.2) := by
  rw [owner?, find?_table]

theorem owner?_asciiLowered (extension : String) :
    owner? (asciiLowered extension) = owner? extension := by
  rw [owner?, owner?, asciiLowered_asciiLowered]

/-- **No order of the table changes the answer.**  All entries are in small letters, so the second
search asks for one of them. -/
theorem lookupIn_eq_owner? {entries : List (String × Language)} (h : entries.Perm table)
    (extension : String) : lookupIn entries extension = owner? extension := by
  have hsearch : (entries.find? fun entry => asciiLowered entry.1 == asciiLowered extension) =
      table.find? (·.1 == asciiLowered extension) := by
    rw [← find?_of_perm h nodup_table]
    refine List.find?_congr fun entry hentry => ?_
    rw [asciiLowered_of_mem_table (h.subset hentry)]
  unfold lookupIn
  rw [find?_of_perm h nodup_table, hsearch, owner?_eq]
  split
  · rename_i entry hentry
    obtain ⟨hmem, rfl⟩ := (find?_eq_some_iff_mem nodup_table).1 hentry
    rw [asciiLowered_of_mem_table hmem, hentry]
    rfl
  · rename_i hnone
    split
    · rfl
    · rename_i hsmall
      rw [asciiLowered_of_no_capital (by simpa using hsmall), hnone]
      rfl

/-! ## What follows a dot -/

theorem mem_suffixes_iff {suffix : List Char} {name : List Char} :
    suffix ∈ suffixes name ↔ ∃ front, name = front ++ '.' :: suffix := by
  induction name with
  | nil => simp [suffixes]
  | cons c rest ih =>
      have hcons : (∃ front, c :: rest = front ++ '.' :: suffix) ↔
          (c = '.' ∧ rest = suffix) ∨ ∃ front, rest = front ++ '.' :: suffix := by
        constructor
        · rintro ⟨front, h⟩
          cases front with
          | nil =>
              obtain ⟨rfl, rfl⟩ := List.cons.inj h
              exact Or.inl ⟨rfl, rfl⟩
          | cons d front => exact Or.inr ⟨front, (List.cons.inj h).2⟩
        · rintro (⟨rfl, rfl⟩ | ⟨front, rfl⟩)
          · exact ⟨[], rfl⟩
          · exact ⟨c :: front, rfl⟩
      rw [hcons, ← ih, suffixes]
      split
      · rename_i hdot
        simp [hdot, eq_comm]
      · rename_i hdot
        simp [hdot]

/-- **An extension with a dot in it belongs to the owner of what follows the dot.**  There is one
such extension in the table, and it has the same owner as its end. -/
theorem owner?_behind_dot {front back : String} {l : Language}
    (h : owner? (front ++ "." ++ back) = some l) : owner? back = some l := by
  have hends : ∀ claim ∈ registered, ∀ suffix ∈ suffixes claim.1.toList,
      owner? (String.ofList suffix) = owner? claim.1 := by decide +kernel
  have howner := h
  rw [owner?, asciiLowered_dot] at h
  obtain ⟨claim, hfind, -⟩ := Option.map_eq_some_iff.1 h
  have hclaim : claim.1 = asciiLowered front ++ "." ++ asciiLowered back := by
    simpa using List.find?_some hfind
  have hsuffix : (asciiLowered back).toList ∈ suffixes claim.1.toList := by
    rw [mem_suffixes_iff, hclaim]
    exact ⟨(asciiLowered front).toList, by simp⟩
  have hsame := hends claim (List.mem_of_find?_eq_some hfind) _ hsuffix
  rw [String.ofList_toList, owner?_asciiLowered, hclaim, ← asciiLowered_dot,
    owner?_asciiLowered, howner] at hsame
  exact hsame

/-- A search in which all answers agree gives that answer. -/
theorem findSome?_of_agree {α β : Type} {f : α → Option β} {a : Option β} {l : List α}
    (hagree : ∀ x ∈ l, ∀ b, f x = some b → a = some b) (hmem : a = none ∨ ∃ x ∈ l, f x = a) :
    l.findSome? f = a := by
  cases hfind : l.findSome? f with
  | some b =>
      obtain ⟨x, hx, hfx⟩ := List.exists_of_findSome?_eq_some hfind
      exact (hagree x hx b hfx).symm
  | none =>
      rcases hmem with rfl | ⟨x, hx, rfl⟩
      · rfl
      · exact (List.findSome?_eq_none_iff.1 hfind x hx).symm

section

variable {front extension : String}

/-- Every known suffix has the owner of the last extension. -/
theorem owner?_of_mem_suffixes (hext : '.' ∉ extension.toList) {suffix : List Char} {l : Language}
    (hmem : suffix ∈ suffixes (front ++ "." ++ extension).toList)
    (h : owner? (String.ofList suffix) = some l) : owner? extension = some l := by
  obtain ⟨before, hname⟩ := mem_suffixes_iff.1 hmem
  have hsplit : front.toList ++ '.' :: extension.toList = before ++ '.' :: suffix := by
    rw [← hname]
    simp
  rcases List.append_eq_append_iff.1 hsplit with ⟨more, -, hrest⟩ | ⟨more, -, hrest⟩
  · cases more with
    | nil =>
        obtain rfl : extension.toList = suffix := (List.cons.inj hrest).2
        simpa using h
    | cons c more =>
        -- The dot would stand in the last extension.
        have hback : extension.toList = more ++ '.' :: suffix := (List.cons.inj hrest).2
        exact absurd (by simp [hback]) hext
  · cases more with
    | nil =>
        obtain rfl : suffix = extension.toList := (List.cons.inj hrest).2
        simpa using h
    | cons c more =>
        have hback : suffix = more ++ '.' :: extension.toList := (List.cons.inj hrest).2
        have hwhole : String.ofList suffix = String.ofList more ++ "." ++ extension := by
          rw [← String.toList_inj]
          simp [hback]
        rw [hwhole] at h
        exact owner?_behind_dot h

theorem findSome?_suffixes (hext : '.' ∉ extension.toList) {order : List (List Char)}
    (hsubset : ∀ suffix ∈ order, suffix ∈ suffixes (front ++ "." ++ extension).toList)
    (hlast : extension = "" ∨ extension.toList ∈ order) :
    order.findSome? (owner? <| String.ofList ·) = owner? extension := by
  refine findSome?_of_agree ?_ ?_
  · intro suffix hsuffix l h
    exact owner?_of_mem_suffixes hext (hsubset suffix hsuffix) h
  · rcases hlast with rfl | hmem
    · exact Or.inl (by decide +kernel)
    · exact Or.inr ⟨extension.toList, hmem, by rw [String.ofList_toList]⟩

theorem detect_of_extension (hext : '.' ∉ extension.toList) :
    detect (front ++ "." ++ extension) = (owner? extension).getD .unknown := by
  unfold detect
  rw [findSome?_suffixes hext]
  · exact fun suffix h => (List.mem_filter.1 h).1
  · by_cases hempty : extension = ""
    · exact Or.inl hempty
    · refine Or.inr (List.mem_filter.2 ⟨mem_suffixes_iff.2 ⟨front.toList, by simp⟩, ?_⟩)
      simpa using hempty

theorem suffixes_of_no_dot {name : String} (h : '.' ∉ name.toList) : suffixes name.toList = [] := by
  rw [List.eq_nil_iff_forall_not_mem]
  intro suffix hsuffix
  obtain ⟨front, hname⟩ := mem_suffixes_iff.1 hsuffix
  exact h (by simp [hname])

theorem detect_of_no_dot {name : String} (h : '.' ∉ name.toList) : detect name = .unknown := by
  unfold detect
  rw [suffixes_of_no_dot h]
  rfl

end

/-! ## The first claim -/

/-- The languages with the extensions that they claim, in registration order. -/
def claims : List (Language × List String) :=
  rules.map (fun r => (r.language, r.extensions)) ++ outlineFree

/-- A language is the first one in registration order that claims an extension. -/
def IsFirstClaim (extension : String) (l : Language) : Prop :=
  ∃ before extensions after, claims = before ++ (l, extensions) :: after ∧ extension ∈ extensions ∧
    ∀ claim ∈ before, extension ∉ claim.2

/-- The first of all claims is a claim of the first language that claims the extension. -/
theorem find?_flatMap_claims (extension : String) (cs : List (Language × List String)) :
    ((cs.flatMap fun c => c.2.map (·, c.1)).find? (·.1 == extension)).map (·.2) =
      (cs.find? (·.2.contains extension)).map (·.1) := by
  induction cs with
  | nil => rfl
  | cons c cs ih =>
      rw [List.flatMap_cons, List.find?_append, List.find?_map, List.find?_cons]
      by_cases hmem : extension ∈ c.2
      · obtain ⟨found, hfound⟩ : ∃ found, c.2.find? (· == extension) = some found := by
          rw [← Option.isSome_iff_exists, List.find?_isSome]
          exact ⟨extension, hmem, beq_self_eq_true _⟩
        simp [hfound, hmem]
      · have hnone : c.2.find? (· == extension) = none := by
          rw [List.find?_eq_none]
          rintro other hother heq
          exact hmem (by simpa using (beq_iff_eq.1 heq) ▸ hother)
        simpa [Function.comp_def, hnone, hmem] using ih

theorem owner?_eq_find?_claims (extension : String) :
    owner? extension = (claims.find? (·.2.contains (asciiLowered extension))).map (·.1) :=
  find?_flatMap_claims (asciiLowered extension) claims

theorem owner?_eq_some_iff {extension : String} {l : Language} :
    owner? extension = some l ↔ IsFirstClaim (asciiLowered extension) l := by
  rw [owner?_eq_find?_claims, Option.map_eq_some_iff]
  constructor
  · rintro ⟨⟨language, extensions⟩, hfind, rfl⟩
    obtain ⟨hclaims, before, after, hsplit, hbefore⟩ := List.find?_eq_some_iff_append.1 hfind
    exact ⟨before, extensions, after, hsplit, by simpa using hclaims, by simpa using hbefore⟩
  · rintro ⟨before, extensions, after, hsplit, hclaims, hbefore⟩
    refine ⟨(l, extensions), List.find?_eq_some_iff_append.2 ?_, rfl⟩
    exact ⟨by simpa using hclaims, before, after, hsplit, by simpa using hbefore⟩

theorem owner?_eq_none_iff {extension : String} :
    owner? extension = none ↔ ∀ claim ∈ claims, asciiLowered extension ∉ claim.2 := by
  rw [owner?_eq_find?_claims, Option.map_eq_none_iff, List.find?_eq_none]
  simp

/-- The language of a file name: the first one that claims what follows the last dot, in small
letters. -/
inductive Decides : String → Language → Prop
  | claimed {front extension : String} {l : Language} : '.' ∉ extension.toList →
      IsFirstClaim (asciiLowered extension) l → Decides (front ++ "." ++ extension) l
  | unclaimed {front extension : String} : '.' ∉ extension.toList →
      (∀ claim ∈ claims, asciiLowered extension ∉ claim.2) →
      Decides (front ++ "." ++ extension) .unknown
  | nothingBehindDot {front : String} : Decides (front ++ ".") .unknown
  | noDot {name : String} : '.' ∉ name.toList → Decides name .unknown

theorem detect_eq_iff_decides {name : String} {l : Language} :
    detect name = l ↔ Decides name l := by
  constructor
  · rintro rfl
    by_cases hdot : '.' ∈ name.toList
    · obtain ⟨front, extension, rfl, hext⟩ := Text.exists_last_dot hdot
      rw [detect_of_extension hext]
      cases howner : owner? extension with
      | some l => exact .claimed hext (owner?_eq_some_iff.1 howner)
      | none => exact .unclaimed hext (owner?_eq_none_iff.1 howner)
    · rw [detect_of_no_dot hdot]
      exact .noDot hdot
  · intro h
    cases h with
    | claimed hext hclaim =>
        rw [detect_of_extension hext, owner?_eq_some_iff.2 hclaim]
        rfl
    | unclaimed hext hnone =>
        rw [detect_of_extension hext, owner?_eq_none_iff.2 hnone]
        rfl
    | @nothingBehindDot front =>
        have hempty : '.' ∉ "".toList := by decide
        rw [← String.append_empty (s := front ++ "."), detect_of_extension hempty]
        decide +kernel
    | noDot hdot => exact detect_of_no_dot hdot

theorem detect_asciiLowered (name : String) : detect (asciiLowered name) = detect name := by
  by_cases hdot : '.' ∈ name.toList
  · obtain ⟨front, extension, rfl, hext⟩ := Text.exists_last_dot hdot
    have hext' : '.' ∉ (asciiLowered extension).toList := mt dot_mem_asciiLowered_iff.1 hext
    rw [asciiLowered_dot, detect_of_extension hext', detect_of_extension hext, owner?_asciiLowered]
  · have hdot' : '.' ∉ (asciiLowered name).toList := mt dot_mem_asciiLowered_iff.1 hdot
    rw [detect_of_no_dot hdot', detect_of_no_dot hdot]

theorem detectIn_eq_detect {entries : List (String × Language)} (h : entries.Perm table)
    (name : String) : detectIn entries name = detect name := by
  unfold detectIn detect
  simp only [lookupIn_eq_owner? h]

/-- In whatever order the suffixes of a name are tried, the answer is the same. -/
theorem detect_of_perm {name : String} {order : List (List Char)}
    (h : order.Perm (suffixes name.toList)) :
    (order.findSome? (owner? <| String.ofList ·)).getD .unknown = detect name := by
  by_cases hdot : '.' ∈ name.toList
  · obtain ⟨front, extension, rfl, hext⟩ := Text.exists_last_dot hdot
    have hlast : extension.toList ∈ order :=
      h.mem_iff.2 (mem_suffixes_iff.2 ⟨front.toList, by simp⟩)
    rw [detect_of_extension hext, findSome?_suffixes hext (fun s hs => h.subset hs) (Or.inr hlast)]
  · rw [suffixes_of_no_dot hdot, List.perm_nil] at h
    rw [h, detect_of_no_dot hdot]
    rfl

/-- Every known suffix gives the answer, be it the longest one or the shortest. -/
theorem detect_of_known {name front suffix : String} {l : Language}
    (hname : name = front ++ "." ++ suffix) (h : owner? suffix = some l) : detect name = l := by
  have hdot : '.' ∈ name.toList := by simp [hname]
  obtain ⟨before, extension, heq, hext⟩ := Text.exists_last_dot hdot
  have hmem : suffix.toList ∈ suffixes (before ++ "." ++ extension).toList := by
    rw [mem_suffixes_iff, ← heq, hname]
    exact ⟨front.toList, by simp⟩
  rw [← String.ofList_toList (s := suffix)] at h
  rw [heq, detect_of_extension hext, owner?_of_mem_suffixes hext hmem h]
  rfl

/-- **The last extension decides.**  In whatever order the entries of the table are listed, a file
name and the same name in small letters have the same language, which is the first one in
registration order that claims, in small letters, what follows the last dot.  The suffixes of the
name can be tried in any order, the longest first or not, and each of them that is known gives the
answer. -/
theorem detect_decides (name : String) :
    (∀ entries : List (String × Language), entries.Perm table →
      detectIn entries name = detect name ∧
      detectIn entries (asciiLowered name) = detectIn entries name) ∧
    detect (asciiLowered name) = detect name ∧
    (∀ l, detect name = l ↔ Decides name l) ∧
    (∀ order : List (List Char), order.Perm (suffixes name.toList) →
      (order.findSome? (owner? <| String.ofList ·)).getD .unknown = detect name) ∧
    (∀ front suffix l, name = front ++ "." ++ suffix → owner? suffix = some l →
      detect name = l) := by
  refine ⟨?_, detect_asciiLowered name, fun l => detect_eq_iff_decides, ?_, ?_⟩
  · intro entries hentries
    refine ⟨detectIn_eq_detect hentries name, ?_⟩
    rw [detectIn_eq_detect hentries, detectIn_eq_detect hentries, detect_asciiLowered]
  · exact fun order horder => detect_of_perm horder
  · exact fun front suffix l hname h => detect_of_known hname h

/-- A header in capitals, in a table that is listed from its end, and a name with a known extension
of two parts. -/
theorem detect_decides_declarations :
    detectIn table.reverse "Old.Headers.H" = .cpp ∧ detect "old.headers.h" = .cpp ∧
    Decides "Old.Headers.H" .cpp ∧
    (["ts".toList, "d.ts".toList].findSome? (owner? <| String.ofList ·)).getD .unknown =
      detect "types.d.ts" ∧
    detect "types.d.ts" = .typeScript := by
  obtain ⟨horder, hlowered, hdecides, -, -⟩ := detect_decides "Old.Headers.H"
  obtain ⟨-, -, -, htried, hknown⟩ := detect_decides "types.d.ts"
  have hdetect : detect "Old.Headers.H" = .cpp := by decide +kernel
  refine ⟨?_, ?_, (hdecides .cpp).1 hdetect, ?_, ?_⟩
  · rw [(horder table.reverse table.reverse_perm).1, hdetect]
  · have hsmall : asciiLowered "Old.Headers.H" = "old.headers.h" := by decide
    rw [← hsmall, hlowered, hdetect]
  · refine htried _ ?_
    have hsuffixes : suffixes "types.d.ts".toList = ["d.ts".toList, "ts".toList] := by decide
    rw [hsuffixes]
    exact List.Perm.swap _ _ _
  · exact hknown "types" "d.ts" .typeScript (by decide) (by decide +kernel)

end Registry
end SourceAtlas
