import Mathlib.Data.List.Forall2
import SourceAtlas.Proofs.Text.Blank
import SourceAtlas.Summary.Chat

/-!
# Replies

What the reply of an endpoint has to look like, said by rules beside the reader, and the text that
it offers.

* `Sole`, `HasField` — records of which one field counts: an object that has it at most once, or a
  list of at most one value.
* `PartText`, `IsContent`, `IsChoice`, `IsReply` — the parts of a reply from the inside to the
  outside; for each of them the reader finds exactly what the rule allows
  (`partText?_eq_some_iff`, …, `choices?_eq_some_iff`).
* `Content.wording` — the text of a content; no blank stands at its ends (`unpadded_wording`).
* `Offers` — the text that the body of a reply offers; `readReply_eq_ok_iff`.
-/

namespace SourceAtlas

/-- A list is read if each of its members is. -/
theorem mapM_eq_some_iff {α β : Type} {f : α → Option β} {xs : List α} {ys : List β} :
    xs.mapM f = some ys ↔ List.Forall₂ (fun x y => f x = some y) xs ys := by
  induction xs generalizing ys with
  | nil => simp [eq_comm]
  | cons x xs ih =>
      rw [List.mapM_cons, List.forall₂_cons_left_iff]
      simp only [bind, Option.bind_eq_some_iff, pure, Option.some.injEq, ih]
      constructor
      · rintro ⟨y, hy, ys', hys, rfl⟩
        exact ⟨y, ys', hy, hys, rfl⟩
      · rintro ⟨y, ys', hy, hys, rfl⟩
        exact ⟨y, hy, ys', hys, rfl⟩

namespace Chat

open Json (Source)

variable {α : Type} {name : String}

/-! ## Records with one field -/

/-- The value of a name that occurs at most once. -/
inductive Sole (name : String) : List (String × α) → Option α → Prop where
  | absent {entries : List (String × α)} (others : ∀ e ∈ entries, e.1 ≠ name) :
      Sole name entries none
  | once {before after : List (String × α)} {v : α} (before_ne : ∀ e ∈ before, e.1 ≠ name)
      (after_ne : ∀ e ∈ after, e.1 ≠ name) : Sole name (before ++ (name, v) :: after) (some v)

/-- How such a value is looked up. -/
def sole? (name : String) (entries : List (String × α)) : Option (Option α) :=
  match entries.filter (·.1 == name) with
  | [] => some none
  | [(_, v)] => some (some v)
  | _ => none

/-- A name is looked up with success if it occurs at most once. -/
theorem sole?_eq_some_iff {entries : List (String × α)} {v : Option α} :
    sole? name entries = some v ↔ Sole name entries v := by
  constructor
  · intro h
    unfold sole? at h
    split at h
    · rename_i hfilter
      cases h
      exact .absent fun e he => by simpa using List.filter_eq_nil_iff.1 hfilter e he
    · rename_i key v' hfilter
      cases h
      obtain ⟨before, after, rfl, hbefore, hkey, hafter⟩ := List.filter_eq_cons_iff.1 hfilter
      obtain rfl : key = name := by simpa using hkey
      refine .once (fun e he => by simpa using hbefore e he) fun e he => ?_
      simpa using List.filter_eq_nil_iff.1 hafter e he
    · cases h
  · intro h
    unfold sole?
    cases h with
    | absent others =>
        have hfilter : entries.filter (·.1 == name) = [] := by simpa using others
        rw [hfilter]
    | @once before after v before_ne after_ne =>
        have hfilter : (before ++ (name, v) :: after).filter (·.1 == name) = [(name, v)] := by
          rw [List.filter_append, List.filter_cons_of_pos (by simp),
            List.filter_eq_nil_iff.2 (by simpa using before_ne),
            List.filter_eq_nil_iff.2 (by simpa using after_ne), List.nil_append]
        rw [hfilter]

/-- The fields of an object with their keys spelled out. -/
def Decoded (fields : List (List Json.Piece × Source)) (entries : List (String × Source)) : Prop :=
  List.Forall₂ (fun field entry => Json.string? field.1 = some entry.1 ∧ field.2 = entry.2)
    fields entries

/-- What stands in the only field of a record. -/
inductive HasField (name : String) : Source → Option Source → Prop where
  | obj {fields : List (List Json.Piece × Source)} {entries : List (String × Source)}
      {v : Option Source} (decoded : Decoded fields entries) (sole : Sole name entries v) :
      HasField name (.obj fields) v
  | empty : HasField name (.arr []) none
  | item (v : Source) : HasField name (.arr [v]) (some v)

theorem mapM_decode_eq_some_iff {fields : List (List Json.Piece × Source)}
    {entries : List (String × Source)} :
    (fields.mapM fun (field : List Json.Piece × Source) =>
      (Json.string? field.1).map (·, field.2)) = some entries ↔ Decoded fields entries := by
  have hfield : ∀ (field : List Json.Piece × Source) (entry : String × Source),
      (Json.string? field.1).map (·, field.2) = some entry ↔
        Json.string? field.1 = some entry.1 ∧ field.2 = entry.2 := by
    rintro ⟨key, v⟩ ⟨name, v'⟩
    simp [Option.map_eq_some_iff]
  unfold Decoded
  simp only [mapM_eq_some_iff, hfield]

theorem soleField?_obj (fields : List (List Json.Piece × Source)) :
    soleField? name (.obj fields) = (fields.mapM fun (field : List Json.Piece × Source) =>
      (Json.string? field.1).map (·, field.2)).bind (sole? name) := by
  refine Option.bind_congr fun entries _ => ?_
  unfold sole?
  rcases hfound : entries.filter (·.1 == name) with _ | ⟨⟨key, v⟩, _ | ⟨second, more⟩⟩ <;>
    simp only [hfound]

/-- The reader of a record with one field takes what the rules allow, objects and lists. -/
theorem soleField?_eq_some_iff {s : Source} {v : Option Source} :
    soleField? name s = some v ↔ HasField name s v := by
  constructor
  · intro h
    cases s with
    | obj fields =>
        rw [soleField?_obj] at h
        obtain ⟨entries, hentries, hsole⟩ := Option.bind_eq_some_iff.1 h
        exact .obj (mapM_decode_eq_some_iff.1 hentries) (sole?_eq_some_iff.1 hsole)
    | arr items =>
        rcases items with _ | ⟨item, _ | ⟨second, more⟩⟩ <;> cases h
        · exact .empty
        · exact .item item
    | _ => cases h
  · intro h
    cases h with
    | obj decoded sole =>
        rw [soleField?_obj, Option.bind_eq_some_iff]
        exact ⟨_, mapM_decode_eq_some_iff.2 decoded, sole?_eq_some_iff.2 sole⟩
    | empty => rfl
    | item v => rfl

/-! ## The parts of a reply -/

/-- The text that a part may have: none at all, null or a string. -/
inductive IsText : Option Json → Option String → Prop where
  | missing : IsText none none
  | null : IsText (some .null) none
  | text (s : String) : IsText (some (.str s)) (some s)

/-- A part of a content, with its text. -/
inductive PartText : Json → Option String → Prop where
  | obj {fields : List (String × Json)} {v : Option Json} {t : Option String}
      (sole : Sole "text" fields v) (isText : IsText v t) : PartText (.obj fields) t
  | empty : PartText (.arr []) none
  | item {v : Json} {t : Option String} (isText : IsText (some v) t) : PartText (.arr [v]) t

/-- The text that a part may have, as it is read. -/
def readText? : Option Json → Option (Option String)
  | none => some none
  | some .null => some none
  | some (.str s) => some (some s)
  | _ => none

theorem readText?_eq_some_iff {v : Option Json} {t : Option String} :
    readText? v = some t ↔ IsText v t := by
  constructor
  · intro h
    unfold readText? at h
    split at h <;> cases h <;> constructor
  · rintro (_ | _ | _) <;> rfl

theorem partText?_item (v : Json) : partText? (.arr [v]) = readText? (some v) := by
  cases v <;> rfl

theorem partText?_obj (fields : List (String × Json)) :
    partText? (.obj fields) = (sole? "text" fields).bind readText? := by
  unfold partText? sole?
  rcases hfound : fields.filter (·.1 == "text") with _ | ⟨⟨key, v⟩, _ | ⟨second, more⟩⟩
  · simp only [hfound, Option.bind_some]
    rfl
  · simp only [hfound, Option.bind_some]
    cases v <;> rfl
  · simp only [hfound, Option.bind_none]

/-- A part is read with the text that it has by the rules. -/
theorem partText?_eq_some_iff {j : Json} {t : Option String} :
    partText? j = some t ↔ PartText j t := by
  constructor
  · intro h
    cases j with
    | obj fields =>
        rw [partText?_obj] at h
        obtain ⟨v, hv, ht⟩ := Option.bind_eq_some_iff.1 h
        exact .obj (sole?_eq_some_iff.1 hv) (readText?_eq_some_iff.1 ht)
    | arr items =>
        rcases items with _ | ⟨item, _ | ⟨second, more⟩⟩
        · cases h
          exact .empty
        · rw [partText?_item] at h
          exact .item (readText?_eq_some_iff.1 h)
        · cases h
    | _ => cases h
  · intro h
    cases h with
    | obj sole isText =>
        rw [partText?_obj, Option.bind_eq_some_iff]
        exact ⟨_, sole?_eq_some_iff.2 sole, readText?_eq_some_iff.2 isText⟩
    | empty => rfl
    | item isText =>
        rw [partText?_item]
        exact readText?_eq_some_iff.2 isText

/-- A content is a text or a list of parts. -/
inductive IsContent : Json → Content → Prop where
  | text (s : String) : IsContent (.str s) (.text s)
  | parts {items : List Json} {ps : List (Option String)} (each : List.Forall₂ PartText items ps) :
      IsContent (.arr items) (.parts ps)

/-- So is a content, … -/
theorem content?_eq_some_iff {j : Json} {c : Content} : content? j = some c ↔ IsContent j c := by
  constructor
  · intro h
    unfold content? at h
    split at h
    · cases h
      exact .text _
    · obtain ⟨ps, hps, rfl⟩ := Option.map_eq_some_iff.1 h
      simp only [mapM_eq_some_iff, partText?_eq_some_iff] at hps
      exact .parts hps
    · cases h
  · intro h
    cases h with
    | text s => rfl
    | parts each =>
        refine Option.map_eq_some_iff.2 ⟨_, ?_, rfl⟩
        simp only [mapM_eq_some_iff, partText?_eq_some_iff]
        exact each

/-- A choice is a record with a message, and this is a record with a content.  Only the content is
evaluated, and it may nest as deep as the four containers around it leave room. -/
def IsChoice (s : Source) (c : Content) : Prop :=
  ∃ message content value, HasField "message" s (some message) ∧
    HasField "content" message (some content) ∧
    content.eval? (Json.depthLimit - 4) = some value ∧ IsContent value c

/-- … a choice … -/
theorem choice?_eq_some_iff {s : Source} {c : Content} : choice? s = some c ↔ IsChoice s c := by
  unfold choice? IsChoice
  simp only [bind, Option.bind_eq_some_iff, soleField?_eq_some_iff, content?_eq_some_iff]
  constructor
  · rintro ⟨_, hmessage, message, rfl, _, hcontent, content, rfl, value, hvalue, hc⟩
    exact ⟨message, content, value, hmessage, hcontent, hvalue, hc⟩
  · rintro ⟨message, content, value, hmessage, hcontent, hvalue, hc⟩
    exact ⟨_, hmessage, message, rfl, _, hcontent, content, rfl, value, hvalue, hc⟩

/-- A reply is a record with a list of choices, or without one. -/
inductive IsReply (s : Source) : List Content → Prop where
  | without (field : HasField "choices" s none) : IsReply s []
  | choices {items : List Source} {cs : List Content}
      (field : HasField "choices" s (some (.arr items))) (each : List.Forall₂ IsChoice items cs) :
      IsReply s cs

/-- … and the whole reply: **the reader accepts the replies of this form and no others**. -/
theorem choices?_eq_some_iff {s : Source} {cs : List Content} :
    choices? s = some cs ↔ IsReply s cs := by
  unfold choices?
  simp only [bind, Option.bind_eq_some_iff, soleField?_eq_some_iff]
  constructor
  · rintro ⟨field, hfield, hcs⟩
    split at hcs
    · cases hcs
      exact .without hfield
    · simp only [mapM_eq_some_iff, choice?_eq_some_iff] at hcs
      exact .choices hfield hcs
    · cases hcs
  · intro h
    cases h with
    | without field => exact ⟨none, field, rfl⟩
    | choices field each =>
        refine ⟨_, field, ?_⟩
        simp only [mapM_eq_some_iff, choice?_eq_some_iff]
        exact each

/-! ## The text of a reply -/

/-- The text of a content: a text trimmed, or the trimmed texts of its parts that are not blank,
each on a line of its own. -/
def Content.wording : Content → String
  | .text s => Text.trimmed s
  | .parts ps => Text.joinWith "\n" (((ps.filterMap id).map Text.trimmed).filter (!·.isEmpty))

theorem Content.text?_eq (c : Content) :
    c.text? = if c.wording.isEmpty then none else some c.wording := by
  cases c <;> rfl

/-- A content has a text if its wording is not empty. -/
theorem Content.text?_eq_some_iff {c : Content} {t : String} :
    c.text? = some t ↔ c.wording = t ∧ t ≠ "" := by
  rw [Content.text?_eq, Option.ite_none_left_eq_some, Option.some.injEq, String.isEmpty_iff]
  constructor
  · rintro ⟨hne, rfl⟩
    exact ⟨rfl, hne⟩
  · rintro ⟨rfl, hne⟩
    exact ⟨hne, rfl⟩

/-- The ends of the parts are trimmed, so those of the whole text are. -/
theorem unpadded_wording (c : Content) : Text.Unpadded c.wording.toList := by
  cases c with
  | text s => exact Text.unpadded_trimmed s
  | parts ps =>
      unfold Content.wording Text.joinWith
      rw [String.toList_ofList]
      apply Text.unpadded_intercalate
      intro part hpart
      obtain ⟨line, hline, rfl⟩ := List.mem_map.1 hpart
      obtain ⟨hline, hne⟩ := List.mem_filter.1 hline
      obtain ⟨s, -, rfl⟩ := List.mem_map.1 hline
      exact ⟨by simpa using hne, Text.unpadded_trimmed s⟩

/-- The text that the body of a reply offers: that of its first choice, if it is not empty. -/
def Offers (parse? : String → Option Source) (body t : String) : Prop :=
  ∃ source first others, parse? body = some source ∧
    IsReply source (first :: others) ∧ first.wording = t ∧ t ≠ ""

/-- **A body is read as the text that it offers**, whichever reader takes JSON texts apart. -/
theorem readReply_eq_ok_iff {parse? : String → Option Source} {body t : String} :
    readReply parse? body = .ok t ↔ Offers parse? body t := by
  unfold readReply
  constructor
  · intro h
    split at h
    · cases h
    · cases h
    · rename_i first others hchoices
      obtain ⟨source, hsource, hreply⟩ := Option.bind_eq_some_iff.1 hchoices
      split at h
      · rename_i text htext
        cases h
        obtain ⟨hwording, hne⟩ := Content.text?_eq_some_iff.1 htext
        exact ⟨source, first, others, hsource, choices?_eq_some_iff.1 hreply, hwording, hne⟩
      · cases h
  · rintro ⟨source, first, others, hsource, hreply, hwording, hne⟩
    have hchoices : (parse? body).bind choices? = some (first :: others) :=
      Option.bind_eq_some_iff.2 ⟨source, hsource, choices?_eq_some_iff.2 hreply⟩
    have htext : first.text? = some t := Content.text?_eq_some_iff.2 ⟨hwording, hne⟩
    simp only [hchoices, htext]

end Chat
end SourceAtlas
