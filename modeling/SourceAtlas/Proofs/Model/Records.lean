import Mathlib.Algebra.Order.Ring.Nat
import Mathlib.Data.List.Nodup
import SourceAtlas.Model.Record
import SourceAtlas.Proofs.Summary.Reply

/-!
# Records are read back

A record that is written and read again is the same record, and so is one that was read from any
value, written and read again.  What gets lost in that is only what does not belong to the record:
fields that it does not declare, and the order and repetitions of its purposes.

* `ReadsBack` — what is expected of a kind of record;
* `fields?_zip`, `fields?_filter` — the declared fields are found in a written record, and no others
  are looked at;
* `language?_tag`, `purpose?_tag`, `purposes?_tags`, `list?_map` — words, sets and lists are read
  back;
* `sourceFile_readsBack`, `target_readsBack`, `edge_readsBack`, `graph_readsBack`,
  `skipReason_readsBack` — the kinds of records, each from the parts of which it consists;
* `records_readBack` — all of them, and what becomes of purposes.
-/

namespace SourceAtlas

/-- The counts of a file fit into 64 bits. -/
def SourceFile.Fits (f : SourceFile) : Prop := f.lineCount < 2 ^ 64 ∧ f.topLevelFunctions < 2 ^ 64

/-- The size that a reason may name fits into 64 bits. -/
def SkipReason.Fits : SkipReason → Prop
  | .tooLarge octets => octets < 2 ^ 64
  | _ => True

theorem mapM_congr {α β : Type} {f g : α → Option β} {xs : List α} (h : ∀ x ∈ xs, f x = g x) :
    xs.mapM f = xs.mapM g := by
  induction xs with
  | nil => rfl
  | cons x xs ih =>
      obtain ⟨hx, hxs⟩ := List.forall_mem_cons.1 h
      rw [List.mapM_cons, List.mapM_cons, hx, ih hxs]

/-! ## Values -/

namespace Json

/-- The keys of an object, in order. -/
def keys : Json → List String
  | obj fields => fields.map (·.1)
  | _ => []

theorem nat64?_eq_some_iff {j : Json} {n : Nat} : j.nat64? = some n ↔ j = nat n ∧ n < 2 ^ 64 := by
  constructor
  · intro h
    unfold nat64? at h
    split at h
    · split at h
      · rename_i hn
        cases h
        exact ⟨rfl, hn⟩
      · cases h
    · cases h
  · rintro ⟨rfl, hn⟩
    exact if_pos hn

theorem nat64?_nat {n : Nat} (h : n < 2 ^ 64) : (nat n).nat64? = some n :=
  nat64?_eq_some_iff.2 ⟨rfl, h⟩

/-- A field is found where its key stands only once. -/
theorem field?_of_mem {fields : List (String × Json)} {key : String} {v : Json}
    (hnodup : (fields.map (·.1)).Nodup) (h : (key, v) ∈ fields) :
    (obj fields).field? key = some v := by
  have hmem : (key, v) ∈ fields.reverse := List.mem_reverse.2 h
  have hnodup' : (fields.reverse.map (·.1)).Nodup := by
    rw [List.map_reverse]
    exact List.nodup_reverse.2 hnodup
  have hfound : fields.reverse.find? (·.1 == key) = some (key, v) := by
    rw [List.find?_eq_some_iff_append]
    obtain ⟨before, after, hsplit⟩ := List.append_of_mem hmem
    refine ⟨by simp, before, after, hsplit, fun e he => ?_⟩
    rw [hsplit, List.map_append, List.nodup_append] at hnodup'
    have hne := hnodup'.2.2 e.1 (List.mem_map_of_mem he) key (by simp)
    simpa using hne
  rw [field?, hfound]
  rfl

/-- Fields with other keys do not matter for a field. -/
theorem field?_filter {keys : List String} {key : String} (h : key ∈ keys)
    (fields : List (String × Json)) :
    (obj (fields.filter (·.1 ∈ keys))).field? key = (obj fields).field? key := by
  simp only [field?]
  rw [← List.filter_reverse, List.find?_filter]
  have htest : ∀ e : String × Json,
      decide (decide (e.1 ∈ keys) = true ∧ (e.1 == key) = true) = (e.1 == key) := by
    intro e
    by_cases he : e.1 = key
    · simp [he, h]
    · simp [he]
  simp only [htest]

end Json

/-! ## Sets of purposes -/

namespace Purposes

theorem eq_of_toList_eq {ps qs : Purposes} (h : ps.toList = qs.toList) : ps = qs := by
  cases ps
  cases qs
  cases h
  rfl

theorem nodup_toList (ps : Purposes) : ps.toList.Nodup := by
  refine ps.ascending.imp ?_
  rintro p _ hlt rfl
  exact Nat.lt_irrefl _ hlt

/-- A set is the set of the purposes in its list, because no other list in order of priority has
the same purposes. -/
theorem ofList_toList (ps : Purposes) : ofList ps.toList = ps := by
  have hperm : (ofList ps.toList).toList.Perm ps.toList := by
    rw [List.perm_ext_iff_of_nodup (nodup_toList _) (nodup_toList _)]
    intro p
    rw [ofList, mem_ofTest, List.contains_iff_mem]
  apply eq_of_toList_eq
  refine hperm.eq_of_pairwise ?_ (ofList ps.toList).ascending ps.ascending
  intro p q _ _ hpq hqp
  omega

end Purposes

namespace Record

/-! ## Fields -/

/-- The declared fields of a written record are its values. -/
theorem fields?_zip {keys : List String} {values : List Json} (hnodup : keys.Nodup)
    (hlength : values.length = keys.length) :
    fields? keys (.obj (keys.zip values)) = some values := by
  rw [fields?, mapM_eq_some_iff, List.forall₂_iff_zip]
  refine ⟨hlength.symm, fun {key v} h => ?_⟩
  refine Json.field?_of_mem ?_ h
  rw [List.map_fst_zip (by omega)]
  exact hnodup

/-- Fields that are not declared do not matter. -/
theorem fields?_filter (keys : List String) (fields : List (String × Json)) :
    fields? keys (.obj (fields.filter (·.1 ∈ keys))) = fields? keys (.obj fields) :=
  mapM_congr fun _ hkey => Json.field?_filter hkey fields

theorem list?_map {α : Type} {write : α → Json} {read? : Json → Option α}
    (h : ∀ a, read? (write a) = some a) (as : List α) :
    list? read? (.arr (as.map write)) = some as := by
  show (as.map write).mapM read? = some as
  rw [mapM_eq_some_iff, List.forall₂_map_left_iff, List.forall₂_same]
  exact fun a _ => h a

theorem strings?_strings (ss : List String) : (Json.strings ss).strings? = some ss :=
  @list?_map String Json.str Json.str? (fun _ => rfl) ss

/-! ## Words -/

theorem language?_tag (l : Language) : language? (.str l.tag) = some l := by cases l <;> decide

theorem purpose?_tag (p : Purpose) : purpose? (.str p.tag) = some p := by cases p <;> decide

theorem purposes?_tags (ps : Purposes) :
    purposes? (.strings (ps.toList.map (·.tag))) = some ps := by
  have hlist : list? purpose? (.arr (ps.toList.map fun p => .str p.tag)) = some ps.toList :=
    list?_map purpose?_tag ps.toList
  rw [purposes?, Json.strings, List.map_map]
  show (list? purpose? (.arr (ps.toList.map fun p => .str p.tag))).map Purposes.ofList = some ps
  rw [hlist, Option.map_some, Purposes.ofList_toList]

/-! ## Kinds of records -/

/-- What is expected of a kind of record that declares the fields `keys` and can be written if it
`fits`. -/
structure ReadsBack {α : Type} (keys : List String) (fits : α → Prop) (write : α → Json)
    (read? : Json → Option α) : Prop where
  /-- What is written is read back. -/
  read_write : ∀ a, fits a → read? (write a) = some a
  /-- What is read from any value can be written, and is read back from that. -/
  read_again : ∀ j a, read? j = some a → fits a ∧ read? (write a) = some a
  /-- Fields that are not declared are dropped when a record is read. -/
  read_declared : ∀ fields, read? (.obj (fields.filter (·.1 ∈ keys))) = read? (.obj fields)
  /-- Only declared fields are written, each once and in order. -/
  keys_write : ∀ a, (write a).keys.Sublist keys

theorem ReadsBack.of_fits {α : Type} {keys : List String} {fits : α → Prop} {write : α → Json}
    {read? : Json → Option α} (read_write : ∀ a, fits a → read? (write a) = some a)
    (fits_of_read : ∀ j a, read? j = some a → fits a)
    (read_declared : ∀ fields, read? (.obj (fields.filter (·.1 ∈ keys))) = read? (.obj fields))
    (keys_write : ∀ a, (write a).keys.Sublist keys) : ReadsBack keys fits write read? where
  read_write := read_write
  read_again j a h := ⟨fits_of_read j a h, read_write a (fits_of_read j a h)⟩
  read_declared := read_declared
  keys_write := keys_write

/-! ### Source files -/

theorem sourceFile?_ofSourceFile {f : SourceFile} (h : f.Fits) :
    sourceFile? (ofSourceFile f) = some f := by
  have hnodup : sourceFileKeys.Nodup := by decide
  have hzip : ofSourceFile f = .obj (sourceFileKeys.zip
      [.str f.path, .str f.language.tag, .nat f.lineCount, .strings f.functions,
        .nat f.topLevelFunctions, .strings f.classes, .strings f.imports,
        .strings (f.purposes.toList.map (·.tag)), .bool f.isBuildFile]) := rfl
  rw [sourceFile?, hzip, fields?_zip hnodup rfl]
  simp only [Option.bind_eq_bind, Option.bind_some, language?_tag, Json.nat64?_nat h.1,
    Json.nat64?_nat h.2, strings?_strings, purposes?_tags, Json.str?, Json.bool?, Option.pure_def]

/-- The value of a declared field, whichever way a record is written. -/
def value? (keys : List String) (key : String) (j : Json) : Option Json :=
  (fields? keys j).bind fun values => (keys.zip values).lookup key

/-- A file that has been read has the counts and purposes that stand in the record. -/
theorem sourceFile?_eq_some {j : Json} {f : SourceFile} (h : sourceFile? j = some f) :
    f.Fits ∧ ∃ v ps, value? sourceFileKeys "purposes" j = some v ∧ list? purpose? v = some ps ∧
      f.purposes = Purposes.ofList ps := by
  simp only [sourceFile?, Option.bind_eq_bind, Option.bind_eq_some_iff] at h
  obtain ⟨values, hvalues, h⟩ := h
  split at h
  · rename_i path language lineCount functions topLevel classes imports purposes isBuildFile
    simp only [Option.bind_eq_some_iff, Option.pure_def, Option.some.injEq] at h
    obtain ⟨_, -, _, -, lines, hlines, _, -, top, htop, _, -, _, -, set, hset, _, -, rfl⟩ := h
    obtain ⟨ps, hps, rfl⟩ := Option.map_eq_some_iff.1 hset
    have hfits := And.intro (Json.nat64?_eq_some_iff.1 hlines).2 (Json.nat64?_eq_some_iff.1 htop).2
    refine ⟨hfits, purposes, ps, ?_, hps, rfl⟩
    rw [value?, hvalues]
    rfl
  · cases h

theorem sourceFile_readsBack :
    ReadsBack sourceFileKeys SourceFile.Fits ofSourceFile sourceFile? := by
  refine .of_fits (fun f h => sourceFile?_ofSourceFile h) ?_ ?_ ?_
  · exact fun j f h => (sourceFile?_eq_some h).1
  · intro fields
    rw [sourceFile?, sourceFile?, fields?_filter]
  · exact fun f => List.Sublist.refl _

/-! ### Graphs -/

/-- Of a tagged value only the kind and the content matter. -/
theorem tagged?_filter (contentKey : String) (fields : List (String × Json)) :
    tagged? contentKey (.obj (fields.filter (·.1 ∈ ["kind", contentKey]))) =
      tagged? contentKey (.obj fields) := by
  simp only [tagged?]
  rw [Json.field?_filter (by simp), Json.field?_filter (by simp)]

theorem target_readsBack : ReadsBack ["kind", "path"] (fun _ => True) ofTarget target? := by
  refine .of_fits ?_ (fun _ _ _ => trivial) ?_ ?_
  · rintro (path | _) - <;> rfl
  · intro fields
    rw [target?, target?, tagged?_filter]
  · rintro (path | _)
    · exact List.Sublist.refl _
    · exact List.sublist_append_left ["kind"] ["path"]

theorem edge_readsBack : ReadsBack ["from", "to", "import"] (fun _ => True) ofEdge edge? := by
  refine .of_fits ?_ (fun _ _ _ => trivial) ?_ ?_
  · intro e _
    have hzip : ofEdge e = .obj (["from", "to", "import"].zip
      [.str e.source, ofTarget e.target, .str e.label]) := rfl
    rw [edge?, hzip, fields?_zip (by decide) rfl]
    simp only [Option.bind_eq_bind, Option.bind_some, Json.str?,
      target_readsBack.read_write e.target trivial, Option.pure_def]
  · intro fields
    rw [edge?, edge?, fields?_filter]
  · exact fun e => List.Sublist.refl _

theorem graph_readsBack : ReadsBack ["nodes", "edges"] (fun _ => True) ofGraph graph? := by
  refine .of_fits ?_ (fun _ _ _ => trivial) ?_ ?_
  · intro g _
    have hzip : ofGraph g = .obj (["nodes", "edges"].zip
      [.strings g.nodes, .arr (g.edges.map ofEdge)]) := rfl
    have hedges : list? edge? (.arr (g.edges.map ofEdge)) = some g.edges :=
      list?_map (fun e => edge_readsBack.read_write e trivial) g.edges
    rw [graph?, hzip, fields?_zip (by decide) rfl]
    simp only [Option.bind_eq_bind, Option.bind_some, strings?_strings, hedges, Option.pure_def]
  · intro fields
    rw [graph?, graph?, fields?_filter]
  · exact fun g => List.Sublist.refl _

/-! ### Skip reasons -/

theorem fits_of_skipReason? {j : Json} {r : SkipReason} (h : skipReason? j = some r) : r.Fits := by
  simp only [skipReason?, Option.bind_eq_bind, Option.bind_eq_some_iff] at h
  obtain ⟨tagged, -, h⟩ := h
  split at h
  · obtain ⟨detail, -, h⟩ := Option.bind_eq_some_iff.1 h
    cases h
    trivial
  · obtain ⟨detail, -, h⟩ := Option.bind_eq_some_iff.1 h
    cases h
    trivial
  · obtain ⟨octets, hoctets, h⟩ := Option.bind_eq_some_iff.1 h
    cases h
    exact (Json.nat64?_eq_some_iff.1 hoctets).2
  · cases h

theorem skipReason_readsBack :
    ReadsBack ["kind", "detail"] SkipReason.Fits ofSkipReason skipReason? := by
  refine .of_fits ?_ (fun _ _ => fits_of_skipReason?) ?_ ?_
  · rintro (detail | detail | octets) h
    · rfl
    · rfl
    · show ((Json.nat octets).nat64?).bind _ = _
      rw [Json.nat64?_nat h]
      rfl
  · intro fields
    rw [skipReason?, skipReason?, tagged?_filter]
  · rintro (detail | detail | octets) <;> exact List.Sublist.refl _

/-! ## All records -/

/-- **Records are read back.**  Whatever fits is read back as it was written; whatever has been
read, from any value, is the same after it has been written and read once more.  Undeclared fields
are neither needed nor kept, at the top and in the edges of a graph and their targets.  The purposes
of a file come back in order of priority and without repetitions, and they are those that the value
names. -/
theorem records_readBack :
    ReadsBack sourceFileKeys SourceFile.Fits ofSourceFile sourceFile? ∧
    ReadsBack ["nodes", "edges"] (fun _ => True) ofGraph graph? ∧
    ReadsBack ["from", "to", "import"] (fun _ => True) ofEdge edge? ∧
    ReadsBack ["kind", "path"] (fun _ => True) ofTarget target? ∧
    ReadsBack ["kind", "detail"] SkipReason.Fits ofSkipReason skipReason? ∧
    (∀ j f, sourceFile? j = some f → ∃ v ps, value? sourceFileKeys "purposes" j = some v ∧
      list? purpose? v = some ps ∧ (ofSourceFile f).field? "purposes" =
        some (.strings ((Purpose.all.filter ps.contains).map (·.tag)))) := by
  refine ⟨sourceFile_readsBack, graph_readsBack, edge_readsBack, target_readsBack,
    skipReason_readsBack, fun j f h => ?_⟩
  obtain ⟨-, v, ps, hv, hps, hpurposes⟩ := sourceFile?_eq_some h
  refine ⟨v, ps, hv, hps, ?_⟩
  have hfield : (ofSourceFile f).field? "purposes" =
      some (.strings (f.purposes.toList.map (·.tag))) := rfl
  rw [hfield, hpurposes]
  rfl

/-- A record with an undeclared field, a language in the longer spelling, and purposes in
disorder. -/
def looseRecord : Json :=
  .obj
    [("note", .null), ("path", .str "api/test_login.py"), ("language", .obj [("python", .null)]),
     ("line_count", .nat 12), ("functions", .strings ["login"]), ("top_level_functions", .nat 1),
     ("classes", .arr []), ("imports", .strings ["flask"]),
     ("purposes", .strings ["test", "service-endpoint", "test"]),
     ("is_build_artifact", .bool false)]

/-- The file that it describes. -/
def looseFile : SourceFile :=
  ⟨"api/test_login.py", .python, 12, ["login"], 1, [], ["flask"],
    Purposes.ofList [.serviceEndpoint, .test], false⟩

theorem records_readBack_loose :
    sourceFile? looseRecord = some looseFile ∧
    sourceFile? (ofSourceFile looseFile) = some looseFile ∧
    (ofSourceFile looseFile).field? "purposes" = some (.strings ["service-endpoint", "test"]) ∧
    skipReason? (ofSkipReason (.tooLarge (2 ^ 64 - 1))) = some (.tooLarge (2 ^ 64 - 1)) := by
  obtain ⟨hfiles, -, -, -, hskips, hpurposes⟩ := records_readBack
  have hread : sourceFile? looseRecord = some looseFile := by decide +kernel
  refine ⟨hread, (hfiles.read_again _ _ hread).2, ?_, ?_⟩
  · obtain ⟨v, ps, hv, hps, hwritten⟩ := hpurposes _ _ hread
    cases hv
    cases hps
    exact hwritten
  · exact hskips.read_write (.tooLarge (2 ^ 64 - 1)) (by show 2 ^ 64 - 1 < 2 ^ 64; decide)

end Record
end SourceAtlas
