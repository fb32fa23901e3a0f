import SourceAtlas.Files.Name
import SourceAtlas.Proofs.Path.Segments
import SourceAtlas.Proofs.Text.Utf8

/-!
# File names and their texts

What is shown for a name is a name again (`isName_text`), and a name that is a text is shown as
itself (`text_ofString`).  So among the paths whose names are texts, each is known by a key of its
own (`key_inj`).
-/

namespace SourceAtlas
namespace FileName

/-- A name that an entry of a directory may have: not empty and without a slash. -/
def IsName (name : FileName) : Prop := name.octets ≠ [] ∧ 0x2F ∉ name.octets

instance (name : FileName) : Decidable name.IsName :=
  inferInstanceAs (Decidable (name.octets ≠ [] ∧ 0x2F ∉ name.octets))

/-- A name that is a text. -/
def IsText (name : FileName) : Prop := ofString name.text = name

instance (name : FileName) : Decidable name.IsText :=
  inferInstanceAs (Decidable (ofString name.text = name))

@[simp] theorem text_ofString (s : String) : (ofString s).text = s := Text.decodeLossy_encode s

/-- Such a name is what some text spells. -/
theorem isText_iff {name : FileName} : name.IsText ↔ ∃ s, name = ofString s := by
  constructor
  · exact fun h => ⟨name.text, h.symm⟩
  · rintro ⟨s, rfl⟩
    rw [IsText, text_ofString]

theorem isName_text {name : FileName} (h : name.IsName) : Path.IsName name.text := by
  refine ⟨Text.decodeLossy_ne_empty h.1, ?_⟩
  rw [text, Text.decodeLossy, String.toList_ofList]
  exact Text.slash_not_mem_lossyChars h.2

theorem isName_texts {path : List FileName} (h : ∀ name ∈ path, name.IsName) :
    ∀ s ∈ path.map text, Path.IsName s := by
  rw [List.forall_mem_map]
  exact fun name hname => isName_text (h name hname)

/-- The texts of the names on the way can be read off the key. -/
theorem steps_key {path : List FileName} (h : ∀ name ∈ path, name.IsName) :
    Path.steps (key path) = path.map text :=
  Path.steps_ofSegments (isName_texts h)

theorem map_ofString_steps_key {path : List FileName} (h : ∀ name ∈ path, name.IsName)
    (htext : ∀ name ∈ path, name.IsText) : (Path.steps (key path)).map ofString = path := by
  rw [steps_key h, List.map_map]
  exact (List.map_congr_left htext).trans (List.map_id path)

/-- **Paths whose names are texts are told apart by their keys.** -/
theorem key_inj {path path' : List FileName} (h : ∀ name ∈ path, name.IsName ∧ name.IsText)
    (h' : ∀ name ∈ path', name.IsName ∧ name.IsText) (hkey : key path = key path') :
    path = path' := by
  rw [← map_ofString_steps_key (fun name hname => (h name hname).1) fun name hname =>
    (h name hname).2, hkey]
  exact map_ofString_steps_key (fun name hname => (h' name hname).1) fun name hname =>
    (h' name hname).2

end FileName
end SourceAtlas
