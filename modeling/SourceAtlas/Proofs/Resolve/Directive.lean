import SourceAtlas.Proofs.Extract.Concatenation
import SourceAtlas.Proofs.Text.Blank
import SourceAtlas.Proofs.Text.Cut
import SourceAtlas.Resolve.Namespace

/-!
# The directive that declares a module

The module of a Go project is declared on a line of its own, below blank lines and comments: the
word `module`, blanks, the path of the module and, if one likes, a comment.  The line is looked for
by the word and *one space*, and whatever stands behind it is taken for the path.  So a tab behind
the word hides the declaration, and a comment behind the path becomes a part of the path.

* `Directive` — a declaration, with everything above it.
* `lines_break`, `trim_dropReturn` — a text is read line by line, and how a line ends does not
  matter.
* `goModule?_remarks` — blank lines and comments are passed over.
* `goModule_directive` — what is read from a text with a declaration: the path exactly if a space
  follows the word and no comment the path, or else if the text below declares it again.
* `goModule_directive_lost` — the two ways to lose it.
-/

namespace SourceAtlas

/-! ## Lines and the blanks at their ends -/

namespace Text

variable {line : List Char}

theorem lines_break (hline : '\n' ∉ line) (rest : List Char) :
    lines (line ++ '\n' :: rest) = dropReturn line :: lines rest := by
  obtain ⟨pieces, last, hrest, -⟩ := splitOn_eq_append_last rest
  have hwhole : (line ++ '\n' :: rest).splitOn '\n' = (line :: pieces) ++ [last] := by
    rw [List.splitOn_append_cons_self, List.splitOn_eq_singleton hline, hrest]
    rfl
  rw [lines_of_splitOn hwhole, lines_of_splitOn hrest]
  rfl

/-- The carriage return of a line break is a blank like any other. -/
theorem trim_dropReturn (line : List Char) : trim (dropReturn line) = trim line := by
  unfold dropReturn
  split
  · rename_i hreturn
    obtain ⟨front, rfl⟩ := List.getLast?_eq_some_iff.1 hreturn
    rw [List.dropLast_concat]
    exact (trim_pad (List.forall_mem_nil _) (by simp [isBlank]) front).symm
  · rfl

end Text

namespace Resolve

/-- A line that is blank or holds only a comment. -/
def IsRemark (line : List Char) : Prop :=
  '\n' ∉ line ∧ ((∀ c ∈ line, Text.isBlank c = true) ∨ "//".toList <+: Text.trimStart line)

/-- The lines of a file up to the one that declares its module, and this line with the blanks behind
the word and the blanks and the comment behind the path. -/
structure Directive where
  preamble : List (List Char)
  gap : List Char
  path : List Char
  space : List Char
  comment : List Char
  preamble_remarks : ∀ line ∈ preamble, IsRemark line
  gap_ne_nil : gap ≠ []
  gap_blank : ∀ c ∈ gap, c = ' ' ∨ c = '\t'
  path_ne_nil : path ≠ []
  path_plain : ∀ c ∈ path, Text.isBlank c = false ∧ c ≠ '"'
  space_blank : ∀ c ∈ space, Text.isBlank c = true ∧ c ≠ '\n'
  comment_eq : comment = [] ∨ "//".toList <+: comment ∧ '\n' ∉ comment

namespace Directive

/-- The line with the declaration. -/
def line (d : Directive) : List Char :=
  "module".toList ++ d.gap ++ d.path ++ (d.space ++ d.comment)

/-- The whole text. -/
def text (d : Directive) : List Char := d.preamble.flatMap (· ++ ['\n']) ++ d.line

/-- What is taken for a part of the path though it stands behind it. -/
def trailer (d : Directive) : List Char :=
  (Text.trimEnd (d.space ++ d.comment)).rdropWhile (· = '"')

end Directive

/-! ## Line by line -/

variable {line rest content : List Char}

theorem goModule?_skip (hline : '\n' ∉ line)
    (h : Text.afterHead? "module ".toList (Text.trim line) = none) :
    goModule? (String.ofList (line ++ '\n' :: content)) = goModule? (String.ofList content) := by
  simp only [goModule?, String.toList_ofList]
  rw [Text.lines_break hline, List.map_cons, List.findSome?_cons, Text.trim_dropReturn, h]

theorem goModule?_found (hline : '\n' ∉ line)
    (h : Text.afterHead? "module ".toList (Text.trim line) = some rest) :
    goModule? (String.ofList (line ++ '\n' :: content)) =
      if (((Text.trim rest).dropWhile (· = '"')).rdropWhile (· = '"')).isEmpty then none
      else some (String.ofList (((Text.trim rest).dropWhile (· = '"')).rdropWhile (· = '"'))) := by
  simp only [goModule?, String.toList_ofList]
  rw [Text.lines_break hline, List.map_cons, List.findSome?_cons, Text.trim_dropReturn, h]
  rfl

theorem IsRemark.afterHead?_trim (h : IsRemark line) :
    Text.afterHead? "module ".toList (Text.trim line) = none := by
  rcases h.2 with hblank | ⟨more, hmore⟩
  · have hstart : Text.trimStart line = [] := List.dropWhile_eq_nil_iff.2 hblank
    rw [Text.trim, hstart]
    decide
  · have htrim : Text.trim line = "//".toList ++ Text.trimEnd more := by
      rw [Text.trim, ← hmore]
      exact Text.rdropWhile_append rfl (by decide) more
    rw [htrim]
    rfl

/-- Blank lines and comments are passed over. -/
theorem goModule?_remarks {remarks : List (List Char)} (h : ∀ line ∈ remarks, IsRemark line) :
    goModule? (String.ofList (remarks.flatMap (· ++ ['\n']) ++ content)) =
      goModule? (String.ofList content) := by
  induction remarks with
  | nil => rfl
  | cons line remarks ih =>
      obtain ⟨hline, hremarks⟩ := List.forall_mem_cons.1 h
      rw [List.flatMap_cons, List.append_assoc, List.append_assoc, List.singleton_append,
        goModule?_skip hline.1 hline.afterHead?_trim, ih hremarks]

/-! ## The line with the declaration -/

namespace Directive

variable (d : Directive)

theorem newline_not_mem_line : '\n' ∉ d.line := by
  have hgap : '\n' ∉ d.gap := fun h => by simpa using d.gap_blank _ h
  have hpath : '\n' ∉ d.path := fun h => by simpa [Text.isBlank] using (d.path_plain _ h).1
  have hspace : '\n' ∉ d.space := fun h => (d.space_blank _ h).2 rfl
  have hcomment : '\n' ∉ d.comment := by
    rcases d.comment_eq with hnil | ⟨-, hcomment⟩
    · simp [hnil]
    · exact hcomment
  unfold Directive.line
  simp only [List.mem_append, hgap, hpath, hspace, hcomment, or_false]
  decide

/-- The path of a module begins and ends with characters that are never dropped. -/
theorem exists_path_ends : ∃ first last, d.path.head? = some first ∧ d.path.getLast? = some last ∧
    (Text.isBlank first = false ∧ first ≠ '"') ∧ Text.isBlank last = false ∧ last ≠ '"' :=
  ⟨_, _, List.head?_eq_some_head d.path_ne_nil, List.getLast?_eq_some_getLast d.path_ne_nil,
    d.path_plain _ (List.head_mem _), d.path_plain _ (List.getLast_mem _)⟩

/-- The path without the blanks before it. -/
theorem trim_path {blanks : List Char} (h : ∀ c ∈ blanks, Text.isBlank c = true)
    (back : List Char) : Text.trim (blanks ++ (d.path ++ back)) = d.path ++ Text.trimEnd back := by
  obtain ⟨first, last, hfirst, hlast, hplain, hplain'⟩ := d.exists_path_ends
  have hstart : Text.trim (blanks ++ (d.path ++ back)) = Text.trim (d.path ++ back) := by
    rw [Text.trim, Text.trimStart, List.dropWhile_append_of_pos h]
    rfl
  rw [hstart, Text.trim_word hfirst hplain.1 hlast hplain'.1]

theorem trim_line : Text.trim d.line =
    "module".toList ++ d.gap ++ d.path ++ Text.trimEnd (d.space ++ d.comment) := by
  obtain ⟨first, last, -, hlast, -, hplain⟩ := d.exists_path_ends
  have hfirst : ("module".toList ++ d.gap ++ d.path).head? = some 'm' := by simp
  have hwhole : ("module".toList ++ d.gap ++ d.path).getLast? = some last := by
    rw [List.getLast?_append, hlast, Option.some_or]
  exact Text.trim_word hfirst (by decide) hwhole hplain.1 _

theorem unquote_path (back : List Char) :
    ((d.path ++ back).dropWhile (· = '"')).rdropWhile (· = '"') =
      d.path ++ back.rdropWhile (· = '"') := by
  obtain ⟨first, last, hfirst, hlast, hplain, hplain'⟩ := d.exists_path_ends
  obtain ⟨tail, htail⟩ := List.head?_eq_some_iff.1 hfirst
  have hstart : (d.path ++ back).dropWhile (· = '"') = d.path ++ back := by
    simp [htail, hplain.2]
  rw [hstart, Text.rdropWhile_append hlast (by simp [hplain'.2])]

/-- Nothing is left behind the path exactly if there is no comment. -/
theorem trailer_eq_nil_iff : d.trailer = [] ↔ d.comment = [] := by
  constructor
  · intro h
    rcases d.comment_eq with hnil | ⟨⟨more, hmore⟩, -⟩
    · exact hnil
    · have hend : Text.trimEnd (d.space ++ d.comment) =
          (d.space ++ "//".toList) ++ Text.trimEnd more := by
        rw [← hmore, ← List.append_assoc]
        exact Text.rdropWhile_append (c := '/') (by simp) (by decide) more
      rw [trailer, hend, Text.rdropWhile_append (c := '/') (by simp) (by decide)] at h
      simp at h
  · intro h
    have hend : Text.trimEnd d.space = [] :=
      List.rdropWhile_eq_nil_iff.2 fun c hc => (d.space_blank c hc).1
    rw [trailer, h, List.append_nil, hend, List.rdropWhile_nil]

/-- A space behind the word: everything behind it is the path. -/
theorem goModule?_line_of_space (h : d.gap.head? = some ' ') (content : List Char) :
    goModule? (String.ofList (d.line ++ '\n' :: content)) =
      some (String.ofList (d.path ++ d.trailer)) := by
  obtain ⟨blanks, hblanks⟩ := List.head?_eq_some_iff.1 h
  have hblank : ∀ c ∈ blanks, Text.isBlank c = true := by
    intro c hc
    rcases d.gap_blank c (by simp [hblanks, hc]) with rfl | rfl <;> decide
  have hhead : Text.afterHead? "module ".toList (Text.trim d.line) =
      some (blanks ++ (d.path ++ Text.trimEnd (d.space ++ d.comment))) := by
    rw [Text.afterHead?_eq_some_iff, trim_line, hblanks]
    simp
  have htrim : Text.trim (blanks ++ (d.path ++ Text.trimEnd (d.space ++ d.comment))) =
      d.path ++ Text.trimEnd (d.space ++ d.comment) := by
    rw [d.trim_path hblank, Text.trimEnd_trimEnd]
  rw [goModule?_found d.newline_not_mem_line hhead, htrim, unquote_path, ← trailer, if_neg]
  simp [d.path_ne_nil]

/-- A tab behind the word: the line is passed over. -/
theorem goModule?_line_of_tab (h : d.gap.head? ≠ some ' ') (content : List Char) :
    goModule? (String.ofList (d.line ++ '\n' :: content)) = goModule? (String.ofList content) := by
  refine goModule?_skip d.newline_not_mem_line ?_
  refine Option.eq_none_iff_forall_ne_some.2 fun rest hrest => h ?_
  rw [Text.afterHead?_eq_some_iff, trim_line] at hrest
  cases hgap : d.gap with
  | nil => exact absurd hgap d.gap_ne_nil
  | cons c blanks =>
      rw [hgap] at hrest
      obtain ⟨rfl, -⟩ : c = ' ' ∧ _ := by simpa using hrest
      rfl

end Directive

end Resolve

open Resolve

/-- **The declaration of a module.**  For every text that declares a module below blank lines and
comments: if a space follows the word `module`, the path is read together with the comment behind
it, and otherwise the line is passed over.  So the path is read back exactly if a space follows the
word and there is no comment, or the word is followed by a tab and the same path is read from the
text below. -/
theorem goModule_directive (d : Directive) (content : List Char) :
    goModule? (String.ofList (d.text ++ '\n' :: content)) =
        (if d.gap.head? = some ' ' then some (String.ofList (d.path ++ d.trailer))
        else goModule? (String.ofList content)) ∧
      (goModule? (String.ofList (d.text ++ '\n' :: content)) = some (String.ofList d.path) ↔
        if d.gap.head? = some ' ' then d.comment = []
        else goModule? (String.ofList content) = some (String.ofList d.path)) := by
  have hread : goModule? (String.ofList (d.text ++ '\n' :: content)) =
      if d.gap.head? = some ' ' then some (String.ofList (d.path ++ d.trailer))
      else goModule? (String.ofList content) := by
    rw [Directive.text, List.append_assoc, goModule?_remarks d.preamble_remarks]
    split
    · rename_i hspace
      exact d.goModule?_line_of_space hspace content
    · rename_i htab
      exact d.goModule?_line_of_tab htab content
  refine ⟨hread, ?_⟩
  rw [hread]
  split
  · rw [Option.some_inj, String.ofList_inj, List.append_right_eq_self, d.trailer_eq_nil_iff]
  · rfl

/-- A directive with a tab behind the word. -/
def tabbedDirective : Directive where
  preamble := []
  gap := ['\t']
  path := "example.com/app".toList
  space := []
  comment := []
  preamble_remarks := by simp
  gap_ne_nil := by simp
  gap_blank := by simp
  path_ne_nil := by simp
  path_plain := by simp [Text.isBlank]
  space_blank := by simp
  comment_eq := .inl rfl

/-- A directive with a comment behind the path. -/
def commentedDirective : Directive where
  preamble := []
  gap := [' ']
  path := "example.com/app".toList
  space := [' ']
  comment := "// the app".toList
  preamble_remarks := by simp
  gap_ne_nil := by simp
  gap_blank := by simp
  path_ne_nil := by simp
  path_plain := by simp [Text.isBlank]
  space_blank := by simp [Text.isBlank]
  comment_eq := .inr (by simp)

/-- A tab hides the declaration, and a comment becomes a part of the path. -/
theorem goModule_directive_lost :
    (String.ofList (tabbedDirective.text ++ ['\n']) = "module\texample.com/app\n" ∧
      goModule? "module\texample.com/app\n" = none) ∧
    String.ofList (commentedDirective.text ++ ['\n']) = "module example.com/app // the app\n" ∧
      goModule? "module example.com/app // the app\n" = some "example.com/app // the app" := by
  decide +kernel

end SourceAtlas
