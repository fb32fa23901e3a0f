import SourceAtlas.Proofs.Text.Blank
import SourceAtlas.Proofs.Text.Cut
import SourceAtlas.Summary.Summarizer

/-!
# Endpoints

An endpoint may be configured bare, with its version or in full, with blanks around it and slashes
behind it.  Its address is found in two steps: the blanks and the slashes are dropped, and what is
missing of the path to the completions is added.

* `baseOf`, `completed` — the two steps.
* `Settled` — a text that the first step leaves as it is; `settled_of_endsWith` says that an address
  is such a text, so taking the address of an address changes nothing.
* `baseOf_pad`, `baseOf_slash` — blanks and slashes that make no difference.
* `Bare` — an endpoint without its version; `Bare.completionsUrl_eq` gives its address under each of
  its three spellings.
* `completionsUrl_absorbs` — all of this together.
-/

namespace SourceAtlas
namespace ChatClient

variable {base endpoint s front tail : String}

/-! ## The two steps -/

/-- What is left of an endpoint without the blanks around it and the slashes behind it. -/
def baseOf (endpoint : String) : String := String.ofList (dropSlashes (Text.trim endpoint.toList))

/-- A base with what is missing of the path to the completions. -/
def completed (base : String) : String :=
  if Text.endsWith base "/chat/completions" then base
  else if Text.endsWith base "/v1" then base ++ "/chat/completions"
  else base ++ "/v1/chat/completions"

theorem completionsUrl_eq_completed (endpoint : String) :
    completionsUrl endpoint = completed (baseOf endpoint) := rfl

/-! ## What the first step leaves as it is -/

/-- A text without blanks at its ends and without a slash behind it. -/
structure Settled (s : String) : Prop where
  unpadded : Text.Unpadded s.toList
  noSlash : s.toList.getLast? ≠ some '/'

theorem Settled.baseOf_eq (h : Settled s) : baseOf s = s := by
  have hslashes : dropSlashes s.toList = s.toList := by
    show s.toList.rdropWhile (· = '/') = s.toList
    rw [List.rdropWhile_eq_self_iff]
    intro hne hlast
    refine h.noSlash ?_
    rw [List.getLast?_eq_some_getLast hne]
    simpa using hlast
  unfold baseOf
  rw [h.unpadded.trim_eq, hslashes, String.ofList_toList]

/-- The end of a text decides what stands behind it. -/
theorem Settled.append (hfront : Text.StartsPlain front.toList) (h : Settled tail)
    (hne : tail ≠ "") : Settled (front ++ tail) := by
  have hlast : (front ++ tail).toList.getLast? = tail.toList.getLast? := by
    rw [String.toList_append]
    exact List.getLast?_append_of_ne_nil _ (by simpa using hne)
  refine ⟨⟨?_, ?_⟩, ?_⟩
  · rw [String.toList_append]
    exact hfront.append h.unpadded.start
  · intro c hc
    rw [hlast] at hc
    exact h.unpadded.stop c hc
  · rw [hlast]
    exact h.noSlash

theorem settled_version : Settled "/v1" :=
  ⟨⟨by decide, by decide⟩, by decide⟩

theorem settled_completions : Settled "/chat/completions" :=
  ⟨⟨by decide, by decide⟩, by decide⟩

theorem settled_of_endsWith (hstart : Text.StartsPlain s.toList)
    (h : Text.endsWith s "/chat/completions" = true) : Settled s := by
  obtain ⟨front, rfl⟩ := Text.endsWith_iff.1 h
  refine Settled.append (hstart.of_prefix ?_) settled_completions (by decide)
  rw [String.toList_append]
  exact List.prefix_append _ _

/-! ## The first step -/

theorem startsPlain_baseOf (endpoint : String) : Text.StartsPlain (baseOf endpoint).toList := by
  unfold baseOf
  rw [String.toList_ofList]
  exact (Text.unpadded_trim _).start.of_prefix (List.rdropWhile_prefix _ _)

theorem baseOf_pad {before after : String} (hbefore : ∀ c ∈ before.toList, Text.isBlank c = true)
    (hafter : ∀ c ∈ after.toList, Text.isBlank c = true) (endpoint : String) :
    baseOf (before ++ endpoint ++ after) = baseOf endpoint := by
  unfold baseOf
  rw [String.toList_append, String.toList_append, Text.trim_pad hbefore hafter]

/-- Behind a blank, a slash would keep the blank from being dropped. -/
theorem baseOf_slash (h : Text.EndsPlain endpoint.toList) :
    baseOf (endpoint ++ "/") = baseOf endpoint := by
  have hslash : Text.Unpadded "/".toList := ⟨by decide, by decide⟩
  unfold baseOf
  rw [String.toList_append, Text.trim_append h hslash]
  congr 1
  exact List.rdropWhile_concat_pos _ _ _ (by decide)

/-! ## The second step -/

theorem endsWith_completed (base : String) :
    Text.endsWith (completed base) "/chat/completions" = true := by
  unfold completed
  split
  · assumption
  · split
    · exact Text.endsWith_iff.2 ⟨base, rfl⟩
    · exact Text.endsWith_iff.2 ⟨base ++ "/v1", by rw [String.append_assoc]; rfl⟩

theorem startsPlain_completed (h : Text.StartsPlain base.toList) :
    Text.StartsPlain (completed base).toList := by
  unfold completed
  split
  · exact h
  · split
    · rw [String.toList_append]
      exact h.append settled_completions.unpadded.start
    · rw [String.toList_append]
      exact h.append (by decide)

theorem completed_of_endsWith (h : Text.endsWith base "/chat/completions" = true) :
    completed base = base := by
  simp [completed, h]

/-! ## The spellings of an endpoint -/

/-- An endpoint without its version. -/
structure Bare (base : String) : Prop extends Settled base where
  noVersion : Text.endsWith base "/v1" = false
  noCompletions : Text.endsWith base "/chat/completions" = false

theorem Bare.completionsUrl_eq (h : Bare base) :
    completionsUrl base = base ++ "/v1/chat/completions" := by
  rw [completionsUrl_eq_completed, h.toSettled.baseOf_eq]
  simp [completed, h.noVersion, h.noCompletions]

theorem Bare.completionsUrl_version (h : Bare base) :
    completionsUrl (base ++ "/v1") = base ++ "/v1/chat/completions" := by
  have hsettled : Settled (base ++ "/v1") :=
    Settled.append h.unpadded.start settled_version (by decide)
  have hversion : Text.endsWith (base ++ "/v1") "/v1" = true := Text.endsWith_iff.2 ⟨base, rfl⟩
  have hnot : Text.endsWith (base ++ "/v1") "/chat/completions" = false := by
    rw [Bool.eq_false_iff]
    intro hends
    obtain ⟨front, hfront⟩ := Text.endsWith_iff.1 hends
    have hlast := congrArg (fun s : String => s.toList.getLast?) hfront
    simp at hlast
  rw [completionsUrl_eq_completed, hsettled.baseOf_eq]
  simp [completed, hnot, hversion, String.append_assoc]

theorem Bare.completionsUrl_full (h : Bare base) :
    completionsUrl (base ++ "/v1/chat/completions") = base ++ "/v1/chat/completions" := by
  have hends : Text.endsWith (base ++ "/v1/chat/completions") "/chat/completions" = true :=
    Text.endsWith_iff.2 ⟨base ++ "/v1", by rw [String.append_assoc]; rfl⟩
  have hsettled := settled_of_endsWith ?_ hends
  · rw [completionsUrl_eq_completed, hsettled.baseOf_eq, completed_of_endsWith hends]
  · rw [String.toList_append]
    exact h.unpadded.start.append (by decide)

/-- **Every accepted spelling of an endpoint has the same address.**  The address ends in the path
to the completions, and it is its own address.  Blanks around an endpoint make no difference, nor
does a slash behind it, unless a blank stands before the slash.  A bare endpoint has the same
address with its version and in full. -/
theorem completionsUrl_absorbs (endpoint : String) :
    Text.endsWith (completionsUrl endpoint) "/chat/completions" = true ∧
    completionsUrl (completionsUrl endpoint) = completionsUrl endpoint ∧
    (∀ before after : String, (∀ c ∈ before.toList, Text.isBlank c = true) →
      (∀ c ∈ after.toList, Text.isBlank c = true) →
        completionsUrl (before ++ endpoint ++ after) = completionsUrl endpoint) ∧
    (Text.EndsPlain endpoint.toList →
      completionsUrl (endpoint ++ "/") = completionsUrl endpoint) ∧
    (Bare endpoint →
      completionsUrl endpoint = completionsUrl (endpoint ++ "/v1") ∧
      completionsUrl (endpoint ++ "/v1") = completionsUrl (endpoint ++ "/v1/chat/completions") ∧
      completionsUrl endpoint = endpoint ++ "/v1/chat/completions") := by
  have hends := endsWith_completed (baseOf endpoint)
  refine ⟨hends, ?_, ?_, ?_, ?_⟩
  · have hsettled : Settled (completed (baseOf endpoint)) :=
      settled_of_endsWith (startsPlain_completed (startsPlain_baseOf endpoint)) hends
    rw [completionsUrl_eq_completed endpoint, completionsUrl_eq_completed, hsettled.baseOf_eq,
      completed_of_endsWith hends]
  · intro before after hbefore hafter
    rw [completionsUrl_eq_completed, baseOf_pad hbefore hafter, completionsUrl_eq_completed]
  · intro hplain
    rw [completionsUrl_eq_completed, baseOf_slash hplain, completionsUrl_eq_completed]
  · intro hbare
    rw [hbare.completionsUrl_eq, hbare.completionsUrl_version, hbare.completionsUrl_full]
    exact ⟨rfl, rfl, rfl⟩

/-- An endpoint on the same machine, with blanks around it, with a slash, with its version. -/
theorem completionsUrl_absorbs_local :
    Bare "http://localhost:8080" ∧
    completionsUrl "\t http://localhost:8080\n" = "http://localhost:8080/v1/chat/completions" ∧
    completionsUrl "http://localhost:8080/" = "http://localhost:8080/v1/chat/completions" ∧
    completionsUrl "http://localhost:8080/v1" = "http://localhost:8080/v1/chat/completions" ∧
    completionsUrl "http://localhost:8080/v1/chat/completions" =
      "http://localhost:8080/v1/chat/completions" := by
  have hbare : Bare "http://localhost:8080" :=
    ⟨⟨⟨by decide, by decide⟩, by decide⟩, by decide, by decide⟩
  obtain ⟨-, hidem, hpad, hslash, hspellings⟩ := completionsUrl_absorbs "http://localhost:8080"
  obtain ⟨hversion, -, hurl⟩ := hspellings hbare
  have hfull : "http://localhost:8080" ++ "/v1/chat/completions" =
      "http://localhost:8080/v1/chat/completions" := by decide
  rw [hfull] at hurl
  refine ⟨hbare, ?_, ?_, ?_, ?_⟩
  · exact (hpad "\t " "\n" (by simp [Text.isBlank]) (by simp [Text.isBlank])).trans hurl
  · exact (hslash hbare.unpadded.stop).trans hurl
  · exact hversion.symm.trans hurl
  · rwa [hurl] at hidem

end ChatClient
end SourceAtlas
