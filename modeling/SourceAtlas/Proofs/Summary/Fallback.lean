import SourceAtlas.Config
import SourceAtlas.Proofs.Summary.Reply

/-!
# Summaries never fail

A client of an endpoint has a text exactly if a whole reply with a status of success came whose body
offers one; all else is an error of the summarizer.  With the summarizer by rule behind it, the text
is that of the reply or, exactly when there is none, the description of the file.  Nothing is
assumed of the backend that sends the request and takes the body apart.

* `Exchange.Brings` — the text that an exchange brings; `ChatClient.Answered` — the text that a
  client is answered with.
* `complete_eq_ok_iff`, `complete_eq_error` — what a client makes of it.
* `summarize_orElse` — what a fallback does.
* `summarize_exact` — all of this together, down to the summarizer that is configured.
-/

namespace SourceAtlas

variable {client : ChatClient} {backend : Backend} {conversation : List Chat.Message}
  {t : String} {f : SourceFile}

/-! ## The answer of an endpoint -/

/-- The text that an exchange brings: a whole reply came, with a status of success and with a body
that offers the text. -/
def Exchange.Brings (parse? : String → Option Json.Source) (e : Exchange) (t : String) : Prop :=
  ∃ status body, e = .reply status body ∧ 200 ≤ status ∧ status < 300 ∧ Chat.Offers parse? body t

namespace ChatClient

theorem readExchange_eq_ok_iff {parse? : String → Option Json.Source} {e : Exchange} :
    client.readExchange parse? e = .ok t ↔ e.Brings parse? t := by
  unfold Exchange.Brings
  cases e with
  | reply status body =>
      have hsuccess : Http.isSuccess status = true ↔ 200 ≤ status ∧ status < 300 := by
        simp [Http.isSuccess]
      show (if Http.isSuccess status then Chat.readReply parse? body
        else .error (.refused (Http.renderStatus status) body)) = .ok t ↔ _
      constructor
      · intro h
        split at h
        · rename_i hstatus
          obtain ⟨hlow, hhigh⟩ := hsuccess.1 hstatus
          exact ⟨status, body, rfl, hlow, hhigh, Chat.readReply_eq_ok_iff.1 h⟩
        · cases h
      · rintro ⟨_, _, ⟨rfl, rfl⟩, hlow, hhigh, hoffers⟩
        rw [if_pos (hsuccess.2 ⟨hlow, hhigh⟩)]
        exact Chat.readReply_eq_ok_iff.2 hoffers
  | _ =>
      constructor
      · intro h
        cases h
      · rintro ⟨_, _, h, -⟩
        cases h

/-- The text that a client is answered with: the one that the exchange brings. -/
def Answered (client : ChatClient) (backend : Backend) (conversation : List Chat.Message)
    (t : String) : Prop :=
  (backend.send (client.post conversation)).Brings backend.parse? t

theorem complete_eq_ok_iff :
    client.complete backend conversation = .ok t ↔ client.Answered backend conversation t :=
  readExchange_eq_ok_iff

theorem complete_eq_error (h : ∀ t, ¬ client.Answered backend conversation t) :
    ∃ cause, client.complete backend conversation = .error cause := by
  cases hcomplete : client.complete backend conversation with
  | ok t => exact absurd (complete_eq_ok_iff.1 hcomplete) (h t)
  | error cause => exact ⟨cause, rfl⟩

theorem Answered.unpadded (h : client.Answered backend conversation t) :
    t ≠ "" ∧ Text.Unpadded t.toList := by
  obtain ⟨status, body, -, -, -, source, first, others, -, -, rfl, hne⟩ := h
  exact ⟨hne, Chat.unpadded_wording first⟩

end ChatClient

/-! ## Summarizers -/

namespace Summarizer

theorem summarize_generative_of_answered (h : client.Answered backend (Chat.messages f) t) :
    (generative client backend).summarize f = .ok t := by
  unfold summarize generative
  simp only [ChatClient.complete_eq_ok_iff.2 h]

theorem summarize_generative_eq_error
    (h : ∀ t, ¬ client.Answered backend (Chat.messages f) t) :
    ∃ cause, (generative client backend).summarize f = .error (.summarizer cause) := by
  obtain ⟨cause, hcause⟩ := ChatClient.complete_eq_error h
  refine ⟨cause, ?_⟩
  unfold summarize generative
  simp only [hcause]

theorem summarize_orElse (primary fallback : Summarizer) (f : SourceFile) :
    (primary.orElse fallback).summarize f =
      match primary.summarize f with
      | .ok t => .ok t
      | .error _ => fallback.summarize f := by
  unfold summarize orElse
  rcases hrun : primary.run f with ⟨_ | _, notes⟩ <;> simp only [hrun]

/-- With the summarizer by rule behind it, a summarizer gives its own text or the description. -/
theorem summarize_orElse_ruleBased (primary : Summarizer) (f : SourceFile) :
    (∀ t, primary.summarize f = .ok t → (primary.orElse ruleBased).summarize f = .ok t) ∧
      ∀ cause, primary.summarize f = .error cause →
        (primary.orElse ruleBased).summarize f = .ok (Summary.describe f) := by
  constructor
  · intro t h
    rw [summarize_orElse, h]
  · intro cause h
    rw [summarize_orElse, h]
    rfl

theorem exists_summarize_orElse_ruleBased (primary : Summarizer) (f : SourceFile) :
    ∃ t, (primary.orElse ruleBased).summarize f = .ok t := by
  obtain ⟨hok, herror⟩ := summarize_orElse_ruleBased primary f
  cases hprimary : primary.summarize f with
  | ok t => exact ⟨t, hok t hprimary⟩
  | error cause => exact ⟨_, herror cause hprimary⟩

end Summarizer

/-- The configured summarizer: that by rule, or with it behind the client of an endpoint. -/
theorem SummarizerConfig.summarizer_eq (config : SummarizerConfig) (env : Environment)
    (backend : Backend) :
    config.summarizer env backend = .ok .ruleBased ∨
      ∃ client, config.client env = .ok client ∧ config.summarizer env backend =
        .ok ((Summarizer.generative client backend).orElse .ruleBased) := by
  unfold summarizer generative client
  split
  · exact Or.inl rfl
  · rename_i hendpoint
    cases hconfigured : config.endpoint with
    | none => simp [hconfigured] at hendpoint
    | some endpoint => exact Or.inr ⟨_, rfl, rfl⟩

/-- **Summaries never fail.**  A client completes a conversation exactly if it is answered with a
text, and this text is not empty and has no blanks at its ends; otherwise there is an error of the
summarizer.  With the summarizer by rule behind it, the summary of a file is the text of the answer
or, without an answer, the description of the file.  So the configured summarizer, which is always
to be had, has a summary of every file. -/
theorem summarize_exact (client : ChatClient) (backend : Backend) :
    (∀ conversation t, client.complete backend conversation = .ok t ↔
      client.Answered backend conversation t) ∧
    (∀ conversation t, client.Answered backend conversation t →
      t ≠ "" ∧ Text.Unpadded t.toList) ∧
    (∀ f, (∀ t, ¬ client.Answered backend (Chat.messages f) t) →
      ∃ cause, (Summarizer.generative client backend).summarize f = .error (.summarizer cause)) ∧
    (∀ f,
      let s := (Summarizer.generative client backend).orElse .ruleBased
      (∀ t, client.Answered backend (Chat.messages f) t → s.summarize f = .ok t) ∧
      ((∀ t, ¬ client.Answered backend (Chat.messages f) t) →
        s.summarize f = .ok (Summary.describe f))) ∧
    ∀ (config : SummarizerConfig) (env : Environment),
      ∃ s, config.summarizer env backend = .ok s ∧ (∀ f, ∃ t, s.summarize f = .ok t) ∧
        (s = .ruleBased ∨ ∃ configured, config.client env = .ok configured ∧
          s = (Summarizer.generative configured backend).orElse .ruleBased) := by
  refine ⟨fun conversation t => ChatClient.complete_eq_ok_iff, fun conversation t h => h.unpadded,
    fun f h => Summarizer.summarize_generative_eq_error h, ?_, ?_⟩
  · intro f s
    obtain ⟨hok, herror⟩ := Summarizer.summarize_orElse_ruleBased
      (Summarizer.generative client backend) f
    constructor
    · intro t h
      exact hok t (Summarizer.summarize_generative_of_answered h)
    · intro h
      obtain ⟨cause, hcause⟩ := Summarizer.summarize_generative_eq_error h
      exact herror _ hcause
  · intro config env
    rcases config.summarizer_eq env backend with hrule | ⟨configured, hclient, hs⟩
    · exact ⟨_, hrule, fun f => ⟨_, rfl⟩, Or.inl rfl⟩
    · refine ⟨_, hs, fun f => ?_, Or.inr ⟨configured, hclient, rfl⟩⟩
      exact Summarizer.exists_summarize_orElse_ruleBased _ f

/-- A client of an endpoint on the same machine. -/
def localClient : ChatClient := ⟨"http://[::1]:8080", "small", none, 5000⟩

/-- An endpoint that replies with a text in parts, of which one is blank. -/
def replyInParts : Backend where
  send _ := .reply 200 ("\x7b\"choices\":[\x7b\"message\":\x7b\"content\":[" ++
    "\x7b\"text\":\" Reads settings. \"\x7d,\x7b\"text\":\" \"\x7d,\x7b\"type\":\"mark\"\x7d," ++
    "[\"Writes them.\\n\"]]\x7d\x7d]\x7d")
  parse? text := Json.Source.parse? text.toList

/-- An endpoint that does not reply. -/
def silence : Backend := { replyInParts with send := fun _ => .timedOut }

/-- A file to be summarized. -/
def settingsFile : SourceFile :=
  ⟨"settings.py", .python, 20, ["load", "save"], 2, [], [], Purposes.ofList [.general], false⟩

theorem summarize_exact_settingsFile :
    localClient.Answered replyInParts (Chat.messages settingsFile)
        "Reads settings.\nWrites them." ∧
      ((Summarizer.generative localClient replyInParts).orElse .ruleBased).summarize settingsFile =
        .ok "Reads settings.\nWrites them." ∧
      (∀ t, ¬ localClient.Answered silence (Chat.messages settingsFile) t) ∧
      ((Summarizer.generative localClient silence).orElse .ruleBased).summarize settingsFile =
        .ok (Summary.describe settingsFile) := by
  obtain ⟨hcomplete, -, -, hfallback, -⟩ := summarize_exact localClient replyInParts
  obtain ⟨-, -, -, hsilence, -⟩ := summarize_exact localClient silence
  have hanswered : localClient.Answered replyInParts (Chat.messages settingsFile)
      "Reads settings.\nWrites them." := (hcomplete _ _).1 (by decide +kernel)
  have hunanswered : ∀ t, ¬ localClient.Answered silence (Chat.messages settingsFile) t := by
    rintro t ⟨status, body, hreply, -⟩
    cases hreply
  exact ⟨hanswered, (hfallback settingsFile).1 _ hanswered, hunanswered,
    (hsilence settingsFile).2 hunanswered⟩

end SourceAtlas
