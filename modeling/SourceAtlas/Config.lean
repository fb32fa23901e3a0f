import SourceAtlas.Files.System
import SourceAtlas.Ignore.Rules
import SourceAtlas.Summary.Summarizer
import SourceAtlas.Toml.Document

/-!
# Configuration

The settings of a scan: what to leave out, how to run, and how to summarize.  They are read from a
file of three sections, in which every setting has a default and no other setting may stand.  A
section is a table, or a list of the values of its settings in their order.
-/

namespace SourceAtlas

/-- What a scan leaves out beyond the standard rules. -/
structure IgnoreConfig where
  /-- Names of directories. -/
  dirs : List String
  /-- Names of files. -/
  files : List String
  /-- Endings of names. -/
  endings : List String
  /-- Globs. -/
  globs : List String
  /-- Whether gitignore files count. -/
  respectGitignore : Bool
  deriving DecidableEq, Repr

/-- How a scan runs (`ScanSection`). -/
structure RunConfig where
  /-- The number of workers; by default one for each processor. -/
  jobs : Option Nat
  /-- The number of octets beyond which a file is skipped. -/
  maxFileBytes : Option Nat
  deriving DecidableEq, Repr

/-- How files are summarized. -/
structure SummarizerConfig where
  /-- The endpoint that is asked for summaries. -/
  endpoint : Option String
  /-- The model that is asked. -/
  model : String
  /-- The environment variable with the key for the endpoint. -/
  apiKeyEnv : Option String
  /-- How many seconds a reply may take. -/
  timeoutSecs : Nat
  deriving DecidableEq, Repr

/-- The settings of a scan. -/
structure ScanConfig where
  /-- What to leave out. -/
  ignore : IgnoreConfig
  /-- How to run. -/
  scan : RunConfig
  /-- How to summarize. -/
  summarizer : SummarizerConfig
  deriving DecidableEq, Repr

/-- The variables of an environment. -/
abbrev Environment := String → Option String

namespace Setting

/-- The values of the settings of a section. -/
def values? (keys : List String) : Toml.Value → Option (List (Option Toml.Value))
  | .table _ entries =>
    if entries.all (keys.contains ·.1) then some (keys.map (Toml.Entries.get? entries)) else none
  | .arr items => some ((List.range keys.length).map (items[·]?))
  | _ => none

/-- The value of a setting, or its default. -/
def read? {α : Type} (default : α) (value? : Toml.Value → Option α) : Option Toml.Value → Option α
  | none => some default
  | some v => value? v

/-- A text. -/
def text? : Toml.Value → Option String
  | .str s => some s
  | _ => none

/-- A list of texts. -/
def texts? : Toml.Value → Option (List String)
  | .arr items => items.mapM text?
  | _ => none

/-- A truth value. -/
def flag? : Toml.Value → Option Bool
  | .bool b => some b
  | _ => none

/-- A number that is not negative. -/
def count? : Toml.Value → Option Nat
  | .int n => if 0 ≤ n then some n.toNat else none
  | _ => none

end Setting

open Setting

namespace IgnoreConfig

/-- The settings of an empty section. -/
def standard : IgnoreConfig := ⟨[], [], [], [], false⟩

/-- Reads a section. -/
def read? (v : Toml.Value) : Option IgnoreConfig := do
  match ← values? ["dirs", "files", "suffixes", "globs", "respect_gitignore"] v with
  | [dirs, files, endings, globs, gitignore] =>
    return ⟨← Setting.read? [] texts? dirs, ← Setting.read? [] texts? files,
      ← Setting.read? [] texts? endings, ← Setting.read? [] texts? globs,
      ← Setting.read? false flag? gitignore⟩
  | _ => none

/-- The rules of a scan with these settings (`IgnoreRules.from_config`). -/
def rules (c : IgnoreConfig) : Except Error IgnoreRules :=
  IgnoreRules.standard.extend c.dirs c.files c.endings c.globs

end IgnoreConfig

namespace RunConfig

/-- The settings of an empty section. -/
def standard : RunConfig := ⟨none, none⟩

/-- Reads a section. -/
def read? (v : Toml.Value) : Option RunConfig := do
  match ← values? ["jobs", "max_file_bytes"] v with
  | [jobs, limit] =>
    return ⟨← Setting.read? none (fun v => (count? v).map some) jobs,
      ← Setting.read? none (fun v => (count? v).map some) limit⟩
  | _ => none

end RunConfig

namespace SummarizerConfig

/-- The settings of an empty section. -/
def standard : SummarizerConfig := ⟨none, "gpt-4o-mini", none, 30⟩

/-- Reads a section. -/
def read? (v : Toml.Value) : Option SummarizerConfig := do
  match ← values? ["endpoint", "model", "api_key_env", "timeout_secs"] v with
  | [endpoint, model, apiKeyEnv, timeout] =>
    return ⟨← Setting.read? none (fun v => (text? v).map some) endpoint,
      ← Setting.read? standard.model text? model,
      ← Setting.read? none (fun v => (text? v).map some) apiKeyEnv,
      ← Setting.read? standard.timeoutSecs count? timeout⟩
  | _ => none

/-- The key for the endpoint (`SummarizerConfig.api_key`): what the configured variable holds,
trimmed, unless that is empty. -/
def apiKey? (c : SummarizerConfig) (env : Environment) : Option String :=
  ((c.apiKeyEnv.bind env).map Text.trimmed).filter (!·.isEmpty)

/-- The client for the configured endpoint. -/
def client (c : SummarizerConfig) (env : Environment) : Except Error ChatClient :=
  match c.endpoint with
  | some endpoint => .ok ⟨endpoint, c.model, c.apiKey? env, c.timeoutSecs * 1000⟩
  | none => .error (.config .endpointMissing)

/-- The summarizer that asks the configured endpoint (`GenerativeSummarizer.from_config`). -/
def generative (c : SummarizerConfig) (env : Environment) (backend : Backend) :
    Except Error Summarizer :=
  (c.client env).map (Summarizer.generative · backend)

/-- The summarizer of a scan (`summarizer_from_config`): by rule alone, or with it as the fallback
of the configured endpoint if there is one that is not blank. -/
def summarizer (c : SummarizerConfig) (env : Environment) (backend : Backend) :
    Except Error Summarizer :=
  if c.endpoint.all fun e => Text.trimmed e = "" then .ok .ruleBased
  else (c.generative env backend).map (Summarizer.orElse · .ruleBased)

end SummarizerConfig

namespace ScanConfig

/-- The settings of an empty file. -/
def standard : ScanConfig := ⟨.standard, .standard, .standard⟩

/-- Reads the three sections of a document. -/
def read? (document : Toml.Entries) : Option ScanConfig := do
  match ← values? ["ignore", "scan", "summarizer"] (.table .header document) with
  | [ignore, scan, summarizer] =>
    return ⟨← Setting.read? .standard IgnoreConfig.read? ignore,
      ← Setting.read? .standard RunConfig.read? scan,
      ← Setting.read? .standard SummarizerConfig.read? summarizer⟩
  | _ => none

/-- Reads the text of a configuration file (`ScanConfig.parse`). -/
def parse (text : String) : Except Error ScanConfig :=
  match Toml.parse? text with
  | none => .error (.config (.invalidFile "the text is malformed"))
  | some document =>
    match read? document with
    | none => .error (.config (.invalidFile "a setting is unknown or has a wrong value"))
    | some config => .ok config

/-- Reads the configuration file at a path (`ScanConfig.load`). -/
def load (fs : FileSystem) (path : String) : Except Error ScanConfig :=
  match fs.readText path with
  | .error e => .error (.config (.unreadable path e.message))
  | .ok text => parse text

/-- Reads the configuration file in a directory if there is one (`ScanConfig.discover`). -/
def discover (fs : FileSystem) (root : String) : Except Error ScanConfig :=
  let path := Path.append root configFileName
  if fs.isFile path then load fs path else .ok standard

end ScanConfig

end SourceAtlas
