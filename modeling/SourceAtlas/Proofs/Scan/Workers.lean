import Mathlib.Algebra.Order.Ring.Nat
import Mathlib.Data.Nat.Pairing
import Mathlib.Data.Prod.Lex
import SourceAtlas.Proofs.Scan.Account

/-!
# Scans with many workers

A scan as it goes on, step by step.  The leading thread reads the flag by which the scan is called
off, finds the files, starts the progress and hands out one job for each file; workers take the jobs
in any order and interleave their steps in any way; when no more is to be done, the leading thread
collects the outcomes.  At any moment somebody may call the scan off.

A job reads the flag once, before anything else.  Then it analyses its file, and then it counts the
outcome, each counter by a step of its own (`Tick`).  The leading thread starts the progress in the
same way (`Store`), before there are any jobs.

* `Job.step`, `Build.step` — one step of a job and of the whole scan; a `Turn` says whose it is;
* `Build.run` — the steps of a schedule, a turn that finds nothing to do being passed over;
* `Build.sees`, `Build.everSees` — whether a step, or a schedule, reads the flag and finds it set;
* `Build.step_cases` — all that a step can do;
* `Build.Fair` — the schedules without end that keep nobody waiting for ever;
* `Build.exists_result_of_fair` — such a schedule brings the scan to its end.
-/

namespace SourceAtlas

/-! ## Starting and counting, one step at a time -/

/-- One value of a progress that is set at once when a scan begins. -/
inductive Store where
  /-- The number of files. -/
  | total (n : Nat)
  /-- No file is done. -/
  | processed
  /-- None is skipped. -/
  | skipped
  /-- A scan is going on. -/
  | active
  /-- The length of the bar. -/
  | bar (n : Nat)
  deriving DecidableEq, Repr

/-- The progress after a store. -/
def Store.apply (p : Progress) : Store → Progress
  | total n => { p with total := n }
  | processed => { p with processed := 0 }
  | skipped => { p with skipped := 0 }
  | active => { p with isActive := true }
  | bar n => { p with bar := p.bar.map (·.setLength n) }

/-- Whether a store takes a counter back to zero. -/
def Store.resets : Store → Bool
  | processed | skipped => true
  | _ => false

/-- The stores by which the progress of a scan is started, in their order. -/
def Progress.stores (total : Nat) : List Store :=
  [.total total, .processed, .skipped, .active, .bar total]

theorem Progress.foldl_stores (p : Progress) (total : Nat) :
    (stores total).foldl Store.apply p = p.start total := rfl

@[simp] theorem Store.apply_isCancelled (p : Progress) (store : Store) :
    (store.apply p).isCancelled = p.isCancelled := by
  cases store <;> rfl

/-- One change of the progress that is made at once. -/
inductive Tick where
  /-- One more file is done. -/
  | processed
  /-- One more file is skipped. -/
  | skipped
  /-- The bar moves on. -/
  | bar
  deriving DecidableEq, Repr

/-- The progress after a change. -/
def Tick.apply (p : Progress) : Tick → Progress
  | processed => { p with processed := p.processed + 1 }
  | skipped => { p with skipped := p.skipped + 1 }
  | bar => { p with bar := p.bar.map (·.advance) }

/-- The changes by which an outcome is counted, in their order. -/
def Outcome.ticks : Outcome → List Tick
  | analysed _ => [.processed, .bar]
  | skipped _ => [.processed, .skipped, .bar]

theorem Outcome.foldl_ticks (o : Outcome) (p : Progress) :
    o.ticks.foldl Tick.apply p = o.count p := by
  cases o <;> rfl

@[simp] theorem Tick.apply_isCancelled (p : Progress) (t : Tick) :
    (t.apply p).isCancelled = p.isCancelled := by
  cases t <;> rfl

@[simp] theorem Tick.apply_total (p : Progress) (t : Tick) : (t.apply p).total = p.total := by
  cases t <;> rfl

/-! ## Jobs -/

/-- How far a job has come. -/
inductive Stage where
  /-- Nothing has been done. -/
  | waiting
  /-- The flag was read, and it was not set. -/
  | admitted
  /-- The flag was read, and it was set. -/
  | refused
  /-- The file has been analysed; some changes of the progress are left. -/
  | counting (o : Outcome) (left : List Tick)

/-- The work on one file. -/
structure Job where
  /-- The file. -/
  file : WalkedFile
  /-- How far the work has come. -/
  stage : Stage

namespace Job

/-- One step of a job. -/
def step (limit : Option Nat) (p : Progress) (j : Job) : Job × Progress :=
  match j.stage with
  | .waiting => ({ j with stage := if p.isCancelled then .refused else .admitted }, p)
  | .admitted =>
    let o := Outcome.ofFile limit j.file
    ({ j with stage := .counting o o.ticks }, p)
  | .counting o (t :: left) => ({ j with stage := .counting o left }, t.apply p)
  | .counting _ [] => (j, p)
  | .refused => (j, p)

/-- Whether the flag has not been read yet. -/
def isWaiting (j : Job) : Bool :=
  match j.stage with
  | .waiting => true
  | _ => false

/-- Whether the flag was set when it was read. -/
def isRefused (j : Job) : Bool :=
  match j.stage with
  | .refused => true
  | _ => false

/-- Whether the job has been begun and not ended. -/
def isBusy (j : Job) : Bool :=
  match j.stage with
  | .admitted | .counting _ (_ :: _) => true
  | _ => false

/-- The outcome of a job that has done everything. -/
def outcome? (j : Job) : Option Outcome :=
  match j.stage with
  | .counting o [] => some o
  | _ => none

/-- A bound of the number of steps that a job can still make. -/
def remaining (j : Job) : Nat :=
  match j.stage with
  | .waiting => 5
  | .admitted => 4
  | .counting _ left => left.length
  | .refused => 0

@[simp] theorem step_file (limit : Option Nat) (p : Progress) (j : Job) :
    (j.step limit p).1.file = j.file := by
  unfold step
  split <;> rfl

@[simp] theorem step_isCancelled (limit : Option Nat) (p : Progress) (j : Job) :
    (j.step limit p).2.isCancelled = p.isCancelled := by
  unfold step
  split <;> simp

@[simp] theorem step_total (limit : Option Nat) (p : Progress) (j : Job) :
    (j.step limit p).2.total = p.total := by
  unfold step
  split <;> simp

/-- A job is refused in the step in which it reads the flag. -/
theorem step_isRefused (limit : Option Nat) (p : Progress) (j : Job) :
    (j.step limit p).1.isRefused = (j.isRefused || (p.isCancelled && j.isWaiting)) := by
  obtain ⟨file, stage⟩ := j
  cases stage with
  | waiting => cases hp : p.isCancelled <;> simp [step, isRefused, isWaiting, hp]
  | admitted => simp [step, isRefused, isWaiting]
  | refused => simp [step, isRefused]
  | counting o left => cases left <;> simp [step, isRefused, isWaiting]

theorem remaining_step_lt (limit : Option Nat) (p : Progress) {j : Job} (h : j.remaining ≠ 0) :
    (j.step limit p).1.remaining < j.remaining := by
  obtain ⟨file, stage⟩ := j
  cases stage with
  | waiting => cases hp : p.isCancelled <;> simp [step, remaining, hp]
  | admitted =>
      have hticks : (Outcome.ofFile limit file).ticks.length < 4 := by
        cases Outcome.ofFile limit file <;> simp [Outcome.ticks]
      exact hticks
  | refused => exact absurd rfl h
  | counting o left =>
      cases left with
      | nil => exact absurd rfl h
      | cons t left => simp [step, remaining]

theorem step_of_remaining_eq_zero (limit : Option Nat) (p : Progress) {j : Job}
    (h : j.remaining = 0) : j.step limit p = (j, p) := by
  obtain ⟨file, stage⟩ := j
  cases stage with
  | waiting => cases h
  | admitted => cases h
  | refused => rfl
  | counting o left =>
      obtain rfl : left = [] := List.eq_nil_of_length_eq_zero h
      rfl

/-- A job without further steps was refused or has its outcome. -/
theorem ended_of_remaining_eq_zero {j : Job} (h : j.remaining = 0) :
    j.isBusy = false ∧ (j.isRefused = true ∨ j.outcome?.isSome = true) := by
  obtain ⟨file, stage⟩ := j
  cases stage with
  | waiting => cases h
  | admitted => cases h
  | refused => exact ⟨rfl, Or.inl rfl⟩
  | counting o left =>
      obtain rfl : left = [] := List.eq_nil_of_length_eq_zero h
      exact ⟨rfl, Or.inr rfl⟩

end Job

/-- What the jobs come to: the outcomes in the order of the files when all of them are done, or
nothing but the error when one was refused and none is being done. -/
def collect? (jobs : List Job) : Option (Except Error (List Outcome)) :=
  if jobs.all (·.outcome?.isSome) then some (.ok (jobs.filterMap Job.outcome?))
  else if jobs.any Job.isRefused && !jobs.any Job.isBusy then some (.error .cancelled)
  else none

theorem isSome_collect? {jobs : List Job} (h : ∀ j ∈ jobs, j.remaining = 0) :
    (collect? jobs).isSome = true := by
  unfold collect?
  by_cases hall : (jobs.all (·.outcome?.isSome)) = true
  · rw [if_pos hall]
    rfl
  · have hbusy : jobs.any Job.isBusy = false := by
      simpa using fun j hj => (Job.ended_of_remaining_eq_zero (h j hj)).1
    have hrefused : jobs.any Job.isRefused = true := by
      obtain ⟨j, hj, hout⟩ : ∃ j ∈ jobs, ¬ j.outcome?.isSome = true := by simpa using hall
      exact List.any_eq_true.2
        ⟨j, hj, (Job.ended_of_remaining_eq_zero (h j hj)).2.resolve_right hout⟩
    simp [hall, hrefused, hbusy]

/-- A job stands between those before it and those after it. -/
theorem exists_append_of_getElem? {jobs : List Job} {i : Nat} {j : Job} (h : jobs[i]? = some j) :
    ∃ before after, jobs = before ++ j :: after ∧ before.length = i := by
  obtain ⟨hi, rfl⟩ := List.getElem?_eq_some_iff.1 h
  exact ⟨jobs.take i, jobs.drop (i + 1), by simp, by simp [hi.le]⟩

/-! ## The whole scan -/

/-- How far a scan has come. -/
inductive Phase where
  /-- Nothing has been done. -/
  | checking
  /-- The files have been found, and some stores are left to start the progress. -/
  | found (s : Scan) (left : List Store)
  /-- The files are being analysed. -/
  | analysing (s : Scan) (jobs : List Job)
  /-- The scan is over. -/
  | returned (result : Except Error ProjectModel)

/-- A scan that is going on, with the progress that it shares with others. -/
structure Build where
  /-- The progress. -/
  progress : Progress
  /-- How far the scan has come. -/
  phase : Phase

/-- Whose step it is. -/
inductive Turn where
  /-- Somebody calls the scan off. -/
  | cancel
  /-- The leading thread goes on. -/
  | lead
  /-- The worker with the job of the `i`-th file goes on. -/
  | work (i : Nat)
  deriving DecidableEq, Repr

/-- Whether a root can be scanned. -/
def FileSystem.isReadable (fs : FileSystem) (root : String) : Bool :=
  (Scan.checkRoot fs root).isOk

theorem Scan.checkRoot_ne_cancelled (fs : FileSystem) (root : String) :
    checkRoot fs root ≠ .error .cancelled := by
  intro h
  rw [checkRoot] at h
  split at h
  · cases h
  · split at h
    · cases h
    · split at h <;> cases h

/-- The flag matters to the search for the files only if the root can be scanned. -/
theorem Scan.find_cases (fs : FileSystem) (options : ScanOptions) (root : String) :
    (fs.isReadable root = false ∧
        ∃ e, e ≠ .cancelled ∧ ∀ p, find fs options root p = .error e) ∨
      (fs.isReadable root = true ∧
        ∃ s, ∀ p, find fs options root p = if p.isCancelled then .error .cancelled else .ok s) := by
  have hne := checkRoot_ne_cancelled fs root
  unfold FileSystem.isReadable find
  cases hroot : checkRoot fs root with
  | error e => exact Or.inl ⟨rfl, e, fun he => hne (he ▸ hroot), fun _ => rfl⟩
  | ok place => exact Or.inr ⟨rfl, ofPlace fs options place, fun _ => rfl⟩

namespace Build

/-- The beginning of a scan. -/
def begin (p : Progress) : Build := ⟨p, .checking⟩

/-- What the scan returned. -/
def result? (b : Build) : Option (Except Error ProjectModel) :=
  match b.phase with
  | .returned result => some result
  | _ => none

section Steps

variable (fs : FileSystem) (options : ScanOptions) (root : String)

/-- A step of the leading thread. -/
def lead (b : Build) : Build :=
  match b.phase with
  | .checking =>
    match Scan.find fs options root b.progress with
    | .error e => { b with phase := .returned (.error e) }
    | .ok s => { b with phase := .found s (Progress.stores s.files.length) }
  | .found s (store :: left) => ⟨store.apply b.progress, .found s left⟩
  | .found s [] => { b with phase := .analysing s (s.files.map (⟨·, .waiting⟩)) }
  | .analysing s jobs =>
    match collect? jobs with
    | some outcomes => ⟨b.progress.finish, .returned (outcomes.map s.assemble)⟩
    | none => b
  | .returned _ => b

/-- A step of the worker with the `i`-th job. -/
def work (b : Build) (i : Nat) : Build :=
  match b.phase with
  | .analysing s jobs =>
    match jobs[i]? with
    | some j =>
      let (j', p) := j.step s.maxFileBytes b.progress
      ⟨p, .analysing s (jobs.set i j')⟩
    | none => b
  | _ => b

theorem work_append (p : Progress) (s : Scan) (before : List Job) (j : Job) (after : List Job) :
    (⟨p, .analysing s (before ++ j :: after)⟩ : Build).work before.length =
      ⟨(j.step s.maxFileBytes p).2,
        .analysing s (before ++ (j.step s.maxFileBytes p).1 :: after)⟩ := by
  simp [work]

/-- One step. -/
def step (b : Build) : Turn → Build
  | .cancel => { b with progress := b.progress.cancel }
  | .lead => b.lead fs options root
  | .work i => b.work i

/-- The steps of a schedule. -/
def run (b : Build) (schedule : List Turn) : Build := schedule.foldl (step fs options root) b

/-- Whether a step reads the flag and finds it set. -/
def sees (b : Build) : Turn → Bool
  | .cancel => false
  | .lead =>
    match b.phase with
    | .checking => b.progress.isCancelled && fs.isReadable root
    | _ => false
  | .work i =>
    match b.phase with
    | .analysing _ jobs => b.progress.isCancelled && jobs[i]?.any Job.isWaiting
    | _ => false

/-- Whether some step of a schedule reads the flag and finds it set. -/
def everSees (b : Build) : List Turn → Bool
  | [] => false
  | turn :: later => b.sees fs root turn || (b.step fs options root turn).everSees later

@[simp] theorem run_nil (b : Build) : b.run fs options root [] = b := rfl

@[simp] theorem run_cons (b : Build) (turn : Turn) (later : List Turn) :
    b.run fs options root (turn :: later) =
      (b.step fs options root turn).run fs options root later := rfl

theorem run_append (b : Build) (first later : List Turn) :
    b.run fs options root (first ++ later) =
      (b.run fs options root first).run fs options root later :=
  List.foldl_append

/-! ## What a step can do -/

/-- A step from one state to another; the truth value says whether it found the flag set. -/
inductive Step : Build → Bool → Build → Prop where
  /-- There is nothing to do. -/
  | idle (b : Build) : Step b false b
  /-- Somebody calls the scan off. -/
  | cancel (p : Progress) (phase : Phase) : Step ⟨p, phase⟩ false ⟨p.cancel, phase⟩
  /-- The root cannot be scanned. -/
  | fail {e : Error} (p : Progress) (he : e ≠ .cancelled)
      (hfind : ∀ p', Scan.find fs options root p' = .error e) :
      Step ⟨p, .checking⟩ false ⟨p, .returned (.error e)⟩
  /-- The leading thread finds the flag set. -/
  | refuse {p : Progress} (hp : p.isCancelled = true) :
      Step ⟨p, .checking⟩ true ⟨p, .returned (.error .cancelled)⟩
  /-- The files are found. -/
  | find {p : Progress} {s : Scan} (hfind : Scan.find fs options root p = .ok s) :
      Step ⟨p, .checking⟩ false ⟨p, .found s (Progress.stores s.files.length)⟩
  /-- One more value of the progress is set. -/
  | store (p : Progress) (s : Scan) (store : Store) (left : List Store) :
      Step ⟨p, .found s (store :: left)⟩ false ⟨store.apply p, .found s left⟩
  /-- The jobs are handed out. -/
  | start (p : Progress) (s : Scan) :
      Step ⟨p, .found s []⟩ false ⟨p, .analysing s (s.files.map (⟨·, .waiting⟩))⟩
  /-- A job makes a step. -/
  | work (p : Progress) (s : Scan) (before : List Job) (j : Job) (after : List Job) :
      Step ⟨p, .analysing s (before ++ j :: after)⟩ (p.isCancelled && j.isWaiting)
        ⟨(j.step s.maxFileBytes p).2,
          .analysing s (before ++ (j.step s.maxFileBytes p).1 :: after)⟩
  /-- The outcomes are collected. -/
  | collect (p : Progress) (s : Scan) {jobs : List Job} {outcomes : Except Error (List Outcome)}
      (h : collect? jobs = some outcomes) :
      Step ⟨p, .analysing s jobs⟩ false ⟨p.finish, .returned (outcomes.map s.assemble)⟩

variable {fs options root}

theorem lead_cases (b : Build) :
    Step fs options root b (b.sees fs root .lead) (b.lead fs options root) := by
  obtain ⟨p, phase⟩ := b
  cases phase with
  | checking =>
      rcases Scan.find_cases fs options root with ⟨hroot, e, he, hfind⟩ | ⟨hroot, s, hfind⟩
      · simp only [lead, sees, hfind p, hroot, Bool.and_false]
        exact .fail p he hfind
      · cases hp : p.isCancelled with
        | true =>
            simp only [lead, sees, hfind p, hroot, hp]
            exact .refuse hp
        | false =>
            have hok : Scan.find fs options root p = .ok s := by simp [hfind p, hp]
            simp only [lead, sees, hok, hp]
            exact .find hok
  | found s left =>
      cases left with
      | nil => exact .start p s
      | cons store left => exact .store p s store left
  | analysing s jobs =>
      simp only [lead, sees]
      split
      · rename_i outcomes h
        exact .collect p s h
      · exact .idle _
  | returned r => exact .idle _

theorem work_cases (b : Build) (i : Nat) :
    Step fs options root b (b.sees fs root (.work i)) (b.work i) := by
  obtain ⟨p, phase⟩ := b
  cases phase with
  | checking => exact .idle _
  | found s left => exact .idle _
  | returned r => exact .idle _
  | analysing s jobs =>
      cases hj : jobs[i]? with
      | none =>
          simp only [work, sees, hj, Option.any_none, Bool.and_false]
          exact .idle _
      | some j =>
          obtain ⟨before, after, rfl, rfl⟩ := exists_append_of_getElem? hj
          simp only [work_append, sees, hj, Option.any_some]
          exact .work p s before j after

/-- All that a step can do. -/
theorem step_cases (b : Build) (turn : Turn) :
    Step fs options root b (b.sees fs root turn) (b.step fs options root turn) := by
  cases turn with
  | cancel => exact .cancel b.progress b.phase
  | lead => exact lead_cases b
  | work i => exact work_cases b i

/-! ## Schedules that come to an end -/

/-- Whether a turn finds something to do. -/
def awaits (b : Build) : Turn → Bool
  | .cancel => false
  | .lead =>
    match b.phase with
    | .checking | .found .. => true
    | .analysing _ jobs => (collect? jobs).isSome
    | .returned _ => false
  | .work i =>
    match b.phase with
    | .analysing _ jobs => jobs[i]?.any (·.remaining != 0)
    | _ => false

/-- What is left of a scan: the phases that are to come, and the steps of this one. -/
def rank (b : Build) : ℕ ×ₗ ℕ :=
  match b.phase with
  | .checking => toLex (3, 0)
  | .found _ left => toLex (2, left.length)
  | .analysing _ jobs => toLex (1, (jobs.map Job.remaining).sum)
  | .returned _ => toLex (0, 0)

theorem rank_congr {b b' : Build} (h : b.phase = b'.phase) : b.rank = b'.rank := by
  rw [rank, rank, h]

theorem awaits_congr {b b' : Build} (h : b.phase = b'.phase) (turn : Turn) :
    b.awaits turn = b'.awaits turn := by
  cases turn <;> simp only [awaits, h]

/-- A turn with something to do leaves less to do. -/
theorem rank_step_lt {b : Build} {turn : Turn} (h : b.awaits turn = true) :
    (b.step fs options root turn).rank < b.rank := by
  obtain ⟨p, phase⟩ := b
  cases turn with
  | cancel => cases h
  | lead =>
      cases phase with
      | checking =>
          simp only [step, lead]
          split
          · exact Prod.Lex.toLex_lt_toLex.2 (Or.inl (Nat.succ_pos 2))
          · exact Prod.Lex.toLex_lt_toLex.2 (Or.inl (Nat.lt_succ_self 2))
      | found s left =>
          cases left with
          | nil => exact Prod.Lex.toLex_lt_toLex.2 (Or.inl Nat.one_lt_two)
          | cons store left => exact Prod.Lex.toLex_lt_toLex.2 (Or.inr ⟨rfl, Nat.lt_succ_self _⟩)
      | analysing s jobs =>
          obtain ⟨outcomes, hcollect⟩ := Option.isSome_iff_exists.1 h
          simp only [step, lead, hcollect]
          exact Prod.Lex.toLex_lt_toLex.2 (Or.inl Nat.zero_lt_one)
      | returned r => cases h
  | work i =>
      cases phase with
      | checking => cases h
      | found s left => cases h
      | returned r => cases h
      | analysing s jobs =>
          obtain ⟨j, hj, hremaining⟩ := (Option.any_eq_true _ _).1 h
          have hlt := Job.remaining_step_lt s.maxFileBytes p (bne_iff_ne.1 hremaining)
          obtain ⟨before, after, rfl, rfl⟩ := exists_append_of_getElem? hj
          simp only [step, work_append]
          exact Prod.Lex.toLex_lt_toLex.2 (Or.inr ⟨rfl, by simpa using hlt⟩)

/-- A turn with nothing to do changes at most the progress. -/
theorem phase_step_eq {b : Build} {turn : Turn} (h : b.awaits turn = false) :
    (b.step fs options root turn).phase = b.phase := by
  obtain ⟨p, phase⟩ := b
  cases turn with
  | cancel => rfl
  | lead =>
      cases phase with
      | checking => cases h
      | found s left => cases h
      | analysing s jobs =>
          have hcollect : collect? jobs = none := by simpa [awaits] using h
          simp only [step, lead, hcollect]
      | returned r => rfl
  | work i =>
      cases phase with
      | checking => rfl
      | found s left => rfl
      | returned r => rfl
      | analysing s jobs =>
          cases hj : jobs[i]? with
          | none => simp only [step, work, hj]
          | some j =>
              have hremaining : j.remaining = 0 := by simpa [awaits, hj] using h
              obtain ⟨before, after, rfl, rfl⟩ := exists_append_of_getElem? hj
              simp only [step, work_append, Job.step_of_remaining_eq_zero _ p hremaining]

/-- A scan that has not returned has something to do. -/
theorem exists_awaits {b : Build} (h : b.result? = none) : ∃ turn, b.awaits turn = true := by
  obtain ⟨p, phase⟩ := b
  cases phase with
  | checking => exact ⟨.lead, rfl⟩
  | found s left => exact ⟨.lead, rfl⟩
  | returned r => cases h
  | analysing s jobs =>
      by_cases hended : ∀ j ∈ jobs, j.remaining = 0
      · exact ⟨.lead, isSome_collect? hended⟩
      · push Not at hended
        obtain ⟨j, hj, hremaining⟩ := hended
        obtain ⟨i, hi⟩ := List.getElem?_of_mem hj
        exact ⟨.work i, by simpa [awaits, hi] using hremaining⟩

variable (fs options root) in
/-- The scan after the first `k` turns of a schedule without end. -/
def upTo (b : Build) (turns : Nat → Turn) (k : Nat) : Build :=
  b.run fs options root ((List.range k).map turns)

theorem upTo_succ (b : Build) (turns : Nat → Turn) (k : Nat) :
    b.upTo fs options root turns (k + 1) =
      (b.upTo fs options root turns k).step fs options root (turns k) := by
  simp [upTo, List.range_succ, run_append]

variable (fs options root) in
/-- A schedule without end that keeps nobody waiting for ever who has something to do. -/
def Fair (b : Build) (turns : Nat → Turn) : Prop :=
  ∀ k turn, (b.upTo fs options root turns k).awaits turn = true → ∃ m, k ≤ m ∧ turns m = turn

/-- There are fair schedules. -/
theorem exists_fair (b : Build) : ∃ turns, b.Fair fs options root turns := by
  -- The turn with the number `n` comes whenever the first half of the index is `n`.
  refine ⟨fun m => match m.unpair.1 with | 0 => .lead | i + 1 => .work i, ?_⟩
  intro k turn hawaits
  cases turn with
  | cancel => cases hawaits
  | lead => exact ⟨Nat.pair 0 k, Nat.right_le_pair 0 k, by simp⟩
  | work i => exact ⟨Nat.pair (i + 1) k, Nat.right_le_pair (i + 1) k, by simp⟩

/-- As time goes by, a scan stays where it is or less of it is left. -/
theorem phase_eq_or_rank_lt (b : Build) (turns : Nat → Turn) {k m : Nat} (h : k ≤ m) :
    (b.upTo fs options root turns m).phase = (b.upTo fs options root turns k).phase ∨
      (b.upTo fs options root turns m).rank < (b.upTo fs options root turns k).rank := by
  induction m, h using Nat.le_induction with
  | base => exact Or.inl rfl
  | succ m hkm ih =>
      rw [upTo_succ]
      cases hawaits : (b.upTo fs options root turns m).awaits (turns m) with
      | false =>
          have hphase : (step fs options root _ _).phase = _ := phase_step_eq hawaits
          rwa [rank_congr hphase, hphase]
      | true =>
          have hlt : (step fs options root _ _).rank < _ := rank_step_lt hawaits
          rcases ih with heq | hrank
          · exact Or.inr (rank_congr heq ▸ hlt)
          · exact Or.inr (hlt.trans hrank)

/-- **A fair schedule brings the scan to its end.** -/
theorem exists_result_of_fair {b : Build} {turns : Nat → Turn}
    (hfair : b.Fair fs options root turns) :
    ∃ k, (b.upTo fs options root turns k).result?.isSome = true := by
  -- By induction on what is left: some turn has something to do, and until it comes either
  -- nothing happens, and then the turn still has it to do, or less is left already.
  suffices h : ∀ rank k, (b.upTo fs options root turns k).rank = rank →
      ∃ k, (b.upTo fs options root turns k).result?.isSome = true from h _ 0 rfl
  intro rank
  induction rank using WellFoundedLT.induction with
  | ind rank ih =>
  intro k hk
  cases hresult : (b.upTo fs options root turns k).result? with
  | some r => exact ⟨k, by rw [hresult]; rfl⟩
  | none =>
      obtain ⟨turn, hturn⟩ := exists_awaits hresult
      obtain ⟨m, hkm, rfl⟩ := hfair k turn hturn
      rcases phase_eq_or_rank_lt b turns hkm with heq | hlt
      · refine ih _ ?_ (m + 1) rfl
        rw [upTo_succ, ← hk, ← rank_congr heq]
        exact rank_step_lt (awaits_congr heq (turns m) ▸ hturn)
      · exact ih _ (hk ▸ hlt) m rfl

end Steps

end Build

end SourceAtlas
