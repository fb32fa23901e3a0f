import Mathlib.Algebra.Order.BigOperators.Group.List
import Mathlib.Algebra.Order.Ring.Nat
import SourceAtlas.Proofs.Scan.Workers

/-!
# Every interleaving makes the same model

However the steps of the workers are interleaved, a scan returns what the scan by one worker
returns, unless one of its steps found it called off; then it returns nothing but that.

* `Crew` — what the jobs and the counters have to do with each other;
* `Build.Sound` — what is true of a scan at any time; a step keeps it (`Build.Sound.step`), and so
  does a schedule (`Build.Sound.run`);
* `Build.run_oneWorker` — the scan by one worker is one of the schedules;
* `Build.Refines`, `build_refines_run` — what is true of all schedules.
-/

namespace SourceAtlas

/-- The counters of a progress are in their natural order. -/
def Progress.Ordered (p : Progress) : Prop := p.skipped ≤ p.processed ∧ p.processed ≤ p.total
  deriving Decidable

/-- All of some outcomes are counted. -/
structure Progress.Counts (p : Progress) (outcomes : List Outcome) : Prop where
  /-- They are as many as there are files. -/
  total : p.total = outcomes.length
  /-- All files are done. -/
  processed : p.processed = p.total
  /-- The skipped ones are those whose outcome says so. -/
  skipped : p.skipped = outcomes.countP (·.skip?.isSome)

theorem Progress.Counts.ordered {p : Progress} {outcomes : List Outcome} (h : p.Counts outcomes) :
    p.Ordered := by
  refine ⟨?_, h.processed.le⟩
  rw [h.skipped, h.processed, h.total]
  exact List.countP_le_length

/-! ## What the stores leave -/

/-- The counters of a progress. -/
def Progress.counters (p : Progress) : Nat × Nat × Nat := (p.total, p.processed, p.skipped)

theorem Progress.ordered_congr {p q : Progress} (h : p.counters = q.counters) :
    p.Ordered ↔ q.Ordered := by
  simp only [counters, Prod.mk.injEq] at h
  rw [Ordered, Ordered, h.1, h.2.1, h.2.2]

theorem Progress.ordered_of_zero {p : Progress} (h : p.counters.2 = (0, 0)) : p.Ordered := by
  simp only [counters, Prod.mk.injEq] at h
  rw [Ordered, h.1, h.2]
  exact ⟨le_rfl, Nat.zero_le _⟩

/-- What a store leaves of the counters does not depend on anything else. -/
theorem Store.counters_apply {p q : Progress} (h : p.counters = q.counters) (store : Store) :
    (store.apply p).counters = (store.apply q).counters := by
  simp only [Progress.counters, Prod.mk.injEq] at h
  obtain ⟨htotal, hprocessed, hskipped⟩ := h
  cases store <;> simp [Store.apply, Progress.counters, *]

/-- Where nothing has been counted, stores keep it so. -/
theorem Store.zero_foldl {p : Progress} (h : p.counters.2 = (0, 0)) (stores : List Store) :
    (stores.foldl Store.apply p).counters.2 = (0, 0) := by
  induction stores generalizing p with
  | nil => exact h
  | cons store stores ih =>
      refine ih ?_
      simp only [Progress.counters, Prod.mk.injEq] at h
      cases store <;> simp [Store.apply, Progress.counters, h]

/-- The counters are in order before the first store, and again when they have been reset. -/
theorem Store.ordered_foldl {p : Progress} (h : p.Ordered) {total : Nat} {made left : List Store}
    (hstores : made ++ left = Progress.stores total) (hleft : left.head?.any resets = false) :
    (made.foldl Store.apply p).Ordered := by
  rcases made with _ | ⟨first, _ | ⟨second, _ | ⟨third, made⟩⟩⟩ <;>
    simp only [Progress.stores, List.nil_append, List.cons_append, List.cons.injEq] at hstores
  · exact h
  · rw [hstores.2] at hleft
    cases hleft
  · rw [hstores.2.2] at hleft
    cases hleft
  · obtain ⟨rfl, rfl, rfl, -⟩ := hstores
    exact Progress.ordered_of_zero (zero_foldl rfl made)

/-! ## What a job has counted -/

theorem Tick.processed_apply (p : Progress) (t : Tick) :
    (t.apply p).processed = p.processed + if t = .processed then 1 else 0 := by
  cases t <;> rfl

theorem Tick.skipped_apply (p : Progress) (t : Tick) :
    (t.apply p).skipped = p.skipped + if t = .skipped then 1 else 0 := by
  cases t <;> rfl

namespace Job

/-- A job counts the outcome of its own file. -/
def Sound (limit : Option Nat) (j : Job) : Prop :=
  ∀ o left, j.stage = .counting o left → o = Outcome.ofFile limit j.file ∧ left <:+ o.ticks

/-- How often a job has made a change of the progress. -/
def made (t : Tick) (j : Job) : Nat :=
  match j.stage with
  | .counting o left => o.ticks.count t - left.count t
  | _ => 0

variable {limit : Option Nat} {j : Job}

theorem Sound.step (h : j.Sound limit) (p : Progress) : (j.step limit p).1.Sound limit := by
  obtain ⟨file, stage⟩ := j
  intro o left hstage
  cases stage with
  | waiting => cases hp : p.isCancelled <;> simp [Job.step, hp] at hstage
  | admitted =>
      cases hstage
      exact ⟨rfl, List.suffix_refl _⟩
  | refused => cases hstage
  | counting o' left' =>
      obtain ⟨ho, hsuffix⟩ := h o' left' rfl
      cases left' with
      | nil =>
          cases hstage
          exact ⟨ho, hsuffix⟩
      | cons t left' =>
          cases hstage
          exact ⟨ho, (List.suffix_cons t left).trans hsuffix⟩

/-- A counter goes up as the job makes its changes. -/
theorem Sound.count_step {count : Progress → Nat} {t : Tick}
    (hcount : ∀ p u, count (Tick.apply p u) = count p + if u = t then 1 else 0)
    (h : j.Sound limit) (p : Progress) :
    count (j.step limit p).2 + j.made t = count p + (j.step limit p).1.made t := by
  obtain ⟨file, stage⟩ := j
  cases stage with
  | waiting => cases hp : p.isCancelled <;> simp [Job.step, made, hp]
  | admitted => simp [Job.step, made]
  | refused => simp [Job.step, made]
  | counting o left =>
      cases left with
      | nil => simp [Job.step, made]
      | cons u left =>
          have hle := (h o _ rfl).2.sublist.count_le t
          simp only [Job.step, made, hcount, List.count_cons, beq_iff_eq] at hle ⊢
          omega

/-- No job counts its file as skipped that has not counted it as done. -/
theorem Sound.made_le (h : j.Sound limit) :
    j.made .skipped ≤ j.made .processed ∧ j.made .processed ≤ 1 := by
  obtain ⟨file, stage⟩ := j
  cases stage with
  | waiting => exact ⟨le_rfl, zero_le_one⟩
  | admitted => exact ⟨le_rfl, zero_le_one⟩
  | refused => exact ⟨le_rfl, zero_le_one⟩
  | counting o left =>
      have hsuffix := (h o left rfl).2
      cases o <;>
        simp only [Outcome.ticks, List.suffix_cons_iff, List.suffix_nil] at hsuffix <;>
        rcases hsuffix with rfl | rfl | rfl | hsuffix <;>
        simp_all [made, Outcome.ticks]

theorem Sound.made_of_outcome? (h : j.Sound limit) {o : Outcome} (ho : j.outcome? = some o) :
    o = Outcome.ofFile limit j.file ∧ j.made .processed = 1 ∧
      j.made .skipped = if o.skip?.isSome then 1 else 0 := by
  obtain ⟨file, stage⟩ := j
  cases stage with
  | waiting => cases ho
  | admitted => cases ho
  | refused => cases ho
  | counting o' left =>
      cases left with
      | cons t left => cases ho
      | nil =>
          cases ho
          refine ⟨(h o [] rfl).1, ?_⟩
          cases o <;> simp [made, Outcome.ticks, Outcome.skip?]

/-- Jobs that are all done have the outcomes of their files, and have counted them. -/
theorem Sound.made_of_forall {jobs : List Job} (h : ∀ j ∈ jobs, j.Sound limit)
    (hdone : ∀ j ∈ jobs, j.outcome?.isSome = true) :
    let outcomes := (jobs.map Job.file).map (Outcome.ofFile limit)
    jobs.filterMap outcome? = outcomes ∧ (jobs.map (made .processed)).sum = jobs.length ∧
      (jobs.map (made .skipped)).sum = outcomes.countP (·.skip?.isSome) := by
  induction jobs with
  | nil => exact ⟨rfl, rfl, rfl⟩
  | cons j rest ih =>
      obtain ⟨o, ho⟩ := Option.isSome_iff_exists.1 (hdone j (by simp))
      obtain ⟨hfile, hprocessed, hskipped⟩ := (h j (by simp)).made_of_outcome? ho
      obtain ⟨houtcomes, hlength, hcount⟩ :=
        ih (fun k hk => h k (by simp [hk])) (fun k hk => hdone k (by simp [hk]))
      refine ⟨?_, ?_, ?_⟩
      · simp [ho, houtcomes, hfile]
      · simp [hprocessed, hlength, add_comm]
      · simp [hskipped, hcount, hfile, List.countP_cons, add_comm]

/-- A job that is done was not refused. -/
theorem isRefused_of_outcome? (h : j.outcome?.isSome = true) : j.isRefused = false := by
  obtain ⟨file, stage⟩ := j
  cases stage with
  | refused => cases h
  | _ => rfl

end Job

/-- What is collected when no more is to be done. -/
theorem collect?_cases {jobs : List Job} {outcomes : Except Error (List Outcome)}
    (h : collect? jobs = some outcomes) :
    (jobs.any Job.isRefused = false ∧ (∀ j ∈ jobs, j.outcome?.isSome = true) ∧
        outcomes = .ok (jobs.filterMap Job.outcome?)) ∨
      (jobs.any Job.isRefused = true ∧ outcomes = .error .cancelled) := by
  unfold collect? at h
  split at h
  · rename_i hall
    have hdone := List.all_eq_true.1 hall
    have hrefused : jobs.any Job.isRefused = false := by
      simpa using fun j hj => Job.isRefused_of_outcome? (hdone j hj)
    cases h
    exact Or.inl ⟨hrefused, hdone, rfl⟩
  · split at h
    · rename_i hrefused
      cases h
      exact Or.inr ⟨(Bool.and_eq_true_iff.1 hrefused).1, rfl⟩
    · cases h

/-! ## The jobs and the counters -/

/-- What is true of the jobs of a scan and of the progress that they share. -/
structure Crew (s : Scan) (p : Progress) (jobs : List Job) : Prop where
  /-- There is a job for each file, in order. -/
  files : jobs.map Job.file = s.files
  /-- Each counts the outcome of its file. -/
  sound : ∀ j ∈ jobs, j.Sound s.maxFileBytes
  /-- The total is the number of jobs. -/
  total : p.total = jobs.length
  /-- The files that are done are counted. -/
  processed : p.processed = (jobs.map (Job.made .processed)).sum
  /-- So are the skipped ones. -/
  skipped : p.skipped = (jobs.map (Job.made .skipped)).sum

namespace Crew

variable {s : Scan} {p : Progress} {jobs : List Job}

theorem start (h : p.counters = (s.files.length, 0, 0)) :
    Crew s p (s.files.map (⟨·, .waiting⟩)) := by
  simp only [Progress.counters, Prod.mk.injEq] at h
  obtain ⟨htotal, hprocessed, hskipped⟩ := h
  refine ⟨?_, ?_, ?_, ?_, ?_⟩
  · simp [Function.comp_def]
  · simp [Job.Sound]
  · simp [htotal]
  · simp [hprocessed, Function.comp_def, Job.made]
  · simp [hskipped, Function.comp_def, Job.made]

theorem cancel (h : Crew s p jobs) : Crew s p.cancel jobs :=
  ⟨h.files, h.sound, h.total, h.processed, h.skipped⟩

/-- The step of one job keeps the counters right. -/
theorem step {before after : List Job} {j : Job} (h : Crew s p (before ++ j :: after)) :
    Crew s (j.step s.maxFileBytes p).2 (before ++ (j.step s.maxFileBytes p).1 :: after) := by
  have hj : j.Sound s.maxFileBytes := h.sound j (by simp)
  have hprocessed := hj.count_step Tick.processed_apply p
  have hskipped := hj.count_step Tick.skipped_apply p
  refine ⟨?_, ?_, ?_, ?_, ?_⟩
  · simpa using h.files
  · intro k hk
    rcases List.mem_append.1 hk with hk | hk
    · exact h.sound k (List.mem_append_left _ hk)
    rcases List.mem_cons.1 hk with rfl | hk
    · exact hj.step p
    · exact h.sound k (List.mem_append_right _ (List.mem_cons_of_mem _ hk))
  · simpa using h.total
  · have := h.processed
    simp only [List.map_append, List.map_cons, List.sum_append, List.sum_cons] at this ⊢
    omega
  · have := h.skipped
    simp only [List.map_append, List.map_cons, List.sum_append, List.sum_cons] at this ⊢
    omega

theorem ordered (h : Crew s p jobs) : p.Ordered := by
  constructor
  · rw [h.skipped, h.processed]
    exact List.sum_le_sum fun j hj => (h.sound j hj).made_le.1
  · rw [h.processed, h.total]
    have hle := List.sum_le_sum fun j hj => (h.sound j hj).made_le.2
    simpa using hle

/-- When all jobs are done, all files are counted. -/
theorem done (h : Crew s p jobs) (hdone : ∀ j ∈ jobs, j.outcome?.isSome = true) :
    s.assemble (jobs.filterMap Job.outcome?) = s.result ∧
      p.Counts (s.files.map (Outcome.ofFile s.maxFileBytes)) := by
  obtain ⟨houtcomes, hprocessed, hskipped⟩ := Job.Sound.made_of_forall h.sound hdone
  rw [h.files] at houtcomes hskipped
  refine ⟨by rw [houtcomes, Scan.result], ?_, ?_, ?_⟩
  · rw [h.total, ← h.files, List.length_map, List.length_map]
  · rw [h.processed, hprocessed, h.total]
  · rw [h.skipped, hskipped]

end Crew

/-! ## The whole scan -/

theorem Scan.finish_progress (s : Scan) (p : Progress) :
    (s.finish p).progress = (analyseAll s.maxFileBytes p s.files).2.finish := by
  unfold finish
  split <;> rename_i heq <;> rw [heq]

/-- The skipped files of a model are those that could not be visited, and as many as the outcomes
that skip one. -/
theorem Scan.length_skipped_result (s : Scan) :
    s.result.skipped.length = s.unvisited.length +
      (s.files.map (Outcome.ofFile s.maxFileBytes)).countP (·.skip?.isSome) := by
  simp [result, assemble, ProjectModel.assemble, List.length_filterMap_eq_countP,
    Function.comp_def]

namespace Build

/-- Whether a scan is taking the counters back to zero.  Then they may be out of order: the total is
already that of the new scan, and the others are still those of an earlier one. -/
def isResetting (b : Build) : Bool :=
  match b.phase with
  | .found _ left => left.head?.any Store.resets
  | _ => false

section

variable (fs : FileSystem) (options : ScanOptions) (root : String)

/-- What is true, at any time, of a scan that began with the progress `p₀`; the truth value says
whether a step has found the flag set.  The files are those that would have been found at the
beginning, since a flag that is not set when it is read was not set before. -/
inductive Sound (p₀ : Progress) : Bool → Build → Prop where
  | checking {p : Progress} (flag : p₀.isCancelled = true → p.isCancelled = true)
      (counters : p.counters = p₀.counters) : Sound p₀ false ⟨p, .checking⟩
  | found {p : Progress} {s : Scan} {made left : List Store}
      (find : Scan.find fs options root p₀ = .ok s)
      (stores : made ++ left = Progress.stores s.files.length)
      (counters : p.counters = (made.foldl Store.apply p₀).counters) :
      Sound p₀ false ⟨p, .found s left⟩
  | analysing {p : Progress} {s : Scan} {jobs : List Job}
      (find : Scan.find fs options root p₀ = .ok s) (crew : Crew s p jobs) :
      Sound p₀ (jobs.any Job.isRefused) ⟨p, .analysing s jobs⟩
  | cancelled {p : Progress} (ordered : p₀.Ordered → p.Ordered) :
      Sound p₀ true ⟨p, .returned (.error .cancelled)⟩
  | failed {p : Progress} {e : Error} (he : e ≠ .cancelled)
      (find : Scan.find fs options root p₀ = .error e) (ordered : p₀.Ordered → p.Ordered) :
      Sound p₀ false ⟨p, .returned (.error e)⟩
  | completed {p : Progress} {s : Scan} (find : Scan.find fs options root p₀ = .ok s)
      (counts : p.Counts (s.files.map (Outcome.ofFile s.maxFileBytes))) :
      Sound p₀ false ⟨p, .returned (.ok s.result)⟩

end

variable {fs : FileSystem} {options : ScanOptions} {root : String} {p₀ : Progress}

/-- Calling a scan off changes nothing but the flag. -/
theorem Sound.cancel {seen : Bool} {p : Progress} {phase : Phase}
    (h : Sound fs options root p₀ seen ⟨p, phase⟩) :
    Sound fs options root p₀ seen ⟨p.cancel, phase⟩ := by
  cases h with
  | checking flag counters => exact .checking (fun _ => rfl) counters
  | found find stores counters => exact .found find stores counters
  | analysing find crew => exact .analysing find crew.cancel
  | cancelled ordered => exact .cancelled ordered
  | failed he find ordered => exact .failed he find ordered
  | completed find counts =>
      exact .completed find ⟨counts.total, counts.processed, counts.skipped⟩

/-- The files of a scan are those that its first progress lets be found. -/
theorem find_of_flag {p : Progress} {s : Scan}
    (flag : p₀.isCancelled = true → p.isCancelled = true)
    (hfind : Scan.find fs options root p = .ok s) : Scan.find fs options root p₀ = .ok s := by
  obtain ⟨place, hroot, hp, rfl⟩ := Scan.find_eq_ok_iff.1 hfind
  have hp₀ : p₀.isCancelled = false := Bool.eq_false_iff.2 fun h => by simp [flag h] at hp
  exact Scan.find_eq_ok_iff.2 ⟨place, hroot, hp₀, rfl⟩

/-- **A step keeps what is true of a scan.** -/
theorem Sound.step {seen seen' : Bool} {b b' : Build} (h : Sound fs options root p₀ seen b)
    (hstep : Step fs options root b seen' b') : Sound fs options root p₀ (seen || seen') b' := by
  cases hstep with
  | idle => rwa [Bool.or_false]
  | cancel p phase => simpa using h.cancel
  | fail p he hfind =>
      cases h with
      | checking flag counters => exact .failed he (hfind p₀) (Progress.ordered_congr counters).2
  | refuse hp =>
      cases h with
      | checking flag counters => exact .cancelled (Progress.ordered_congr counters).2
  | find hfind =>
      cases h with
      | checking flag counters =>
          exact .found (find_of_flag flag hfind) (List.nil_append _) counters
  | store p s store left =>
      cases h with
      | @found _ _ made _ find stores counters =>
          refine .found find ((List.append_cons made store left).symm.trans stores) ?_
          rw [List.foldl_append]
          exact Store.counters_apply counters store
  | start p s =>
      cases h with
      | @found _ _ made _ find stores counters =>
          have hrefused : (s.files.map (⟨·, .waiting⟩)).any Job.isRefused = false := by
            simp [Job.isRefused]
          rw [Bool.or_false, ← hrefused]
          refine .analysing find (.start ?_)
          obtain rfl : made = Progress.stores s.files.length := by rwa [List.append_nil] at stores
          exact counters
  | work p s before j after =>
      cases h with
      | analysing find crew =>
          -- The jobs themselves remember whether one of them found the flag set.
          have hrefused : ((before ++ j :: after).any Job.isRefused ||
              (p.isCancelled && j.isWaiting)) =
                (before ++ (j.step s.maxFileBytes p).1 :: after).any Job.isRefused := by
            simp [Job.step_isRefused, Bool.or_assoc, Bool.or_comm]
          rw [hrefused]
          exact .analysing find crew.step
  | collect p s hcollect =>
      cases h with
      | analysing find crew =>
          rw [Bool.or_false]
          rcases collect?_cases hcollect with ⟨hrefused, hdone, rfl⟩ | ⟨hrefused, rfl⟩
          · obtain ⟨hresult, counts⟩ := crew.done hdone
            rw [hrefused, Except.map, hresult]
            exact .completed find ⟨counts.total, counts.processed, counts.skipped⟩
          · rw [hrefused]
            exact .cancelled fun _ => crew.ordered

/-- What is true of a scan after any schedule. -/
theorem Sound.run {seen : Bool} {b : Build} (h : Sound fs options root p₀ seen b)
    (schedule : List Turn) :
    Sound fs options root p₀ (seen || b.everSees fs options root schedule)
      (b.run fs options root schedule) := by
  induction schedule generalizing seen b with
  | nil => simpa [everSees] using h
  | cons turn later ih =>
      have hlater := ih (h.step (step_cases b turn))
      rwa [Bool.or_assoc] at hlater

theorem sound_run_begin (p : Progress) (schedule : List Turn) :
    Sound fs options root p ((begin p).everSees fs options root schedule)
      ((begin p).run fs options root schedule) := by
  have h : Sound fs options root p false (begin p) := .checking id rfl
  simpa using h.run schedule

/-! ## What the invariant says -/

section

variable {seen : Bool} {b : Build} {r : Except Error ProjectModel}

theorem Sound.ordered_of_analysing {s : Scan} {jobs : List Job}
    (h : Sound fs options root p₀ seen b) (hphase : b.phase = .analysing s jobs) :
    b.progress.Ordered := by
  cases h with
  | analysing find crew => exact crew.ordered
  | _ => cases hphase

theorem Sound.ordered (h : Sound fs options root p₀ seen b) (hp₀ : p₀.Ordered)
    (hresetting : b.isResetting = false) : b.progress.Ordered := by
  cases h with
  | checking flag counters => exact (Progress.ordered_congr counters).2 hp₀
  | found find stores counters =>
      exact (Progress.ordered_congr counters).2 (Store.ordered_foldl hp₀ stores hresetting)
  | analysing find crew => exact crew.ordered
  | cancelled ordered => exact ordered hp₀
  | failed he find ordered => exact ordered hp₀
  | completed find counts => exact counts.ordered

/-- Where nothing has been counted, there is nothing to reset. -/
theorem Sound.ordered_of_zero (h : Sound fs options root p₀ seen b)
    (hp₀ : p₀.counters.2 = (0, 0)) : b.progress.Ordered := by
  cases hresetting : b.isResetting with
  | false => exact h.ordered (Progress.ordered_of_zero hp₀) hresetting
  | true =>
      cases h with
      | found find stores counters =>
          refine Progress.ordered_of_zero ?_
          rw [counters]
          exact Store.zero_foldl hp₀ _
      | _ => cases hresetting

/-- What a scan can have returned. -/
theorem Sound.result_cases (h : Sound fs options root p₀ seen b) (hr : b.result? = some r) :
    (seen = true ∧ r = .error .cancelled) ∨
      (seen = false ∧ ∃ e, e ≠ .cancelled ∧ Scan.find fs options root p₀ = .error e ∧
        r = .error e) ∨
      (seen = false ∧ ∃ s, Scan.find fs options root p₀ = .ok s ∧ r = .ok s.result ∧
        b.progress.Counts (s.files.map (Outcome.ofFile s.maxFileBytes))) := by
  cases h with
  | checking => cases hr
  | found => cases hr
  | analysing find crew => cases hr
  | cancelled ordered =>
      cases hr
      exact Or.inl ⟨rfl, rfl⟩
  | failed he find ordered =>
      cases hr
      exact Or.inr (Or.inl ⟨rfl, _, he, find, rfl⟩)
  | completed find counts =>
      cases hr
      exact Or.inr (Or.inr ⟨rfl, _, find, rfl, counts⟩)

theorem Sound.result_eq_cancelled_iff (h : Sound fs options root p₀ seen b)
    (hr : b.result? = some r) : r = .error .cancelled ↔ seen = true := by
  rcases h.result_cases hr with ⟨rfl, rfl⟩ | ⟨rfl, e, he, -, rfl⟩ | ⟨rfl, s, -, rfl, -⟩
  · simp
  · simpa using he
  · simp

theorem Sound.result_eq_run (h : Sound fs options root p₀ seen b) (hr : b.result? = some r)
    (hne : r ≠ .error .cancelled) : r = (Scan.run fs options root p₀).model := by
  rcases h.result_cases hr with ⟨-, hr⟩ | ⟨-, e, -, hfind, rfl⟩ | ⟨-, s, hfind, rfl, -⟩
  · exact absurd hr hne
  · rw [Scan.run, hfind]
  · obtain ⟨-, -, hp, -⟩ := Scan.find_eq_ok_iff.1 hfind
    rw [Scan.run, hfind]
    exact (Scan.finish_start_model hp).symm

/-- From a root that can be scanned, a scan returns a model, or that it was called off. -/
theorem Sound.result_of_isReadable (h : Sound fs options root p₀ seen b)
    (hr : b.result? = some r) (hroot : fs.isReadable root = true) :
    r = .error .cancelled ∨ (p₀.isCancelled = false ∧ ∃ m, r = .ok m) := by
  obtain ⟨hroot', -⟩ | ⟨-, s', hfind'⟩ := Scan.find_cases fs options root
  · cases hroot.symm.trans hroot'
  rcases h.result_cases hr with ⟨-, rfl⟩ | ⟨-, e, he, hfind, rfl⟩ | ⟨-, s, hfind, rfl, -⟩
  · exact Or.inl rfl
  · rw [hfind' p₀] at hfind
    split at hfind
    · cases hfind
      exact absurd rfl he
    · cases hfind
  · obtain ⟨-, -, hp, -⟩ := Scan.find_eq_ok_iff.1 hfind
    exact Or.inr ⟨hp, _, rfl⟩

theorem result_of_isCancelled {p : Progress} {schedule : List Turn}
    (hp : p.isCancelled = true) (hroot : fs.isReadable root = true)
    (hr : ((begin p).run fs options root schedule).result? = some r) : r = .error .cancelled := by
  rcases (sound_run_begin p schedule).result_of_isReadable hr hroot with hr | ⟨hflag, -⟩
  · exact hr
  · cases hflag.symm.trans hp

theorem Sound.counts_of_model {m : ProjectModel} (h : Sound fs options root p₀ seen b)
    (hr : b.result? = some (.ok m)) :
    ∃ place, fs.locate root = .ok place ∧
      b.progress.Counts
        ((fs.walk options.walk place).files.map (Outcome.ofFile options.maxFileBytes)) ∧
      m.skipped.length = (fs.walk options.walk place).skipped.length + b.progress.skipped := by
  rcases h.result_cases hr with ⟨-, hr⟩ | ⟨-, e, -, -, hr⟩ | ⟨-, s, hfind, hr, hcounts⟩
  · cases hr
  · cases hr
  · cases hr
    obtain ⟨place, hroot, -, rfl⟩ := Scan.find_eq_ok_iff.1 hfind
    refine ⟨place, (Scan.checkRoot_eq_ok_iff.1 hroot).1, hcounts, ?_⟩
    rw [hcounts.skipped, Scan.length_skipped_result]
    rfl

end

/-! ## The flag -/

@[simp] theorem lead_isCancelled (b : Build) :
    (b.lead fs options root).progress.isCancelled = b.progress.isCancelled := by
  unfold lead
  split
  · split <;> rfl
  · exact Store.apply_isCancelled _ _
  · rfl
  · split <;> rfl
  · rfl

@[simp] theorem work_isCancelled (b : Build) (i : Nat) :
    (b.work i).progress.isCancelled = b.progress.isCancelled := by
  unfold work
  split
  · split
    · exact Job.step_isCancelled _ _ _
    · rfl
  · rfl

theorem step_isCancelled (b : Build) (turn : Turn) :
    (b.step fs options root turn).progress.isCancelled =
      (b.progress.isCancelled || turn == .cancel) := by
  cases turn <;> simp [step, Progress.cancel]

/-- The flag is set by those who call the scan off, and never taken back. -/
theorem run_isCancelled (b : Build) (schedule : List Turn) :
    (b.run fs options root schedule).progress.isCancelled =
      (b.progress.isCancelled || schedule.contains .cancel) := by
  induction schedule generalizing b with
  | nil => simp
  | cons turn later ih =>
      rw [run_cons, ih, step_isCancelled, List.contains_cons, Bool.or_assoc, BEq.comm]

theorem isCancelled_of_sees {b : Build} {turn : Turn} (h : b.sees fs root turn = true) :
    b.progress.isCancelled = true := by
  cases turn with
  | cancel => cases h
  | lead =>
      simp only [sees] at h
      split at h
      · exact (Bool.and_eq_true_iff.1 h).1
      · cases h
  | work i =>
      simp only [sees] at h
      split at h
      · exact (Bool.and_eq_true_iff.1 h).1
      · cases h

/-- Nobody finds the flag set before somebody has set it. -/
theorem run_isCancelled_of_everSees {b : Build} {schedule : List Turn}
    (h : b.everSees fs options root schedule = true) :
    (b.run fs options root schedule).progress.isCancelled = true := by
  induction schedule generalizing b with
  | nil => cases h
  | cons turn later ih =>
      rcases Bool.or_eq_true_iff.1 h with hsees | hlater
      · rw [run_isCancelled, isCancelled_of_sees hsees, Bool.true_or]
      · exact ih hlater

/-! ## One worker -/


/-- The job of a file when it is done. -/
def doneJob (s : Scan) (file : WalkedFile) : Job :=
  ⟨file, .counting (Outcome.ofFile s.maxFileBytes file) []⟩

/-- One worker does one job from its beginning to its end. -/
theorem run_job {p : Progress} (hp : p.isCancelled = false) (s : Scan) (before : List Job)
    (file : WalkedFile) (after : List Job) :
    (⟨p, .analysing s (before ++ ⟨file, .waiting⟩ :: after)⟩ : Build).run fs options root
        (List.replicate 5 (.work before.length)) =
      ⟨(Outcome.ofFile s.maxFileBytes file).count p,
        .analysing s (before ++ doneJob s file :: after)⟩ := by
  cases ho : Outcome.ofFile s.maxFileBytes file <;>
    simp [List.replicate, step, work_append, Job.step, doneJob, hp, ho, Outcome.ticks,
      ← Outcome.foldl_ticks]

theorem run_jobs (s : Scan) (files : List WalkedFile) :
    ∀ (before : List Job) {p : Progress}, p.isCancelled = false → ∃ schedule,
      (⟨p, .analysing s (before ++ files.map (⟨·, .waiting⟩))⟩ : Build).run fs options root
          schedule =
        ⟨(Scan.analyseAll s.maxFileBytes p files).2,
          .analysing s (before ++ files.map (doneJob s))⟩ := by
  induction files with
  | nil => exact fun before p _ => ⟨[], rfl⟩
  | cons file rest ih =>
      intro before p hp
      have hcount := (Scan.isCancelled_count p (Outcome.ofFile s.maxFileBytes file)).trans hp
      obtain ⟨schedule, hrest⟩ := ih (before ++ [doneJob s file]) hcount
      refine ⟨List.replicate 5 (.work before.length) ++ schedule, ?_⟩
      rw [run_append, List.map_cons, run_job hp]
      simp only [List.append_assoc, List.singleton_append] at hrest
      rw [Scan.analyseAll, if_neg (by simp [hp])]
      exact hrest

theorem lead_doneJobs (s : Scan) (p : Progress) :
    (⟨p, .analysing s (s.files.map (doneJob s))⟩ : Build).lead fs options root =
      ⟨p.finish, .returned (.ok s.result)⟩ := by
  have hall : (s.files.map (doneJob s)).all (·.outcome?.isSome) = true := by
    simp [doneJob, Job.outcome?]
  simp only [lead, collect?, hall, if_true, Except.map, Scan.result]
  simp [List.filterMap_map, Function.comp_def, doneJob, Job.outcome?]

theorem run_stores (p : Progress) (s : Scan) (left : List Store) :
    (⟨p, .found s left⟩ : Build).run fs options root (List.replicate left.length .lead) =
      ⟨left.foldl Store.apply p, .found s []⟩ := by
  induction left generalizing p with
  | nil => rfl
  | cons store left ih => exact ih (store.apply p)

/-- **The scan by one worker is one of the schedules.** -/
theorem run_oneWorker (p : Progress) : ∃ schedule,
    (begin p).run fs options root schedule =
      ⟨(Scan.run fs options root p).progress,
        .returned (Scan.run fs options root p).model⟩ := by
  cases hfind : Scan.find fs options root p with
  | error e => exact ⟨[.lead], by simp [step, lead, begin, Scan.run, hfind]⟩
  | ok s =>
      obtain ⟨-, -, hp, -⟩ := Scan.find_eq_ok_iff.1 hfind
      obtain ⟨schedule, hjobs⟩ := @run_jobs fs options root s s.files [] (s.start p) hp
      have hfound : (begin p).step fs options root .lead =
          ⟨p, .found s (Progress.stores s.files.length)⟩ := by
        simp [begin, step, lead, hfind]
      have hstores : (⟨p, .found s (Progress.stores s.files.length)⟩ : Build).run fs options root
          (List.replicate 5 .lead) = ⟨s.start p, .found s []⟩ := by
        rw [Scan.start, ← Progress.foldl_stores]
        exact run_stores p s _
      have hstarted : (⟨s.start p, .found s []⟩ : Build).step fs options root .lead =
          ⟨s.start p, .analysing s ([] ++ s.files.map (⟨·, .waiting⟩))⟩ := rfl
      refine ⟨.lead :: (List.replicate 5 .lead ++ .lead :: (schedule ++ [.lead])), ?_⟩
      rw [run_cons, hfound, run_append, hstores]
      rw [run_cons, hstarted, run_append, hjobs, run_cons, run_nil]
      simp only [step, List.nil_append, lead_doneJobs, Scan.run, hfind,
        Scan.finish_start_model hp, Scan.finish_progress]

end Build

/-! ## All schedules -/

/-- A scan with the schedule by which it went on. -/
structure Attempt where
  /-- The files. -/
  fs : FileSystem
  /-- How the scan was made. -/
  options : ScanOptions
  /-- Its root. -/
  root : String
  /-- The turns that were taken. -/
  schedule : List Turn

/-- How far a scan comes that begins with a progress. -/
def Attempt.run (a : Attempt) (p : Progress) : Build :=
  (Build.begin p).run a.fs a.options a.root a.schedule

/-- The progress after scans that used it, one after the other. -/
def Progress.after (p : Progress) (history : List Attempt) : Progress :=
  history.foldl (fun p a => (a.run p).progress) p

/-- None of the scans that used a progress was given up while it took the counters back to zero. -/
def Progress.Settles (p : Progress) : List Attempt → Prop
  | [] => True
  | a :: later => (a.run p).isResetting = false ∧ (a.run p).progress.Settles later

theorem Progress.after_isCancelled {p : Progress} (hp : p.isCancelled = true)
    (history : List Attempt) : (p.after history).isCancelled = true := by
  induction history generalizing p with
  | nil => exact hp
  | cons a later ih => exact ih (by simp [Attempt.run, Build.run_isCancelled, Build.begin, hp])

theorem Progress.after_ordered {p : Progress} (hp : p.Ordered) {history : List Attempt}
    (hhistory : p.Settles history) : (p.after history).Ordered := by
  induction history generalizing p with
  | nil => exact hp
  | cons a later ih =>
      exact ih ((Build.sound_run_begin p a.schedule).ordered hp hhistory.1) hhistory.2

namespace Build

/-- What is true of all schedules of a scan that begins with the progress `p`. -/
structure Refines (fs : FileSystem) (options : ScanOptions) (root : String) (p : Progress) :
    Prop where
  /-- There are schedules that keep nobody waiting for ever, … -/
  exists_fair : ∃ turns, (begin p).Fair fs options root turns
  /-- … and each of them brings the scan to its end. -/
  returns : ∀ turns, (begin p).Fair fs options root turns →
    ∃ k, ((begin p).upTo fs options root turns k).result?.isSome = true
  /-- The scan returns that it was called off exactly if one of its steps found that, … -/
  cancelled_iff : ∀ schedule r, ((begin p).run fs options root schedule).result? = some r →
    (r = .error .cancelled ↔ (begin p).everSees fs options root schedule = true)
  /-- … and otherwise what one worker returns, … -/
  same : ∀ schedule r, ((begin p).run fs options root schedule).result? = some r →
    r ≠ .error .cancelled → r = (Scan.run fs options root p).model
  /-- … which is a model if the root can be scanned. -/
  model : fs.isReadable root = true → ∀ schedule r,
    ((begin p).run fs options root schedule).result? = some r →
      r ≠ .error .cancelled → ∃ m, r = .ok m
  /-- One worker alone follows one of the schedules. -/
  oneWorker : ∃ schedule, (begin p).run fs options root schedule =
    ⟨(Scan.run fs options root p).progress, .returned (Scan.run fs options root p).model⟩
  /-- The counters keep their order at every step, also when the progress is used again, but for the
  moments at which a scan takes them back to zero; … -/
  ordered : p.Ordered → ∀ history, p.Settles history → ∀ schedule,
    ((begin (p.after history)).run fs options root schedule).isResetting = false →
      ((begin (p.after history)).run fs options root schedule).progress.Ordered
  /-- … where nothing has been counted before, they keep it even then, … -/
  ordered_of_zero : p.processed = 0 → p.skipped = 0 → ∀ schedule,
    ((begin p).run fs options root schedule).progress.Ordered
  /-- … and while files are analysed they are in order whatever they were before. -/
  ordered_analysing : ∀ schedule s jobs,
    ((begin p).run fs options root schedule).phase = .analysing s jobs →
      ((begin p).run fs options root schedule).progress.Ordered
  /-- With a model, all files are done, and the skipped ones are counted as such; the model also
  lists what the walk could not visit. -/
  complete : ∀ schedule m, ((begin p).run fs options root schedule).result? = some (.ok m) →
    ∃ place, fs.locate root = .ok place ∧
      ((begin p).run fs options root schedule).progress.Counts
        ((fs.walk options.walk place).files.map (Outcome.ofFile options.maxFileBytes)) ∧
      m.skipped.length = (fs.walk options.walk place).skipped.length +
        ((begin p).run fs options root schedule).progress.skipped
  /-- The flag is set by those who call the scan off, and never taken back. -/
  flag : ∀ schedule, ((begin p).run fs options root schedule).progress.isCancelled =
    (p.isCancelled || schedule.contains .cancel)
  /-- No step finds it set before that. -/
  flag_of_everSees : ∀ schedule, (begin p).everSees fs options root schedule = true →
    ((begin p).run fs options root schedule).progress.isCancelled = true
  /-- Once it is set, no later scan that uses the progress returns anything else, … -/
  later : p.isCancelled = true → fs.isReadable root = true → ∀ history schedule r,
    ((begin (p.after history)).run fs options root schedule).result? = some r →
      r = .error .cancelled
  /-- … and that is what it does return. -/
  later_returns : p.isCancelled = true → fs.isReadable root = true → ∀ history turns,
    (begin (p.after history)).Fair fs options root turns →
      ∃ k, ((begin (p.after history)).upTo fs options root turns k).result? =
        some (.error .cancelled)

end Build

/-- **However the workers take turns, the scan is the same.** -/
theorem build_refines_run (fs : FileSystem) (options : ScanOptions) (root : String)
    (p : Progress) : Build.Refines fs options root p where
  exists_fair := Build.exists_fair _
  returns := fun _ hfair => Build.exists_result_of_fair hfair
  cancelled_iff := fun schedule _ hr =>
    (Build.sound_run_begin p schedule).result_eq_cancelled_iff hr
  same := fun schedule _ hr hne => (Build.sound_run_begin p schedule).result_eq_run hr hne
  model := by
    intro hroot schedule r hr hne
    exact (((Build.sound_run_begin p schedule).result_of_isReadable hr hroot).resolve_left hne).2
  oneWorker := Build.run_oneWorker p
  ordered := fun hp _ hhistory schedule =>
    (Build.sound_run_begin _ schedule).ordered (Progress.after_ordered hp hhistory)
  ordered_of_zero := fun hprocessed hskipped schedule =>
    (Build.sound_run_begin p schedule).ordered_of_zero (Prod.ext hprocessed hskipped)
  ordered_analysing := fun schedule _ _ hphase =>
    (Build.sound_run_begin p schedule).ordered_of_analysing hphase
  complete := fun schedule _ hr => (Build.sound_run_begin p schedule).counts_of_model hr
  flag := Build.run_isCancelled _
  flag_of_everSees := fun _ => Build.run_isCancelled_of_everSees
  later := fun hp hroot history _ _ hr =>
    Build.result_of_isCancelled (Progress.after_isCancelled hp history) hroot hr
  later_returns := by
    intro hp hroot history turns hfair
    obtain ⟨k, hk⟩ := Build.exists_result_of_fair hfair
    obtain ⟨r, hr⟩ := Option.isSome_iff_exists.1 hk
    have hcancelled := Build.result_of_isCancelled (Progress.after_isCancelled hp history) hroot hr
    exact ⟨k, hr.trans (congrArg some hcancelled)⟩

/-- A file that is too large and one that is empty. -/
def twoFiles : FileSystem where
  top := "/w"
  tree := .dir none [("large.txt", .file ⟨#[48, 49]⟩), ("small.txt", .file ⟨#[]⟩)]
  workingDir := []

/-- The scan of the two files. -/
def twoFilesScan : Scan :=
  ⟨"/w", [⟨["large.txt"], ⟨#[48, 49]⟩⟩, ⟨["small.txt"], ⟨#[]⟩⟩], [], none, some 1⟩

theorem find_twoFiles :
    Scan.find twoFiles ⟨.empty, false, some 1⟩ "/w" .fresh = .ok twoFilesScan := by
  have hroot : Scan.checkRoot twoFiles "/w" = .ok ⟨[], twoFiles.tree⟩ :=
    Scan.checkRoot_eq_ok_iff.2 ⟨rfl, rfl, by decide +kernel⟩
  have hvisits : Walk.visits ⟨.empty, false⟩ (twoFiles.walkRoot "/w" ⟨[], twoFiles.tree⟩)
      twoFiles.tree = twoFilesScan.files.map .file :=
    List.mergeSort_of_pairwise (by decide +kernel)
  have hfiles : (twoFilesScan.files.mergeSort fun a b => a.key ≤ b.key) = twoFilesScan.files :=
    List.mergeSort_of_pairwise (by decide +kernel)
  have hwalk : twoFiles.walk ⟨.empty, false⟩ ⟨[], twoFiles.tree⟩ = ⟨twoFilesScan.files, []⟩ := by
    show Walked.ofVisits (Walk.visits _ (twoFiles.walkRoot "/w" _) _) = _
    rw [hvisits]
    exact congrArg₂ Walked.mk hfiles List.mergeSort_nil
  refine Scan.find_eq_ok_iff.2 ⟨_, hroot, rfl, ?_⟩
  rw [Scan.ofPlace, ScanOptions.walk, hwalk]
  rfl

/-- A schedule by which both jobs have read the flag when the scan is called off. -/
def calledOffLate : List Turn :=
  [.lead, .lead, .lead, .lead, .lead, .lead, .lead, .work 1, .work 0, .cancel, .work 1, .work 0,
    .work 0, .work 1, .work 0, .work 1, .work 0, .lead]

/-- A schedule by which one job has read the flag when the scan is called off. -/
def calledOffBetween : List Turn :=
  [.lead, .lead, .lead, .lead, .lead, .lead, .lead, .work 1, .cancel, .work 0, .work 1, .work 1,
    .work 1, .lead]

/-- Called off late, the scan returns its model all the same, but no later scan does; called off
between the two jobs, it returns none. -/
theorem build_refines_run_twoFiles :
    let options : ScanOptions := ⟨.empty, false, some 1⟩
    let late := (Build.begin .fresh).run twoFiles options "/w" calledOffLate
    let between := (Build.begin .fresh).run twoFiles options "/w" calledOffBetween
    (∃ m, late.result? = some (.ok m) ∧ (Scan.run twoFiles options "/w" .fresh).model = .ok m) ∧
      between.result? = some (.error .cancelled) ∧ between.progress.Ordered ∧
      ∀ schedule r, ((Build.begin late.progress).run twoFiles options "/w" schedule).result? =
        some r → r = .error .cancelled := by
  intro options late between
  have h := build_refines_run twoFiles options "/w" .fresh
  have hfound : (Build.begin .fresh).step twoFiles options "/w" .lead =
      ⟨.fresh, .found twoFilesScan (Progress.stores twoFilesScan.files.length)⟩ := by
    simp [options, Build.step, Build.lead, Build.begin, find_twoFiles]
  have hroot : twoFiles.isReadable "/w" = true := rfl
  refine ⟨?_, ?_, h.ordered_of_zero rfl rfl calledOffBetween, ?_⟩
  · have hsome : late.result?.isSome = true := by
      simp only [late, calledOffLate, Build.run_cons, hfound]
      decide +kernel
    have hsees : (Build.begin .fresh).everSees twoFiles options "/w" calledOffLate = false := by
      simp only [calledOffLate, Build.everSees, hfound]
      decide +kernel
    obtain ⟨r, hr⟩ := Option.isSome_iff_exists.1 hsome
    have hne : r ≠ .error .cancelled := fun hr' => by
      simpa [hsees] using (h.cancelled_iff _ r hr).1 hr'
    obtain ⟨m, rfl⟩ := h.model hroot _ r hr hne
    exact ⟨m, hr, (h.same _ _ hr hne).symm⟩
  · have hsome : between.result?.isSome = true := by
      simp only [between, calledOffBetween, Build.run_cons, hfound]
      decide +kernel
    have hsees : (Build.begin .fresh).everSees twoFiles options "/w" calledOffBetween = true := by
      simp only [calledOffBetween, Build.everSees, hfound]
      decide +kernel
    obtain ⟨r, hr⟩ := Option.isSome_iff_exists.1 hsome
    rw [hr, (h.cancelled_iff _ r hr).2 hsees]
  · have hflag : late.progress.isCancelled = true := h.flag calledOffLate
    exact (build_refines_run twoFiles options "/w" late.progress).later hflag hroot []

end SourceAtlas
