/-!
# Progress of a scan

Counters of a scan that is going on, the flag by which it is called off, and the bar that may show
it. Starting resets the counters but not the flag, so a scan that was called off stays so.
-/

namespace SourceAtlas

/-- What a progress bar shows. -/
structure ProgressBar where
  /-- The number of files in all, once it is known. -/
  length : Option Nat
  /-- The number of files done. -/
  position : Nat
  /-- Whether the bar has been cleared away. -/
  finished : Bool
  deriving DecidableEq, Repr

namespace ProgressBar

/-- A bar that has shown nothing yet. -/
def fresh : ProgressBar := ⟨none, 0, false⟩

/-- The bar with its length set. -/
def setLength (b : ProgressBar) (n : Nat) : ProgressBar := { b with length := some n }

/-- The bar one file further. -/
def advance (b : ProgressBar) : ProgressBar := { b with position := b.position + 1 }

/-- The bar cleared away; if its length is known it ends there. -/
def finish (b : ProgressBar) : ProgressBar :=
  { b with position := b.length.getD b.position, finished := true }

end ProgressBar

/-- The state of a scan (`ScanProgress`). -/
structure Progress where
  /-- The number of files to analyse. -/
  total : Nat
  /-- The number of files done. -/
  processed : Nat
  /-- The number of files done that were skipped. -/
  skipped : Nat
  /-- Whether a scan is going on. -/
  isActive : Bool
  /-- Whether the scan was called off. -/
  isCancelled : Bool
  /-- The bar that shows it. -/
  bar : Option ProgressBar
  deriving DecidableEq, Repr

namespace Progress

/-- The state before any scan. -/
def fresh : Progress := ⟨0, 0, 0, false, false, none⟩

/-- Shows the scan on a new bar. -/
def attachBar (p : Progress) : Progress := { p with bar := some .fresh }

/-- Begins a scan of a number of files (`ScanProgress.start`). -/
def start (p : Progress) (total : Nat) : Progress :=
  { p with
    total := total, processed := 0, skipped := 0, isActive := true
    bar := p.bar.map (·.setLength total) }

/-- Counts a file that was analysed (`inc`). -/
def countAnalysed (p : Progress) : Progress :=
  { p with processed := p.processed + 1, bar := p.bar.map (·.advance) }

/-- Counts a file that was skipped (`inc_skipped`). -/
def countSkipped (p : Progress) : Progress :=
  { p with
    processed := p.processed + 1, skipped := p.skipped + 1, bar := p.bar.map (·.advance) }

/-- Ends a scan (`ScanProgress.finish`). -/
def finish (p : Progress) : Progress :=
  { p with isActive := false, bar := p.bar.map (·.finish) }

/-- Calls a scan off (`ScanProgress.cancel`). -/
def cancel (p : Progress) : Progress := { p with isCancelled := true }

/-- The part of the files that is done, in percent; nothing of nothing is zero. -/
def percent (p : Progress) : Float :=
  if 0 < p.total then
    p.processed.toUInt64.toFloat / p.total.toUInt64.toFloat * 100.0
  else 0.0

end Progress

end SourceAtlas
