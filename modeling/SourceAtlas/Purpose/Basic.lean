/-!
# Purposes

What a file is for, in a coarse vocabulary.  The constructors stand in order of priority: of the
purposes of a file, the first is its main one.  A set of purposes is kept as a list in that order,
without repetitions, so that equal sets are equal lists.
-/

namespace SourceAtlas

/-- What a file is for (`PurposeTag`). -/
inductive Purpose where
  | serviceEndpoint | persistence | presentation | test | configuration | utility
  /-- Nothing in particular. -/
  | general
  deriving DecidableEq, Repr

namespace Purpose

/-- All purposes, in order of priority. -/
def all : List Purpose :=
  [serviceEndpoint, persistence, presentation, test, configuration, utility, general]

/-- The spelling of a purpose in records. -/
def tag : Purpose → String
  | serviceEndpoint => "service-endpoint"
  | persistence => "persistence"
  | presentation => "presentation"
  | test => "test"
  | configuration => "configuration"
  | utility => "utility"
  | general => "general"

/-- A sentence on a purpose, for prose. -/
def description : Purpose → String
  | serviceEndpoint => "Handles API endpoints and web requests"
  | persistence => "Manages database operations"
  | presentation => "Implements user interface components"
  | test => "Contains test cases and utilities"
  | configuration => "Manages application configuration"
  | utility => "Provides utility functions"
  | general => "General purpose code"

/-- The purpose with a given tag. -/
def ofTag? (s : String) : Option Purpose := all.find? (·.tag == s)

/-- The place of a purpose in the order of priority. -/
def rank : Purpose → Nat
  | serviceEndpoint => 0
  | persistence => 1
  | presentation => 2
  | test => 3
  | configuration => 4
  | utility => 5
  | general => 6

theorem all_pairwise_rank : all.Pairwise (fun p q => p.rank < q.rank) := by decide

theorem mem_all (p : Purpose) : p ∈ all := by cases p <;> decide

end Purpose

/-- A set of purposes, listed in order of priority. -/
structure Purposes where
  /-- The purposes in the set. -/
  toList : List Purpose
  /-- They ascend in priority. -/
  ascending : toList.Pairwise (fun p q => p.rank < q.rank)
  deriving DecidableEq

namespace Purposes

/-- The set of the purposes that satisfy a test. -/
def ofTest (test : Purpose → Bool) : Purposes :=
  ⟨Purpose.all.filter test, Purpose.all_pairwise_rank.filter _⟩

/-- The set of the purposes in a list. -/
def ofList (ps : List Purpose) : Purposes := ofTest ps.contains

/-- The first purpose of a set; an empty set has nothing in particular. -/
def main (ps : Purposes) : Purpose := ps.toList.head?.getD .general

theorem mem_ofTest {test : Purpose → Bool} {p : Purpose} :
    p ∈ (ofTest test).toList ↔ test p = true := by
  simp [ofTest, Purpose.mem_all]

end Purposes

end SourceAtlas
