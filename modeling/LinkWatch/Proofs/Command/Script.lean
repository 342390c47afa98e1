/-
# The times of the script

The script of a demonstration is laid out in quarters of its length.  A length is counted in whole
seconds that fit into 64 bits, and in nanoseconds beside them (`Span`).  A part of a span is a span
again, but a multiple of one may have too many seconds.

The script takes its last step after the fourth part of three times the length
(`Demo.scenario?_eq`).  So there is no script when three times the length is too long, although
three times the fourth part of a length never is (`Demo.quarters_of_length`).
-/
import LinkWatch.Command.Program
import LinkWatch.Proofs.Config.Spellings
import Mathlib.Algebra.Order.Ring.Nat
import Mathlib.Tactic.Ring

namespace LinkWatch

/-! ## Spans of time -/

/-- A span of time, in whole seconds that fit into 64 bits and in nanoseconds. -/
structure Span where
  seconds : ℕ
  nanos : ℕ
  seconds_le : seconds ≤ maxWord
  nanos_lt : nanos < nanosPerSecond

namespace Span

/-- Some whole seconds. -/
def ofSeconds (n : UInt64) : Span := ⟨n.toNat, 0, Nat.le_of_lt_succ n.toNat_lt, by decide⟩

/-- The whole span in nanoseconds. -/
def inNanos (d : Span) : ℕ := d.seconds * nanosPerSecond + d.nanos

/-- A multiple of a span, if it does not have too many seconds. -/
def times? (k : ℕ) (d : Span) : Option Span :=
  if h : d.seconds * k + d.nanos * k / nanosPerSecond ≤ maxWord then
    some ⟨_, d.nanos * k % nanosPerSecond, h, Nat.mod_lt _ (by decide)⟩
  else none

variable {k : ℕ} {d e : Span}

/-- What is left of the seconds makes up less than one second of each part. -/
lemma part_lt (d : Span) (k : ℕ) :
    d.nanos / k + (d.seconds % k * nanosPerSecond + d.nanos % k) / k < nanosPerSecond := by
  rcases Nat.eq_zero_or_pos k with rfl | hk
  · simp only [Nat.div_zero]
    decide
  · have hsum : d.nanos / k + (d.seconds % k * nanosPerSecond + d.nanos % k) / k =
        (d.seconds % k * nanosPerSecond + d.nanos) / k := by
      rw [← Nat.mul_add_div hk, Nat.add_left_comm, Nat.div_add_mod]
    have hrest : (d.seconds % k + 1) * nanosPerSecond ≤ k * nanosPerSecond :=
      Nat.mul_le_mul_right _ (Nat.mod_lt _ hk)
    have hnanos := d.nanos_lt
    rw [hsum, Nat.div_lt_iff_lt_mul hk, Nat.mul_comm nanosPerSecond]
    rw [Nat.add_mul, Nat.one_mul] at hrest
    omega

/-- A part of a span. What is left of the seconds goes to the nanoseconds, and what is left of these
is lost. -/
def divide (k : ℕ) (d : Span) : Span :=
  ⟨d.seconds / k, _, Nat.le_trans (Nat.div_le_self _ _) d.seconds_le, d.part_lt k⟩

lemma inNanos_divide (hk : 0 < k) : (d.divide k).inNanos = d.inNanos / k := by
  have hsplit : d.inNanos =
      k * (d.seconds / k * nanosPerSecond + d.nanos / k) +
        (d.seconds % k * nanosPerSecond + d.nanos % k) := by
    calc d.inNanos
        = (k * (d.seconds / k) + d.seconds % k) * nanosPerSecond +
            (k * (d.nanos / k) + d.nanos % k) := by
          rw [Nat.div_add_mod, Nat.div_add_mod, inNanos]
      _ = _ := by ring
  rw [hsplit, Nat.mul_add_div hk, Nat.add_assoc]
  rfl

lemma inNanos_of_times? (h : d.times? k = some e) : e.inNanos = d.inNanos * k := by
  unfold times? at h
  split at h
  next hle =>
    obtain rfl := Option.some.inj h
    calc (d.seconds * k + d.nanos * k / nanosPerSecond) * nanosPerSecond +
          d.nanos * k % nanosPerSecond
        = d.seconds * k * nanosPerSecond +
            (nanosPerSecond * (d.nanos * k / nanosPerSecond) + d.nanos * k % nanosPerSecond) := by
          ring
      _ = d.inNanos * k := by
          rw [Nat.div_add_mod, inNanos]
          ring
  next => cases h

/-- Whole seconds have a multiple just when it fits into 64 bits. -/
lemma isSome_times?_ofSeconds (n : UInt64) (k : ℕ) :
    ((ofSeconds n).times? k).isSome ↔ k * n.toNat ≤ maxWord := by
  have hseconds : (ofSeconds n).seconds * k + (ofSeconds n).nanos * k / nanosPerSecond =
      k * n.toNat := by
    simp [ofSeconds, Nat.mul_comm]
  rw [times?]
  split
  next h => simp [hseconds ▸ h]
  next h => simp [hseconds ▸ h]

lemma inNanos_ofSeconds (n : UInt64) : (ofSeconds n).inNanos = n.toNat * nanosPerSecond :=
  Nat.add_zero _

/-- Three times the fourth part of a span is no longer than the span, and so never too long. -/
lemma isSome_times?_divide (d : Span) : ((d.divide 4).times? 3).isSome := by
  have hseconds := d.seconds_le
  have hnanos := (d.divide 4).nanos_lt
  have hcarry : (d.divide 4).nanos * 3 / nanosPerSecond ≤ 2 := by
    refine Nat.le_of_lt_succ ((Nat.div_lt_iff_lt_mul (by decide)).mpr ?_)
    omega
  have hle : (d.divide 4).seconds * 3 + (d.divide 4).nanos * 3 / nanosPerSecond ≤ maxWord := by
    have hover : (d.divide 4).seconds = d.seconds / 4 := rfl
    rw [hover]
    rw [maxWord] at hseconds ⊢
    omega
  rw [times?, dif_pos hle]
  rfl

end Span

/-! ## Asking for a demonstration -/

/-- A whole number begins with a digit. -/
lemma exists_toDigits_eq_cons (n : ℕ) :
    ∃ d ds, Nat.toDigits 10 n = d :: ds ∧ d.isDigit = true := by
  have hdigits := Json.wholeDigits_toDigits n
  obtain ⟨d, ds, hd⟩ := List.exists_cons_of_ne_nil hdigits.ne_nil
  exact ⟨d, ds, hd, hdigits.isDigit d (hd ▸ List.mem_cons_self)⟩

/-- The digits of a number of 64 bits are read as this number. -/
lemma parseWord?_toDigits (n : UInt64) :
    parseWord? (String.ofList (Nat.toDigits 10 n.toNat)) = some n := by
  have hdigits := Json.wholeDigits_toDigits n.toNat
  refine parseWord?_eq_some_iff.mpr ⟨[], Nat.toDigits 10 n.toNat, .inl rfl,
    ⟨hdigits.ne_nil, hdigits.isDigit⟩, Nat.ofDigitChars_ten_toDigits, ?_⟩
  rw [String.toList_ofList, List.nil_append]

namespace CommandLine

lemma looksLikeOption_toDigits (n : ℕ) :
    Grammar.looksLikeOption (String.ofList (Nat.toDigits 10 n)) = false := by
  obtain ⟨d, ds, hd, hdigit⟩ := exists_toDigits_eq_cons n
  rw [Grammar.looksLikeOption, String.toList_ofList, hd]
  split
  next heq =>
    rw [(List.cons.inj heq).1] at hdigit
    cases hdigit
  next => rfl

/-- A demonstration can be asked for with any number of seconds of 64 bits. -/
lemma parse_demo {text : String} {n : UInt64} (hword : parseWord? text = some n)
    (hplain : Grammar.looksLikeOption text = false) :
    parse ["demo", "--seconds", text] = .command (.demo n) := by
  have hname : versionGrammar.step {} "demo" = .ok .plain := rfl
  have hpending : demoGrammar.step {} "--seconds" =
      .ok (.pending { long := "seconds", short := 's', accepts := isWord }) := rfl
  have hread : demoGrammar.read none {} ["--seconds", text] =
      .ok { values := [("seconds", text)] } := by
    simp [Grammar.read, hpending, hplain, Found.set, Found.value?, isWord, hword, bind, Except.bind]
  simp [parse, readFrom, hname, Topic.ofName?, readCommand, hread, Invocation.of, Found.value?,
    hword]

end CommandLine

/-! ## The script -/

namespace Demo

/-- How a demonstration of a number of seconds is asked for. -/
def arguments (seconds : UInt64) : List String :=
  ["demo", "--seconds", String.ofList (Nat.toDigits 10 seconds.toNat)]

/-- The length of a demonstration. -/
def total (seconds : UInt64) : Span := .ofSeconds (max seconds 4)

lemma inNanos_total (seconds : UInt64) :
    (total seconds).inNanos = length seconds * nanosPerSecond := by
  rw [total, Span.inNanos_ofSeconds, UInt64.toNat_max]
  rfl

/-- **The steps come after parts of the length**, the last one after a part of three times the
length. -/
lemma scenario?_eq (seconds : UInt64) :
    scenario? seconds = ((total seconds).times? 3).map fun thrice => [
      (0, .connectivity true),
      (((total seconds).divide 4).inNanos, .directive "1"),
      (((total seconds).divide 2).inNanos, .connectivity false),
      ((thrice.divide 4).inNanos, .connectivity true)] := by
  have hfits := Span.isSome_times?_ofSeconds (max seconds 4) 3
  rw [UInt64.toNat_max] at hfits
  change ((total seconds).times? 3).isSome ↔ 3 * length seconds ≤ maxWord at hfits
  rw [scenario?]
  cases hthrice : (total seconds).times? 3 with
  | none =>
    rw [hthrice] at hfits
    rw [if_neg (by simpa using hfits), Option.map_none]
  | some thrice =>
    rw [hthrice] at hfits
    rw [if_pos (by simpa using hfits), Option.map_some, Span.inNanos_divide (by decide),
      Span.inNanos_divide (by decide), Span.inNanos_divide (by decide), Span.inNanos_of_times? hthrice,
      inNanos_total]

/-- **The script is laid out in quarters of the length, unless three times the length is too
long.**  A demonstration can be asked for with any number of seconds of 64 bits; its length is this
number, or four seconds if that is more.

* If three times the length fits into 64 bits, there is a script.  Its steps come after exactly
  zero, one, two and three quarters of the length, hence one after the other and before the end.
* If it does not fit, there is no script, and the program is aborted with a message (what is said
  around the message is left out).
* Three times a quarter of the length, however, is a span for every number of seconds. -/
theorem quarters_of_length (seconds : UInt64) :
    CommandLine.parse (arguments seconds) = .command (.demo seconds) ∧
    length seconds = max seconds.toNat 4 ∧
    (3 * length seconds ≤ maxWord → ∃ steps, scenario? seconds = some steps ∧
      steps.map (·.2) =
        [.connectivity true, .directive "1", .connectivity false, .connectivity true] ∧
      steps.map (4 * ·.1) = [0, length seconds * nanosPerSecond,
        2 * length seconds * nanosPerSecond, 3 * length seconds * nanosPerSecond] ∧
      (steps.map (·.1)).Pairwise (· < ·) ∧
      ∀ step ∈ steps, step.1 < length seconds * nanosPerSecond) ∧
    (maxWord < 3 * length seconds → scenario? seconds = none ∧
      ∀ host, (Program.main host (arguments seconds)).code = 101 ∧
        (Program.main host (arguments seconds)).stderr = [tooLong]) ∧
    ∃ last, ((total seconds).divide 4).times? 3 = some last ∧
      4 * last.inNanos = 3 * length seconds * nanosPerSecond := by
  have hparse : CommandLine.parse (arguments seconds) = .command (.demo seconds) :=
    CommandLine.parse_demo (parseWord?_toDigits seconds) (CommandLine.looksLikeOption_toDigits _)
  have hlength : (total seconds).inNanos = length seconds * nanosPerSecond := inNanos_total seconds
  -- a second has four quarters, and so has the length
  obtain ⟨q, hq, hquarters⟩ : ∃ q, 0 < q ∧ length seconds * nanosPerSecond = 4 * q := by
    refine ⟨length seconds * (nanosPerSecond / 4), Nat.mul_pos ?_ (by decide), ?_⟩
    · exact Nat.lt_of_lt_of_le (by decide) (Nat.le_max_right _ 4)
    · rw [Nat.mul_left_comm]
      rfl
  have hone : 4 * q / 4 = q := by omega
  rw [Nat.mul_assoc 2, Nat.mul_assoc 3]
  rw [hquarters] at hlength ⊢
  refine ⟨hparse, rfl, fun hfits => ?_, fun hlong => ?_, ?_⟩
  · obtain ⟨thrice, hthrice⟩ := Option.isSome_iff_exists.mp
      ((Span.isSome_times?_ofSeconds (max seconds 4) 3).mpr (by rwa [UInt64.toNat_max]))
    have htwo : 4 * q / 2 = 2 * q := by omega
    have hthree : 4 * q * 3 / 4 = 3 * q := by omega
    have hsteps := scenario?_eq seconds
    rw [total, hthrice, Option.map_some, ← total, Span.inNanos_divide (by decide),
      Span.inNanos_divide (by decide), Span.inNanos_divide (by decide),
      Span.inNanos_of_times? hthrice, ← total, hlength, hone, htwo, hthree] at hsteps
    refine ⟨_, hsteps, rfl, ?_, ?_, ?_⟩
    · simp
      omega
    · simp
      omega
    · simp
      omega
  · have hnone : scenario? seconds = none := if_neg (Nat.not_le.mpr hlong)
    refine ⟨hnone, fun host => ?_⟩
    simp [Program.main, hparse, Program.command, run, hnone]
  · obtain ⟨last, hlast⟩ := Option.isSome_iff_exists.mp (total seconds).isSome_times?_divide
    refine ⟨last, hlast, ?_⟩
    rw [Span.inNanos_of_times? hlast, Span.inNanos_divide (by decide), hlength, hone]
    omega

/-- The longest demonstration that has a script. -/
theorem quarters_of_longest :
    ∃ steps, scenario? 6148914691236517205 = some steps ∧
      steps.map (4 * ·.1) = [0, 6148914691236517205 * nanosPerSecond,
        2 * 6148914691236517205 * nanosPerSecond, 3 * 6148914691236517205 * nanosPerSecond] := by
  obtain ⟨-, -, hshort, -⟩ := quarters_of_length 6148914691236517205
  obtain ⟨steps, hsteps, -, htimes, -⟩ := hshort (by decide)
  exact ⟨steps, hsteps, htimes⟩

/-- One second more, and there is none. -/
theorem no_script_beyond_longest : ¬∀ seconds : UInt64, (scenario? seconds).isSome := fun h =>
  absurd (h 6148914691236517206) (by rw [scenario?, if_neg (by decide)]; decide)

end Demo

end LinkWatch
