/-
# Setting the interval in seconds

A directive gives the interval in seconds, as a JSON number or as a string, with milliseconds as
its decimals.  The event loop sets just the interval that is meant, moved into the bounds.
-/
import LinkWatch.Proofs.Heartbeat.Seconds
import LinkWatch.Proofs.Json.ReadBack
import LinkWatch.Proofs.Watchdog.Consistency

namespace LinkWatch

variable {count : ℕ} {v : Json.Value} {config : HeartbeatConfig}

/-! ## What the payload stands for -/

namespace Interval

/-- A payload that stands for a number of thousandths of a second: what is read from a numeral for
them, or a string with such a numeral between blanks. -/
inductive Denotes (count : ℕ) : Json.Value → Prop
  | number {n : Json.Numeral} {v : Json.Value} (numeral : n.Thousandths count)
      (read : Json.parse (String.ofList n.plainChars) = .ok v) : Denotes count v
  | string {n : Json.Numeral} {before after : List Char} (numeral : n.Thousandths count)
      (blank_before : ∀ c ∈ before, Text.isBlank c = true)
      (blank_after : ∀ c ∈ after, Text.isBlank c = true) :
      Denotes count (.string (String.ofList (before ++ n.plainChars ++ after)))

lemma Denotes.ofPayload_eq (h : Denotes count v) (hone : 1 ≤ count) (hle : count ≤ twoPow 50) :
    ofPayload v = .ok (UInt64.ofNat count) := by
  cases h with
  | @number n v numeral read =>
    obtain ⟨x, hx, hpayload⟩ := numeral.exists_value? hone hle
    rw [Json.parse, String.toList_ofList,
      Json.Numeral.parseChars_plainChars numeral.plain hx] at read
    rw [← Except.ok.inj read, hpayload]
  | string numeral hbefore hafter => exact numeral.ofPayload_string hone hle hbefore hafter

end Interval

lemma Event.requestedMs?_of_ofPayload {n : UInt64} (h : Interval.ofPayload v = .ok n) :
    (⟨Event.setInterval, v⟩ : Event).requestedMs? = some n := by
  rw [Event.requestedMs?, Directive.ofEvent?, if_pos rfl, h]
  rfl

/-! ## What the event loop does about it -/

namespace HeartbeatConfig

/-- With a valid configuration an interval is moved between the bounds, as a number. -/
lemma Valid.toNat_clamp (h : config.Valid) (n : UInt64) :
    (config.clamp n).toNat =
      max config.minIntervalMs.toNat (min config.maxIntervalMs.toNat n.toNat) := by
  have hone := UInt64.le_iff_toNat_le.mp h.one_le_min
  have hle := UInt64.le_iff_toNat_le.mp h.min_le_max
  rw [UInt64.toNat_one] at hone
  rw [HeartbeatConfig.toNat_clamp]
  omega

end HeartbeatConfig

namespace Watchdog

variable {workerHeld : Bool} {hs : List Happening}

/-- A directive sets the interval that its payload comes to. -/
lemma intervalMs_of_directive {m : Moment} {n : UInt64} (valid : config.validate = .ok ())
    (lives : (launch config workerHeld).lives hs)
    (running : ((launch config workerHeld).after hs).phase = .running)
    (payload : Interval.ofPayload v = .ok n) :
    let c := (((launch config workerHeld).after hs).core.step m
      (.inbound ⟨Event.setInterval, v⟩)).1
    c.status.intervalMs = config.clamp n ∧ c.timer.period = millis c.status.intervalMs.toNat ∧
      (c.emitting = false → c.published.intervalMs = c.status.intervalMs) := by
  intro c
  have hv := HeartbeatConfig.valid_of_validate valid
  have hc := (consistent_launch hv workerHeld).after hv lives running
  have hc' : c.Consistent config := hc.step hv m _
  refine ⟨?_, hc'.follows.period, fun hidle => ?_⟩
  · have hrequested : (Incident.inbound ⟨Event.setInterval, v⟩).requestedMs? = some n :=
      Event.requestedMs?_of_ofPayload payload
    have hregime := Core.regime_step m ((launch config workerHeld).after hs).core
      (.inbound ⟨Event.setInterval, v⟩)
    rw [hc.config_eq, Regime.after_of_requestedMs? config _ hrequested] at hregime
    exact congrArg Regime.intervalMs hregime
  · rw [hc'.published hidle]
    rfl

/-- **A directive for some thousandths of a second sets just this interval**, up to `2 ^ 50`
milliseconds.

* There is a numeral for them, without decimals just if they are whole seconds; and every numeral
  for them, with up to three decimals, is read as a number, wherever it stands in a JSON text.
* A payload that stands for them, be it such a number or a string in which such a numeral stands
  between blanks, comes to exactly this number of milliseconds.
* An event loop that deals with a directive with this payload, in whatever state a life with a valid
  configuration has brought it to, then has this interval, moved into the bounds; it is the period
  of the foreground timer, and it is shown to others unless a heartbeat is under way. -/
theorem directive_sets_thousandths (count : ℕ) (one_le : 1 ≤ count) (le : count ≤ 2 ^ 50) :
    (∃ n : Json.Numeral, n.Thousandths count ∧ (n.fraction = none ↔ 1000 ∣ count)) ∧
    (∀ n : Json.Numeral, n.Thousandths count → ∃ x : Json.Number,
      Json.parse (String.ofList n.plainChars) = .ok (.number x) ∧
      ∀ rest p, Json.Closed rest → Json.readNumber ⟨n.plainChars ++ rest, p⟩ =
        .ok (x, ⟨rest, p.past n.plainChars⟩)) ∧
    ∀ payload, Interval.Denotes count payload →
      (∃ intervalMs, Interval.ofPayload payload = .ok intervalMs ∧ intervalMs.toNat = count) ∧
      ∀ (config : HeartbeatConfig) (workerHeld : Bool) (hs : List Happening) (m : Moment),
        config.validate = .ok () → (launch config workerHeld).lives hs →
        ((launch config workerHeld).after hs).phase = .running →
        let c := (((launch config workerHeld).after hs).core.step m
          (.inbound ⟨Event.setInterval, payload⟩)).1
        c.status.intervalMs.toNat =
          max config.minIntervalMs.toNat (min config.maxIntervalMs.toNat count) ∧
        c.timer.period = millis c.status.intervalMs.toNat ∧
        (c.emitting = false → c.published.intervalMs = c.status.intervalMs) := by
  have htoNat : (UInt64.ofNat count).toNat = count :=
    UInt64.toNat_ofNat_of_lt' (Nat.lt_of_le_of_lt le (by decide))
  refine ⟨Json.Numeral.exists_thousandths count, fun n hn => ?_, fun payload hdenotes => ?_⟩
  · obtain ⟨x, hx, -⟩ := hn.exists_value? one_le le
    refine ⟨x, ?_, fun rest p hrest => Json.readNumber_plainChars hn.plain hx hrest⟩
    rw [Json.parse, String.toList_ofList, Json.Numeral.parseChars_plainChars hn.plain hx]
  · have hpayload := hdenotes.ofPayload_eq one_le le
    refine ⟨⟨_, hpayload, htoNat⟩, fun config workerHeld hs m valid lives running => ?_⟩
    obtain ⟨hinterval, hperiod, hshown⟩ :=
      intervalMs_of_directive (m := m) valid lives running hpayload
    refine ⟨?_, hperiod, hshown⟩
    rw [hinterval, (HeartbeatConfig.valid_of_validate valid).toNat_clamp, htoNat]

/-- The numeral `1.001`, whose value lies between two floating-point numbers. -/
def numeral1001 : Json.Numeral := ⟨false, ['1'], some ['0', '0', '1'], none⟩

theorem directive_sets_1001 :
    (∃ intervalMs, Interval.ofPayload (.string " 1.001\u3000") = .ok intervalMs ∧
      intervalMs.toNat = 1001) ∧
    (((launch {} true).after firstHeartbeat).core.step ⟨millis 2500, .epoch, true⟩
      (.inbound ⟨Event.setInterval, .string " 1.001\u3000"⟩)).1.timer.period = millis 1001 := by
  have hnumeral : numeral1001.Thousandths 1001 := by
    refine ⟨⟨⟨by decide, List.all_eq_true.mp rfl, by decide⟩, fun f hf => ?_, rfl⟩, rfl, by decide,
      by decide⟩
    obtain rfl : ['0', '0', '1'] = f := Option.some.inj hf
    exact ⟨by decide, List.all_eq_true.mp rfl⟩
  have hdenotes : Interval.Denotes 1001 (.string " 1.001\u3000") :=
    @Interval.Denotes.string 1001 numeral1001 [' '] ['\u3000'] hnumeral
      (List.all_eq_true.mp rfl) (List.all_eq_true.mp rfl)
  obtain ⟨-, -, hsets⟩ := directive_sets_thousandths 1001 (by decide) (by decide)
  obtain ⟨hpayload, hhandled⟩ := hsets _ hdenotes
  obtain ⟨hinterval, hperiod, -⟩ := hhandled {} true firstHeartbeat ⟨millis 2500, .epoch, true⟩ rfl
    (by decide) rfl
  refine ⟨hpayload, ?_⟩
  rw [hperiod, hinterval]
  rfl

end Watchdog

end LinkWatch
