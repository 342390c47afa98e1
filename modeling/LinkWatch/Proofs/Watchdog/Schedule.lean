/-
# The schedule of heartbeats

When every tick is taken at the instant at which it is due, the instants of the heartbeats can be
told from the incidents alone.  A change of the regime ends a segment of the schedule and, if the
network is there, begins another; within a segment heartbeats are sent one interval after its
beginning, two intervals after it, and so on for as long as it lasts.

`Watchdog.segments` cuts a life into segments, and `Watchdog.heartbeats_on_schedule` says that the
heartbeats are those of the segments.  Its proof goes along the life and knows of the segment that
is still open how many heartbeats it has had, and that the deadline of the timer is the instant of
the next one (`Watchdog.Standing`).
-/
import LinkWatch.Proofs.Watchdog.Consistency

namespace LinkWatch

/-! ## Segments -/

/-- A number of heartbeats, the first of them one interval after the instant `start`. -/
def beats (start interval n : ℕ) : List ℕ := (List.range n).map fun k => start + (k + 1) * interval

/-- A stretch of time in which the network is there and the interval stays the same. -/
structure Segment where
  start : ℕ
  /-- The instant at which it is over. -/
  finish : ℕ
  /-- The interval in nanoseconds. -/
  interval : ℕ
deriving DecidableEq

/-- The instants of the heartbeats of a segment. -/
def Segment.instants (g : Segment) : List ℕ :=
  beats g.start g.interval ((g.finish - g.start - 1) / g.interval)

variable {s t e I n : ℕ}

lemma beats_succ (s I n : ℕ) : beats s I (n + 1) = beats s I n ++ [s + (n + 1) * I] := by
  rw [beats, List.range_succ, List.map_append]
  rfl

lemma mem_beats : t ∈ beats s I n ↔ ∃ k, k < n ∧ s + (k + 1) * I = t := by
  simp [beats]

namespace Segment

variable {g : Segment}

/-- The heartbeats of a segment come at multiples of the interval after its beginning, before it
is over. -/
lemma mem_instants (hI : 0 < g.interval) :
    t ∈ g.instants ↔ ∃ k, 1 ≤ k ∧ t = g.start + k * g.interval ∧ t < g.finish := by
  rw [instants, mem_beats]
  constructor
  · rintro ⟨k, hk, rfl⟩
    have hmul : (k + 1) * g.interval ≤ g.finish - g.start - 1 :=
      (Nat.le_div_iff_mul_le hI).mp hk
    have hpos : 0 < (k + 1) * g.interval := Nat.mul_pos (Nat.zero_lt_succ k) hI
    exact ⟨k + 1, Nat.le_add_left 1 k, rfl, by omega⟩
  · rintro ⟨k, hk, rfl, hlt⟩
    obtain ⟨k, rfl⟩ := Nat.exists_eq_add_of_le' hk
    have hmul : (k + 1) * g.interval ≤ g.finish - g.start - 1 := by omega
    exact ⟨k, (Nat.le_div_iff_mul_le hI).mpr hmul, rfl⟩

/-- A segment has as many heartbeats as whole intervals, unless it is over just when one more is
due. -/
lemma length_instants (hI : ¬g.interval ∣ g.finish - g.start) :
    g.instants.length = (g.finish - g.start) / g.interval := by
  rw [instants, beats, List.length_map, List.length_range]
  rcases Nat.eq_zero_or_pos (g.finish - g.start) with hz | hpos
  · exact absurd (hz ▸ Nat.dvd_zero _) hI
  · obtain ⟨d, hd⟩ := Nat.exists_eq_add_of_le' hpos
    rw [hd, Nat.succ_div_of_not_dvd (hd ▸ hI), Nat.add_sub_cancel]

/-- A segment that is over after its `n`-th heartbeat, and not after the next one would be due, has
`n` heartbeats. -/
lemma instants_eq_beats (hI : 0 < I) (hle : s + n * I ≤ t) (hlt : t ≤ s + (n + 1) * I)
    (hne : t ∉ beats s I n) : (Segment.mk s t I).instants = beats s I n := by
  have hn : (t - s - 1) / I = n := by
    cases n with
    | zero => exact Nat.div_eq_of_lt (by omega)
    | succ n =>
      -- it is over later than at its last heartbeat
      have hlast : t ≠ s + (n + 1) * I := fun h => hne (mem_beats.mpr ⟨n, n.lt_succ_self, h.symm⟩)
      exact Nat.div_eq_of_lt_le (by omega) (by omega)
  show beats s I ((t - s - 1) / I) = _
  rw [hn]

end Segment

namespace Watchdog

/-- The segment that is over now, if one was open. -/
def closed (r : Regime) (since? : Option ℕ) (now : ℕ) : List Segment :=
  since?.toList.map fun start => ⟨start, now, r.interval⟩

/-- The beginning of the segment that a new regime begins, if the network is there. -/
def opened (r : Regime) (now : ℕ) : Option ℕ := if r.onLine then some now else none

/-- The segments of a life up to the instant `e`, given the regime and the beginning of the segment
that is open.  Every change of the regime ends a segment, and begins another if the network is
there; an incident that leaves the regime as it is does neither. -/
def segments (config : HeartbeatConfig) (e : ℕ) :
    Regime → Option ℕ → List Happening → List Segment
  | r, since?, [] => closed r since? e
  | r, since?, .turn m i :: hs =>
    let r' := r.after config i
    if r' = r then segments config e r since? hs
    else closed r since? m.now ++ segments config e r' (opened r' m.now) hs
  | r, since?, .bind _ :: hs => segments config e r since? hs
  | r, since?, .finish m :: _ => closed r since? m.now

/-- Whether no deadline of the foreground timer has passed. -/
def onTime (w : Watchdog) (now : ℕ) : Bool := w.core.timer.deadline?.all (now ≤ ·)

/-- Whether, up to the instant `e`, no deadline of the foreground timer passes without its tick
being taken at once. -/
def punctual (e : ℕ) (w : Watchdog) : List Happening → Bool
  | [] => w.onTime e
  | h :: hs => h.instant?.all w.onTime && (w.happen h).1.punctual e hs

variable {config : HeartbeatConfig} {workerHeld : Bool} {w : Watchdog} {h : Happening}
  {hs : List Happening} {r : Regime} {now : ℕ} {since? : Option ℕ} {past : List ℕ}

lemma mem_closed {g : Segment} :
    g ∈ closed r since? now ↔ ∃ s, since? = some s ∧ g = ⟨s, now, r.interval⟩ := by
  simp [closed, eq_comm]

@[simp] lemma getD_opened (r : Regime) (now : ℕ) : (opened r now).getD now = now := by
  rw [opened]
  split <;> rfl

lemma eq_of_opened_eq_some (h : opened r now = some s) : s = now := by
  rw [opened] at h
  split at h <;> cases h
  rfl

lemma getD_le_of_mem_closed {g : Segment} (hg : g ∈ closed r since? t) :
    since?.getD now ≤ g.start := by
  obtain ⟨s, rfl, rfl⟩ := mem_closed.mp hg
  exact Nat.le_refl s

lemma pairwise_closed (r : Regime) (since? : Option ℕ) (now : ℕ) (R : Segment → Segment → Prop) :
    (closed r since? now).Pairwise R := by
  cases since? with
  | none => exact .nil
  | some s => exact List.pairwise_singleton R _

/-- The interval of a segment is one within the bounds. -/
lemma interval_pos_of_mem_segments (hv : config.Valid) (hr : r.Bounded config) {g : Segment}
    (hg : g ∈ segments config e r since? hs) : 0 < g.interval := by
  have hpos : ∀ {r : Regime}, r.Bounded config → 0 < r.interval := fun hr =>
    Nat.lt_of_lt_of_le (by decide) (hr.nanosPerMilli_le hv)
  induction hs generalizing r since? with
  | nil =>
    obtain ⟨s, -, rfl⟩ := mem_closed.mp hg
    exact hpos hr
  | cons h hs ih =>
    cases h with
    | bind i => exact ih hr hg
    | finish m =>
      obtain ⟨s, -, rfl⟩ := mem_closed.mp hg
      exact hpos hr
    | turn m i =>
      rw [segments] at hg
      split at hg
      · exact ih hr hg
      · rcases List.mem_append.mp hg with hg | hg
        · obtain ⟨s, -, rfl⟩ := mem_closed.mp hg
          exact hpos hr
        · exact ih (hr.after hv i) hg

/-- Segments follow one another, and the first does not begin before the one that is open. -/
lemma segments_ordered (hord : (now :: (Happening.instants hs ++ [e])).Pairwise (· ≤ ·))
    (hsince : ∀ s, since? = some s → s ≤ now) :
    (∀ g ∈ segments config e r since? hs, since?.getD now ≤ g.start) ∧
      (segments config e r since? hs).Pairwise (·.finish ≤ ·.start) := by
  induction hs generalizing r now since? with
  | nil => exact ⟨fun g => getD_le_of_mem_closed, pairwise_closed ..⟩
  | cons h hs ih =>
    cases h with
    | bind i => exact ih hord hsince
    | finish m => exact ⟨fun g => getD_le_of_mem_closed, pairwise_closed ..⟩
    | turn m i =>
      obtain ⟨hle, hord'⟩ := List.pairwise_cons.mp hord
      have hle : now ≤ m.now := hle m.now List.mem_cons_self
      have hmono : since?.getD now ≤ since?.getD m.now := by
        cases since? with
        | none => exact hle
        | some s => exact Nat.le_refl s
      have hgetD : since?.getD now ≤ m.now := by
        cases hs : since? with
        | none => exact hle
        | some s => exact Nat.le_trans (hsince s hs) hle
      rw [segments]
      split
      · obtain ⟨hstart, hpair⟩ :=
          ih (r := r) hord' fun s hs => Nat.le_trans (hsince s hs) hle
        exact ⟨fun g hg => Nat.le_trans hmono (hstart g hg), hpair⟩
      · obtain ⟨hstart, hpair⟩ := ih (r := r.after config i) hord' fun s hs =>
          Nat.le_of_eq (eq_of_opened_eq_some hs)
        rw [getD_opened] at hstart
        refine ⟨fun g hg => ?_, List.pairwise_append.mpr ⟨pairwise_closed .., hpair, ?_⟩⟩
        · rcases List.mem_append.mp hg with hg | hg
          · exact getD_le_of_mem_closed hg
          · exact Nat.le_trans hgetD (hstart g hg)
        · intro a ha b hb
          obtain ⟨s, -, rfl⟩ := mem_closed.mp ha
          exact hstart b hb

/-! ## The open segment -/

/-- How a running loop stands after the instant `now`: since when a segment is open, if one is, and
the heartbeats that it has had. -/
inductive Standing (w : Watchdog) (now : ℕ) : Option ℕ → List ℕ → Prop
  | offLine (h : w.core.regime.onLine = false) (hd : w.core.timer.deadline? = none) :
      Standing w now none []
  | onLine {s n : ℕ} (hn : s + n * w.core.regime.interval ≤ now)
      (hd : w.core.timer.deadline? = some (s + (n + 1) * w.core.regime.interval)) :
      Standing w now (some s) (beats s w.core.regime.interval n)

lemma onTime_iff : w.onTime now ↔ ∀ d, w.core.timer.deadline? = some d → now ≤ d := by
  simp [onTime, Option.all_eq_true]

/-- When the open segment is over, its heartbeats are those that it has had. -/
lemma Standing.flatMap_closed (h : w.Standing now since? past) (hI : 0 < w.core.regime.interval)
    (hnow : now ≤ t) (ht : w.onTime t)
    (hne : ∀ g ∈ closed w.core.regime since? t, g.finish ∉ past) :
    (closed w.core.regime since? t).flatMap Segment.instants = past := by
  cases h with
  | offLine => rfl
  | @onLine s n hn hdl =>
    show [Segment.mk s t w.core.regime.interval].flatMap Segment.instants = _
    rw [List.flatMap_singleton]
    exact Segment.instants_eq_beats hI (Nat.le_trans hn hnow) (onTime_iff.mp ht _ hdl)
      (hne ⟨s, t, w.core.regime.interval⟩ (List.mem_singleton.mpr rfl))

/-- Nothing changes for the open segment while the regime and the timer stay as they are. -/
lemma Standing.of_eq {w' : Watchdog} (h : w.Standing now since? past)
    (hr : w'.core.regime = w.core.regime)
    (ht : w'.core.timer.deadline? = w.core.timer.deadline?) (hnow : now ≤ t) :
    w'.Standing t since? past := by
  cases h with
  | offLine hoff hd => exact .offLine (hr ▸ hoff) (ht.trans hd)
  | onLine hn hd =>
    rw [← hr] at hn hd ⊢
    exact .onLine (Nat.le_trans hn hnow) (ht.trans hd)

/-- A tick that is taken when it is due is the next heartbeat of the open segment. -/
lemma Standing.tick {m : Moment} (h : w.Standing now since? past)
    (hper : w.core.timer.period = w.core.regime.interval) (ha : w.allows (.turn m .due))
    (ht : w.onTime m.now) :
    (w.happen (.turn m .due)).1.Standing m.now since? (past ++ [m.now]) := by
  obtain ⟨d, u, hu⟩ := tick_due_of_allows ha
  obtain ⟨hdl, hle, rfl⟩ := Timer.tick?_eq_some_iff.mp hu
  obtain rfl : m.now = d := Nat.le_antisymm (onTime_iff.mp ht d hdl) hle
  cases h with
  | offLine hoff hnone =>
    rw [hnone] at hdl
    cases hdl
  | @onLine s n hn hs =>
    have hnow : m.now = s + (n + 1) * w.core.regime.interval := by
      rw [hdl] at hs
      exact Option.some.inj hs
    have hr : (w.happen (.turn m .due)).1.core.regime = w.core.regime := regime_happen w _
    rw [hnow, ← beats_succ, ← hnow, ← hr]
    refine .onLine (by rw [hr]; exact Nat.le_of_eq hnow.symm) ?_
    have hdl' : (w.happen (.turn m .due)).1.core.timer.deadline? =
        some (Timer.nextDeadline m.now m.now w.core.timer.period) := by
      show (w.core.step m .due).1.timer.deadline? = _
      rw [Core.step_due hu, Core.beginPing_fst hu]
    rw [hdl', Timer.nextDeadline_of_le (Nat.le_add_right _ _), hper, hr, hnow, Nat.add_assoc,
      ← Nat.succ_mul]

/-- A change of the regime begins a segment, if the network is there. -/
lemma standing_of_ne {m : Moment} {i : Incident} (hv : config.Valid)
    (hc : w.core.Consistent config) (hne : w.core.regime.after w.core.config i ≠ w.core.regime) :
    (w.happen (.turn m i)).1.Standing m.now
      (opened (w.core.regime.after w.core.config i) m.now) [] := by
  have hr : (w.happen (.turn m i)).1.core.regime = w.core.regime.after w.core.config i :=
    regime_happen w _
  have hi : i ≠ .due := by
    rintro rfl
    exact hne rfl
  have hb := (hc.step hv m i).bounded.nanosPerMilli_le hv
  have ht : (w.happen (.turn m i)).1.core.timer = _ := Core.timer_step m w.core hi
  rw [Core.regime_step] at hb
  have hdl := hc.follows.deadline?_retime m.now hb hne
  rw [← ht, ← hr] at hdl
  rw [← hr, opened]
  split
  next hon =>
    rw [if_pos hon] at hdl
    exact .onLine (n := 0) (by omega) (by rw [hdl, Nat.zero_add, Nat.one_mul])
  next hoff =>
    rw [if_neg hoff] at hdl
    exact .offLine (Bool.eq_false_iff.mpr hoff) hdl

/-! ## Whole lives -/

lemma Consistent.interval_pos (hc : w.Consistent config) (hv : config.Valid)
    (hp : w.phase = .running) : 0 < w.core.regime.interval :=
  Nat.lt_of_lt_of_le (by decide) ((hc hp).bounded.nanosPerMilli_le hv)

/-- Up to the instant `e` the heartbeats are those of the segments, together with those that the
open segment has had before. -/
lemma append_attempts_eq (hv : config.Valid) (hc : w.Consistent config) (hp : w.phase = .running)
    (hl : w.lives hs) (hord : (now :: (Happening.instants hs ++ [e])).Pairwise (· ≤ ·))
    (hpun : w.punctual e hs) (hst : w.Standing now since? past)
    (hne : ∀ g ∈ segments config e w.core.regime since? hs, g.finish ∉ past ++ w.attempts hs) :
    past ++ w.attempts hs =
      (segments config e w.core.regime since? hs).flatMap Segment.instants := by
  induction hs generalizing w now since? past with
  | nil =>
    rw [attempts, List.append_nil] at hne ⊢
    have hle : now ≤ e := (List.pairwise_cons.mp hord).1 e (by simp [Happening.instants])
    exact (hst.flatMap_closed (hc.interval_pos hv hp) hle hpun hne).symm
  | cons h hs ih =>
    obtain ⟨ha, hl'⟩ := lives_cons.mp hl
    obtain ⟨ht, hpun'⟩ := Bool.and_eq_true_iff.mp hpun
    have hc' := hc.happen hv ha
    cases h with
    | bind i =>
      rw [attempts_of_isTick_eq_false ha rfl] at hne ⊢
      exact ih hc' hp hl' hord hpun' (hst.of_eq rfl rfl (Nat.le_refl _)) hne
    | finish m =>
      have hnil : (w.happen (.finish m)).1.attempts hs = [] :=
        attempts_of_ended (fun h => by cases h) hl'
      rw [attempts_of_isTick_eq_false ha rfl, hnil, List.append_nil] at hne ⊢
      have hle : now ≤ m.now := (List.pairwise_cons.mp hord).1 m.now (by
        simp [Happening.instants, Happening.instant?])
      exact (hst.flatMap_closed (hc.interval_pos hv hp) hle ht hne).symm
    | turn m i =>
      obtain ⟨hle, hord'⟩ := List.pairwise_cons.mp hord
      have hle : now ≤ m.now := hle m.now List.mem_cons_self
      have hcfg := (hc hp).config_eq
      have hr := regime_happen w (.turn m i)
      change _ = w.core.regime.after w.core.config i at hr
      rw [segments] at hne ⊢
      by_cases hkept : w.core.regime.after config i = w.core.regime
      · rw [if_pos hkept] at hne ⊢
        rw [hcfg, hkept] at hr
        rw [← hr] at hne ⊢
        by_cases hi : i = .due
        · -- a tick, the next heartbeat of the open segment
          subst hi
          have htick := hst.tick (hc hp).follows.period ha ht
          have hih := ih hc' hp hl' hord' hpun' htick
          rw [attempts_tick ha] at hne ⊢
          rw [List.append_assoc, List.singleton_append] at hih
          exact hih hne
        · rw [attempts_of_isTick_eq_false ha (Happening.isTick_turn hi)] at hne ⊢
          have htimer := Core.timer_step m w.core hi
          rw [hcfg, hkept, Regime.retime_self] at htimer
          exact ih hc' hp hl' hord' hpun' (hst.of_eq hr (congrArg _ htimer) hle) hne
      · -- the open segment is over, and perhaps another one begins
        rw [if_neg hkept] at hne ⊢
        have hi : i ≠ .due := by
          rintro rfl
          exact hkept rfl
        rw [attempts_of_isTick_eq_false ha (Happening.isTick_turn hi)] at hne ⊢
        have hnew := standing_of_ne (m := m) hv (hc hp) (hcfg.symm ▸ hkept)
        rw [hcfg] at hr hnew
        rw [← hr] at hne hnew ⊢
        have hih := ih hc' hp hl' hord' hpun' hnew fun g hg hmem =>
          hne g (List.mem_append_right _ hg) (List.mem_append_right _ hmem)
        have hclosed := hst.flatMap_closed (hc.interval_pos hv hp) hle ht
          fun g hg hmem => hne g (List.mem_append_left _ hg) (List.mem_append_left _ hmem)
        rw [List.flatMap_append, hclosed, ← hih, List.nil_append]

/-- **Heartbeats follow the schedule.**  Take any life that starts with a valid configuration, at
instants that do not run backwards up to an instant `e`, in which every tick is taken when it is due
and no segment is over at the instant of a heartbeat; the latter is so if nothing else happens at
such an instant.  Then the heartbeats are those of the segments of the life, and no others.  The
segments follow one another, and

* the heartbeats of a segment come one, two, three … of its intervals after its beginning, before
  it is over;
* there are as many of them as whole intervals in the segment, unless the segment is over just
  when one more would be due. -/
theorem heartbeats_on_schedule (valid : config.validate = .ok ())
    (lives : (launch config workerHeld).lives hs)
    (ordered : (Happening.instants hs ++ [e]).Pairwise (· ≤ ·))
    (punctual : (launch config workerHeld).punctual e hs)
    (apart : ∀ g ∈ segments config e (.initial config) none hs,
      g.finish ∉ (launch config workerHeld).attempts hs) :
    let gs := segments config e (.initial config) none hs
    (launch config workerHeld).attempts hs = gs.flatMap Segment.instants ∧
      gs.Pairwise (·.finish ≤ ·.start) ∧
      ∀ g ∈ gs,
        (∀ t, t ∈ g.instants ↔ ∃ k, 1 ≤ k ∧ t = g.start + k * g.interval ∧ t < g.finish) ∧
        (¬g.interval ∣ g.finish - g.start →
          g.instants.length = (g.finish - g.start) / g.interval) := by
  have hv := HeartbeatConfig.valid_of_validate valid
  have hord : (0 :: (Happening.instants hs ++ [e])).Pairwise (· ≤ ·) :=
    List.pairwise_cons.mpr ⟨fun t _ => Nat.zero_le t, ordered⟩
  refine ⟨?_, (segments_ordered hord (by simp)).2, fun g hg => ⟨fun t => ?_, ?_⟩⟩
  · exact append_attempts_eq hv (consistent_launch hv workerHeld) rfl lives hord punctual
      (.offLine rfl rfl) apart
  · exact Segment.mem_instants (interval_pos_of_mem_segments hv (Regime.bounded_initial hv) hg)
  · exact Segment.length_instants

/-- One heartbeat at the first interval; then a shorter interval is asked for, another heartbeat is
sent, and the network goes. -/
def twoSegments : List Happening :=
  firstHeartbeat ++
    [.turn ⟨millis 2500, .epoch, true⟩ (.setInterval 1000),
      .turn ⟨millis 3500, .epoch, true⟩ .due,
      .turn ⟨millis 3500, .epoch, true⟩ (.emitted (.ok ())),
      .turn ⟨millis 4000, .epoch, true⟩ (.signal false)]

theorem heartbeats_of_two_segments :
    (launch {} true).attempts twoSegments = [millis 2000, millis 3500] ∧
      segments {} (millis 5000) (.initial {}) none twoSegments =
        [⟨0, millis 2500, millis 2000⟩, ⟨millis 2500, millis 4000, millis 1000⟩] ∧
      (launch {} true).attempts twoSegments =
        (segments {} (millis 5000) (.initial {}) none twoSegments).flatMap Segment.instants := by
  have hl : (launch {} true).lives twoSegments = true := by decide
  have hp : (launch {} true).punctual (millis 5000) twoSegments = true := by decide
  obtain ⟨h, -⟩ := heartbeats_on_schedule rfl hl (by decide) hp (by decide)
  exact ⟨by decide, by decide, h⟩

end Watchdog

end LinkWatch
