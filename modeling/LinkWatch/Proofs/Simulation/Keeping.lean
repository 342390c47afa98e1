/-
# Keeping the schedule in virtual time

A world in virtual time that is left to itself sends its heartbeats on schedule
(`World.Keeps`): everything that can be done at one time is done (`World.Keeps.settle`), and the time
moves on as far as it is told to (`World.Keeps.advance`), so that the heartbeats of the open segment
are as many as whole intervals have passed since its beginning (`World.Keeps.heartbeatsSent_eq`).

A signal or a directive that changes the regime begins a new segment at once
(`World.Keeps.sendSignals`, `World.Keeps.inject`), and everything else goes on as before.
-/
import LinkWatch.Proofs.Simulation.Serving

namespace LinkWatch

/-- A change of the regime is told by one command at most. -/
lemma Regime.length_commands_le (r r' : Regime) : (r.commands r').length ≤ 1 := by
  rw [commands_eq]
  split <;> simp

namespace Simulation.World

variable {config : HeartbeatConfig} {w w' w₁ w₂ : World} {i : Incident} {r : Regime}
  {since? : Option ℕ} {before : ℕ}

/-! ## Keeping the schedule -/

/-- A world that is left to itself, in which the heartbeats of the open segment come on schedule and
the channel records all of them. -/
structure Keeps (config : HeartbeatConfig) (r : Regime) (since? : Option ℕ) (before : ℕ)
    (w : World) : Prop where
  calm : w.Calm
  works : w.Works config
  regime : w.watchdog.core.regime = r
  counts : w.watchdog.Counts (millis w.now) since? before
  holds : w.channel.Holds w.watchdog.core.status.heartbeatsSent
  /-- The open segment begins at a whole millisecond. -/
  whole : ∀ s, since? = some s → nanosPerMilli ∣ s

/-- The foreground timer is served at the instant at which it is due. -/
lemma Keeps.onTime (h : w.Keeps config r since? before) : w.watchdog.onTime (millis w.now) := by
  refine Watchdog.onTime_iff.mpr fun d hd => ?_
  have hlate := h.works.timer d hd
  obtain ⟨past, hst, -⟩ := h.counts.standing
  cases hst with
  | offLine hoff hnone =>
    rw [hnone] at hd
    cases hd
  | @onLine s n hn hdl =>
    obtain rfl := Option.some.inj (hdl.symm.trans hd)
    have hwhole : nanosPerMilli ∣ s + (n + 1) * w.watchdog.core.regime.interval :=
      Nat.dvd_add (h.whole s rfl) (Nat.dvd_mul_left_of_dvd (Nat.dvd_mul_left _ _) _)
    obtain ⟨k, hk⟩ := hwhole
    rw [hk, millis, Nat.mul_comm] at hlate ⊢
    have hle : w.now ≤ k := Nat.le_of_lt_succ (Nat.lt_of_mul_lt_mul_left hlate)
    exact Nat.mul_le_mul_left _ hle

lemma Serves.now_eq (hs : w.Serves w') : w'.now = w.now := by
  cases hs <;> rfl

lemma Serves.regime_eq (hs : w.Serves w') :
    w'.watchdog.core.regime = w.watchdog.core.regime := by
  cases hs with
  | obeys | ticks => rfl
  | takes | counts | begins => exact Watchdog.regime_happen _ _

lemma Serves.keeps (hs : w.Serves w') (h : w.Keeps config r since? before) (hv : config.Valid) :
    w'.Keeps config r since? before := by
  have hturn : ∀ {i : Incident}, w.watchdog.allows (.turn (w.moment w.now) i) →
      w.watchdog.core.regime.after w.watchdog.core.config i = w.watchdog.core.regime →
      (Happening.turn (w.moment w.now) i).isRefused = false → i.rejections = 0 →
      (w.watchdog.happen (.turn (w.moment w.now) i)).1.Counts (millis w.now) since? before :=
    fun ha hkept hrefused hrejected => h.counts.turn h.works.consistent ha hkept hrefused hrejected
      (Nat.le_refl _) fun _ => h.onTime
  refine ⟨hs.calm h.calm, hs.works h.works h.calm hv, ?_, ?_, ?_, h.whole⟩
  · exact hs.regime_eq.trans h.regime
  · rw [hs.now_eq]
    cases hs with
    | obeys | ticks => exact h.counts
    | takes allowed => exact hturn allowed rfl rfl rfl
    | counts waits allowed => exact hturn allowed rfl rfl rfl
    | begins allowed => exact hturn allowed rfl rfl rfl
  · cases hs with
    | obeys | ticks => exact h.holds
    | takes allowed =>
      have hsent := (Watchdog.tallied_happen allowed).heartbeatsSent
      have htaken := h.holds.take (w.moment w.now).wall
      exact hsent ▸ htaken
    | counts waits allowed =>
      have hsent := (Watchdog.tallied_happen allowed).heartbeatsSent
      exact hsent ▸ h.holds
    | begins allowed =>
      have hsent := (Watchdog.tallied_happen allowed).heartbeatsSent
      exact hsent ▸ h.holds

/-! ## Letting it happen -/

lemma Keeps.settleIn {turns : ℕ} (h : w.Keeps config r since? before) (hv : config.Valid)
    (hle : w.burden ≤ turns) :
    (settleIn turns w).Keeps config r since? before ∧ (settleIn turns w).Quiet ∧
      (settleIn turns w).now = w.now := by
  -- induction on the turns, of which there are as many as the burden at least
  induction turns generalizing w with
  | zero =>
    refine ⟨h, h.works.quiet (Option.eq_none_iff_forall_ne_some.mpr fun w' hturn => ?_), rfl⟩
    have hless := (h.works.serves h.calm hturn).burden_lt h.works
    omega
  | succ turns ih =>
    rw [World.settleIn]
    split
    next w' hturn =>
      have hs := h.works.serves h.calm hturn
      have hless := hs.burden_lt h.works
      obtain ⟨hkeeps, hquiet, hnow⟩ := ih (hs.keeps h hv) (by omega)
      exact ⟨hkeeps, hquiet, hnow.trans hs.now_eq⟩
    next hnone => exact ⟨h, h.works.quiet hnone, rfl⟩

/-- **Everything that can be done at one time is done.** -/
theorem Keeps.settle (h : w.Keeps config r since? before) (hv : config.Valid) :
    w.settle.Keeps config r since? before ∧ w.settle.Quiet ∧ w.settle.now = w.now :=
  h.settleIn hv (w.burden_le.trans (by rw [load]; omega))

/-! ## Moving the time -/

/-- The instants of the next ticks of both timers. -/
def deadlines (w : World) : List ℕ :=
  w.watchdog.core.timer.deadline?.toList ++ w.clock.deadline?.toList

lemma millis_timeOf_lt (d : ℕ) : millis (timeOf d) < d + nanosPerMilli := by
  rw [timeOf, Timer.wakeUp, Nat.mul_div_cancel _ (by decide)]
  exact Timer.wakeUp_lt d

lemma lt_timeOf_iff {t d : ℕ} : t < timeOf d ↔ millis t < d := by
  rw [timeOf, Timer.wakeUp, Nat.mul_div_cancel _ (by decide), millis, nanosPerMilli]
  omega

lemma Works.nextTime?_eq (h : w.Works config) (hq : w.Quiet) :
    w.nextTime? = (w.deadlines.map timeOf).min? := by
  rw [nextTime?, if_neg (by simp [h.running]), hq.sending?, deadlines]
  cases w.watchdog.core.timer.deadline? <;> cases w.clock.deadline? <;> rfl

lemma Quiet.lt_of_mem_deadlines (hq : w.Quiet) {d : ℕ} (hd : d ∈ w.deadlines) :
    millis w.now < d := by
  rcases List.mem_append.mp hd with hd | hd
  · exact hq.timer d (Option.mem_toList.mp hd)
  · obtain ⟨c, hc, hd⟩ := Option.bind_eq_some_iff.mp (Option.mem_toList.mp hd)
    exact hq.clock c hc d hd

/-- Time may pass as long as neither timer is kept waiting. -/
lemma Keeps.wait (h : w.Keeps config r since? before) (hq : w.Quiet) {time : ℕ}
    (hle : w.now ≤ time) (hd : ∀ d ∈ w.deadlines, time ≤ timeOf d) :
    Keeps config r since? before { w with now := time } := by
  have htimely : ∀ d ∈ w.deadlines, millis time < d + nanosPerMilli := fun d hmem =>
    Nat.lt_of_le_of_lt (Nat.mul_le_mul_right _ (hd d hmem)) (millis_timeOf_lt d)
  obtain ⟨c, hc, -⟩ := h.works.clock
  obtain ⟨past, hst, hcount⟩ := h.counts.standing
  refine ⟨{ h.calm with listens := ?_ },
    { h.works with
      clock := ⟨c, hc, fun d hdl => ?_⟩
      timer := fun d hdl => ?_
      arrives := ?_ }, h.regime,
    { h.counts with standing := ⟨past, hst.of_eq rfl rfl (Nat.mul_le_mul_right _ hle), hcount⟩ },
    h.holds, h.whole⟩
  · obtain ⟨id, hl⟩ := h.calm.listens
    exact ⟨id, hl.source, hl.subscription?, hl.position?⟩
  · refine htimely d (List.mem_append_right _ (Option.mem_toList.mpr ?_))
    exact Option.bind_eq_some_iff.mpr ⟨c, hc, hdl⟩
  · exact htimely d (List.mem_append_left _ (Option.mem_toList.mpr hdl))
  · intro s hs
    rw [hq.sending?] at hs
    cases hs

/-- Up to a time before the next ticks there is nothing to be done. -/
lemma Keeps.rest (h : w.Keeps config r since? before) (hq : w.Quiet) {time : ℕ}
    (hle : w.now ≤ time) (hd : ∀ d ∈ w.deadlines, time < timeOf d) :
    Keeps config r since? before { w with now := time } ∧ Quiet { w with now := time } := by
  refine ⟨h.wait hq hle fun d hmem => (hd d hmem).le, hq.commands, hq.sending?,
    fun c hc d hdl => ?_, fun d hdl => ?_⟩
  · refine lt_timeOf_iff.mp (hd d (List.mem_append_right _ (Option.mem_toList.mpr ?_)))
    exact Option.bind_eq_some_iff.mpr ⟨c, hc, hdl⟩
  · exact lt_timeOf_iff.mp (hd d (List.mem_append_left _ (Option.mem_toList.mpr hdl)))

lemma Keeps.advanceIn {finish moves : ℕ} (h : w.Keeps config r since? before) (hv : config.Valid)
    (hq : w.Quiet) (hle : w.now ≤ finish) (hmoves : finish - w.now < moves) :
    (advanceIn finish moves w).Keeps config r since? before ∧ (advanceIn finish moves w).Quiet ∧
      (advanceIn finish moves w).now = finish := by
  -- induction on the moves: each of them goes on by a millisecond at least
  induction moves generalizing w with
  | zero => omega
  | succ moves ih =>
    rw [World.advanceIn, h.works.nextTime?_eq hq]
    split
    next time htime =>
      obtain ⟨hmem, hfirst⟩ := List.min?_eq_some_iff.mp htime
      have hfirst : ∀ d ∈ w.deadlines, time ≤ timeOf d := fun d hd =>
        hfirst _ (List.mem_map_of_mem hd)
      obtain ⟨d, hd, rfl⟩ := List.mem_map.mp hmem
      have hlater : w.now < timeOf d := lt_timeOf_iff.mpr (hq.lt_of_mem_deadlines hd)
      split
      next hbefore =>
        rw [Nat.max_eq_right hlater.le]
        obtain ⟨hkeeps, hquiet, hnow⟩ := (h.wait hq hlater.le hfirst).settle hv
        refine ih hkeeps hquiet ?_ ?_
        · rwa [hnow]
        · rw [hnow]
          show finish - timeOf d < moves
          omega
      next hafter =>
        obtain ⟨hkeeps, hquiet⟩ := h.rest hq hle fun e he =>
          Nat.lt_of_lt_of_le (Nat.not_le.mp hafter) (hfirst e he)
        exact ⟨hkeeps, hquiet, rfl⟩
    next hnone =>
      have hempty : w.deadlines = [] := List.map_eq_nil_iff.mp (List.min?_eq_none_iff.mp hnone)
      obtain ⟨hkeeps, hquiet⟩ := h.rest hq hle (by simp [hempty])
      exact ⟨hkeeps, hquiet, rfl⟩

/-- **The time moves on as far as it is told to**, and everything is done that becomes due. -/
theorem Keeps.advance (h : w.Keeps config r since? before) (hv : config.Valid) (ms : ℕ) :
    (w.advance ms).Keeps config r since? before ∧ (w.advance ms).Quiet ∧
      (w.advance ms).now = w.now + ms := by
  obtain ⟨hkeeps, hquiet, hnow⟩ := h.settle hv
  exact hkeeps.advanceIn hv hquiet (by omega) (by omega)

/-- The number of whole intervals since the open segment began, if one is open. -/
def beatsBy (r : Regime) (since? : Option ℕ) (now : ℕ) : ℕ :=
  (since?.map fun s => (now - s) / r.interval).getD 0

/-- **The heartbeats of the open segment are as many as whole intervals have passed.** -/
theorem Keeps.heartbeatsSent_eq (h : w.Keeps config r since? before) (hq : w.Quiet) :
    w.watchdog.core.status.heartbeatsSent = before + beatsBy r since? (millis w.now) := by
  obtain ⟨past, hst, hcount⟩ := h.counts.standing
  have hidle : w.watchdog.core.emitting = false := by
    rw [← h.works.sends, hq.sending?]
    rfl
  rw [hidle, Bool.toNat_false, Nat.add_zero] at hcount
  rw [hcount, ← h.regime]
  cases hst with
  | offLine => rfl
  | @onLine s n hn hd =>
    have hlater := hq.timer _ hd
    rw [beats, List.length_map, List.length_range, beatsBy, Option.map_some, Option.getD_some]
    refine congrArg (before + ·) (Nat.div_eq_of_lt_le ?_ ?_).symm
    · omega
    · omega

/-! ## A change of the regime -/

/-- **A change of the regime begins a segment of the schedule**, if the network is there. -/
lemma Keeps.turn (h : w.Keeps config r since? before) (hv : config.Valid) (hq : w.Quiet)
    (hi : i.steers) (hne : r.after config i ≠ r) (hrejected : i.rejections = 0) :
    (w.turn i).Keeps config (r.after config i)
        (Watchdog.opened (r.after config i) (millis w.now))
        w.watchdog.core.status.heartbeatsSent ∧
      (w.turn i).now = w.now ∧
      (w.turn i).clock.link.commands.length ≤ 1 ∧
      (w.turn i).clock.link.ticks = w.clock.link.ticks := by
  have hidle : w.watchdog.core.emitting = false := by
    rw [← h.works.sends, hq.sending?]
    rfl
  have ha : w.watchdog.allows (.turn (w.moment w.now) i) :=
    Watchdog.allows_turn_iff.mpr ⟨h.works.running, by rw [Core.awaits_of_steers hi, hidle]; rfl⟩
  have hgone : i ≠ .workerGone := by
    rintro rfl
    cases hi
  have htick : (Happening.turn (w.moment w.now) i).isTick = false := by
    cases i with
    | due => cases hi
    | _ => rfl
  have htaken : (Happening.turn (w.moment w.now) i).isTaken = false := by
    cases i with
    | emitted => cases hi
    | _ => rfl
  have hafter : w.watchdog.core.regime.after w.watchdog.core.config i = r.after config i := by
    rw [h.works.consistent.config_eq, h.regime]
  have hcounts := h.counts.change h.works.consistent hv hidle ha
    (by rw [hafter, h.regime]; exact hne) hrejected
  have hregime := Core.regime_step (w.moment w.now) w.watchdog.core i
  have hsent := (Watchdog.tallied_happen ha).heartbeatsSent
  rw [htaken] at hsent
  obtain ⟨o, ho⟩ := exists_turn_eq ha hgone h.works.workerHeld h.works.listening
  rw [htick, hq.commands] at ho
  rw [hafter] at ho hcounts hregime
  rw [ho]
  refine ⟨⟨?_, ?_, hregime, hcounts, ?_, ?_⟩, rfl, Regime.length_commands_le _ _, rfl⟩
  · obtain ⟨id, hl⟩ := h.calm.listens
    exact ⟨h.calm.requests, h.calm.signals?, ⟨id, hl.source, hl.subscription?, hl.position?⟩,
      h.calm.sound, h.calm.connected, h.calm.delay, h.calm.failure?⟩
  · exact h.works.turn h.calm hv ha hgone rfl ⟨_, _, rfl⟩ (by rw [htick]; exact hq.sending?) rfl
  · exact hsent ▸ h.holds
  · intro s hs
    rw [Watchdog.eq_of_opened_eq_some hs]
    exact Nat.dvd_mul_left _ _

lemma settleIn_succ_of_loopTurn? (hclock : w₁.clockTurn? = none)
    (hturn : w₁.loopTurn? = some w₂) (turns : ℕ) :
    World.settleIn (turns + 1) w₁ = World.settleIn turns w₂ := by
  rw [World.settleIn, hclock, Option.none_or, hturn]

/-- What has made the event loop take a first turn leads to everything that can be done then. -/
lemma Keeps.settle_turn (h : w.Keeps config r since? before) (hv : config.Valid) (hq : w.Quiet)
    (hi : i.steers) (hne : r.after config i ≠ r) (hrejected : i.rejections = 0)
    (hclock : w₁.clock = w.clock) (hnow : w₁.now = w.now)
    (hturn : w₁.loopTurn? = some (w.turn i)) :
    w₁.settle.Keeps config (r.after config i)
        (Watchdog.opened (r.after config i) (millis w.now))
        w.watchdog.core.status.heartbeatsSent ∧
      w₁.settle.Quiet ∧ w₁.settle.now = w.now := by
  obtain ⟨hkeeps, hnow', hcommands, hticks⟩ := h.turn hv hq hi hne hrejected
  have hquiet : w₁.clockTurn? = none := by
    rw [clockTurn?_eq_none_iff (by rw [hclock]; exact h.works.held), hclock, hnow]
    exact fun c hc => ⟨hq.commands, hq.clock c hc⟩
  have hsettle : w₁.settle = World.settleIn (4 * w₁.load + 63) (w.turn i) :=
    settleIn_succ_of_loopTurn? hquiet hturn _
  have hload : w.clock.link.ticks ≤ w₁.load := by
    rw [← hclock, load]
    exact Nat.le_add_left _ _
  have hburden := (w.turn i).burden_le
  have hle : (w.turn i).burden ≤ 4 * w₁.load + 63 := by omega
  obtain ⟨hlast, hlastQuiet, hlastNow⟩ := hkeeps.settleIn hv hle
  rw [hsettle]
  exact ⟨hlast, hlastQuiet, hlastNow.trans hnow'⟩

/-- A signal that the network came or went. -/
theorem Keeps.sendSignals (h : w.Keeps config r since? before) (hv : config.Valid) (hq : w.Quiet)
    {online : Bool} (hne : online ≠ r.onLine) :
    (w.sendSignals [online]).2.Keeps config { r with onLine := online }
        (Watchdog.opened { r with onLine := online } (millis w.now))
        w.watchdog.core.status.heartbeatsSent ∧
      (w.sendSignals [online]).2.Quiet ∧ (w.sendSignals [online]).2.now = w.now := by
  let waiting : World := { w with signals? := some { waiting := [online] } }
  have hsent : (w.sendSignals [online]).2 = waiting.settle := by
    simp only [World.sendSignals, h.calm.signals?]
    rfl
  have hloop : waiting.loopTurn? = some (w.turn (.signal online)) := by
    have hsame : { w with signals? := some {} } = w := by
      rw [← h.calm.signals?]
    have hsignal : waiting.signalTurn? = some (World.turn (.signal online)
      { w with signals? := some {} }) := rfl
    have hrunning : waiting.watchdog.phase = .running := h.works.running
    have hidle : waiting.sending? = none := hq.sending?
    rw [loopTurn?, if_neg (not_not.mpr hrunning), hidle]
    simp only [hsignal, Option.some_or, hsame]
  have hchange : { r with onLine := online } ≠ r := fun heq => hne (congrArg Regime.onLine heq)
  rw [hsent]
  exact h.settle_turn hv hq (i := .signal online) rfl hchange rfl rfl rfl hloop

/-- A directive that changes the interval. -/
theorem Keeps.inject (h : w.Keeps config r since? before) (hv : config.Valid) (hq : w.Quiet)
    {e : Event} {n : UInt64} (he : e.requestedMs? = some n) (hne : config.clamp n ≠ r.intervalMs) :
    (w.inject [e]).2.Keeps config { r with intervalMs := config.clamp n }
        (Watchdog.opened { r with intervalMs := config.clamp n } (millis w.now))
        w.watchdog.core.status.heartbeatsSent ∧
      (w.inject [e]).2.Quiet ∧ (w.inject [e]).2.now = w.now := by
  obtain ⟨id, hl⟩ := h.calm.listens
  let b := w.channel.inbound
  -- the event waits in the channel, and then the event loop has taken it
  let waiting : World := { w with channel.inbound := b.send e }
  let taken : World := { w with channel.inbound := (b.send e).moveTo id (b.sent + 1) }
  have hsound := h.calm.sound.send e
  have hlook := h.calm.sound.look_send (by decide) e
  have hlistens : waiting.Listens id b.sent := ⟨hl.source, hl.subscription?, hl.position?⟩
  have hoffer : waiting.offer? = some (.inbound e, taken) := by
    have hfound : waiting.channel.inbound.look b.sent = (.item e, b.sent + 1) := hlook
    rw [hlistens.offer?_eq, hfound]
    rfl
  have hkeeps : taken.Keeps config r since? before := by
    have hmoved : (b.send e).position? id = some b.sent := hlistens.position?
    have hreceive := Broadcast.receive?_of_position? hmoved
    rw [hlook] at hreceive
    refine ⟨{ h.calm with sound := hsound.receive hreceive, listens := ⟨id, ?_⟩ }, { h.works with },
      h.regime, h.counts, ⟨h.holds.length, h.holds.heartbeat⟩, h.whole⟩
    exact ⟨hl.source, hl.subscription?, Broadcast.position?_moveTo (by rw [hmoved]; rfl)⟩
  have hinject : (w.inject [e]).2 = waiting.settle := by
    have hinbound : w.inbound = b := by
      rw [inbound, hl.source]
      rfl
    have hput : w.setInbound (b.send e) = waiting := if_neg (by simp [hl.source])
    have hopen : b.closed = false := h.calm.sound.closed
    rw [World.inject, hinbound, if_neg (by simp [hopen])]
    exact congrArg World.settle hput
  have hloop : waiting.loopTurn? = some (taken.turn (.inbound e)) := by
    have hsignal : waiting.signalTurn? = none := signalTurn?_eq_none h.calm.signals?
    have hinbound : waiting.inboundTurn? = some (taken.turn (.inbound e)) := by
      rw [inboundTurn?_eq, hoffer]
      rfl
    have hrunning : waiting.watchdog.phase = .running := h.works.running
    have hidle : waiting.sending? = none := hq.sending?
    rw [loopTurn?, if_neg (not_not.mpr hrunning), hidle]
    simp only [hsignal, hinbound, Option.some_or, Option.none_or]
  have hafter : r.after config (.inbound e) = { r with intervalMs := config.clamp n } :=
    Regime.after_of_requestedMs? config r he
  rw [hinject, ← hafter]
  refine hkeeps.settle_turn (i := .inbound e) hv ⟨hq.commands, hq.sending?, hq.clock, hq.timer⟩ rfl
    ?_ (Incident.rejections_of_requestedMs? he) rfl rfl hloop
  rw [hafter]
  exact fun heq => hne (congrArg Regime.intervalMs heq)

/-! ## The beginning and the end -/

/-- A new world with a background clock, in which nothing has happened but that indicators were
bound. -/
structure Fresh (config : HeartbeatConfig) (w : World) : Prop where
  watchdog : ∃ bound, w.watchdog = { core := { Core.new config true with
    indicators := { bound } } }
  channel : w.channel = {}
  ownInbound? : w.ownInbound? = none
  clock : w.clock = .new
  delay : w.delay = 0
  failure? : w.failure? = none
  sending? : w.sending? = none

lemma Fresh.bind (h : w.Fresh config) (i : Indicator) : (w.bind i).Fresh config := by
  obtain ⟨bound, hwatchdog⟩ := h.watchdog
  obtain ⟨o, ho⟩ : ∃ observed, w.bind i = { w with
      watchdog := (w.watchdog.bindIndicator i).2
      observed } := by
    cases i <;> exact ⟨_, rfl⟩
  have hbound : (w.watchdog.bindIndicator i).2 = { core := { Core.new config true with
      indicators := { bound := bound ++ [i] } } } := by
    rw [hwatchdog]
    rfl
  rw [ho]
  exact { h with watchdog := ⟨_, hbound⟩ }

/-- A world whose watchdog was just started. -/
def launched (config : HeartbeatConfig) (bound : List Indicator) (now : ℕ) (epoch : Timestamp)
    (observed : List Observation) : World where
  now := now
  epoch := epoch
  watchdog := { core := { Core.new config true with indicators := { bound } }, phase := .running }
  channel := { inbound := (Broadcast.subscribe { capacity := inboundBuffer }).2 }
  subscription? := some 0
  signals? := some {}
  clock := .new
  observed := observed

lemma keeps_launched (hv : config.Valid) (bound : List Indicator) (now : ℕ) (epoch : Timestamp)
    (observed : List Observation) :
    (launched config bound now epoch observed).Keeps config (.initial config) none 0 := by
  have hc := Core.consistent_new hv true
  refine ⟨⟨rfl, rfl, ⟨0, rfl, rfl, rfl⟩, ?_, rfl, rfl, rfl⟩,
    ⟨rfl, ?_, rfl, rfl, rfl, rfl, ⟨.idle, rfl, nofun⟩, nofun, rfl, nofun⟩, rfl,
    ⟨⟨[], .offLine rfl rfl, rfl⟩, rfl, rfl⟩, ⟨rfl, nofun⟩, nofun⟩
  · exact (Broadcast.Made.subscribe .new).sound
  · exact ⟨hc.config_eq, hc.follows, hc.bounded, rfl, hc.pinged, hc.published⟩

lemma Fresh.exists_start_eq (h : w.Fresh config) :
    ∃ bound observed, w.start.2 = (launched config bound w.now w.epoch observed).settle := by
  obtain ⟨bound, hwatchdog⟩ := h.watchdog
  have hinbound : w.inbound = { capacity := inboundBuffer } := by
    rw [inbound, h.ownInbound?, h.channel]
    rfl
  refine ⟨bound, .log (.started config.intervalMs true) :: w.observed, ?_⟩
  simp only [World.start, Watchdog.start, hwatchdog, hinbound, setInbound, h.ownInbound?]
  simp only [h.channel, h.clock, h.delay, h.failure?, h.sending?]
  rfl

/-- **From its start on a watchdog keeps to the schedule.** -/
theorem Fresh.start (h : w.Fresh config) (hv : config.Valid) :
    w.start.2.Keeps config (.initial config) none 0 ∧ w.start.2.Quiet ∧ w.start.2.now = w.now := by
  obtain ⟨bound, observed, hstart⟩ := h.exists_start_eq
  rw [hstart]
  exact (keeps_launched hv bound w.now w.epoch observed).settle hv

lemma history_finish (w : World) : w.finish.channel.history = w.channel.history := by
  have hset : ∀ (b : Broadcast Event) (w : World),
      (w.setInbound b).channel.history = w.channel.history := by
    intro b w
    rw [setInbound]
    split <;> rfl
  rw [finish]
  dsimp only
  split
  · rw [hset, (performAll_eq _ _).1]
  · rw [(performAll_eq _ _).1]

/-- Once the event loop has ended, only the background clock goes on. -/
lemma settleIn_of_ended (turns : ℕ) (h : w.watchdog.phase = .ended) :
    (World.settleIn turns w).watchdog = w.watchdog ∧
      (World.settleIn turns w).channel = w.channel := by
  induction turns generalizing w with
  | zero => exact ⟨rfl, rfl⟩
  | succ turns ih =>
    have hloop : w.loopTurn? = none := if_pos (by simp [h])
    rw [World.settleIn, hloop, Option.or_none]
    split
    next w' hturn =>
      obtain ⟨⟨turn, clock⟩, -, hw'⟩ := Option.map_eq_some_iff.mp hturn
      have hsame : w'.watchdog = w.watchdog ∧ w'.channel = w.channel := by
        rw [← hw']
        dsimp only
        split <;> exact ⟨rfl, rfl⟩
      obtain ⟨hwatchdog, hchannel⟩ := ih (w := w') (hsame.1 ▸ h)
      exact ⟨hwatchdog.trans hsame.1, hchannel.trans hsame.2⟩
    next => exact ⟨rfl, rfl⟩

/-- **What is left when a watchdog is shut down.** -/
theorem Keeps.shutdown (h : w.Keeps config r since? before) (hq : w.Quiet) :
    w.shutdown.channel.Holds w.watchdog.core.status.heartbeatsSent ∧
      w.shutdown.watchdog.status = { w.watchdog.core.status with
        foregroundRunning := false
        workerAvailable := true } := by
  let asked : World := { w with watchdog.requests := [.shutdown] }
  have hloop : asked.loopTurn? = some asked.finish := by
    obtain ⟨id, hl⟩ := h.calm.listens
    have hlistens : asked.Listens id asked.channel.inbound.sent :=
      ⟨hl.source, hl.subscription?, hl.position?⟩
    have hsignal : asked.signalTurn? = none := signalTurn?_eq_none h.calm.signals?
    have hinbound : asked.inboundTurn? = none := inboundTurn?_eq_none hlistens h.calm.sound
    have hrunning : asked.watchdog.phase = .running := h.works.running
    have hidle : asked.sending? = none := hq.sending?
    rw [loopTurn?, if_neg (not_not.mpr hrunning), hidle]
    simp only [hsignal, hinbound, Option.none_or]
    rfl
  have hclock : asked.clockTurn? = none :=
    (@clockTurn?_eq_none_iff asked h.works.held).mpr fun c hc => ⟨hq.commands, hq.clock c hc⟩
  have hsettle : asked.settle = World.settleIn (4 * asked.load + 63) asked.finish :=
    settleIn_succ_of_loopTurn? hclock hloop _
  have hended : asked.finish.watchdog.phase = .ended := by
    rw [watchdog_finish]
    rfl
  obtain ⟨hwatchdog, hchannel⟩ := settleIn_of_ended (4 * asked.load + 63) hended
  have hshutdown : w.shutdown = asked.settle := by
    have hasked : { w with watchdog := w.watchdog.shutdown } = asked := by
      simp [Watchdog.shutdown, asked, h.works.running, h.calm.requests]
    have hphase : asked.settle.watchdog.phase = .ended := by rw [hsettle, hwatchdog, hended]
    unfold World.shutdown
    dsimp only
    rw [if_neg (by simp [h.works.running]), hasked, hphase]
  have hhistory : asked.finish.channel.history = w.channel.history := history_finish asked
  rw [hshutdown, hsettle, hwatchdog, hchannel, watchdog_finish]
  refine ⟨⟨?_, ?_⟩, ?_⟩
  · rw [hhistory]
    exact h.holds.length
  · rw [hhistory]
    exact h.holds.heartbeat
  have hlistening : (w.moment w.now).listening = true := h.works.listening
  show (w.watchdog.core.finish (w.moment w.now)).1.published = _
  rw [Core.finish_fst, hlistening, h.works.workerHeld]
  rfl

end Simulation.World

end LinkWatch
