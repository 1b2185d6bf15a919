import ScyllaClusterSync.TuiDash.Api

/-!
# What a live dashboard can show

Whatever the polls bring back and whichever keys are pressed: the log is the end of the log of a
dashboard with more room, and the room has no other effect; the clock in the header is the one
of the seconds read last; and the tables and ranges that only the demo fills stay empty
(`live_dashboard_shows`).
-/

namespace ScyllaClusterSync
namespace TuiDash

open Lib
open SSTableLoader (Json)

variable {D : Type} {cap cap' : ℕ} {s s' : DashboardState D}

/-! ## The clock fits its buffer -/

theorem length_twoDigits_le {n : ℤ} {k : ℕ} (hk : 2 ≤ k) (hn : n.natAbs < 10 ^ k) :
    (twoDigits n).length ≤ k + 1 := by
  have hlen := (Nat.length_toDigits_le_iff (b := 10) (by norm_num) (by omega)).mpr hn
  unfold twoDigits
  split
  · rw [List.length_cons]
    omega
  · rw [List.leftpad, List.length_append, List.length_replicate]
    omega

/-- The longest text is that of a negative time, with three signs. -/
theorem length_elapsedText_le (total : Int32) : (elapsedText total.toInt).length ≤ 15 := by
  have hlow := total.le_toInt
  have hhigh := total.toInt_lt
  have habs : total.toInt.natAbs ≤ 2 ^ 31 := by omega
  have hhours : (total.toInt.tdiv 3600).natAbs < 10 ^ 6 := by
    rw [Int.natAbs_tdiv]
    show total.toInt.natAbs / 3600 < 10 ^ 6
    omega
  have hminutes : ((total.toInt.tmod 3600).tdiv 60).natAbs < 10 ^ 2 := by
    rw [Int.natAbs_tdiv, Int.natAbs_tmod]
    show total.toInt.natAbs % 3600 / 60 < 10 ^ 2
    omega
  have hseconds : (total.toInt.tmod 60).natAbs < 10 ^ 2 := by
    rw [Int.natAbs_tmod]
    show total.toInt.natAbs % 60 < 10 ^ 2
    omega
  have h₁ := length_twoDigits_le (by norm_num) hhours
  have h₂ := length_twoDigits_le (le_refl 2) hminutes
  have h₃ := length_twoDigits_le (le_refl 2) hseconds
  simp only [elapsedText, List.length_append, List.length_cons]
  omega

theorem snprintf_elapsedText (total : Int32) :
    DualWriter.snprintf 16 (elapsedText total.toInt) = String.ofList (elapsedText total.toInt) := by
  rw [DualWriter.snprintf, List.take_of_length_le]
  exact length_elapsedText_le total

/-! ## The room of the log makes no difference to anything else -/

namespace DashboardState

theorem truncate_addLog (hcap : cap ≤ cap') (hlog : s.activityLog.length ≤ cap') (now : ℕ)
    (level message : String) :
    (s.truncate cap).addLog cap now level message =
      (s.addLog cap' now level message).truncate cap := by
  unfold addLog truncate
  rw [BoundedLog.push_rtake hcap hlog]

theorem length_addLog (hlog : s.activityLog.length ≤ cap) (now : ℕ) (level message : String) :
    (s.addLog cap now level message).activityLog.length ≤ cap :=
  BoundedLog.length_push_le hlog _

end DashboardState

/-- A dashboard with room for `cap` entries beside one with room for `cap'`. -/
structure Shows (cap cap' : ℕ) (s s' : DashboardState D) : Prop where
  eq : s = s'.truncate cap
  length : s'.activityLog.length ≤ cap'

theorem Shows.addLog (hcap : cap ≤ cap') (h : Shows cap cap' s s') (now : ℕ)
    (level message : String) :
    Shows cap cap' (s.addLog cap now level message) (s'.addLog cap' now level message) := by
  obtain ⟨rfl, hlog⟩ := h
  exact ⟨DashboardState.truncate_addLog hcap hlog now level message,
    DashboardState.length_addLog hlog now level message⟩

theorem Shows.logWhen (hcap : cap ≤ cap') (h : Shows cap cap' s s') (condition : Bool) (now : ℕ)
    (level message : String) :
    Shows cap cap' (logWhen cap condition now level message s)
      (logWhen cap' condition now level message s') := by
  cases condition with
  | false => exact h
  | true => exact h.addLog hcap now level message

theorem Shows.togglePause (hcap : cap ≤ cap') (h : Shows cap cap' s s') (now : ℕ) :
    Shows cap cap' (s.togglePause cap now) (s'.togglePause cap' now) := by
  obtain ⟨rfl, hlog⟩ := h
  unfold DashboardState.togglePause
  by_cases hrunning : s'.isRunning = true
  · rw [if_pos hrunning, if_pos (by exact hrunning)]
    have hflipped : Shows cap cap'
        (({ s' with isPaused := !s'.isPaused } : DashboardState D).truncate cap)
        { s' with isPaused := !s'.isPaused } := ⟨rfl, hlog⟩
    exact hflipped.addLog hcap now (if !s'.isPaused then "WARN" else "INFO")
      (if !s'.isPaused then "Migration paused by user" else "Migration resumed")
  · rw [if_neg hrunning, if_neg (by exact hrunning)]
    exact ⟨rfl, hlog⟩

theorem Shows.scrollUp (h : Shows cap cap' s s') : Shows cap cap' s.scrollUp s'.scrollUp := by
  obtain ⟨rfl, hlog⟩ := h
  unfold DashboardState.scrollUp
  by_cases hoffset : s'.scrollOffset > 0
  · rw [if_pos hoffset, if_pos (by exact hoffset)]
    exact ⟨rfl, hlog⟩
  · rw [if_neg hoffset, if_neg (by exact hoffset)]
    exact ⟨rfl, hlog⟩

theorem Shows.scrollDown (h : Shows cap cap' s s') :
    Shows cap cap' s.scrollDown s'.scrollDown := by
  obtain ⟨rfl, hlog⟩ := h
  exact ⟨rfl, hlog⟩

/-- The transitions of two states that differ in the log alone are the same. -/
theorem Shows.logTransitions {before before' : DashboardState D} (hcap : cap ≤ cap')
    (hbefore : Shows cap cap' before before') (h : Shows cap cap' s s') (baseUrl : String)
    (now : ℕ → ℕ) :
    Shows cap cap' (logTransitions cap baseUrl now before s)
      (logTransitions cap' baseUrl now before' s') := by
  obtain ⟨rfl, _⟩ := hbefore
  obtain ⟨rfl, hlog⟩ := h
  have hsame : Shows cap cap' (s'.truncate cap) s' := ⟨rfl, hlog⟩
  exact ((((hsame.logWhen hcap _ _ _ _).logWhen hcap _ _ _ _).logWhen hcap _ _ _ _).logWhen
    hcap _ _ _ _).logWhen hcap _ _ _ _

/-- An assignment reads and writes nothing of the log. -/
def KeepsLog (a : Assignment D) : Prop :=
  ∀ m s log, a m { s with activityLog := log } =
    (a m s).map fun s => { s with activityLog := log }

theorem keepsLog_assignment {T : Type} {get : Json (Scalar D) → Except (JsonException D) T}
    {fallback : T} {key : String} {set : T → DashboardState D → DashboardState D}
    (hset : ∀ v s log, set v { s with activityLog := log } = { set v s with activityLog := log }) :
    KeepsLog (assignment get fallback key set) := by
  intro m s log
  unfold assignment
  cases value get fallback m key with
  | error e => rfl
  | ok v => exact congrArg Except.ok (hset v s log)

/-- The assignments of an answer, run beside another log. -/
theorem assign_log {as : List (Assignment D)} (has : ∀ a ∈ as, KeepsLog a)
    (m : Json (Scalar D)) (s : DashboardState D) (log : List LogEntry) :
    assign m as { s with activityLog := log } =
      ({ (assign m as s).1 with activityLog := log }, (assign m as s).2) := by
  induction as generalizing s with
  | nil => rfl
  | cons a as ih =>
    have ha := has a List.mem_cons_self m s log
    simp only [assign]
    rw [ha]
    cases a m s with
    | error e => rfl
    | ok s' => exact ih (fun b hb => has b (List.mem_cons_of_mem a hb)) s'

/-- So the log stays as it is. -/
theorem activityLog_assign {as : List (Assignment D)} (has : ∀ a ∈ as, KeepsLog a)
    (m : Json (Scalar D)) (s : DashboardState D) :
    (assign m as s).1.activityLog = s.activityLog :=
  congrArg (fun r => r.1.activityLog) (assign_log has m s s.activityLog)

/-- An assignment that succeeds keeps `P`. -/
def Keeps (P : DashboardState D → Prop) (a : Assignment D) : Prop :=
  ∀ m s s', P s → a m s = .ok s' → P s'

theorem keeps_assignment {P : DashboardState D → Prop} {T : Type}
    {get : Json (Scalar D) → Except (JsonException D) T} {fallback : T} {key : String}
    {set : T → DashboardState D → DashboardState D} (hset : ∀ v s, P s → P (set v s)) :
    Keeps P (assignment get fallback key set) := by
  intro m s s' hs hok
  unfold assignment at hok
  cases hvalue : value get fallback m key with
  | error e => rw [hvalue] at hok; cases hok
  | ok v =>
    rw [hvalue] at hok
    obtain rfl := Except.ok.inj hok
    exact hset v s hs

/-- What each assignment keeps holds of a state updated in part as well. -/
theorem assign_keeps {P : DashboardState D → Prop} {as : List (Assignment D)}
    (has : ∀ a ∈ as, Keeps P a) (m : Json (Scalar D)) (hs : P s) : P (assign m as s).1 := by
  induction as generalizing s with
  | nil => exact hs
  | cons a as ih =>
    unfold assign
    cases hstep : a m s with
    | error e => exact hs
    | ok s' =>
      exact ih (fun b hb => has b (List.mem_cons_of_mem a hb))
        (has a List.mem_cons_self m s s' hs hstep)

theorem logWhen_keeps {P : DashboardState D → Prop}
    (hP : ∀ s log, P s → P { s with activityLog := log }) (condition : Bool) (now : ℕ)
    (level message : String) (hs : P s) : P (logWhen cap condition now level message s) := by
  cases condition with
  | false => exact hs
  | true => exact hP s _ hs

/-- What a change of the log keeps, the entries of an answer keep. -/
theorem logTransitions_keeps {P : DashboardState D → Prop}
    (hP : ∀ s log, P s → P { s with activityLog := log }) (baseUrl : String) (now : ℕ → ℕ)
    (before : DashboardState D) (hs : P s) : P (logTransitions cap baseUrl now before s) := by
  unfold logTransitions
  apply logWhen_keeps hP
  apply logWhen_keeps hP
  apply logWhen_keeps hP
  apply logWhen_keeps hP
  exact logWhen_keeps hP _ _ _ _ hs

variable [Double D]

theorem Shows.new : Shows cap cap' (DashboardState.new : DashboardState D) .new :=
  ⟨by rw [DashboardState.truncate, DashboardState.new]; simp [List.rtake], Nat.zero_le _⟩

theorem keepsLog_assignments : ∀ a ∈ (assignments : List (Assignment D)), KeepsLog a := by
  simp only [assignments, List.forall_mem_cons]
  refine ⟨?_, ?_, ?_, ?_, ?_, ?_, ?_, ?_, ?_, ?_, ?_, ?_, ?_⟩
  all_goals first | exact keepsLog_assignment fun v s log => rfl | simp

theorem Shows.updateState (hcap : cap ≤ cap') (h : Shows cap cap' s s') (baseUrl : String)
    (now : ℕ → ℕ) (body : Json (Scalar D)) :
    Shows cap cap' (updateState cap baseUrl now body s).1
        (updateState cap' baseUrl now body s').1 ∧
      (updateState cap baseUrl now body s).2 = (updateState cap' baseUrl now body s').2 := by
  unfold TuiDash.updateState
  cases body.member "migration" with
  | none => exact ⟨h, rfl⟩
  | some m =>
    obtain ⟨rfl, hlog⟩ := h
    have hassign : assign m assignments (s'.truncate cap) =
        ({ (assign m assignments s').1 with activityLog := s'.activityLog.rtake cap },
          (assign m assignments s').2) :=
      assign_log keepsLog_assignments m s' _
    have hsame := activityLog_assign keepsLog_assignments m s'
    dsimp only
    rw [hassign]
    generalize assign m assignments s' = r at hsame ⊢
    obtain ⟨t, e⟩ := r
    dsimp only at hsame ⊢
    have hshows : Shows cap cap' { t with activityLog := s'.activityLog.rtake cap } t :=
      ⟨by rw [DashboardState.truncate, hsame], hsame ▸ hlog⟩
    cases e with
    | none =>
      dsimp only
      exact ⟨Shows.logTransitions hcap ⟨rfl, hlog⟩ hshows baseUrl now, rfl⟩
    | some e =>
      dsimp only
      exact ⟨hshows, rfl⟩

theorem Shows.fetchStatus (hcap : cap ≤ cap') (h : Shows cap cap' s s')
    (what : JsonException D → String) (baseUrl : String) (now : ℕ → ℕ) (c : ApiClient)
    (response : Response D) :
    Shows cap cap' (fetchStatus cap what baseUrl now c s response).2
        (fetchStatus cap' what baseUrl now c s' response).2 ∧
      (fetchStatus cap what baseUrl now c s response).1 =
        (fetchStatus cap' what baseUrl now c s' response).1 := by
  cases response with
  | error text => exact ⟨h.logWhen hcap _ _ _ _, rfl⟩
  | reply status body =>
    unfold TuiDash.fetchStatus
    dsimp only
    by_cases hstatus : status ≠ 200
    · rw [if_pos hstatus, if_pos hstatus]
      exact ⟨h, rfl⟩
    · rw [if_neg hstatus, if_neg hstatus]
      cases body with
      | error text => exact ⟨h.addLog hcap _ _ _, rfl⟩
      | ok body =>
        obtain ⟨hstate, hexception⟩ := h.updateState hcap baseUrl now body
        dsimp only
        generalize TuiDash.updateState cap baseUrl now body s = u at hstate hexception ⊢
        generalize TuiDash.updateState cap' baseUrl now body s' = u' at hstate hexception ⊢
        obtain ⟨t, e⟩ := u
        obtain ⟨t', e'⟩ := u'
        obtain rfl : e = e' := hexception
        cases e with
        | none => exact ⟨hstate, rfl⟩
        | some e => exact ⟨hstate.addLog hcap _ _ _, rfl⟩

theorem Shows.onKey (hcap : cap ≤ cap') (h : Shows cap cap' s s') (now : ℕ) (k : Key) :
    Shows cap cap' (onKey cap now s k) (onKey cap' now s' k) := by
  cases k with
  | space => exact h.togglePause hcap now
  | r => exact Shows.new.addLog hcap now _ _
  | arrowUp => exact h.scrollUp
  | arrowDown => exact h.scrollDown

/-- One event, for both dashboards. -/
theorem Shows.liveStep {d d' : LiveDashboard D} (hcap : cap ≤ cap')
    (h : Shows cap cap' d.state d'.state) (hclient : d.client = d'.client)
    (what : JsonException D → String) (baseUrl : String) (event : LiveEvent D × (ℕ → ℕ)) :
    Shows cap cap' (liveStep cap what baseUrl d event).state
        (liveStep cap' what baseUrl d' event).state ∧
      (liveStep cap what baseUrl d event).client = (liveStep cap' what baseUrl d' event).client := by
  obtain ⟨event, now⟩ := event
  cases event with
  | poll response =>
    have hfetch := h.fetchStatus hcap what baseUrl now d'.client response
    rw [← hclient] at hfetch
    unfold TuiDash.liveStep
    rw [← hclient]
    exact hfetch
  | key k => exact ⟨h.onKey hcap (now 0) k, hclient⟩

theorem Shows.foldl (hcap : cap ≤ cap') (what : JsonException D → String) (baseUrl : String)
    (events : List (LiveEvent D × (ℕ → ℕ))) {d d' : LiveDashboard D}
    (h : Shows cap cap' d.state d'.state) (hclient : d.client = d'.client) :
    Shows cap cap' (events.foldl (TuiDash.liveStep cap what baseUrl) d).state
        (events.foldl (TuiDash.liveStep cap' what baseUrl) d').state ∧
      (events.foldl (TuiDash.liveStep cap what baseUrl) d).client =
        (events.foldl (TuiDash.liveStep cap' what baseUrl) d').client := by
  induction events generalizing d d' with
  | nil => exact ⟨h, hclient⟩
  | cons event events ih =>
    obtain ⟨hstate, hsame⟩ := h.liveStep hcap hclient what baseUrl event
    exact ih hstate hsame

/-! ## What only the demo fills, and the clock -/

/-- The header shows the seconds read last, and the demo's fields have their defaults. -/
structure DashboardState.Live (s : DashboardState D) : Prop where
  clock : s.elapsedDisplay = String.ofList (elapsedText (Double.toInt s.elapsedSecs).toInt)
  tables : s.tables = []
  rangesTotal : s.rangesTotal = 0
  rangesCompleted : s.rangesCompleted = 0

namespace DashboardState

theorem live_new : (new : DashboardState D).Live := by
  refine ⟨?_, rfl, rfl, rfl⟩
  show "00:00:00" = String.ofList (elapsedText (Double.toInt (Double.zero : D)).toInt)
  rw [Double.toInt_zero]
  decide

/-- The flags, the log and the scrolling are not what `Live` is about. -/
theorem Live.frame (h : s.Live) (paused : Bool) (log : List LogEntry) (offset : UInt64) :
    ({ s with isPaused := paused, activityLog := log, scrollOffset := offset } :
      DashboardState D).Live :=
  ⟨h.clock, h.tables, h.rangesTotal, h.rangesCompleted⟩

theorem live_setLog (s : DashboardState D) (log : List LogEntry) (h : s.Live) :
    ({ s with activityLog := log } : DashboardState D).Live :=
  h.frame s.isPaused log s.scrollOffset

theorem Live.addLog (h : s.Live) (now : ℕ) (level message : String) :
    (s.addLog cap now level message).Live :=
  live_setLog s _ h

theorem Live.onKey (h : s.Live) (now : ℕ) (k : Key) : (onKey cap now s k).Live := by
  cases k with
  | space =>
    show (s.togglePause cap now).Live
    unfold togglePause
    split
    · exact (h.frame (!s.isPaused) s.activityLog s.scrollOffset).addLog now _ _
    · exact h
  | r => exact live_new.addLog _ _ _
  | arrowUp =>
    show s.scrollUp.Live
    unfold scrollUp
    split
    · exact h.frame s.isPaused s.activityLog (s.scrollOffset - 1)
    · exact h
  | arrowDown => exact h.frame s.isPaused s.activityLog (s.scrollOffset + 1)

end DashboardState

theorem live_assignments :
    ∀ a ∈ (assignments : List (Assignment D)), Keeps DashboardState.Live a := by
  simp only [assignments, List.forall_mem_cons]
  refine ⟨?_, ?_, ?_, ?_, ?_, ?_, ?_, ?_, ?_, ?_, ?_, ?_, ?_⟩
  -- the last one reads the seconds and prints the clock
  case refine_12 =>
    exact keeps_assignment fun v s h =>
      ⟨snprintf_elapsedText _, h.tables, h.rangesTotal, h.rangesCompleted⟩
  case refine_13 => simp
  all_goals
    exact keeps_assignment fun v s h => ⟨h.clock, h.tables, h.rangesTotal, h.rangesCompleted⟩

namespace DashboardState

theorem Live.updateState (h : s.Live) (baseUrl : String) (now : ℕ → ℕ) (body : Json (Scalar D)) :
    (updateState cap baseUrl now body s).1.Live := by
  unfold TuiDash.updateState
  cases body.member "migration" with
  | none => exact h
  | some m =>
    have hassign := assign_keeps live_assignments m h
    dsimp only
    generalize assign m assignments s = r at hassign ⊢
    obtain ⟨t, e⟩ := r
    cases e with
    | none =>
      exact logTransitions_keeps live_setLog baseUrl now s hassign
    | some e => exact hassign

end DashboardState

/-- What one event keeps. -/
structure LiveDashboard.Live (d : LiveDashboard D) : Prop where
  state : d.state.Live
  lastError : d.client.connected = true → d.client.lastError = ""

theorem LiveDashboard.Live.liveStep {d : LiveDashboard D} (h : d.Live)
    (what : JsonException D → String) (baseUrl : String) (event : LiveEvent D × (ℕ → ℕ)) :
    (liveStep cap what baseUrl d event).Live := by
  obtain ⟨event, now⟩ := event
  cases event with
  | key k => exact ⟨h.state.onKey _ _, h.lastError⟩
  | poll response =>
    show LiveDashboard.Live
      { client := (fetchStatus cap what baseUrl now d.client d.state response).1
        state := (fetchStatus cap what baseUrl now d.client d.state response).2 }
    cases response with
    | error text =>
      exact ⟨logWhen_keeps DashboardState.live_setLog _ _ _ _ h.state,
        fun hconnected => nomatch hconnected⟩
    | reply status body =>
      unfold fetchStatus
      dsimp only
      split
      · exact ⟨h.state, fun hconnected => nomatch hconnected⟩
      · cases body with
        | error text => exact ⟨h.state.addLog _ _ _, fun hconnected => nomatch hconnected⟩
        | ok body =>
          have hupdate := @DashboardState.Live.updateState _ cap _ _ h.state baseUrl now body
          dsimp only
          generalize updateState cap baseUrl now body d.state = u at hupdate ⊢
          obtain ⟨t, e⟩ := u
          cases e with
          | none => exact ⟨hupdate, fun _ => rfl⟩
          | some e => exact ⟨hupdate.addLog _ _ _, fun hconnected => nomatch hconnected⟩

theorem LiveDashboard.Live.foldl (what : JsonException D → String) (baseUrl : String)
    (events : List (LiveEvent D × (ℕ → ℕ))) {d : LiveDashboard D} (h : d.Live) :
    (events.foldl (TuiDash.liveStep cap what baseUrl) d).Live := by
  induction events generalizing d with
  | nil => exact h
  | cons event events ih => exact ih (h.liveStep what baseUrl event)

/-! ## The dashboard -/

/-- Whatever the polls bring and whichever keys are pressed. -/
theorem live_dashboard_shows (what : JsonException D → String) (baseUrl : String) (now room : ℕ)
    (events : List (LiveEvent D × (ℕ → ℕ))) :
    Shows logCapacity (logCapacity + room) (liveRun logCapacity what baseUrl now events).state
        (liveRun (logCapacity + room) what baseUrl now events).state ∧
      (liveRun logCapacity what baseUrl now events).state.activityLog.length ≤ logCapacity ∧
      (liveRun logCapacity what baseUrl now events).client =
        (liveRun (logCapacity + room) what baseUrl now events).client ∧
      (liveRun logCapacity what baseUrl now events).Live := by
  have hcap : logCapacity ≤ logCapacity + room := Nat.le_add_right _ _
  have hstart : Shows logCapacity (logCapacity + room)
      (LiveDashboard.start logCapacity now baseUrl : LiveDashboard D).state
      (LiveDashboard.start (logCapacity + room) now baseUrl : LiveDashboard D).state :=
    Shows.new.addLog hcap now _ _
  have hlive : (LiveDashboard.start logCapacity now baseUrl : LiveDashboard D).Live :=
    ⟨DashboardState.live_new.addLog _ _ _, fun hconnected => nomatch hconnected⟩
  obtain ⟨hshows, hclient⟩ := hstart.foldl hcap what baseUrl events rfl
  refine ⟨hshows, ?_, hclient, hlive.foldl what baseUrl events⟩
  unfold liveRun
  rw [hshows.eq]
  exact BoundedLog.length_rtake_le _

end TuiDash
end ScyllaClusterSync
