import TTSignal.Runs
import TTSignal.Throttle

/-!
# Path changes

The network monitor reports path changes to `SMPConnector::OnPathChange`. The first report
only tells the path the process started on. A later one restarts all connections, unless
the last report that did so is less than three seconds old: then it is ignored, and nothing
makes up for it. So a connection follows the last report that was not ignored.
-/

namespace Conn

open Throttle

/-- A connection as far as `Restart` deals with it. The last field is a record kept by the
model. -/
structure PathConnection where
  /-- `keep_working_`: calls are accepted. -/
  keepWorking : Bool
  /-- `_CloseCheck` tells that the connection is closing. -/
  closing : Bool
  /-- The handles of the posted tasks of `Restart`, oldest first. -/
  tasks : List ℤ
  /-- `network_handle_`. -/
  networkHandle : ℤ
  /-- The handles that `udp_socket_` was restarted for, if there is a socket. -/
  udpSocket : Option (List ℤ)
  /-- The handles that `Restart` was called with. -/
  restarts : List ℤ
  deriving DecidableEq, Repr

namespace PathConnection

variable (c : PathConnection)

/-- `SMPConnection::Restart`. -/
def restart (networkHandle : ℤ) : PathConnection :=
  { c with
    tasks := if c.keepWorking then c.tasks ++ [networkHandle] else c.tasks
    restarts := c.restarts ++ [networkHandle] }

/-- The task of `Restart`. -/
def restartTask (networkHandle : ℤ) : PathConnection :=
  if c.closing then c
  else
    { c with
      networkHandle := networkHandle
      udpSocket := c.udpSocket.map fun handles => handles ++ [networkHandle] }

/-- The oldest task runs. -/
def runTask : PathConnection :=
  match c.tasks with
  | [] => c
  | networkHandle :: rest => { c with tasks := rest }.restartTask networkHandle

/-- An open connection: it takes calls and is not closing. -/
def IsOpen : Prop := c.keepWorking = true ∧ c.closing = false

end PathConnection

/-- A report of the network monitor: the time at which it comes and the interface index. -/
structure PathReport where
  /-- The milliseconds of the steady clock. -/
  nowMs : ℤ
  /-- The interface index. -/
  newIfIndex : ℤ
  deriving DecidableEq, Repr

/-- The part of `SMPConnector` that deals with path changes. -/
structure PathConnector where
  /-- `first_path_callback_seen_`. -/
  firstPathCallbackSeen : Bool
  /-- `last_path_change_ms_`, 0 for none. -/
  lastPathChangeMs : ℤ
  /-- `conns_map_`: the connections by id. -/
  connsMap : List (ℕ × PathConnection)
  deriving DecidableEq, Repr

/-- `kPathChangeCooldownMs`. -/
def kPathChangeCooldownMs : ℤ := 3000

namespace PathConnector

/-- A connector that has had no report, with the connections it has. -/
def create (connsMap : List (ℕ × PathConnection)) : PathConnector where
  firstPathCallbackSeen := false
  lastPathChangeMs := 0
  connsMap := connsMap

variable (s : PathConnector)

/-- A function is applied to the connections that are selected by their ids. -/
def onConns (selected : ℕ → Bool) (f : PathConnection → PathConnection) : PathConnector :=
  { s with connsMap := s.connsMap.map fun entry =>
      if selected entry.1 then (entry.1, f entry.2) else entry }

/-- `OnPathChange`. -/
def onPathChange (report : PathReport) : PathConnector :=
  if report.newIfIndex ≤ 0 then s
  else if ¬ s.firstPathCallbackSeen then { s with firstPathCallbackSeen := true }
  else if s.lastPathChangeMs ≠ 0 ∧ report.nowMs - s.lastPathChangeMs < kPathChangeCooldownMs then s
  else
    { s with lastPathChangeMs := report.nowMs }.onConns (fun _ => true)
      fun conn => conn.restart report.newIfIndex

end PathConnector

/-- What can happen: a report comes, or a connection runs its oldest task. -/
inductive PathEvent where
  | report (report : PathReport)
  | runTask (connId : ℕ)
  deriving DecidableEq, Repr

/-- The report of an event, if it names an interface. -/
def PathEvent.named : PathEvent → Option PathReport
  | .report path => if 0 < path.newIfIndex then some path else none
  | .runTask _ => none

/-- The reports of a sequence of events that name an interface. -/
def pathReports (events : List PathEvent) : List PathReport := events.filterMap PathEvent.named

namespace PathConnector

/-- One event. -/
def step (s : PathConnector) : PathEvent → PathConnector
  | .report report => s.onPathChange report
  | .runTask connId => s.onConns (· == connId) PathConnection.runTask

end PathConnector

/-- The cooldown of one report ignores another. -/
def PathReport.Cools (a b : PathReport) : Prop :=
  a.nowMs ≠ 0 ∧ b.nowMs - a.nowMs < kPathChangeCooldownMs

instance : DecidableRel PathReport.Cools := fun a b =>
  inferInstanceAs (Decidable (a.nowMs ≠ 0 ∧ b.nowMs - a.nowMs < kPathChangeCooldownMs))

namespace PathConnection

variable {c : PathConnection}

/-- The connection was restarted last for the handles, and those of them wait that it has not
worked off. -/
structure Restarted (c : PathConnection) (handles : List ℤ) : Prop where
  /-- The connection is open. -/
  isOpen : c.IsOpen
  /-- The last restarts are these. -/
  restarts : handles <:+ c.restarts
  /-- They have been carried out, or wait in order, and the last one carried out has set the handle.
  -/
  worked : ∃ done, handles <:+ done ++ c.tasks ∧ ∀ handle ∈ done.getLast?, c.networkHandle = handle

/-- An open connection has not been restarted. -/
theorem IsOpen.restarted (h : c.IsOpen) : c.Restarted [] where
  isOpen := h
  restarts := List.nil_suffix
  worked := ⟨[], List.nil_suffix, by simp⟩

/-- A restart comes behind the others. -/
theorem Restarted.restart {handles : List ℤ} (h : c.Restarted handles) (networkHandle : ℤ) :
    (c.restart networkHandle).Restarted (handles ++ [networkHandle]) where
  isOpen := h.isOpen
  restarts := by
    obtain ⟨before, hbefore⟩ := h.restarts
    exact ⟨before, by rw [PathConnection.restart, ← hbefore, List.append_assoc]⟩
  worked := by
    obtain ⟨done, ⟨before, hbefore⟩, hhandle⟩ := h.worked
    refine ⟨done, ⟨before, ?_⟩, hhandle⟩
    simp only [PathConnection.restart, h.isOpen.1, if_true, ← List.append_assoc, hbefore]

/-- A task of the connection carries one out. -/
theorem Restarted.runTask {handles : List ℤ} (h : c.Restarted handles) :
    c.runTask.Restarted handles := by
  obtain ⟨done, hdone, hhandle⟩ := h.worked
  unfold PathConnection.runTask
  split
  case h_1 => exact h
  case h_2 networkHandle rest htasks =>
    have hopen : ¬ ({ c with tasks := rest } : PathConnection).closing = true := by
      simp [h.isOpen.2]
    rw [restartTask, if_neg hopen]
    refine ⟨h.isOpen, h.restarts, done ++ [networkHandle], ?_, ?_⟩
    · rw [List.append_assoc, List.singleton_append, ← htasks]
      exact hdone
    · intro handle hlast
      rw [List.getLast?_concat] at hlast
      exact Option.some.inj hlast

/-- The last handle ends every list that the handles end. -/
theorem getLast?_of_suffix {handles all : List ℤ} (h : handles <:+ all) {handle : ℤ}
    (hlast : handles.getLast? = some handle) : all.getLast? = some handle := by
  obtain ⟨before, rfl⟩ := h
  have hne : handles ≠ [] := by
    rintro rfl
    simp at hlast
  rw [List.getLast?_append_of_ne_nil before hne, hlast]

/-- The connection was restarted last for the last handle, and uses it once nothing waits. -/
theorem Restarted.last {handles : List ℤ} (h : c.Restarted handles) {handle : ℤ}
    (hlast : handles.getLast? = some handle) :
    c.restarts.getLast? = some handle ∧ (c.tasks = [] → c.networkHandle = handle) := by
  refine ⟨getLast?_of_suffix h.restarts hlast, fun htasks => ?_⟩
  obtain ⟨done, hdone, hhandle⟩ := h.worked
  rw [htasks, List.append_nil] at hdone
  exact hhandle handle (getLast?_of_suffix hdone hlast)

end PathConnection

namespace PathConnector

variable {s : PathConnector} {reports : List PathReport}

/-- What the reports that name an interface have done: all connections were restarted for
those that came through the cooldown, the first one left out. -/
structure Follows (s : PathConnector) (reports : List PathReport) : Prop where
  /-- A callback has been seen when there has been a report. -/
  seen : s.firstPathCallbackSeen = true ↔ reports ≠ []
  /-- The last change is the last report that was let through. -/
  last : s.lastPathChangeMs = (latest PathReport.Cools none reports.tail).elim 0 PathReport.nowMs
  /-- Every connection has been restarted for the reports that were let through. -/
  conns : ∀ entry ∈ s.connsMap, entry.2.Restarted
    ((through PathReport.Cools none reports.tail).map PathReport.newIfIndex)

/-- Before the first report nothing has to be restarted. -/
theorem Follows.create {connsMap : List (ℕ × PathConnection)}
    (h : ∀ entry ∈ connsMap, entry.2.IsOpen) : (PathConnector.create connsMap).Follows [] where
  seen := by simp [PathConnector.create]
  last := rfl
  conns := fun entry hentry => (h entry hentry).restarted

/-- A connection behind a call on some of them was there before. -/
theorem mem_onConns {selected : ℕ → Bool} {f : PathConnection → PathConnection}
    {entry : ℕ × PathConnection} (h : entry ∈ (s.onConns selected f).connsMap) :
    ∃ before ∈ s.connsMap, entry.1 = before.1 ∧
      entry.2 = if selected before.1 then f before.2 else before.2 := by
  obtain ⟨before, hbefore, rfl⟩ := List.mem_map.mp h
  refine ⟨before, hbefore, ?_⟩
  split <;> simp

/-- The cooldown of the connector is that of the last report that came through. -/
theorem Follows.cooling_iff (h : s.Follows reports) (report : PathReport) :
    (s.lastPathChangeMs ≠ 0 ∧ report.nowMs - s.lastPathChangeMs < kPathChangeCooldownMs) ↔
      Ignored PathReport.Cools (latest PathReport.Cools none reports.tail) report := by
  rw [h.last]
  cases latest PathReport.Cools none reports.tail with
  | none => simp [Ignored]
  | some b => simp [Ignored, PathReport.Cools]

/-- A report that names an interface. -/
theorem Follows.onPathChange (h : s.Follows reports) {report : PathReport}
    (hindex : 0 < report.newIfIndex) : (s.onPathChange report).Follows (reports ++ [report]) := by
  have hpositive : ¬ report.newIfIndex ≤ 0 := by omega
  unfold PathConnector.onPathChange
  rw [if_neg hpositive]
  by_cases hseen : s.firstPathCallbackSeen = true
  · have hne : reports ≠ [] := h.seen.mp hseen
    have htail : (reports ++ [report]).tail = reports.tail ++ [report] :=
      List.tail_append_of_ne_nil hne
    rw [if_neg (by simpa using hseen)]
    by_cases hcools : Ignored PathReport.Cools (latest PathReport.Cools none reports.tail) report
    · rw [if_pos ((h.cooling_iff report).mpr hcools)]
      refine ⟨by simp [hseen], ?_, ?_⟩
      · rw [htail, latest_append, latest_of_ignored hcools, latest_nil]
        exact h.last
      · rw [htail, through_append]
        simpa [through, hcools] using h.conns
    · rw [if_neg (mt (h.cooling_iff report).mp hcools)]
      refine ⟨by simp [onConns, hseen], ?_, ?_⟩
      · rw [htail, latest_append, latest_of_not_ignored hcools, latest_nil]
        rfl
      · rintro entry hentry
        obtain ⟨before, hbefore, -, hconn⟩ := mem_onConns hentry
        rw [htail, through_append, hconn]
        simpa [through, hcools] using (h.conns before hbefore).restart report.newIfIndex
  · have hnil : reports = [] := by
      by_contra hne
      exact hseen (h.seen.mpr hne)
    subst hnil
    rw [if_pos hseen]
    exact ⟨by simp, h.last, h.conns⟩

/-- A report keeps the connections behind the reports. -/
theorem Follows.step (h : s.Follows reports) (e : PathEvent) :
    (s.step e).Follows (reports ++ e.named.toList) := by
  cases e with
  | report report =>
    by_cases hindex : 0 < report.newIfIndex
    · have hnamed : (PathEvent.report report).named.toList = [report] := by
        simp [PathEvent.named, hindex]
      rw [hnamed]
      exact h.onPathChange hindex
    · have hnamed : (PathEvent.report report).named.toList = [] := by
        simp [PathEvent.named, hindex]
      have hstay : s.step (.report report) = s := if_pos (by omega)
      rw [hnamed, List.append_nil, hstay]
      exact h
  | runTask connId =>
    have hnamed : (PathEvent.runTask connId).named.toList = [] := rfl
    rw [hnamed, List.append_nil]
    refine ⟨h.seen, h.last, ?_⟩
    intro entry hentry
    obtain ⟨before, hbefore, -, hconn⟩ := mem_onConns hentry
    rw [hconn]
    split
    · exact (h.conns before hbefore).runTask
    · exact h.conns before hbefore

/-- A whole run. -/
theorem Follows.run (h : s.Follows reports) (events : List PathEvent) :
    (Runs.run PathConnector.step s events).Follows (reports ++ pathReports events) := by
  induction events generalizing s reports with
  | nil => simpa [pathReports] using h
  | cons e events ih =>
    have hreports : reports ++ pathReports (e :: events) =
        (reports ++ e.named.toList) ++ pathReports events := by
      rw [List.append_assoc]
      congr 1
      unfold pathReports
      cases hnamed : e.named <;> simp [hnamed]
    rw [hreports]
    exact ih (h.step e)

end PathConnector

end Conn
