import Trillionnium.Machine.Run
import Trillionnium.StreamWindow.Basic

namespace StreamWindow

namespace State

def earliestControlSeq (state : State) : Nat :=
  match state.history.head? with
  | some record => record.seq
  | none => state.nextControlSeq

def perform (state : State) (config : StreamWindowConfig) : StreamControl → Result State
  | .windowUpdate creditBytes =>
    match (Checked.add state.availableCreditBytes creditBytes).filter
        (· ≤ config.maxCreditBytes) with
    | some availableCreditBytes => .ok { state with availableCreditBytes }
    | none => .error .creditOverflow
  | .pause => .ok { state with paused := true }
  | .resume => .ok { state with paused := false }
  | .close => .ok { state with closed := true, paused := true, availableCreditBytes := 0 }

def record (state : State) (config : StreamWindowConfig) (record : ControlRecord) : State :=
  let history :=
    if state.history.length = config.maxControlHistory then
      state.history.tail
    else
      state.history
  { state with
    nextControlSeq := state.nextControlSeq + 1
    history := history ++ [record] }

end State

namespace Window

def new (config : StreamWindowConfig) : Result Window :=
  match h : config.validate with
  | .error e => .error e
  | .ok () =>
    .ok {
      config
      valid := h
      state := {
        availableCreditBytes := config.initialCreditBytes
        paused := false
        closed := false
        totalGrantedBytes := 0
        nextControlSeq := 0
        history := []
      }
    }

def snapshot (window : Window) : StreamWindowSnapshot where
  availableCreditBytes := window.state.availableCreditBytes
  maxCreditBytes := window.config.maxCreditBytes
  maxChunkBytes := window.config.maxChunkBytes
  paused := window.state.paused
  closed := window.state.closed
  totalGrantedBytes := window.state.totalGrantedBytes
  earliestControlSeq := window.state.earliestControlSeq
  nextControlSeq := window.state.nextControlSeq

def applyControl (window : Window) (seq : Nat) (command : StreamControl) :
    Result (ApplyResult × Window) := do
  command.validate window.config
  let state := window.state
  if seq < state.nextControlSeq then
    match state.history.find? (fun record => record.seq = seq) with
    | some existing =>
      if existing.command = command then
        .ok (⟨.existing, window.snapshot⟩, window)
      else
        .error .controlConflict
    | none => .error (.staleControl seq state.earliestControlSeq)
  else if seq > state.nextControlSeq then
    .error (.sequenceGap state.nextControlSeq seq)
  else if state.nextControlSeq = Checked.u64Max then
    .error .sequenceExhausted
  else if state.closed ∧ command ≠ .close then
    .error .closed
  else
    let state ← state.perform window.config command
    let window := { window with state := state.record window.config ⟨seq, command⟩ }
    .ok (⟨.applied, window.snapshot⟩, window)

def tryReserve (window : Window) (bytes : Nat) : Result (ReserveDisposition × Window) :=
  let state := window.state
  if bytes = 0 ∨ bytes > window.config.maxChunkBytes then
    .error (.invalidRequest
      s!"reservation must be between 1 and {window.config.maxChunkBytes} bytes")
  else if state.closed then
    .ok (.blocked .closed, window)
  else if state.paused then
    .ok (.blocked .paused, window)
  else if state.availableCreditBytes < bytes then
    .ok (.blocked (.insufficientCredit state.availableCreditBytes), window)
  else
    match Checked.add state.totalGrantedBytes bytes with
    | none => .error (.invalidRequest "total granted byte counter overflow")
    | some totalGrantedBytes =>
      let availableCreditBytes := state.availableCreditBytes - bytes
      .ok (.granted bytes availableCreditBytes,
        { window with state := { state with availableCreditBytes, totalGrantedBytes } })

def controlHistoryFrom (window : Window) (inclusiveCursor limit : Nat) : Result ControlHistory :=
  if limit = 0 ∨ limit > window.config.maxControlHistory then
    .error (.invalidRequest
      s!"history limit must be between 1 and {window.config.maxControlHistory}")
  else
    let state := window.state
    let earliest := state.earliestControlSeq
    if inclusiveCursor < earliest then
      .error (.staleControl inclusiveCursor earliest)
    else if inclusiveCursor > state.nextControlSeq then
      .error (.sequenceGap state.nextControlSeq inclusiveCursor)
    else
      let records := (state.history.filter (fun record => record.seq ≥ inclusiveCursor)).take limit
      let nextCursor :=
        match records.getLast? with
        | some record => min (record.seq + 1) Checked.u64Max
        | none => inclusiveCursor
      .ok {
        records
        inclusiveCursor
        nextCursor
        earliestCursor := earliest
        latestCursor := state.nextControlSeq
        hasMore := nextCursor < state.nextControlSeq
      }

end Window

inductive Op where
  | applyControl (seq : Nat) (command : StreamControl)
  | tryReserve (bytes : Nat)
  | controlHistoryFrom (inclusiveCursor limit : Nat)
  | snapshot
  deriving DecidableEq, Repr

inductive Answer where
  | control (result : Result ApplyResult)
  | reservation (result : Result ReserveDisposition)
  | history (result : Result ControlHistory)
  | observed (snapshot : StreamWindowSnapshot)

namespace Window

open Machine

def step (window : Window) : Op → Window × Answer
  | .applyControl seq command => settle window .control (window.applyControl seq command)
  | .tryReserve bytes => settle window .reservation (window.tryReserve bytes)
  | .controlHistoryFrom inclusiveCursor limit =>
    (window, .history (window.controlHistoryFrom inclusiveCursor limit))
  | .snapshot => (window, .observed window.snapshot)

end Window

end StreamWindow
