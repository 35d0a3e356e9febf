import Trillionnium.Host.Lemmas.Coherent

namespace Host

open Concurrent World
open EventStore (EventInput EventLog)
open Protocol

theorem append_stored_of_fresh (disk : Disk) {input : EventInput}
    (h : EventLog.find? disk.log input = none) (durable : Bool) :
    disk.append input durable .stored
      = (.ok (), { disk with
          log := disk.log ++ [input]
          synced := if durable then disk.log.length + 1 else disk.synced }) := by
  unfold Disk.append EventLog.append
  rw [h]
  cases durable <;> simp

variable (ext : Externals)

/--
A world in which everything works. It does not answer what no sample asks for.
-/
def serve (disk : Disk) : (a : Act) → Option (a.Res × Disk)
  | .replay scope => some (.ok (disk.records scope), disk)
  | .append input durable => some (disk.append input durable .stored)
  | .encode frame => some (.ok (frame.encode ext.float), disk)
  | .write _ => some (.ok (), disk)
  | .spawnWorker request => some (.ok 1, disk.launch request (.ok 1))
  | .joinWorker _ => some (.ok (), disk)
  | .sendReceipt _ _ => some ((), disk)
  | _ => none

theorem exec_of_serve (disk : Disk) (a : Act) (r : a.Res) (disk' : Disk)
    (h : serve ext disk a = some (r, disk')) : (workingWorld ext).exec disk a r disk' := by
  cases a with
  | append input durable =>
    have happend := Option.some.inj h
    exact ⟨⟨.stored, happend⟩, happend⟩
  | replay scope =>
    cases h
    exact ⟨⟨.inl rfl, rfl⟩, rfl⟩
  | encode frame =>
    cases h
    exact ⟨⟨rfl, rfl⟩, trivial⟩
  | _ =>
    cases h <;> exact ⟨rfl, trivial⟩

structure Round where
  state : CoreState
  served : Prog.Trace Act Act.Res
  disk : Disk

def advance (received : Received) (disk : Disk) (state : CoreState) : Option Round :=
  if state.isDone then
    none
  else
    match drive (serve ext) (handleReceived ext received state) (disk.receive received) with
    | some (.inl state, served, disk) => some ⟨state, served, disk⟩
    | _ => none

variable {ext} {disk : Disk} {state : CoreState} {frame : RunTurnFrame}

theorem run_round {received : Received} {r : Round} (h : advance ext received disk state = some r) :
    (workingWorld ext).Interleaves disk (round ext state) (⟨.receive, received⟩ :: r.served) r.disk
      (.pure (.inl r.state)) := by
  unfold advance at h
  split at h
  next => cases h
  next hlive =>
    split at h
    next hdrive =>
      cases h
      unfold round
      rw [if_neg hlive]
      exact .act ⟨rfl, trivial⟩ (interleaves_drive (exec_of_serve ext) hdrive)
    next => cases h

theorem advance_of_drive {received : Received} (hlive : state.isDone = false)
    (h : drive (serve ext) (handleReceived ext received state) (disk.receive received)
      = some (.inl state', served, disk')) :
    advance ext received disk state = some ⟨state', served, disk'⟩ := by
  unfold advance
  rw [hlive, h]
  rfl

def recorded (persistence : Persistence) : Except String Unit → Bool × Persistence
  | .ok () => (true, persistence)
  | .error error => (false, persistence.disable error)

theorem appendFrame_eq {scope : EventStore.TurnScope} {eventId : String}
    {persistence : Persistence} (hdurable : persistence.isDurable = true)
    (hframe : IsTurnFrame frame scope) (heventId : frame.eventId = some eventId)
    (digest : String) :
    persistence.appendFrame scope digest frame
      = (perform (.append (frameInput scope digest eventId frame) (isAuthorityFrame frame.kind))
        >>= fun r => pure (recorded persistence r)) := by
  unfold Persistence.appendFrame
  rw [if_pos hdurable, heventId]
  dsimp only
  rw [if_pos hframe.inScope]
  congr 1
  funext r
  cases r <;> rfl

theorem drive_deliverFrame (hattached : state.deliveryAttached = true)
    (hfits : IsDeliverable (frame.encode ext.float)) :
    drive (serve ext) (deliverFrame frame state) disk
      = some (state, [⟨.encode frame, .ok (frame.encode ext.float)⟩, ⟨.write frame, .ok ()⟩],
        disk) := by
  unfold deliverFrame writeFrame
  rw [if_pos hattached]
  change Option.map _ (drive (serve ext) (Prog.bind (if _ then _ else _) _) disk) = _
  rw [if_pos hfits]
  rfl

theorem drive_deliverFrame_of_not_fits (hattached : state.deliveryAttached = true)
    (hfits : ¬ IsDeliverable (frame.encode ext.float)) :
    drive (serve ext) (deliverFrame frame state) disk
      = some (state.detach "response frame is empty or exceeds the configured bound",
        [⟨.encode frame, .ok (frame.encode ext.float)⟩], disk) := by
  unfold deliverFrame writeFrame
  rw [if_pos hattached]
  change Option.map _ (drive (serve ext) (Prog.bind (if _ then _ else _) _) disk) = _
  rw [if_neg hfits]
  rfl

end Host
