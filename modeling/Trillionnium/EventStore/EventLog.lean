import Trillionnium.EventStore.Basic

/-!
The event store as its clients see it: a log of events, each of which is identified by its scope and
its event id.
-/

namespace EventStore

abbrev EventLog := List EventInput

inductive StoreAnswer where
  | stored
  | failed (error : String) (written : Bool)
  deriving DecidableEq, Repr

namespace EventLog

def find? (log : EventLog) (input : EventInput) : Option EventInput :=
  List.find? (fun event => event.scope = input.scope ∧ event.eventId = input.eventId) log

def append (log : EventLog) (input : EventInput) : StoreAnswer → Except String Unit × EventLog
  | .stored =>
    match log.find? input with
    | none => (.ok (), log ++ [input])
    | some event =>
      if event.kind = input.kind ∧ (event.payload == input.payload) = true then
        (.ok (), log)
      else
        (.error EventStoreError.eventConflict.toString, log)
  | .failed error written =>
    match log.find? input with
    | none => (.error error, if written then log ++ [input] else log)
    | some _ => (.error error, log)

theorem append_cases (log : EventLog) (input : EventInput) (answer : StoreAnswer) :
    (∃ event ∈ log, event.scope = input.scope ∧ (event.payload == input.payload) = true
        ∧ (log.append input answer).2 = log)
      ∨ ((∃ e, (log.append input answer).1 = .error e) ∧ (log.append input answer).2 = log)
      ∨ (log.append input answer).2 = log ++ [input] := by
  cases answer with
  | stored =>
    simp only [append]
    split
    . exact .inr (.inr rfl)
    next event hfind =>
      have hmem := List.mem_of_find?_eq_some hfind
      have hsame := List.find?_some hfind
      simp only [decide_eq_true_eq] at hsame
      split
      next hbytes => exact .inl ⟨event, hmem, hsame.1, hbytes.2, rfl⟩
      . exact .inr (.inl ⟨⟨_, rfl⟩, rfl⟩)
  | failed error written =>
    simp only [append]
    split
    . cases written with
      | true => exact .inr (.inr rfl)
      | false => exact .inr (.inl ⟨⟨_, rfl⟩, rfl⟩)
    . exact .inr (.inl ⟨⟨_, rfl⟩, rfl⟩)

theorem prefix_append (log : EventLog) (input : EventInput) (answer : StoreAnswer) :
    log <+: (log.append input answer).2 := by
  rcases append_cases log input answer with ⟨_, _, _, _, hlog⟩ | ⟨_, hlog⟩ | hlog
  . rw [hlog]
  . rw [hlog]
  . rw [hlog]
    apply List.prefix_append

end EventLog

end EventStore
