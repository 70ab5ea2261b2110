/-
`EventBus`, and the callbacks a transaction leaves to its commit.

A handler is told from another as `handler not in handlers` does, by `==`.  What it makes of
an event, like what a storage makes of a file, is outside the code: all that is asked here is
whether the call raises.
-/
import Mathlib.Data.List.Nodup
import DjangoFoundation.Common.Json
import DjangoFoundation.Common.Text

namespace DjangoFoundation

namespace Events

/-- An `ApplicationEvent`, of all its fields. -/
structure ApplicationEvent where
  name : String
  actorId : Option String := none
  targetType : String := ""
  targetId : String := ""
  data : List (String × Json) := []
  deriving DecidableEq, Repr

/-! ### Subscriptions -/

/-- `EventBus._handlers`. -/
structure EventBus (η : Type*) where
  handlers : String → List η := fun _ => []
  /-- `subscribe` lists no handler twice. -/
  nodup : ∀ name, (handlers name).Nodup := by exact fun _ => List.nodup_nil

section Subscriptions

variable {η : Type*} [DecidableEq η]

def EventBus.subscribe (bus : EventBus η) (name : String) (handler : η) : EventBus η :=
  if hnew : handler ∈ bus.handlers name then bus
  else {
    handlers := fun n =>
      if n = name then bus.handlers n ++ [handler] else bus.handlers n
    nodup := by
      intro n
      split
      · rename_i hn
        subst hn
        rw [← List.concat_eq_append]
        exact (bus.nodup n).concat hnew
      · exact bus.nodup n }

/-- The bus after a list of `subscribe` calls. -/
def subscribed (subscriptions : List (String × η)) : EventBus η :=
  subscriptions.foldl (fun bus s => bus.subscribe s.1 s.2) {}

end Subscriptions

/-! ### What a commit does -/

/-- What is called and raises. -/
structure Outside (η : Type*) where
  /-- `storage.delete(name)` raises. -/
  storageRaises : (name : String) → Bool
  /-- `handler(event)` raises. -/
  handlerRaises : η → ApplicationEvent → Bool

/-- What the callbacks of a commit have done. -/
structure Effects (η : Type*) where
  /-- The files deleted from their storages. -/
  deleted : List String := []
  /-- The handlers called, and with what. -/
  calls : List (η × ApplicationEvent) := []
  /-- `event.handler_failed`, with the name of the event. -/
  failures : List String := []
  deriving DecidableEq, Repr

variable {η : Type*} (bus : EventBus η) (outside : Outside η)

/-- One turn of the loop of `publish`. -/
def deliver (event : ApplicationEvent) (effects : Effects η) (handler : η) : Effects η :=
  { effects with
    calls := effects.calls ++ [(handler, event)]
    failures := if outside.handlerRaises handler event then effects.failures ++ [event.name]
      else effects.failures }

def EventBus.publish (event : ApplicationEvent) (effects : Effects η) : Effects η :=
  (bus.handlers event.name).foldl (deliver outside event) effects

/-- What `transaction.on_commit` is given. -/
inductive Callback
  /-- `lambda: storage.delete(name)`. -/
  | deleteFile (name : String)
  /-- `lambda: EventBus.publish(event)`. -/
  | publish (event : ApplicationEvent)
  deriving DecidableEq, Repr

/-- What a callback does, and whether it raises. -/
def Callback.run (effects : Effects η) : Callback → Effects η × Bool
  | .deleteFile name =>
      if outside.storageRaises name then (effects, true)
      else ({ effects with deleted := effects.deleted ++ [name] }, false)
  | .publish event => (bus.publish outside event effects, false)

/-- `run_and_clear_commit_hooks`: the callbacks in the order they were registered, up to the
first that raises. -/
def runCallbacks : List Callback → Effects η → Effects η × Bool
  | [], effects => (effects, false)
  | callback :: callbacks, effects =>
      match callback.run bus outside effects with
      | (effects, true) => (effects, true)
      | (effects, false) => runCallbacks callbacks effects

end Events

end DjangoFoundation
