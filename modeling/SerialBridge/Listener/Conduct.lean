import SerialBridge.Failure
import SerialBridge.Listener.Registry

/-!
# Calling listeners

A listener that is called may do a good deal before it returns: add and remove listeners of
either kind, itself included, count them, start further notifications, and have effects on the
world outside. `Conduct` is the tree of what one call does, in which every later step may depend
on the answers to the earlier ones; `recall` and `remember` give all listeners a common memory.
A `Behaviour` assigns a conduct to every listener and note.

`Audience.notify` tells a note to the listeners that are registered **when it begins**, one after
the other, each call with everything it does finished before the next begins. A listener that
answers that it is disconnected is then taken off the list; any other error is passed over.

Notifications within notifications need not come to an end, so `notify` is told how deep they
may nest.
-/

namespace SerialBridge

/-- What one call of a listener does, step by step, with common memory `σ` and outside effects
`ε`. -/
inductive Conduct (σ ε : Type) where
  /-- Returns, with an error or without. -/
  | finish (failure : Option BridgeError)
  /-- Breaks off with a fault. -/
  | panic
  /-- Adds a listener; the answer says whether it is now registered. -/
  | add (kind : ListenerKind) (id : String) (next : Bool → Conduct σ ε)
  /-- Removes a listener; the answer says whether it was registered. -/
  | remove (kind : ListenerKind) (id : String) (next : Bool → Conduct σ ε)
  /-- Counts the listeners of a kind. -/
  | count (kind : ListenerKind) (next : Nat → Conduct σ ε)
  /-- Notifies all listeners of the note's kind. -/
  | notify (note : Note) (next : Conduct σ ε)
  /-- Has an effect outside. -/
  | effect (effect : ε) (next : Conduct σ ε)
  /-- Looks at the memory. -/
  | recall (next : σ → Conduct σ ε)
  /-- Replaces the memory. -/
  | remember (memory : σ) (next : Conduct σ ε)

/-- What each listener does when it is told a note. Listeners of the two kinds are told notes of
different kinds, so the identity need not name the kind. -/
abbrev Behaviour (σ ε : Type) := String → Note → Conduct σ ε

/-- Why a call did not return. -/
inductive Crash where
  /-- A listener broke off. -/
  | panicked
  /-- Notifications were nested deeper than allowed. -/
  | nestedTooDeep
deriving DecidableEq

/-- How a call ends. -/
inductive CallEnd where
  /-- It returned, with an error or without. -/
  | returned (failure : Option BridgeError)
  /-- It did not return. -/
  | crashed (cause : Crash)
deriving DecidableEq

/-- An entry in the journal of an audience. -/
inductive JournalEntry where
  /-- A listener was called, by a notification that stands within `depth` others. -/
  | called (depth : Nat) (id : String) (note : Note)
  /-- The call returned. -/
  | returned (depth : Nat) (id : String) (failure : Option BridgeError)
deriving DecidableEq

/-- The registered listeners, their common memory, and what they have done. -/
structure Audience (σ ε : Type) where
  /-- The registered listeners. -/
  registry : Registry := {}
  /-- The common memory of the listeners. -/
  memory : σ
  /-- The outside effects, in order. -/
  effects : List ε := []
  /-- The calls, in order. -/
  journal : List JournalEntry := []

variable {σ ε : Type}

/-- Carries out a conduct. Notifications that it starts are left to `nested`. -/
def Conduct.perform (nested : Note → Audience σ ε → Audience σ ε × Option Crash) :
    Conduct σ ε → Audience σ ε → Audience σ ε × CallEnd
  | .finish failure, a => (a, .returned failure)
  | .panic, a => (a, .crashed .panicked)
  | .add k id next, a => (next true).perform nested { a with registry := a.registry.add k id }
  | .remove k id next, a =>
    (next (decide (id ∈ a.registry.entries k))).perform nested
      { a with registry := a.registry.remove k id }
  | .count k next, a => (next (a.registry.count k)).perform nested a
  | .notify note next, a =>
    match nested note a with
    | (a, none) => next.perform nested a
    | (a, some cause) => (a, .crashed cause)
  | .effect e next, a => next.perform nested { a with effects := a.effects ++ [e] }
  | .recall next, a => (next a.memory).perform nested a
  | .remember memory next, a => next.perform nested { a with memory }

namespace Audience

/-- Adds an entry to the journal. -/
def enter (a : Audience σ ε) (e : JournalEntry) : Audience σ ε :=
  { a with journal := a.journal ++ [e] }

/-- What follows from a listener's answer: it is taken off the list if it is disconnected. -/
def heed (a : Audience σ ε) (kind : ListenerKind) (id : String) (failure : Option BridgeError) :
    Audience σ ε :=
  if failure = some .listenerDisconnected then { a with registry := a.registry.remove kind id }
  else a

/-- Calls the listeners one after the other, up to the first that does not return. -/
def tellEach (b : Behaviour σ ε) (nested : Note → Audience σ ε → Audience σ ε × Option Crash)
    (depth : Nat) (note : Note) : List String → Audience σ ε → Audience σ ε × Option Crash
  | [], a => (a, none)
  | id :: rest, a =>
    match (b id note).perform nested (a.enter (.called depth id note)) with
    | (a, .crashed cause) => (a, some cause)
    | (a, .returned failure) =>
      tellEach b nested depth note rest
        ((a.heed note.kind id failure).enter (.returned depth id failure))

/-- Notifies the listeners registered for the note's kind, with at most `limit` notifications
inside one another. -/
def notifyWithin (b : Behaviour σ ε) : Nat → Nat → Note → Audience σ ε →
    Audience σ ε × Option Crash
  | 0, _, _, a => (a, some .nestedTooDeep)
  | limit + 1, depth, note, a =>
    tellEach b (notifyWithin b limit (depth + 1)) depth note (a.registry.entries note.kind) a

/-- Notifies the listeners registered for the note's kind. -/
def notify (b : Behaviour σ ε) (limit : Nat) (note : Note) (a : Audience σ ε) :
    Audience σ ε × Option Crash :=
  notifyWithin b limit 0 note a

/-- Carries out a conduct on behalf of somebody outside the audience. -/
def perform (b : Behaviour σ ε) (limit : Nat) (c : Conduct σ ε) (a : Audience σ ε) :
    Audience σ ε × CallEnd :=
  c.perform (notifyWithin b limit 0) a

end Audience

end SerialBridge
