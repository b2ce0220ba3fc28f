import ClusterWait.Events.Admission
import ClusterWait.Events.Feed
import ClusterWait.Events.Monitor
import ClusterWait.Wait.Context

/-! # Watchers: a monitor that follows a feed

A *watcher* dispatches the events that a feed yields, each new one once. It has started when the
feed's first list is complete: what was listed before has been dispatched to nobody, so that handlers
that are added afterwards only meet new events.

* `Admission.handed`: the events that some items of a feed lead to a dispatch of.
* `Watcher.start`: waits for the first list, unless the context or the feed ends before.
* `Watcher.follow`: takes the items that arrive later. -/

namespace ClusterWait

def FeedItem.delivery? : FeedItem → Option Event
  | .offered e | .applied e => some e
  | _ => none

/-- **The events that pass,** in the order in which they are offered. -/
def Admission.handed (a : Admission) : List FeedItem → List Event × Admission
  | [] => ([], a)
  | item :: rest =>
    match item.delivery? with
    | none => a.handed rest
    | some e =>
      match a.check e with
      | (false, a) => a.handed rest
      | (true, a) =>
        let (events, a) := a.handed rest
        (e :: events, a)

def Monitor.dispatchAll (m : Monitor) (events : List Event) : Monitor :=
  events.foldl (fun m e => (m.dispatch e).2) m

/-- **A watcher.** -/
structure Watcher where
  admission : Admission
  monitor : Monitor

/-- **Why a watcher does not start:** the first list was not complete when the context ended, or when
the feed did. -/
inductive WatchError where
  | notSynced (cause : Cancellation)
  | ended
deriving Repr, DecidableEq

def WatchError.message : WatchError → String
  | .notSynced cause => "event watch did not finish its initial list: " ++ cause.message
  | .ended => "event watch ended before the initial list completed"

namespace Watcher

/-- **Takes items of a feed.** -/
def follow (w : Watcher) (items : List FeedItem) : Watcher :=
  let (events, admission) := w.admission.handed items
  ⟨admission, w.monitor.dispatchAll events⟩

/-- The items up to the end of the first list, the instant of that, and what arrives later. -/
def splitSynced : List Arrival → Option (List FeedItem × Nat × List Arrival)
  | [] => none
  | a :: rest =>
    if a.item = .listed then some ([.listed], a.instant, rest)
    else (splitSynced rest).map fun s => (a.item :: s.1, s.2)

def causeAt (l : Timeline) (c : Context) (instant : Nat) : Cancellation :=
  (Timeline.err { l with now := instant } c).getD .cancelled

/-- What a start comes to by the feed alone, and when: to a watcher and what arrives later, with the
first complete list, or to nothing, when the feed is over without one. -/
def sync (since : Timestamp) (arrivals : List Arrival) (closed : Option Nat) :
    Option (Nat × Except WatchError (Watcher × Nat × List Arrival)) :=
  match splitSynced arrivals with
  | some (before, instant, rest) =>
    some (instant, .ok ((Watcher.mk (.opening since) .empty).follow before, instant, rest))
  | none => closed.map fun instant => (instant, .error .ended)

/-- **Starts a watcher** for events created since an instant: it, the instant of its start, and what
arrives later. The feed yields the arrivals and may be over after them. There is no result when the list
is never complete and neither the feed nor the context ever ends. -/
def start (since : Timestamp) (l : Timeline) (c : Context) (arrivals : List Arrival)
    (closed : Option Nat) : Option (Except WatchError (Watcher × Nat × List Arrival)) :=
  match l.err c with
  | some cause => some (.error (.notSynced cause))
  | none =>
    match sync since arrivals closed, l.endOf c with
    | none, none => none
    | none, some e => some (.error (.notSynced (causeAt l c e)))
    | some (instant, outcome), e =>
      if e.any (· ≤ l.now + instant) then
        some (.error (.notSynced (causeAt l c (e.getD (l.now + instant)))))
      else some outcome

end Watcher

end ClusterWait
