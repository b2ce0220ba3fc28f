import ClusterWait.Api.Service
import ClusterWait.Events.Line

/-! # Feeds: the cluster's events, listed and then followed

A *feed* lists the events that there are and then follows their changes, each told by one line of an
open answer. When the answer ends the changes are asked for again; when the cluster has forgotten
where the feed stood, it lists anew. After a failure it pauses, each time twice as long as before, up
to half a minute; anything of use starts the pauses again, and so does every new list. It has no end
of its own: there is always a next request.

* `FeedItem`: what a feed yields, `Arrival` with the instant.
* `Page`: a part of a list, which is of use when it says where the list stands.
* `Feed.arrivals`: what a feed yields when its requests are answered from a script. -/

namespace ClusterWait

/-- **What a feed yields:** a list begins, an event of the list, the list is complete, an event that
is new or has changed, an event that is gone, a failure. -/
inductive FeedItem where
  | listing
  | offered (event : Event)
  | listed
  | applied (event : Event)
  | deleted (event : Event)
  | failed
deriving DecidableEq

structure Arrival where
  instant : Nat
  item : FeedItem
deriving DecidableEq

/-! ### Answers -/

/-- **A part of a list.** The last one says where the list stands. -/
structure Page where
  events : List Event
  isLast : Bool

/-- The part of a list in an answer, if it is of use. -/
def Page.read (answer : Answer) : Option Page :=
  match Service.readAnswer (Listing.decode Event.decode) answer with
  | .error _ => none
  | .ok listing =>
    let stated (s : Option String) : Bool := s.any (· ≠ "")
    if stated listing.metadata.cont then some ⟨listing.items, false⟩
    else if stated listing.metadata.resourceVersion then some ⟨listing.items, true⟩
    else none

/-! ### The feed -/

/-- **A feed whose answers are scripted:** the clock, the failures since anything of use, and the
answers that are still to come. The last answer to lists is given again and again; a missing answer
never comes. -/
structure Feed where
  now : Nat
  failures : Nat
  lists : List (Option Reply)
  watches : List (Option Reply)

namespace Feed

def opening (lists watches : List (Option Reply)) : Feed := ⟨0, 0, lists, watches⟩

/-- The pause after a failure, by the number of failures before it. -/
def pause (failures : Nat) : Nat := min (800 * Nat.pow 2 failures) 30000

def afterFailure (f : Feed) : Feed :=
  { f with now := f.now + pause f.failures, failures := f.failures + 1 }

def afterUse (f : Feed) : Feed := { f with failures := 0 }

def yield (f : Feed) (item : FeedItem) : Arrival := ⟨f.now, item⟩

/-- The answer to the next list, when it comes. -/
def nextList (f : Feed) : Option (Answer × Feed) :=
  let (reply, lists) := match f.lists with
    | [] => (none, [])
    | [last] => (last, [last])
    | next :: rest => (next, rest)
  reply.map fun r => (r.answer, { f with now := f.now + r.delay, lists })

/-- The answer to the next request for changes, when it comes. -/
def nextWatch (f : Feed) : Option (Answer × Feed) :=
  match f.watches with
  | [] | none :: _ => none
  | some r :: rest => some (r.answer, { f with now := f.now + r.delay, watches := rest })

inductive Stage where
  | list
  | nextPage
  | watch
deriving Repr, DecidableEq

/-- What the lines of an open answer yield, and what the feed does next. -/
def follow (f : Feed) : List String → List Arrival × Stage × Feed
  | [] => ([], .watch, f)
  | line :: rest =>
    match Notice.read line with
    | .applied e =>
      let (items, stage, g) := follow f.afterUse rest
      (f.yield (.applied e) :: items, stage, g)
    | .deleted e =>
      let (items, stage, g) := follow f.afterUse rest
      (f.yield (.deleted e) :: items, stage, g)
    | .bookmark | .silence => follow f rest
    | .lost => ([f.yield .failed], .list, f.afterFailure)
    | .failure =>
      let (items, stage, g) := follow f.afterFailure rest
      (f.yield .failed :: items, stage, g)

/-- **What a feed yields** with the given number of requests. -/
def arrivals : (requests : Nat) → Stage → Feed → List Arrival
  | 0, _, _ => []
  | n + 1, .list, f => f.yield .listing :: arrivals n .nextPage f.afterUse
  | n + 1, .nextPage, f =>
    match f.nextList with
    | none => []
    | some (answer, f) =>
      match Page.read answer with
      | none => f.yield .failed :: arrivals n .list f.afterFailure
      | some page =>
        let offered := page.events.map fun e => f.yield (.offered e)
        if page.isLast then offered ++ f.yield .listed :: arrivals n .watch f.afterUse
        else offered ++ arrivals n .nextPage f.afterUse
  | n + 1, .watch, f =>
    match f.nextWatch with
    | none => []
    | some (.failure _, f) => f.yield .failed :: arrivals n .watch f.afterFailure
    | some (.response _ body, f) =>
      let (items, stage, f) := f.follow (linesOf body.text)
      items ++ arrivals n stage f

end Feed

end ClusterWait
