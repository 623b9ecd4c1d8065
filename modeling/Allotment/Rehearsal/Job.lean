import Allotment.Rehearsal.Process
/-!
# Jobs

What an action of a rehearsal sets going.  Most actions are over as soon as they have
begun; a reconciliation goes on for as long as it can and then rests, and several side
by side are sent off and waited for.
-/
namespace Allotment.Rehearsal

open Allotment

/-- Something begun and not necessarily over. -/
inductive Job where
  | settled (r : Reply)
  /-- Over once others have had their turn so many times, with what is reported then. -/
  | deferred (turns : Nat) (r : Reply) (late : List Notice)
  | order (o : Order) (p : Process)
  /-- Waits for the reconciliations with these tickets. -/
  | awaiting (tickets : List Nat)

namespace World

/-- The service that an action is about, or what to reply if there is none. -/
def subject (w : World) : Subject → Except Reply Service
  | .given s => .ok s
  | .stored key =>
    match w.stores.registry.peek? key with
    | some s => .ok s
    | none => .error .unknownService
  | .unreadable => .error (.refused .malformed)

def withRegistry (w : World) (r : Registry) : World := { w with stores := { w.stores with registry := r } }

def withArchive (w : World) (a : Archive) : World := { w with stores := { w.stores with archive := a } }

/-- Something about a service, if it is there. -/
def about (w : World) (subject : Subject) (f : Service → Job × World) : Job × World :=
  match w.subject subject with
  | .ok s => f s
  | .error r => (.settled r, w)

/-- Begins the reconciliation that an order asks for. -/
def beginOrder (w : World) (o : Order) (s : Service) : Job × World :=
  let (signal, w) := match o with
    | .sync (some raised) => w.newSignal raised
    | _ => (.shared, w)
  let (p, w) := Process.start (w.report (o.notices s.key)) s signal
  (.order o p, w)

/-- Begins an action. -/
def begin (w : World) (a : Action) : Job × World :=
  match a with
  | .refused why => (.settled (.refused why), w)
  | .insert s =>
    let stored := w.stores.registry.stamped s
    (.settled (.service stored), w.withRegistry (w.stores.registry.insert s))
  | .remove key =>
    (.settled (.serviceOrNone (w.stores.registry.peek? key)),
      w.withRegistry (w.stores.registry.remove key))
  | .peek key => (.settled (.serviceOrNone (w.stores.registry.peek? key)), w)
  | .size => (.settled (.size w.stores.registry.size w.stores.registry.isEmpty), w)
  | .get key =>
    let (answer, w) := w.get key
    (.settled (.ofCall .service answer), w)
  | .update subject version address => w.about subject fun s =>
    let s := { s with version := version.getD s.version }
    let s := match address with
      | some t => s.bind w.settings.allocatorId t
      | none => s
    let (answer, w) := w.update s
    (.settled (.ofCall .service answer), w)
  | .list ns selector =>
    let turns := if w.reaches .list then 1 else 0
    let (answer, w) := w.list ns selector
    (.deferred turns (.ofCall .services answer) [], w)
  | .conflicts n => (.settled .done, w.withRegistry { w.stores.registry with conflictsDue := n })
  | .setRegistryUnavailable b => (.settled .done, w.withRegistry { w.stores.registry with unavailable := b })
  | .setArchiveUnavailable b => (.settled .done, w.withArchive { w.stores.archive with unavailable := b })
  | .plan kind faults => (.settled .done, { w with plan := w.plan.withPlanned faults kind })
  | .putDocument key d => (.settled .done, w.withArchive (w.stores.archive.put key d))
  | .putPools d => (.settled .done, w.withArchive (w.stores.archive.put w.settings.document d))
  | .getDocument key =>
    let (answer, w) := w.getDocument key
    (.settled (.ofCall .document answer), w)
  | .createDocument key =>
    let (answer, w) := w.createDocument key
    (.settled (.ofCall .document answer), w)
  | .claims ns =>
    let turns := if w.reaches .list then 1 else 0
    let (answer, w) := w.list ns w.settings.ownershipSelector
    (.deferred turns (.ofAnswer (fun c => .addresses c.toList) (Claims.ofListing answer))
      (Claims.listingNotices ns answer), w)
  | .document =>
    let (answer, w) := (surroundings .shared).document report w.settings w
    (.settled (.ofAnswer .document answer), w)
  | .stop =>
    let w := w.stop
    (.settled (.stopping w.isStopping), w)
  | .setOutside value =>
    let w := w.setOutside value
    (.settled (.stopping w.isStopping), w)
  | .setOwn value => (.settled .done, w.setOwn value)
  | .order o subject => w.about subject (w.beginOrder o)
  | .syncAll subjects =>
    match subjects.mapM w.subject with
    | .ok ss =>
      let (tickets, w) := w.sendOff ss
      (.awaiting tickets, w)
    | .error r => (.settled r, w)
  | .release cluster subject => w.about subject fun s =>
    (.settled .acknowledged, (w.report [.releasing cluster s.key]).record w.now s.release)
  | .presence subject => w.about subject fun s =>
    (.settled (.presence (s.presence? w.settings.allocatorId)), w)
  | .balancerName subject => w.about subject fun s => (.settled (.balancerName s.balancerName), w)
  | .counters => (.settled (.counters w.counters), w)

end World

namespace Job

/-- Lets a job go on for as long as it can. -/
def resume (w : World) : Job → Rest × Job × World
  | settled r => (.ended, settled r, w)
  | deferred (turns + 1) r late => (.yielding, deferred turns r late, w)
  | deferred 0 r late => (.ended, settled r, w.report late)
  | order o p =>
    let (rest, p, w) := p.resume w
    match p.result? with
    | some r => (rest, settled (.ofResult o r), w)
    | none => (rest, order o p, w)
  | awaiting tickets =>
    match tickets.mapM w.returned? with
    | none => (.waiting, awaiting tickets, w)
    | some results =>
      match results.mapM id with
      | none => (.stuck, awaiting tickets, w)
      | some results => (.ended, settled (.outcomes results), w)

/-- Whether a job has anything to do but wait. -/
def canGoOn (w : World) : Job → Bool
  | settled _ | deferred .. => true
  | order _ p => p.canGoOn w
  | awaiting tickets => tickets.all fun t => (w.returned? t).isSome

/-- When the sleep of a job is over. -/
def deadline? : Job → Option Nat
  | order _ p => p.deadline?
  | _ => none

end Job

end Allotment.Rehearsal
