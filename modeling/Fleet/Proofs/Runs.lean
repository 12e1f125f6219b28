/-
# Runs of a controller

A run is a list of events: requests, each with the calls of the store that fail during it, and
moments at which time passes.  A property of all runs follows from what one event keeps, and where
some events do not keep it, it can be traced back to the last of them.

Main statements: `Controller.run_keeps`, `Controller.Reachable.keeps`,
`Controller.run_keeps_or_everSince`, `Controller.everSince_of_holds`.
-/
import Fleet.Controller.Request
import Mathlib.Data.List.Induction

namespace Fleet

/-- What happens to a controller. -/
inductive Event where
  /-- A request is answered, while some calls of the store fail. -/
  | request (outage : Outage) (r : Request)
  /-- Time passes. -/
  | pass (seconds : Nat)

namespace Event

/-- No call of the store fails during the event. -/
def Served : Event → Prop
  | request outage _ => ∀ calls kind key, outage calls kind key = none
  | pass _ => True

/-- The event is a request of some sort. -/
def Asks (p : Request → Prop) : Event → Prop
  | request _ r => p r
  | pass _ => False

end Event

namespace Controller

variable (settings : Settings)

/-- The controller after an event. -/
def after (c : Controller) : Event → Controller
  | .request outage r => (c.perform settings outage r).2
  | .pass seconds => c.advance seconds

/-- The controller after the events of a run. -/
def run (c : Controller) (events : List Event) : Controller :=
  events.foldl (after settings) c

/-- A controller that a run leads to from an empty inventory. -/
def Reachable (c : Controller) : Prop :=
  ∃ now events, c = (start .empty now).run settings events

/-- A controller that a run leads to from an empty inventory while the store does not fail. -/
def ReachableServed (c : Controller) : Prop :=
  ∃ now events, (∀ e ∈ events, Event.Served e) ∧ c = (start .empty now).run settings events

/-- An event of a run was a cause, and a condition has held ever since. -/
def EverSince (cause : Controller → Event → Prop) (holds : Controller → Prop) (c : Controller)
    (events : List Event) : Prop :=
  ∃ earlier e later, events = earlier ++ e :: later ∧ cause (c.run settings earlier) e ∧
    ∀ front, front <+: later → holds (c.run settings (earlier ++ e :: front))

variable {settings} {I G holds : Controller → Prop} {cause : Controller → Event → Prop}
  {Q : Event → Prop} {c : Controller} {events : List Event} {e : Event}

/-- The controller after one more event. -/
theorem run_concat (c : Controller) (events : List Event) (e : Event) :
    c.run settings (events ++ [e]) = (c.run settings events).after settings e := by
  unfold run
  rw [List.foldl_append]
  rfl

/-- A run from a reachable controller leads to a reachable one. -/
theorem Reachable.run (h : Reachable settings c) (events : List Event) :
    Reachable settings (c.run settings events) := by
  obtain ⟨now, earlier, rfl⟩ := h
  refine ⟨now, earlier ++ events, ?_⟩
  unfold Controller.run
  rw [List.foldl_append]

/-- What every event of some sort keeps, every run of such events keeps. -/
theorem run_keeps (step : ∀ c e, Q e → I c → I (c.after settings e)) (events : List Event)
    (hQ : ∀ e ∈ events, Q e) : ∀ c, I c → I (c.run settings events) := by
  induction events with
  | nil =>
      intro c hc
      exact hc
  | cons e rest ih =>
      intro c hc
      exact ih (fun x hx => hQ x (List.mem_cons_of_mem e hx)) (c.after settings e)
        (step c e (hQ e List.mem_cons_self) hc)

/-- What the empty inventory has and every event keeps, every reachable controller has. -/
theorem Reachable.keeps (h : Reachable settings c) (start : ∀ now, I (start .empty now))
    (step : ∀ c e, I c → I (c.after settings e)) : I c := by
  obtain ⟨now, events, rfl⟩ := h
  exact run_keeps (Q := fun _ => True) (fun c e _ hc => step c e hc) events (fun _ _ => trivial) _
    (start now)

/-- What the empty inventory has and every event keeps in which the store does not fail. -/
theorem ReachableServed.keeps (h : ReachableServed settings c) (start : ∀ now, I (start .empty now))
    (step : ∀ c e, e.Served → I c → I (c.after settings e)) : I c := by
  obtain ⟨now, events, hserved, rfl⟩ := h
  exact run_keeps step events hserved _ (start now)

namespace EverSince

/-- The last event was the cause. -/
theorem last (hcause : cause (c.run settings events) e)
    (hholds : holds (c.run settings (events ++ [e]))) :
    EverSince settings cause holds c (events ++ [e]) := by
  refine ⟨events, e, [], rfl, hcause, ?_⟩
  intro front hfront
  rw [List.prefix_nil.mp hfront]
  exact hholds

/-- One more event after which the condition holds. -/
theorem concat (h : EverSince settings cause holds c events)
    (hholds : holds (c.run settings (events ++ [e]))) :
    EverSince settings cause holds c (events ++ [e]) := by
  obtain ⟨earlier, e₀, later, rfl, hcause, hsince⟩ := h
  refine ⟨earlier, e₀, later ++ [e], by simp, hcause, ?_⟩
  intro front hfront
  rcases List.prefix_concat_iff.mp hfront with rfl | hfront
  · rw [List.append_assoc, List.cons_append] at hholds
    exact hholds
  · exact hsince front hfront

end EverSince

/-- What every event keeps that is not a cause is there after a run, unless there was a cause and a
condition has held ever since, without which it is there anyway. -/
theorem run_keeps_or_everSince (inv : ∀ c e, I c → I (c.after settings e))
    (step : ∀ c e, Q e → I c → G c → ¬ cause c e → G (c.after settings e))
    (rest : ∀ c, ¬ holds c → G c) (hinv : I c) (hgood : G c) (events : List Event) :
    (∀ e ∈ events, Q e) →
      G (c.run settings events) ∨ EverSince settings cause holds c events := by
  induction events using List.reverseRecOn with
  | nil =>
      intro _
      exact Or.inl hgood
  | append_singleton events e ih =>
      intro hQ
      have hQe : Q e := hQ e (by simp)
      have hQevents : ∀ x ∈ events, Q x := fun x hx => hQ x (List.mem_append_left _ hx)
      by_cases hholds : holds (c.run settings (events ++ [e]))
      · by_cases hcause : cause (c.run settings events) e
        · exact Or.inr (EverSince.last hcause hholds)
        · rcases ih hQevents with hgood | hsince
          · left
            rw [run_concat]
            refine step _ e hQe ?_ hgood hcause
            exact run_keeps (Q := fun _ => True) (fun c e _ => inv c e) events
              (fun _ _ => trivial) c hinv
          · exact Or.inr (hsince.concat hholds)
      · exact Or.inl (rest _ hholds)

/-- What does not hold at first, and comes to hold through some sort of event only, has held since
such an event. -/
theorem everSince_of_holds (inv : ∀ c e, I c → I (c.after settings e))
    (step : ∀ c e, I c → holds (c.after settings e) → holds c ∨ cause c e) (hinv : I c)
    (hnot : ¬ holds c) (h : holds (c.run settings events)) :
    EverSince settings cause holds c events := by
  have hstep : ∀ c e, True → I c → ¬ holds c → ¬ cause c e → ¬ holds (c.after settings e) :=
    fun c e _ hc hbefore hcause hafter => (step c e hc hafter).elim hbefore hcause
  have hor := run_keeps_or_everSince (Q := fun _ => True) inv hstep (fun _ h => h) hinv hnot events
    fun _ _ => trivial
  exact hor.resolve_left (not_not_intro h)

end Controller

/-! ## A sample -/

namespace Sample

/-- Nothing is set up but the lifetime of checksums and one tunnel id. -/
def settings : Settings := ⟨.empty, Settings.defaultTtl, 1⟩

/-- A template that all organizations see. -/
def template : Template where
  id := ⟨"t"⟩
  name := "base"
  organization := none
  backend := ⟨"X"⟩
  kind := .generic
  vpn := none
  required := false
  default := false
  document := .emptyObject
  defaultValues := .empty
  created := 0

/-- A device in use. -/
def device : Device where
  id := ⟨"d"⟩
  key := "key"
  name := "host"
  macAddress := "00:11:22:33:44:55"
  organization := ⟨"o"⟩
  group := none
  lastIp := none
  managementIp := none
  hardwareId := none
  active := true

/-- A configuration of the device that asks for some templates. -/
def configuration (templates : List TemplateId) : Configuration :=
  { Configuration.blank device.id template.backend with templates }

/-- A server whose clients are told apart by tunnel ids. -/
def server : VpnServer where
  id := ⟨"s"⟩
  name := "mesh"
  organization := none
  backend := ⟨"vxlan"⟩
  document := .emptyObject
  host := "vpn"
  publicKey := none
  privateKey := none
  ipAddress := none

/-- The membership of the device in the server, without a tunnel id of its own choice. -/
def client : VpnClient where
  device := device.id
  server := server.id
  publicKey := none
  privateKey := none
  address := some (.v4 #v[10, 0, 0, 1])
  vni := none
  autoProvisioned := true

/-- The device is added and joins the server. -/
def joining : List Request :=
  [.addServer server, .addDevice device (configuration []), .attachClient client]

/-- The store drops nothing. -/
def deletesFail : Outage :=
  fun _ kind _ => if kind = .delete then some "down" else none

/-- Requests that the store does not fail. -/
def events (requests : List Request) : List Event :=
  requests.map fun r => .request .none r

/-- The store fails none of them. -/
theorem served (requests : List Request) : ∀ e ∈ events requests, e.Served := by
  intro e he
  obtain ⟨r, _, rfl⟩ := List.mem_map.mp he
  exact fun _ _ _ => rfl

/-- The controller after requests that the store does not fail. -/
def controller (requests : List Request) : Controller :=
  (Controller.start .empty 0).run settings (events requests)

/-- It is reachable. -/
theorem reachable (requests : List Request) :
    Controller.Reachable settings (controller requests) :=
  ⟨0, events requests, rfl⟩

/-- The store fails none of the requests on the way. -/
theorem reachableServed (requests : List Request) :
    Controller.ReachableServed settings (controller requests) :=
  ⟨0, events requests, served requests, rfl⟩

end Sample

end Fleet
