/-
Notifications.RouterTheorems — which routes of a notification
router send a message (`packages/notifications/service.py`).

The router remembers when it last sent to a destination, not which route did. Times
are in microseconds.
-/
import ComputeWeaver.Lib.Dict
import ComputeWeaver.Lib.Run

namespace ComputeWeaver.Notifications

open Lib List

structure Route where
  eventType : String
  channel : String
  destination : String
  minimumSeverity : Int
  suppressFor : Int

/-- The arguments of `route`. -/
structure Event where
  id : String
  eventType : String
  severity : Int
  now : Int

structure Message where
  eventId : String
  channel : String
  destination : String
  status : String
  deriving DecidableEq

def Route.message (route : Route) (event : Event) : Message :=
  ⟨event.id, route.channel, route.destination, "routed"⟩

/-- The memory: when something was last sent, by event type and destination. -/
abbrev Sent := Dict (String × String) Int

/-- One turn of the loop over the routes. -/
def visit (event : Event) (s : Sent × List Message) (route : Route) : Sent × List Message :=
  if route.eventType ≠ event.eventType ∨ event.severity < route.minimumSeverity then s
  else
    let key := (event.eventType, route.destination)
    if (s.1.get? key).any fun last => event.now - last < route.suppressFor then s
    else (s.1.set key event.now, s.2 ++ [route.message event])

/-- `NotificationRouter.route`, as a step of the memory. -/
def route (routes : List Route) (sent : Sent) (event : Event) : Sent × List Message :=
  routes.foldl (visit event) (sent, [])

/-! ## What a route does on its own -/

def Route.key (route : Route) : String × String := (route.eventType, route.destination)

/-- The route matches the event, and it never sent or long enough ago. -/
def Route.Sends (route : Route) (last : Option Int) (event : Event) : Prop :=
  route.eventType = event.eventType ∧ route.minimumSeverity ≤ event.severity ∧
    ∀ time ∈ last, route.suppressFor ≤ event.now - time

instance (route : Route) (last : Option Int) (event : Event) :
    Decidable (route.Sends last event) := inferInstanceAs (Decidable (_ ∧ _ ∧ _))

/-- When the route sent last, after it sent last at `last` and saw this event. -/
def Route.next (route : Route) (last : Option Int) (event : Event) : Option Int :=
  if route.Sends last event then some event.now else last

/-- When the route sent last, if every event reaches it alone. -/
def Route.lastSent (route : Route) (events : List Event) : Option Int :=
  run route.next none events

/-! ## The router -/

variable {event : Event} {routes : List Route} {s : Sent × List Message} {r : Route}

theorem visit_of_sends (h : r.Sends (s.1.get? r.key) event) :
    visit event s r = (s.1.set r.key event.now, s.2 ++ [r.message event]) := by
  obtain ⟨htype, hseverity, hlast⟩ := h
  rw [visit, if_neg (by simp [htype, hseverity]), ← htype]
  refine if_neg fun hany => ?_
  obtain ⟨time, htime, hlt⟩ := (Option.any_eq_true _ _).mp hany
  exact absurd (hlast time htime) (Int.not_le.mpr (of_decide_eq_true hlt))

theorem visit_of_not_sends (h : ¬ r.Sends (s.1.get? r.key) event) :
    visit event s r = s := by
  unfold visit
  split
  · rfl
  rename_i hmatch
  rw [not_or, not_not, Int.not_lt] at hmatch
  refine if_pos (by_contra fun hany => h ⟨hmatch.1, hmatch.2, fun time htime => ?_⟩)
  rw [Route.key, hmatch.1] at htime
  exact Int.not_lt.mp fun hlt =>
    hany ((Option.any_eq_true _ _).mpr ⟨time, htime, decide_eq_true hlt⟩)

/-- **The whole loop.** Where no two routes have the same key, each sends by what is
remembered for its own key. -/
theorem foldl_visit (hkeys : (routes.map Route.key).Nodup) :
    let s' := routes.foldl (visit event) s
    s'.2 = s.2 ++ (routes.filter fun r => r.Sends (s.1.get? r.key) event).map (·.message event) ∧
    (∀ r ∈ routes, s'.1.get? r.key = r.next (s.1.get? r.key) event) ∧
    ∀ key ∉ routes.map Route.key, s'.1.get? key = s.1.get? key := by
  induction routes generalizing s with
  | nil => simp
  | cons r rest ih =>
    rw [map_cons, nodup_cons] at hkeys
    obtain ⟨hfresh, hrest⟩ := hkeys
    -- the first turn changes nothing that the others read
    have hother : ∀ key, key ≠ r.key → (visit event s r).1.get? key = s.1.get? key := by
      intro key hne
      by_cases h : r.Sends (s.1.get? r.key) event
      · rw [visit_of_sends h, Dict.get?_set_ne _ _ hne.symm]
      · rw [visit_of_not_sends h]
    have hne : ∀ q ∈ rest, q.key ≠ r.key :=
      fun q hq heq => hfresh (heq ▸ mem_map_of_mem hq)
    obtain ⟨hmessages, hnext, hkept⟩ := ih (s := visit event s r) hrest
    have hfilter : (rest.filter fun q => q.Sends ((visit event s r).1.get? q.key) event) =
        rest.filter fun q => q.Sends (s.1.get? q.key) event :=
      filter_congr fun q hq => by rw [hother _ (hne q hq)]
    refine ⟨?_, ?_, ?_⟩
    · rw [foldl_cons, hmessages, hfilter, filter_cons]
      by_cases h : r.Sends (s.1.get? r.key) event
      · simp [h, visit_of_sends h]
      · simp [h, visit_of_not_sends h]
    · intro q hq
      rw [foldl_cons]
      rcases mem_cons.mp hq with rfl | hq
      · rw [hkept _ hfresh, Route.next]
        split
        · rename_i h
          rw [visit_of_sends h, Dict.get?_set_self]
        · rename_i h
          rw [visit_of_not_sends h]
      · rw [hnext q hq, hother _ (hne q hq)]
    · intro key hkey
      rw [map_cons, mem_cons, not_or] at hkey
      rw [foldl_cons, hkept _ hkey.2, hother _ hkey.1]

/-- **A whole run.** What is remembered for a route's key is when that route sent. -/
theorem run_route (hkeys : (routes.map Route.key).Nodup) (hr : r ∈ routes)
    (events : List Event) (sent : Sent) :
    (run (fun sent e => (route routes sent e).1) sent events).get? r.key =
      run r.next (sent.get? r.key) events := by
  induction events generalizing sent with
  | nil => rfl
  | cons e rest ih =>
    rw [run_cons, run_cons, ih, route, (foldl_visit hkeys).2.1 r hr]

/-- **Main result.** Where no two routes have both the event type and the
destination in common, then after any events a call sends the messages of exactly
the routes that, each by its own messages alone, never sent or long enough ago. -/
theorem route_independent (routes : List Route) (hkeys : (routes.map Route.key).Nodup)
    (events : List Event) (event : Event) :
    (route routes (run (fun sent e => (route routes sent e).1) .empty events) event).2 =
      (routes.filter fun r => r.Sends (r.lastSent events) event).map (·.message event) := by
  rw [route, (foldl_visit hkeys).1, nil_append]
  exact congrArg _ (filter_congr fun r hr => by rw [run_route hkeys hr]; rfl)

def emailRoute : Route := ⟨"alert", "email", "ops", 0, 10⟩

def smsRoute : Route := { emailRoute with channel := "sms" }

def alert : Event := ⟨"event-1", "alert", 1, 0⟩

def pagerRoute : Route := ⟨"alert", "pager", "oncall", 2, 3⟩

def graveAlert (now : Int) : Event := ⟨"event-2", "alert", 2, now⟩

/-- The mail went out at 0, the pager at 4: at 8 the mail is still suppressed. -/
theorem route_independent_pager :
    ([emailRoute, pagerRoute].map Route.key).Nodup ∧
    (route [emailRoute, pagerRoute]
      (run (fun sent e => (route [emailRoute, pagerRoute] sent e).1) .empty
        [alert, graveAlert 4]) (graveAlert 8)).2 = [pagerRoute.message (graveAlert 8)] :=
  ⟨by decide, (route_independent [emailRoute, pagerRoute] (by decide) [alert, graveAlert 4]
    (graveAlert 8)).trans (by decide)⟩

/-- Beside a route to the same destination, a route that never sent is silent. -/
theorem shared_destination_silenced :
    (route [smsRoute] .empty alert).2 = [smsRoute.message alert] ∧
    (route [emailRoute, smsRoute] .empty alert).2 = [emailRoute.message alert] := by
  decide

end ComputeWeaver.Notifications
