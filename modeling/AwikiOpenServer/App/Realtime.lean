import AwikiOpenServer.Lib.BoundedQueue
import AwikiOpenServer.Lib.Runs
import Mathlib.Logic.Function.Basic

/-!
# Realtime notifications

A websocket subscribes to the notifications of a DID and gets a queue of 100 places. `publish` does
not touch the queues itself: it schedules `_put_nowait` on the event loop of every subscription, and
the loop runs its callbacks in the order they were scheduled.

* `_put_nowait` makes room in a full queue by getting the oldest notification, so it never raises,
  and the queue holds **the newest of what was put after the notification consumed last**
  (`queue_keeps_newest`). This is `BoundedQueue.KeepsNewest`, step by step.
* Every queue of the hub goes through puts and gets only, and the puts are in the order of
  publication (`HubWorld.queue_eq_run`).

## Threads, without races

`publish` is called by request threads, and the queues belong to event loops. The hub takes its lock
to copy the list of subscriptions, and hands each of them a callback; a loop runs its callbacks one
after the other on its own thread. So the only interleaving there is concerns *when* a loop gets to
a callback, and that is what `HubStep` leaves open: a call on the hub, the first callback of any
loop, or a consumer, in any order. What is scheduled and not yet run is part of the state
(`pending`).

## The invariant

`HubWorld.Sound` says that a queue is where some run of puts and gets leads, and that what was put,
followed by what is pending, is what was published to it while it was subscribed. Scheduling appends
to what is pending, a callback moves its first element to what was put, and nothing else touches
either. Loops matter for one reason: callbacks of different loops are not ordered against each
other, and a queue has all of its callbacks on one loop.

After a subscription ends its scheduled callbacks still run, on a queue nobody reads any more.
-/

namespace Awiki

open BoundedQueue Runs

variable {Notification : Type}

/-! ### One subscription -/

/-- The queue of a subscription: `asyncio.Queue(maxsize=100)`. -/
abbrev SubscriptionQueue (Notification : Type) := Queue Notification 100

/-- `RealtimeHub._put_nowait`. -/
def putNowait (queue : SubscriptionQueue Notification) (notification : Notification) :
    Except Exn (SubscriptionQueue Notification) :=
  match queue.put notification with
  | .ok queue => .ok queue
  | .error .full =>
    match queue.get with
    | .ok (_, queue) => queue.put notification
    | .error .empty => queue.put notification
    | .error e => .error e
  | .error e => .error e

/-- What happens to the queue of a subscription. -/
inductive QueueEvent (Notification : Type) where
  | put (notification : Notification)
  | get

/-- A queue, with what was put into it and what its consumer got. -/
structure QueueRun (Notification : Type) where
  queue : SubscriptionQueue Notification
  log : List Notification
  consumed : List Notification

namespace QueueRun

/-- A new queue. -/
def start : QueueRun Notification := ⟨.new, [], []⟩

/-- One event. A consumer of an empty queue waits. -/
def step (r : QueueRun Notification) : QueueEvent Notification → Except Exn (QueueRun Notification)
  | .put notification => do
    let queue ← putNowait r.queue notification
    return { r with queue := queue, log := r.log ++ [notification] }
  | .get =>
    match r.queue.get with
    | .ok (notification, queue) =>
      .ok { r with queue := queue, consumed := r.consumed ++ [notification] }
    | .error .empty => .ok r
    | .error e => .error e

/-- One event after the other. -/
def run (events : List (QueueEvent Notification)) : Except Exn (QueueRun Notification) :=
  events.foldlM step start

end QueueRun

/-- The notifications put. -/
def putsOf : List (QueueEvent Notification) → List Notification
  | [] => []
  | .put notification :: events => notification :: putsOf events
  | .get :: events => putsOf events

section Queue

variable {queue : SubscriptionQueue Notification} {r r' : QueueRun Notification}

/-- **A put never raises**, and leaves the newest 100. -/
theorem putNowait_eq_ok (queue : SubscriptionQueue Notification) (notification : Notification) :
    ∃ queue', putNowait queue notification = .ok queue' ∧
      queue'.items = (queue.items ++ [notification]).rtake 100 := by
  unfold putNowait
  rcases Nat.lt_or_ge queue.items.length 100 with hlt | hge
  · obtain ⟨queue', hput, hitems⟩ := Queue.put_of_lt hlt notification
    rw [hput]
    refine ⟨queue', rfl, ?_⟩
    rw [← hitems, rtake_of_length_le queue'.length_le]
  · -- the queue is full: its oldest item makes room
    obtain ⟨oldest, rest, hcons⟩ := List.exists_cons_of_length_pos
      (Nat.lt_of_lt_of_le (by omega) hge)
    obtain ⟨shorter, hget, hrest⟩ := Queue.get_of_cons hcons
    have hlength : queue.items.length = shorter.items.length + 1 := by rw [hcons, hrest]; rfl
    have hle := queue.length_le
    obtain ⟨queue', hput, hitems⟩ := Queue.put_of_lt (by omega : shorter.items.length < 100)
      notification
    rw [Queue.put_of_not_lt (Nat.not_lt.mpr hge), hget]
    refine ⟨queue', hput, ?_⟩
    rw [hcons, ← hrest, hitems, List.cons_append, rtake_cons_of_length_eq oldest]
    rw [List.length_append, List.length_singleton]
    omega

/-- The invariant: what is in the queue are the newest behind what was consumed. -/
def QueueRun.Newest (r : QueueRun Notification) : Prop :=
  ∃ positions : List ℕ, r.consumed.map some = positions.map (r.log[·]?) ∧
    KeepsNewest 100 r.log positions r.queue.items

/-- No event raises, and each keeps the invariant. -/
theorem QueueRun.Newest.step (h : r.Newest) (event : QueueEvent Notification) :
    ∃ r', r.step event = .ok r' ∧ r'.Newest ∧ r'.log = r.log ++ putsOf [event] := by
  obtain ⟨positions, hconsumed, hnewest⟩ := h
  cases event with
  | put notification =>
    obtain ⟨queue, hput, hitems⟩ := putNowait_eq_ok r.queue notification
    refine ⟨{ r with queue := queue, log := r.log ++ [notification] }, ?_, ⟨positions, ?_, ?_⟩, rfl⟩
    · rw [QueueRun.step, hput]
      rfl
    · rw [hconsumed]
      refine List.map_congr_left fun p hp ↦ ?_
      exact (List.getElem?_append_left (hnewest.lt_length p hp)).symm
    · rw [hitems]
      exact hnewest.put notification
  | get =>
    cases hitems : r.queue.items with
    | nil =>
      refine ⟨r, ?_, ⟨positions, hconsumed, hnewest⟩, (List.append_nil _).symm⟩
      rw [QueueRun.step, Queue.get_of_nil hitems]
    | cons notification rest =>
      obtain ⟨queue, hget, hrest⟩ := Queue.get_of_cons hitems
      rw [hitems] at hnewest
      obtain ⟨p, hp, hnewest⟩ := hnewest.get
      refine ⟨{ r with queue := queue, consumed := r.consumed ++ [notification] }, ?_,
        ⟨positions ++ [p], ?_, ?_⟩, (List.append_nil _).symm⟩
      · rw [QueueRun.step, hget]
      · rw [List.map_append, List.map_append, hconsumed, List.map_singleton, List.map_singleton, hp]
      · rw [hrest]
        exact hnewest

/-- Puts are collected in order. -/
theorem putsOf_append (events events' : List (QueueEvent Notification)) :
    putsOf (events ++ events') = putsOf events ++ putsOf events' := by
  induction events with
  | nil => rfl
  | cons event events ih =>
    cases event with
    | put notification => exact congrArg (notification :: ·) ih
    | get => exact ih

/-- One event more, at the end. -/
theorem QueueRun.run_append (events : List (QueueEvent Notification))
    (event : QueueEvent Notification) :
    QueueRun.run (events ++ [event]) = QueueRun.run events >>= fun r ↦ r.step event := by
  rw [QueueRun.run, List.foldlM_append]
  refine bind_congr fun r ↦ ?_
  rw [List.foldlM_cons]
  exact bind_pure _

/-- **No run raises**, and every run keeps the newest. -/
theorem QueueRun.run_newest (events : List (QueueEvent Notification)) :
    ∃ r, QueueRun.run events = .ok r ∧ r.Newest ∧ r.log = putsOf events := by
  induction events using List.reverseRecOn with
  | nil => exact ⟨.start, rfl, ⟨[], rfl, .nil⟩, rfl⟩
  | append_singleton events event ih =>
    obtain ⟨r, hrun, hnewest, hlog⟩ := ih
    obtain ⟨r', hstep, hnewest', hlog'⟩ := hnewest.step event
    refine ⟨r', ?_, hnewest', ?_⟩
    · rw [QueueRun.run_append, hrun]
      exact hstep
    · rw [hlog', hlog, putsOf_append]

/-- **A queue keeps the newest notifications.** Whatever is put and got, no put raises; the
notifications consumed are those put at increasing positions; and of those put behind the last of
these, the queue holds the last `min(100, …)` in order. -/
theorem queue_keeps_newest (events : List (QueueEvent Notification)) :
    ∃ r positions unconsumed, QueueRun.run events = .ok r ∧ positions.Pairwise (· < ·) ∧
      r.consumed.map some = positions.map ((putsOf events)[·]?) ∧
      unconsumed = (putsOf events).drop (next positions) ∧
      r.queue.items = unconsumed.drop (unconsumed.length - min 100 unconsumed.length) := by
  obtain ⟨r, hrun, ⟨positions, hconsumed, hnewest⟩, hlog⟩ := QueueRun.run_newest events
  rw [hlog] at hconsumed hnewest
  refine ⟨r, positions, _, hrun, hnewest.increasing, hconsumed, rfl, ?_⟩
  rw [hnewest.items_eq, List.rtake]
  congr 1
  omega

end Queue

/-! ### The hub -/

/-- `_Subscription`, with the event loop and the queue by their identities. -/
structure Subscription where
  loop : ℕ
  queue : ℕ

/-- The hub, the queues that were created, each on a loop, and the callbacks scheduled on every
loop. The queues are kept with their runs, and with all that was published to them. -/
structure HubWorld (Notification : Type) where
  subscriptions : String → List Subscription
  created : ℕ
  loops : ℕ → ℕ
  queues : ℕ → QueueRun Notification
  callbacks : ℕ → List (ℕ × Notification)
  published : ℕ → List Notification

namespace HubWorld

/-- A hub nobody has subscribed to. -/
def start : HubWorld Notification :=
  ⟨fun _ ↦ [], 0, fun _ ↦ 0, fun _ ↦ .start, fun _ ↦ [], fun _ ↦ []⟩

/-- `RealtimeHub.subscribe`, on a loop. -/
def subscribe (did : String) (loop : ℕ) (w : HubWorld Notification) : HubWorld Notification :=
  { w with
    subscriptions := Function.update w.subscriptions did
      (w.subscriptions did ++ [⟨loop, w.created⟩])
    created := w.created + 1
    loops := Function.update w.loops w.created loop }

/-- `RealtimeHub.unsubscribe`. -/
def unsubscribe (did : String) (queue : ℕ) (w : HubWorld Notification) : HubWorld Notification :=
  { w with
    subscriptions := Function.update w.subscriptions did
      ((w.subscriptions did).filter fun s ↦ s.queue ≠ queue) }

/-- `loop.call_soon_threadsafe(self._put_nowait, queue, notification)`. -/
def schedule (notification : Notification) (w : HubWorld Notification) (s : Subscription) :
    HubWorld Notification :=
  { w with
    callbacks := Function.update w.callbacks s.loop
      (w.callbacks s.loop ++ [(s.queue, notification)])
    published := Function.update w.published s.queue (w.published s.queue ++ [notification]) }

/-- `RealtimeHub.publish`. -/
def publish (did : String) (notification : Notification) (w : HubWorld Notification) :
    HubWorld Notification :=
  (w.subscriptions did).foldl (schedule notification) w

end HubWorld

/-- What happens to the hub. -/
inductive HubEvent (Notification : Type) where
  | subscribe (did : String) (loop : ℕ)
  | unsubscribe (did : String) (queue : ℕ)
  | publish (did : String) (notification : Notification)
  | callback (loop : ℕ)
  | get (queue : ℕ)

/-- One step of the hub: a call, the first callback of a loop, or a consumer. -/
inductive HubStep : HubWorld Notification → HubEvent Notification → HubWorld Notification →
    Prop where
  | subscribe {w : HubWorld Notification} (did : String) (loop : ℕ) :
      HubStep w (.subscribe did loop) (w.subscribe did loop)
  | unsubscribe {w : HubWorld Notification} (did : String) (queue : ℕ) :
      HubStep w (.unsubscribe did queue) (w.unsubscribe did queue)
  | publish {w : HubWorld Notification} (did : String) (notification : Notification) :
      HubStep w (.publish did notification) (w.publish did notification)
  | callback {w : HubWorld Notification} {loop queue : ℕ} {notification : Notification}
      {rest : List (ℕ × Notification)} {r : QueueRun Notification}
      (hfirst : w.callbacks loop = (queue, notification) :: rest)
      (hput : (w.queues queue).step (.put notification) = .ok r) :
      HubStep w (.callback loop) { w with
        callbacks := Function.update w.callbacks loop rest
        queues := Function.update w.queues queue r }
  | get {w : HubWorld Notification} {queue : ℕ} {r : QueueRun Notification}
      (hget : (w.queues queue).step .get = .ok r) :
      HubStep w (.get queue) { w with queues := Function.update w.queues queue r }

namespace HubWorld

/-- What is still scheduled for a queue. -/
def pending (w : HubWorld Notification) (queue : ℕ) : List Notification :=
  ((w.callbacks (w.loops queue)).filter fun c ↦ c.1 = queue).map (·.2)

/-- **The invariant of the hub.** Subscriptions and callbacks are on the loop of their queue; every
queue is where a run of puts and gets leads; and what was published to it was put or is
scheduled. -/
structure Sound (w : HubWorld Notification) : Prop where
  subscribed : ∀ did, ∀ s ∈ w.subscriptions did, s.queue < w.created ∧ w.loops s.queue = s.loop
  scheduled : ∀ loop, ∀ c ∈ w.callbacks loop, c.1 < w.created ∧ w.loops c.1 = loop
  isRun : ∀ queue, ∃ events, QueueRun.run events = .ok (w.queues queue)
  published_eq : ∀ queue, w.published queue = (w.queues queue).log ++ w.pending queue

variable {w w' : HubWorld Notification}

/-- What is in an updated list. -/
theorem mem_update {α β : Type} [DecidableEq α] {f : α → List β} {a b : α} {l : List β} {x : β}
    (h : x ∈ Function.update f a l b) : b = a ∧ x ∈ l ∨ x ∈ f b := by
  rcases eq_or_ne b a with rfl | hne
  · exact .inl ⟨rfl, Function.update_self b l f ▸ h⟩
  · exact .inr (Function.update_of_ne hne l f ▸ h)

/-- At first there are no queues. -/
theorem Sound.start : (HubWorld.start : HubWorld Notification).Sound :=
  ⟨by simp [HubWorld.start], by simp [HubWorld.start], fun _ ↦ ⟨[], rfl⟩, fun _ ↦ rfl⟩

/-- Nothing is scheduled for a queue that was not created. -/
theorem Sound.not_scheduled (h : w.Sound) {queue : ℕ} (hnew : w.created ≤ queue) (loop : ℕ) :
    (w.callbacks loop).filter (fun c ↦ c.1 = queue) = [] := by
  refine List.filter_eq_nil_iff.mpr fun c hc ↦ ?_
  have hlt := (h.scheduled loop c hc).1
  simp only [decide_eq_true_eq]
  omega

/-- A subscription gets a queue that nothing was published to. -/
theorem Sound.subscribe (h : w.Sound) (did : String) (loop : ℕ) : (w.subscribe did loop).Sound := by
  have hloops : ∀ queue < w.created, (w.subscribe did loop).loops queue = w.loops queue :=
    fun queue hlt ↦ Function.update_of_ne (Nat.ne_of_lt hlt) _ _
  refine ⟨fun did' s hs ↦ ?_, fun loop' c hc ↦ ?_, h.isRun, fun queue ↦ ?_⟩
  · have hold : ∀ did, ∀ s ∈ w.subscriptions did, s.queue < w.created + 1 ∧
        (w.subscribe did loop).loops s.queue = s.loop := fun did s hs ↦ by
      obtain ⟨hlt, hloop⟩ := h.subscribed did s hs
      exact ⟨Nat.lt_succ_of_lt hlt, (hloops s.queue hlt).trans hloop⟩
    rcases mem_update hs with ⟨rfl, hs⟩ | hs
    · rcases List.mem_append.mp hs with hs | hs
      · exact hold did' s hs
      · rw [List.mem_singleton.mp hs]
        exact ⟨Nat.lt_succ_self _, Function.update_self _ _ _⟩
    · exact hold did' s hs
  · obtain ⟨hlt, hloop⟩ := h.scheduled loop' c hc
    exact ⟨Nat.lt_succ_of_lt hlt, (hloops c.1 hlt).trans hloop⟩
  · show w.published queue = (w.queues queue).log ++ _
    rw [h.published_eq]
    refine congrArg (_ ++ List.map _ ·) ?_
    rcases Nat.lt_or_ge queue w.created with hlt | hnew
    · rw [hloops queue hlt]
      rfl
    · exact (h.not_scheduled hnew _).trans (h.not_scheduled hnew _).symm

/-- Its end takes nothing away from any queue. -/
theorem Sound.unsubscribe (h : w.Sound) (did : String) (queue : ℕ) :
    (w.unsubscribe did queue).Sound := by
  refine ⟨fun did' s hs ↦ ?_, h.scheduled, h.isRun, h.published_eq⟩
  rcases mem_update hs with ⟨rfl, hs⟩ | hs
  · exact h.subscribed did' s (List.mem_of_mem_filter hs)
  · exact h.subscribed did' s hs

/-- Scheduling adds one notification to what is pending for one queue. -/
theorem pending_schedule {s : Subscription} (hloop : w.loops s.queue = s.loop)
    (notification : Notification) (queue : ℕ) :
    (w.schedule notification s).pending queue =
      w.pending queue ++ if queue = s.queue then [notification] else [] := by
  show List.map _ (List.filter _ (Function.update w.callbacks s.loop _ (w.loops queue))) = _
  rcases eq_or_ne queue s.queue with rfl | hne
  · rw [hloop, Function.update_self, List.filter_append, List.map_append, if_pos rfl, pending,
      hloop]
    simp
  · rw [if_neg hne, List.append_nil]
    rcases eq_or_ne (w.loops queue) s.loop with heq | hother
    · rw [heq, Function.update_self, List.filter_append, pending, heq]
      simp [hne.symm]
    · rw [Function.update_of_ne hother]
      rfl

/-- What is scheduled has been published. -/
theorem Sound.schedule (h : w.Sound) {s : Subscription} (hlt : s.queue < w.created)
    (hloop : w.loops s.queue = s.loop) (notification : Notification) :
    (w.schedule notification s).Sound := by
  refine ⟨h.subscribed, fun loop c hc ↦ ?_, h.isRun, fun queue ↦ ?_⟩
  · rcases mem_update hc with ⟨rfl, hmem⟩ | hmem
    · rcases List.mem_append.mp hmem with hmem | hmem
      · exact h.scheduled s.loop c hmem
      · rw [List.mem_singleton.mp hmem]
        exact ⟨hlt, hloop⟩
    · exact h.scheduled loop c hmem
  · rw [pending_schedule hloop, ← List.append_assoc]
    show Function.update w.published s.queue _ queue = (w.queues queue).log ++ _ ++ _
    rw [← h.published_eq]
    rcases eq_or_ne queue s.queue with rfl | hne
    · rw [Function.update_self, if_pos rfl]
    · rw [Function.update_of_ne hne, if_neg hne, List.append_nil]

/-- A publication schedules for each subscription in turn. -/
theorem Sound.publish (h : w.Sound) (did : String) (notification : Notification) :
    (w.publish did notification).Sound := by
  have hall : ∀ subscriptions : List Subscription, ∀ w : HubWorld Notification, w.Sound →
      (∀ s ∈ subscriptions, s.queue < w.created ∧ w.loops s.queue = s.loop) →
      (subscriptions.foldl (HubWorld.schedule notification) w).Sound := fun subscriptions ↦ by
    induction subscriptions with
    | nil => exact fun w hw _ ↦ hw
    | cons s subscriptions ih =>
      intro w hw hs
      obtain ⟨hlt, hloop⟩ := hs s List.mem_cons_self
      exact ih _ (hw.schedule hlt hloop notification) fun s' hs' ↦
        hs s' (List.mem_cons_of_mem s hs')
  exact hall (w.subscriptions did) w h (h.subscribed did)

/-- An event on one queue lengthens its run. -/
theorem Sound.run_step (h : w.Sound) {queue : ℕ} {event : QueueEvent Notification}
    {r : QueueRun Notification} (hstep : (w.queues queue).step event = .ok r) :
    (∃ events, QueueRun.run events = .ok r) ∧ r.log = (w.queues queue).log ++ putsOf [event] := by
  obtain ⟨events, hrun⟩ := h.isRun queue
  obtain ⟨r₀, hrun₀, hnewest, -⟩ := QueueRun.run_newest events
  obtain rfl := Except.ok.inj (hrun₀.symm.trans hrun)
  obtain ⟨r', hstep', -, hlog⟩ := hnewest.step event
  obtain rfl := Except.ok.inj (hstep'.symm.trans hstep)
  refine ⟨⟨events ++ [event], ?_⟩, hlog⟩
  rw [QueueRun.run_append, hrun]
  exact hstep

/-- Every step keeps the invariant. -/
theorem Sound.step {event : HubEvent Notification} (h : w.Sound) (hstep : HubStep w event w') :
    w'.Sound := by
  cases hstep with
  | subscribe did loop => exact h.subscribe did loop
  | unsubscribe did queue => exact h.unsubscribe did queue
  | publish did notification => exact h.publish did notification
  | @callback loop queue notification rest r hfirst hput =>
    obtain ⟨hrun, hlog⟩ := h.run_step hput
    have hloop : w.loops queue = loop :=
      (h.scheduled loop (queue, notification) (hfirst ▸ List.mem_cons_self)).2
    refine ⟨h.subscribed, fun loop' c hc ↦ ?_, fun queue' ↦ ?_, fun queue' ↦ ?_⟩
    · -- What the loop still has to call was scheduled before.
      rcases mem_update hc with ⟨rfl, hmem⟩ | hmem
      · exact h.scheduled loop' c (hfirst ▸ List.mem_cons_of_mem _ hmem)
      · exact h.scheduled loop' c hmem
    · show ∃ events, QueueRun.run events = .ok (Function.update w.queues queue r queue')
      rcases eq_or_ne queue' queue with rfl | hne
      · rwa [Function.update_self]
      · rw [Function.update_of_ne hne]
        exact h.isRun queue'
    · show w.published queue' = (Function.update w.queues queue r queue').log ++
        List.map _ (List.filter _ (Function.update w.callbacks loop rest (w.loops queue')))
      rw [h.published_eq, pending]
      rcases eq_or_ne queue' queue with rfl | hne
      · rw [Function.update_self, hlog, hloop, Function.update_self, hfirst]
        simp [putsOf]
      · rw [Function.update_of_ne hne]
        rcases eq_or_ne (w.loops queue') loop with heq | hother
        · rw [heq, Function.update_self, hfirst]
          simp [hne.symm]
        · rw [Function.update_of_ne hother]
  | @get queue r hget =>
    obtain ⟨hrun, hlog⟩ := h.run_step hget
    refine ⟨h.subscribed, h.scheduled, fun queue' ↦ ?_, fun queue' ↦ ?_⟩
    · show ∃ events, QueueRun.run events = .ok (Function.update w.queues queue r queue')
      rcases eq_or_ne queue' queue with rfl | hne
      · rwa [Function.update_self]
      · rw [Function.update_of_ne hne]
        exact h.isRun queue'
    · show w.published queue' = (Function.update w.queues queue r queue').log ++ w.pending queue'
      rw [h.published_eq]
      rcases eq_or_ne queue' queue with rfl | hne
      · rw [Function.update_self, hlog]
        simp [putsOf]
      · rw [Function.update_of_ne hne]

/-- **Every queue of the hub goes through puts and gets, in the order of publication**: what was
published to it was put in that order, and the rest is scheduled behind it. -/
theorem queue_eq_run (h : Reaches HubStep (HubWorld.start : HubWorld Notification) w) (queue : ℕ) :
    ∃ events, QueueRun.run events = .ok (w.queues queue) ∧
      w.published queue = putsOf events ++ w.pending queue := by
  have hsound : w.Sound := h.invariant Sound.start Sound.step
  obtain ⟨events, hrun⟩ := hsound.isRun queue
  obtain ⟨r, hrun', -, hlog⟩ := QueueRun.run_newest events
  obtain rfl := Except.ok.inj (hrun'.symm.trans hrun)
  exact ⟨events, hrun, hlog ▸ hsound.published_eq queue⟩

end HubWorld

end Awiki
