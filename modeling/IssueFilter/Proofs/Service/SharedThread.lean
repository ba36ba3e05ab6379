import IssueFilter.Proofs.Service.Confidentiality
import IssueFilter.Service.Thread

/-! Requests that share a thread. Each is answered as if nobody had entered the thread before, and leaves
it to the user it found there; and as long as users enter and leave in pairs, the user of the thread is
the innermost of those who are inside. -/
namespace IssueFilter

namespace ThreadEvent

/-- The reply to a request on a thread that nobody has entered. -/
def alone (runner : Runner OnThread) : ThreadEvent → List Reply
  | serve endpoint request => [((endpoint.handle runner request).run .anonymous).1]
  | enter _ | leave => []

/-- Those who are inside after the event, the innermost first. Nobody leaves who has not entered. -/
def after? (inside : List Viewer) : ThreadEvent → Option (List Viewer)
  | serve _ _ => some inside
  | enter viewer => some (viewer :: inside)
  | leave => inside.tail?

def inside? (events : List ThreadEvent) : Option (List Viewer) := events.foldlM after? []

/-- Everyone who enters leaves, after those who have entered in between. -/
inductive WellNested : List ThreadEvent → Prop
  | nil : WellNested []
  | serve (endpoint : Endpoint) (request : Request) {events : List ThreadEvent} :
      WellNested events → WellNested (serve endpoint request :: events)
  | enter (viewer : Viewer) {within after : List ThreadEvent} :
      WellNested within → WellNested after →
      WellNested (enter viewer :: (within ++ leave :: after))

/-- Whoever is inside before stays inside, and nobody else does. -/
theorem WellNested.foldlM_after? {events : List ThreadEvent} (nested : WellNested events)
    (inside : List Viewer) : events.foldlM after? inside = some inside := by
  induction nested generalizing inside with
  | nil => rfl
  | serve endpoint request _ ih => exact ih inside
  | @enter viewer within after _ _ inner outer =>
      change (within ++ leave :: after).foldlM after? (viewer :: inside) = some inside
      rw [List.foldlM_append, inner (viewer :: inside)]
      exact outer inside

end ThreadEvent

namespace Thread

variable (runner : Runner OnThread) (thread : Thread)

/-- The thread after users have entered it, the first of the list last. -/
def entering (inside : List Viewer) : Thread :=
  inside.foldr (fun viewer thread => thread.enter viewer) thread

theorem user_entering (inside : List Viewer) :
    (thread.entering inside).user = inside.headD thread.user := by
  cases inside with
  | nil => rfl
  | cons viewer inside => rfl

theorem leave_enter (viewer : Viewer) : (thread.enter viewer).leave = thread := rfl

/-- A handler enters the user of the request and leaves again, so neither the thread nor the reply
depends on the other. -/
theorem step_serve (endpoint : Endpoint) (request : Request) :
    thread.step runner (.serve endpoint request) =
      ((ThreadEvent.serve endpoint request).alone runner, thread) := by
  rw [step, Endpoint.handle, Session.run_within]
  rfl

theorem step_entering {event : ThreadEvent} {inside next : List Viewer}
    (follows : event.after? inside = some next) :
    (thread.entering inside).step runner event = (event.alone runner, thread.entering next) := by
  cases event with
  | serve endpoint request =>
      cases follows
      exact step_serve runner (thread.entering inside) endpoint request
  | enter viewer =>
      cases follows
      rfl
  | leave =>
      cases inside with
      | nil => cases follows
      | cons viewer inside =>
          cases follows
          rw [step, entering, List.foldr_cons, leave_enter]
          rfl

/-- The thread before is whatever it is; the users inside are those who entered it since. -/
theorem run_entering {events : List ThreadEvent} {inside next : List Viewer}
    (follows : events.foldlM ThreadEvent.after? inside = some next) :
    (thread.entering inside).run runner events =
      (events.flatMap (ThreadEvent.alone runner), thread.entering next) := by
  induction events generalizing inside with
  | nil =>
      cases follows
      rfl
  | cons event events ih =>
      rw [List.foldlM_cons] at follows
      obtain ⟨middle, first, rest⟩ := Option.bind_eq_some_iff.mp follows
      rw [run, step_entering runner thread first, List.flatMap_cons]
      simp only [ih rest]

end Thread

/-- Whatever the runner does, each request leaves the user of the thread as it found them and is answered
as on a thread that nobody has entered. After a well-nested run the thread is what it was before, and at
any point within one its user is the innermost of those who are inside. -/
theorem requests_share_thread (runner : Runner OnThread) (thread : Thread) :
    (∀ (endpoint : Endpoint) (request : Request), (endpoint.handle runner request).run thread.user =
      (((endpoint.handle runner request).run .anonymous).1, thread.user)) ∧
    (∀ events, ThreadEvent.WellNested events →
      thread.run runner events = (events.flatMap (ThreadEvent.alone runner), thread)) ∧
    ∀ before after, ThreadEvent.WellNested (before ++ after) →
      ∃ inside, ThreadEvent.inside? before = some inside ∧
        (thread.run runner before).1 = before.flatMap (ThreadEvent.alone runner) ∧
        (thread.run runner before).2.user = inside.headD thread.user := by
  refine ⟨fun endpoint request => rfl, ?_, ?_⟩
  · intro events nested
    exact thread.run_entering runner (nested.foldlM_after? [])
  · intro before after nested
    have whole := nested.foldlM_after? []
    rw [List.foldlM_append] at whole
    obtain ⟨inside, follows, -⟩ := Option.bind_eq_some_iff.mp whole
    have ran := thread.run_entering runner follows
    have same : thread.entering [] = thread := rfl
    rw [same] at ran
    refine ⟨inside, follows, ?_, ?_⟩
    · rw [ran]
    · rw [ran, Thread.user_entering]

/-- The requests of two users, one of which cannot be read, while other users enter and leave. -/
def sharedEvents : List ThreadEvent :=
  let request (filter : String) (viewer : Viewer) : Request := ⟨filter, viewer, .unlimited⟩
  [.enter (.user "alice"), .serve .search (request "id = 10" .anonymous), .enter .anonymous,
    .serve .validate (request "id =" (.user "bob")), .leave, .leave,
    .serve .sanitise (request "id = 10" (.user "bob"))]

theorem sharedEvents_wellNested : ThreadEvent.WellNested sharedEvents :=
  .enter (.user "alice") (.serve _ _ (.enter .anonymous (.serve _ _ .nil) .nil)) (.serve _ _ .nil)

theorem sharedEvents_share_thread :
    let runner := Runner.ofIndex {} (Index.empty.run publicChanges)
    let thread : Thread := ⟨.user "carol", []⟩
    (thread.run runner sharedEvents).2 = thread ∧
      (thread.run runner (sharedEvents.take 2)).2.user = .user "alice" ∧
      (thread.run runner (sharedEvents.take 4)).2.user = .anonymous := by
  intro runner thread
  have shared := requests_share_thread runner thread
  obtain ⟨_, one, -, alice⟩ := shared.2.2 (sharedEvents.take 2) (sharedEvents.drop 2)
    sharedEvents_wellNested
  obtain ⟨_, two, -, nobody⟩ := shared.2.2 (sharedEvents.take 4) (sharedEvents.drop 4)
    sharedEvents_wellNested
  refine ⟨?_, ?_, ?_⟩
  · rw [shared.2.1 sharedEvents sharedEvents_wellNested]
  · cases one
    exact alice
  · cases two
    exact nobody

end IssueFilter
