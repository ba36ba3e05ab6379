import IssueFilter.Service.Endpoint

/-! A thread that many requests share. Between the requests users enter the thread and leave it again,
the one who entered last first; whoever leaves gives back the ticket they got. -/
namespace IssueFilter

structure Thread where
  user : Viewer
  /-- The tickets of those who have not left, the last one first. -/
  tickets : List Ticket
  deriving DecidableEq, Repr

inductive ThreadEvent where
  | serve (endpoint : Endpoint) (request : Request)
  | enter (viewer : Viewer)
  | leave
  deriving DecidableEq, Repr

namespace Thread

def enter (thread : Thread) (viewer : Viewer) : Thread :=
  let (ticket, user) := (Session.enter viewer).run thread.user
  ⟨user, ticket :: thread.tickets⟩

/-- Without a ticket nobody leaves. -/
def leave (thread : Thread) : Thread :=
  match thread.tickets with
  | [] => thread
  | ticket :: tickets => ⟨((Session.leave ticket).run thread.user).2, tickets⟩

/-- What happens on the thread, with the reply if a request is served. -/
def step (runner : Runner OnThread) (thread : Thread) : ThreadEvent → List Reply × Thread
  | .serve endpoint request =>
    let (reply, user) := (endpoint.handle runner request).run thread.user
    ([reply], { thread with user })
  | .enter viewer => ([], thread.enter viewer)
  | .leave => ([], thread.leave)

/-- The replies to all requests, in their order. -/
def run (runner : Runner OnThread) (thread : Thread) : List ThreadEvent → List Reply × Thread
  | [] => ([], thread)
  | event :: events =>
    let (first, thread) := thread.step runner event
    let (others, thread) := thread.run runner events
    (first ++ others, thread)

end Thread

end IssueFilter
