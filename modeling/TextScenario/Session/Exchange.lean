import TextScenario.Session.Http
/-!
A server whose answers come to be known one by one. A run that asks more than is known leaves its
next request open; once that is answered, the run is repeated and comes one request further.
-/

namespace TextScenario

/-- The answers known, in the order of the requests, and how many of them were asked for. An answer
may be that the server was not reached. -/
structure Exchange where
  answers : List (Option HttpResponse) := []
  asked : Nat := 0
  /-- The first request without an answer. -/
  unanswered : Option HttpRequest := none

namespace Exchange

def server : HttpServer Exchange where
  answer request exchange :=
    match exchange.answers[exchange.asked]? with
    | some answer => (answer, { exchange with asked := exchange.asked + 1 })
    | none =>
      (none, { exchange with unanswered := exchange.unanswered.orElse fun _ => some request })

def learn (exchange : Exchange) (answer : Option HttpResponse) : Exchange :=
  { exchange with answers := exchange.answers ++ [answer] }

end Exchange

end TextScenario
