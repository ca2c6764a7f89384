import ChainedDecimal.Session.Brackets
import ChainedDecimal.Session.Closures
import ChainedDecimal.Session.Pools
import ChainedDecimal.Session.Traces

/-!
# Running a session

A session answers commands one after the other. A command that fails is answered with its fault, and
the session goes on.
-/

namespace ChainedDecimal

namespace Session

/-- Answers a command. -/
def step (s : Session) : Command → Session × Reply
  | .beginBracket initial => s.beginBracket initial
  | .scope on request => s.onScope on request
  | .beginChain initial => s.beginChain initial
  | .newChain value formula => s.addChain ⟨value, formula⟩ .hidden
  | .chain on request => s.onChain on request
  | .compareChains a b => s.compareChains a b
  | .newGroup traced => s.newGroup traced
  | .group on request => s.onGroup on request
  | .evaluate script traced => s.evaluate script traced
  | .newTrace initial => s.newTrace initial
  | .trace on request => s.onTrace on request
  | .report engine formula result => s.report engine formula result
  | .newPool sort => s.newPool sort
  | .pool on request => s.onPool on request
  | .setVariables changes => s.setVariables changes
  | .settings request => s.onSettings request
  | .calculate c => s.calculate c
  | .refused why => (s, .of (.error why))

/-- Answers commands one after the other. -/
def run (s : Session) : List Command → Session × List Reply
  | [] => (s, [])
  | c :: cs =>
    let (s, reply) := s.step c
    let (s, replies) := run s cs
    (s, reply :: replies)

end Session

end ChainedDecimal
