import ChainedDecimal.Session.State

/-!
# Traces in a session

A trace that stands alone can be written to directly, under any operator. Where an operator has no
text of the kind that is asked for, the trace stays as it was.
-/

namespace ChainedDecimal

namespace Session

/-- Adds a trace. -/
def newTrace (s : Session) (initial : Argument) : Session × Reply :=
  let t := Trace.starting initial
  ({ s with traces := s.traces ++ [t] }, .of (.ok (.trace (traceName s.traces.length) t)))

/-- The trace after a request. -/
def writeTrace (t : Trace) : TraceRequest → Except Fault Trace
  | .operand x => .ok (t.operand x)
  | .binary op operand scale => (op.binaryText operand scale).map t.push
  | .unary (.unary op) scale position => .ok (t.unary op scale (t.markOf position))
  | .unary op _ _ => .error (.notUnary op)
  | .openGroup op => .ok (t.openGroup op)
  | .closeGroup op scale => .ok (t.closeGroup op scale)
  | .group op formula scale => .ok (t.group op formula scale)
  | .refused why => .error why

/-- Answers a request to a trace of a name. -/
def onTrace (s : Session) (on : String) (request : TraceRequest) : Session × Reply :=
  match placeOf? "t" s.traces.length on with
  | none => (s, .unknown)
  | some i =>
    match s.traces[i]? with
    | none => (s, .unknown)
    | some t =>
      match writeTrace t request with
      | .error f => (s, ⟨.error f, .trace t, []⟩)
      | .ok t => ({ s with traces := s.traces.set i t }, ⟨.ok .done, .trace t, []⟩)

/-- Reports a formula and its result. -/
def report (s : Session) (engine formula : String) (result : Argument) : Session × Reply :=
  (s, ⟨.ok .done, .hidden, [.evaluated engine formula result]⟩)

end Session

end ChainedDecimal
