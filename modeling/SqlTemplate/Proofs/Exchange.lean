import SqlTemplate.Connection.Basic

/-!
# Running an exchange

An exchange is run on a trace and leaves an outcome and a longer trace. The equations below give
both for every way exchanges are put together, and for the few exchanges that a connection and a
cursor offer. Proofs about calls rewrite with them and never open the monad.
-/

namespace SqlTemplate

def unlessFault {α : Type} (fault : Option Fault) (outcome : Except Error α) : Except Error α :=
  match fault with
  | some raised => .error (.fault raised)
  | none => outcome

@[simp] theorem unlessFault_none {α : Type} (outcome : Except Error α) :
    unlessFault none outcome = outcome := rfl

@[simp] theorem unlessFault_some {α : Type} (raised : Fault) (outcome : Except Error α) :
    unlessFault (some raised) outcome = .error (.fault raised) := rfl

namespace Trace

theorem cursorCalls_append (first second : Trace) :
    cursorCalls (first ++ second) = first.cursorCalls + second.cursorCalls := List.countP_append

theorem cursorCalls_logged (trace : Trace) (record : LogRecord) :
    cursorCalls (trace ++ [.logged record]) = trace.cursorCalls := cursorCalls_append trace _

/-- Executions are counted on from those before. -/
theorem executionsOn_append (first second : Trace) (cursor : Nat) :
    executionsOn (first ++ second) cursor =
      second.foldl (fun ran event => event.countOn cursor ran) (first.executionsOn cursor) :=
  List.foldl_append

theorem executionsOn_logged (trace : Trace) (record : LogRecord) (cursor : Nat) :
    executionsOn (trace ++ [.logged record]) cursor = trace.executionsOn cursor :=
  executionsOn_append trace _ cursor

/-- A cursor that was just opened has executed nothing. -/
theorem executionsOn_opened (trace : Trace) (cursor : Nat) :
    executionsOn (trace ++ [.opened cursor]) cursor = 0 := by
  rw [executionsOn_append]
  exact if_pos rfl

end Trace

namespace Exchange

variable {α β : Type}

/-- The outcome of an exchange on a trace, and the trace it leaves. -/
def after (x : Exchange α) (trace : Trace) : Except Error α × Trace :=
  (x.run : StateM Trace (Except Error α)).run trace

@[simp] theorem after_pure (a : α) (trace : Trace) :
    (pure a : Exchange α).after trace = (.ok a, trace) := rfl

@[simp] theorem after_lift (r : Except Error α) (trace : Trace) :
    (liftM r : Exchange α).after trace = (r, trace) := rfl

theorem after_get (trace : Trace) :
    (get : Exchange Trace).after trace = (.ok trace, trace) := rfl

theorem lift_ok (a : α) : (liftM (Except.ok a : Except Error α) : Exchange α) = pure a := rfl

theorem after_bind (x : Exchange α) (f : α → Exchange β) (trace : Trace) :
    (x >>= f).after trace =
      match x.after trace with
      | (.ok a, later) => (f a).after later
      | (.error e, later) => (.error e, later) := by
  change (match x.after trace with
    | (outcome, later) =>
      (ExceptT.bindCont f outcome : StateM Trace (Except Error β)).run later) = _
  obtain ⟨outcome, later⟩ := x.after trace
  cases outcome <;> rfl

/-- An exchange that succeeds hands its value on, together with the trace it leaves. -/
theorem after_bind_ok {x : Exchange α} {f : α → Exchange β} {trace later : Trace} {a : α}
    (succeeds : x.after trace = (.ok a, later)) : (x >>= f).after trace = (f a).after later := by
  rw [after_bind, succeeds]

/-- Nothing follows an exchange that fails. -/
theorem after_bind_error {x : Exchange α} {f : α → Exchange β} {trace later : Trace} {e : Error}
    (fails : x.after trace = (.error e, later)) : (x >>= f).after trace = (.error e, later) := by
  rw [after_bind, fails]

theorem after_map (f : α → β) (x : Exchange α) (trace : Trace) :
    (f <$> x).after trace = ((x.after trace).1.map f, (x.after trace).2) := by
  rw [map_eq_pure_bind, after_bind]
  obtain ⟨outcome, later⟩ := x.after trace
  cases outcome <;> rfl

@[simp] theorem after_emit (event : Event) (trace : Trace) :
    (emit event).after trace = (.ok (), trace ++ [event]) := rfl

@[simp] theorem after_log (record : LogRecord) (trace : Trace) :
    (log record).after trace = (.ok (), trace ++ [.logged record]) := rfl

@[simp] theorem after_raiseIf (fault : Option Fault) (trace : Trace) :
    (raiseIf fault).after trace = (unlessFault fault (.ok ()), trace) := by
  cases fault <;> rfl

/-- What is done at last adds to the trace in any case, and only its failure changes the outcome. -/
theorem after_tryFinally (x : Exchange α) (last : Exchange Unit) (trace : Trace) :
    (tryFinally x last).after trace =
      match last.after (x.after trace).2 with
      | (.ok _, later) => ((x.after trace).1, later)
      | (.error e, later) => (.error e, later) := by
  generalize ran : x.after trace = first
  obtain ⟨outcome, between⟩ := first
  generalize ended : last.after between = second
  obtain ⟨closing, later⟩ := second
  simp only [after, tryFinally, tryFinally', ExceptT.run, ExceptT.mk, StateT.run, bind, StateT.bind,
    Functor.map, ExceptT.map] at ran ended ⊢
  simp only [ran]
  cases outcome <;> cases closing <;> simp only [ended] <;> rfl

end Exchange

namespace Cursor

@[simp] theorem after_execute (cursor : Cursor) (sql : String) (params : List Value)
    (trace : Trace) :
    (cursor.execute sql params).after trace =
      (unlessFault (cursor.script.executeFault (trace.executionsOn cursor.index)) (.ok ()),
        trace ++ [.executed cursor.index sql params]) := by
  rw [execute, Exchange.after_bind_ok (Exchange.after_get trace),
    Exchange.after_bind_ok (Exchange.after_emit _ _), Exchange.after_raiseIf]

@[simp] theorem after_close (cursor : Cursor) (trace : Trace) :
    cursor.close.after trace =
      (unlessFault cursor.script.closeFault (.ok ()), trace ++ [.released cursor.index]) := by
  rw [close, Exchange.after_bind_ok (Exchange.after_emit _ _), Exchange.after_raiseIf]

end Cursor

namespace Connection

def nextCursor (connection : Connection) (trace : Trace) : Cursor :=
  ⟨trace.openedCursors.length, connection.script trace.openedCursors.length⟩

theorem after_openCursor (connection : Connection) (trace : Trace) :
    connection.openCursor.after trace =
      match connection.cursorFault trace.cursorCalls with
      | some raised => (.error (.fault raised), trace ++ [.denied])
      | none => (.ok (connection.nextCursor trace),
          trace ++ [.opened trace.openedCursors.length]) := by
  rw [openCursor, Exchange.after_bind_ok (Exchange.after_get trace)]
  cases connection.cursorFault trace.cursorCalls <;> rfl

theorem after_close (connection : Connection) (trace : Trace) :
    connection.close.after trace =
      if connection.closable then
        (unlessFault (connection.closeFault trace.disconnections) (.ok ()),
          trace ++ [.disconnected])
      else (.ok (), trace) := by
  unfold close
  split
  · rw [Exchange.after_bind_ok (Exchange.after_get trace),
      Exchange.after_bind_ok (Exchange.after_emit _ _), Exchange.after_raiseIf]
  · rfl

end Connection
end SqlTemplate
