import SqlTemplate.Error

/-!
# From values to driver values

A value is bound in two moves: `classify` finds the kind, unless a tag names one, and `convert`
checks that the value fits the kind and turns it into what the driver receives. A truth value is
not an integer here, and a timestamp counts as a date, from which the date kind takes the day and
to which the timestamp kind adds midnight.
-/

namespace SqlTemplate

namespace Value

/-- Tags a value with its kind; a tagged value keeps its tag. -/
def classify (value : Value) (key : Option String) : Except Error Tagged :=
  match value with
  | .tagged kind payload => .ok ⟨kind, payload⟩
  | .null => .ok ⟨.null, .null⟩
  | .text _ => .ok ⟨.text, value⟩
  | .boolean _ => .ok ⟨.boolean, value⟩
  | .int n =>
    if Kind.int32.holds n then .ok ⟨.int32, value⟩
    else if Kind.int64.holds n then .ok ⟨.int64, value⟩
    else .error (.unsupportedType value key)
  | .double _ => .ok ⟨.double, value⟩
  | .timestamp _ _ => .ok ⟨.timestamp, value⟩
  | .date _ => .ok ⟨.date, value⟩
  | .time _ => .ok ⟨.time, value⟩
  | .bytes _ _ => .ok ⟨.bytes, value⟩
  | .decimal _ | .list _ | .tuple _ | .set _ | .mapping _ | .object _ =>
    .error (.unsupportedType value key)

end Value

namespace Tagged

def unfit (t : Tagged) (key : Option String) : Error :=
  (Error.unbindable t.payload t.kind key).worded

/-- A number as a double; integers are rounded, and those beyond the range are refused. -/
def toDouble (t : Tagged) (key : Option String) : Except Error Double :=
  match t.payload with
  | .double x => .ok x
  | .int n =>
    match Double.ofInt? n with
    | some x => .ok x
    | none => .error .integerTooLarge
  | _ => .error (t.unfit key)

/-- A number narrowed to single precision; whatever leaves the range is a binding error. -/
def narrow (t : Tagged) (key : Option String) : Except Error Double :=
  match t.payload with
  | .double x =>
    match x.narrow? with
    | some y => .ok y
    | none => .error (.floatRange t.payload key)
  | .int n =>
    match (Double.ofInt? n).bind Double.narrow? with
    | some y => .ok y
    | none => .error (.floatRange t.payload key)
  | _ => .error (t.unfit key)

/-- A number in single precision. Here the message is written before anything can go wrong, so
that an integer too long to be written gets no further. -/
def toSingle (t : Tagged) (key : Option String) : Except Error Double :=
  if t.payload.isWritable then t.narrow key else .error .integerTooLong

def convert (t : Tagged) (key : Option String) : Except Error Value :=
  match t.kind, t.payload with
  | .null, .null => .ok .null
  | .text, .text s => .ok (.text s)
  | .boolean, .boolean b => .ok (.boolean b)
  | .int32, .int n | .int64, .int n | .short, .int n | .byte, .int n =>
    if t.kind.holds n then .ok (.int n) else .error (t.unfit key)
  | .double, _ => (t.toDouble key).map .double
  | .float, _ => (t.toSingle key).map .double
  | .date, .date day | .date, .timestamp day _ => .ok (.date day)
  | .time, .time clock => .ok (.time clock)
  | .timestamp, .timestamp day clock => .ok (.timestamp day clock)
  | .timestamp, .date day => .ok (.timestamp day .midnight)
  | .bytes, .bytes _ content => .ok (.bytes .fixed content)
  | _, _ => .error (t.unfit key)

end Tagged

def Value.toDriver (value : Value) (key : Option String) : Except Error Value := do
  let tagged ← value.classify key
  tagged.convert key

end SqlTemplate
