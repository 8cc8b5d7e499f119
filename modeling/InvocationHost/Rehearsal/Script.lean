import InvocationHost.Rehearsal.Explosion

/-! # Scripts of user code

A script is a small program in JSON. An object with one member is an instruction, and anything else is
a value; a script that panics outside of a containment leaves everything around it.
-/
namespace InvocationHost.Rehearsal
open Json Panic

inductive Script
  | value (v : Value)
  | erupt (e : Eruption)
  | pause (next : Script)
  | all (scripts : List Script)
  | contain (body : Script)
  | catchOwn (e : Eruption)

/-- What a script ends with. -/
inductive ScriptResult
  | value (v : Value)
  | all (results : List ScriptResult)
  | contained (result : ScriptResult)
  | captured (c : Captured)
  | caught

namespace Script

mutual
def ofValue : Value → Script
  | .object [("panic", v)] => .erupt (Explosion.eruption v)
  | .object [("catch", v)] => .catchOwn (Explosion.eruption v)
  | .object [("yield", v)] => .pause (ofValue v)
  | .object [("contain", v)] => .contain (ofValue v)
  | .object [("seq", .list items)] => .all (ofValues items)
  | v => .value v

def ofValues : List Value → List Script
  | [] => []
  | v :: vs => ofValue v :: ofValues vs
end

mutual
def program : Script → Program ScriptResult
  | .value v => .done (.value v)
  | .erupt e => .erupt e
  | .pause next => .pause next.program
  | .all scripts => (programs scripts).bind fun rs => .done (.all rs)
  | .contain body => .containing body.program fun
    | .ok r => .done (.contained r)
    | .error c => .done (.captured c)
  | .catchOwn e => (Program.catchOwn e).bind fun _ => .done .caught

def programs : List Script → Program (List ScriptResult)
  | [] => .done []
  | s :: ss => s.program.bind fun r => (programs ss).bind fun rs => .done (r :: rs)
end

end Script
end InvocationHost.Rehearsal
