import InvocationHost.Handler
import InvocationHost.Rehearsal.Explosion
import InvocationHost.Text.Numeral

/-! # Handlers to rehearse with

Handlers that show what the host does around them: some answer, some fail under an error type of their
caller's choice, some panic at one point or another, some return what cannot be written.
-/
namespace InvocationHost.Rehearsal.Handlers
open Json Panic

def textType : String := "alloc::string::String"

def answer (d : Data) : Program (Except String Data) := .done (.ok d)

def echo : Handler Value Data String :=
  .ofFunction textType Value.decoder fun _ v => answer (.value v)

/-- Answers with the identifier of the invocation. -/
def identify : Handler Value Data String :=
  .ofFunction textType Value.decoder fun ctx _ =>
    answer (.map [(.text "requestId", .text ctx.id.text)])

/-- A record of one text that must be given. -/
def soleText (name field : String) : Record (Option String) String where
  name := name
  fields := [.of field true id (fun x _ => some x) Decoder.text]
  blank := none
  complete := require field

def greet : Handler String Data String :=
  .ofFunction textType (soleText "Greeting" "name").decoder fun _ name =>
    if name.isEmpty then .done (.error "name must not be empty")
    else answer (.map [(.text "message", .text ("hello " ++ name))])

def optionalText (s : Option String) : Value := (s.map Value.text).getD .null

def contextValue (ctx : Context) (slot : Option String) : Value :=
  .object [("arn", .text ctx.functionArn),
    ("clientContext", (ctx.clientContext.map ClientContext.toValue).getD .null),
    ("deadlineMs", .text (toString ctx.deadline.ms)),
    ("identity", (ctx.identity.map CognitoIdentity.toValue).getD .null),
    ("requestId", .text ctx.id.text), ("slot", optionalText slot),
    ("traceId", optionalText ctx.traceId)]

/-- Answers with all that it is told, and with the trace token of the process. -/
def context : Handler Value Data String :=
  .ofFunction textType Value.decoder fun ctx _ =>
    .readToken fun slot => answer (.value (contextValue ctx slot))

/-- Looks one place beyond the end of its list. -/
def index : Handler (List UInt32) Data String :=
  .ofFunction textType (Decoder.list Decoder.uint32) fun _ xs =>
    .pause (.erupt (Explosion.formatted (Explosion.outOfBounds xs.length xs.length)))

/-- Panics before it has given up the thread at all. -/
def eager : Handler Value Data String :=
  .ofFunction textType Value.decoder fun _ v =>
    if v.hasMember "kind" then .erupt (Explosion.eruption v) else answer (.value v)

def panics : Handler Value Data String :=
  .ofFunction textType Value.decoder fun _ v =>
    .pauses (v.naturalAt "yields") (.erupt (Explosion.eruption v))

/-- Waits while the host is told to end. -/
def linger : Handler Value Data String :=
  .ofFunction textType Value.decoder fun _ v => .pause (answer (.value v))

def oneEntry (key : Key) : Data := .map [(key, .integer 1)]

/-- Data of all shapes, each by its name. -/
def shapes (text : String) : List (String × Data) :=
  [("int_key", oneEntry (.integer (-5))), ("u64_key", oneEntry (.integer (UInt64.size - 1))),
   ("bool_key", oneEntry (.bool true)), ("char_key", oneEntry (.char 'k')),
   ("some_key", oneEntry (.text "k")), ("string_key", oneEntry (.text text)),
   ("bytes_key", oneEntry .unwritable), ("unit_key", oneEntry .unwritable),
   ("none_key", oneEntry .unwritable), ("custom", .refused text),
   ("late", .list [.integer 1, oneEntry .unwritable]), ("nan", .double none),
   ("infinity", .double none), ("unit", .null), ("none", .null), ("char", .char '"'),
   ("bytes", .bytes text.toUTF8.toList), ("u64", .integer (UInt64.size - 1)),
   ("i64", .integer Text.leastInt64), ("tuple", .list [.integer 1, .text "two", .bool false]),
   ("text", .text text),
   ("nested", .map [(.text "a", .list [.integer 1, .null]), (.text "b", .list [])])]

def shaped : Handler Value Data String :=
  .ofFunction textType Value.decoder fun _ v =>
    answer (((shapes (v.textAt "text")).lookup (v.textAt "shape")).getD (.value v))

/-- Fails with what it is told to say. -/
def fail (errorType : String) : Handler String Data String :=
  .ofFunction errorType (soleText "Message" "message").decoder fun _ message =>
    .done (.error message)

/-- Fails with a text of its own, whatever it is told. -/
def failWith (errorType text : String) : Handler String Data String :=
  .ofFunction errorType (soleText "Message" "message").decoder fun _ _ => .done (.error text)

/-- Answers with the number it is told, or fails if that is none. -/
def number (errorType : String) : Handler String Data String :=
  .ofFunction errorType (soleText "Message" "message").decoder fun _ message =>
    .done ((Text.readInt32 message.toList).mapError Text.NumeralError.message |>.map Data.integer)

end InvocationHost.Rehearsal.Handlers
