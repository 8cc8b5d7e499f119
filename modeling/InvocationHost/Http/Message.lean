import InvocationHost.Http.Target
import InvocationHost.Text.Utf8

/-! # HTTP messages

What the host sends is text; what it receives is bytes. A request is made for a URL, and what is sent of
it is its target. An exchange is what a request meets: it may not arrive, it may arrive and never be
answered, or it is answered by a reply whose body may break off.
-/
namespace InvocationHost.Http

inductive Method
  | get
  | post
  deriving DecidableEq, Repr

structure Request where
  method : Method
  /-- The URL behind its address, as the caller has put it together. -/
  url : String
  headers : List (String × String)
  body : Option String := none
  deriving DecidableEq, Repr

/-- What is sent of the URL. -/
def Request.target (r : Request) : String := Http.target r.url

structure Reply where
  status : Nat
  headers : List (String × List UInt8)
  body : List UInt8
  /-- The whole body has arrived. -/
  complete : Bool
  deriving DecidableEq, Repr

inductive Exchange
  | unreachable (detail : String)
  | dropped (detail : String)
  | answered (reply : Reply)
  deriving DecidableEq, Repr

/-- The request came to the other side. -/
def Exchange.arrived : Exchange → Bool
  | .unreachable _ => false
  | _ => true

def sameHeader (a b : String) : Bool := a.toList.map Char.toLower == b.toList.map Char.toLower

/-- A header value may hold any bytes but control bytes; a tab is allowed. -/
def isLegalValue (value : String) : Bool :=
  value.toList.all fun c => c = '\t' || (0x20 ≤ c.toNat && c.toNat ≠ 0x7F)

/-- A value is read as text if it is all tabs and visible ASCII. -/
def readable? (value : List UInt8) : Option String :=
  if value.all fun b => b == 0x09 || (0x20 ≤ b && b ≤ 0x7E) then
    some (String.ofList (value.map fun b => Char.ofNat b.toNat))
  else none

/-- The text of the first header of that name. -/
def Reply.header? (r : Reply) (name : String) : Option String :=
  (r.headers.find? fun h => sameHeader h.1 name).bind fun h => readable? h.2

def isPadding (b : UInt8) : Bool := b == 0x20 || b == 0x09

def unpadded (bytes : List UInt8) : List UInt8 :=
  ((bytes.dropWhile isPadding).reverse.dropWhile isPadding).reverse

/-- Replies of these statuses have no body. -/
def bodilessStatuses : List Nat := [204, 304]

/-- What arrives of a reply: padding around header values is lost on the way. -/
def Reply.delivered (r : Reply) : Reply :=
  let headers := r.headers.map fun h => (h.1, unpadded h.2)
  if bodilessStatuses.contains r.status then { r with headers, body := [], complete := true }
  else { r with headers }

def isPaddingChar (c : Char) : Bool := c = ' ' || c = '\t'

def unpaddedText (s : String) : String :=
  String.ofList (((s.toList.dropWhile isPaddingChar).reverse.dropWhile isPaddingChar).reverse)

/-- What arrives of a request. -/
def Request.delivered (r : Request) : Request :=
  { r with headers := r.headers.map fun h => (h.1, unpaddedText h.2) }

def Request.header? (r : Request) (name : String) : Option String := r.headers.lookup name

end InvocationHost.Http
