import Quorum.Http.Target
import Quorum.Json.Decode
import Quorum.Json.Value

/-!
# Requests and replies

What a client sends and what it gets back, as far as the server looks at it.
-/

namespace Quorum.Http

/-- A header by its name in lower case, and its value. -/
abbrev Header := String × String

structure Request where
  method : String
  /-- What the request is about, as it was sent. -/
  target : String
  headers : List Header
  body : String
deriving DecidableEq

structure Reply where
  status : Nat
  headers : List Header
  body : String
deriving DecidableEq

namespace Request

/-- The first header of a name. -/
def header? (q : Request) (name : String) : Option String :=
  (q.headers.find? (·.1 = name)).map (·.2)

/-- The path that the request is about. -/
def path (q : Request) : String :=
  targetPath q.target

end Request

namespace Reply

def text (status : Nat) (body : String) : Reply :=
  ⟨status, [("content-type", "text/plain; charset=utf-8")], body⟩

def json (status : Nat) (body : Json.Value) : Reply :=
  ⟨status, [("content-type", "application/json")], body.compact⟩

/-- An error in JSON form. -/
def error (status : Nat) (message : String) : Reply :=
  json status (.object [("error", .text message)])

/-- The same reply with one more header. -/
def withHeader (r : Reply) (name value : String) : Reply :=
  { r with headers := r.headers ++ [(name, value)] }

/-- The reply to a request that wants the headers only. -/
def withoutBody (r : Reply) : Reply :=
  { r with body := "" }

end Reply

end Quorum.Http
