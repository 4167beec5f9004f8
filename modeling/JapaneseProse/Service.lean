import JapaneseProse.Encoding.Detection
import JapaneseProse.Engine.Answer
import JapaneseProse.Profile.Reader
import JapaneseProse.Report
import JapaneseProse.Service.Address
import JapaneseProse.Text.UpperCase

/-!
# The web service

Requests are answered with a status and a JSON value.  A request to convert, to lint or
to do both carries a profile together with the text.  What is wrong with a request is
answered by an error envelope with a code and a message; of several violations only the
first is told.
-/

namespace JapaneseProse.Service

open Json (Value Members)

/-- A request: its method, the path it asks for and the bytes it carries. -/
structure Request where
  method : Text
  path : Text
  body : Option Encoding.Bytes

/-- A request to an address, if it is one; the case of the method does not count. -/
def Request.to? (address : Text) (method : Text) (body : Option Encoding.Bytes) :
    Option Request :=
  (Address.ofText? address).map fun a => ⟨upperCase method, a.target, body⟩

/-- An answer: its status and what it says. -/
structure Response where
  status : Nat
  body : Value

/-- Why no engine is to be had for a request. -/
inductive Rejection where
  | status (code : Nat) (detail : String)
  | failure (detail : String)
deriving DecidableEq, Repr

/-- What can be asked of the service. -/
inductive Endpoint where
  | health
  | defaults
  | convert
  | lint
  | run
deriving DecidableEq, Repr

namespace Endpoint

/-- All endpoints. -/
def all : List Endpoint := [health, defaults, convert, lint, run]

/-- The path of an endpoint. -/
def path : Endpoint → Text
  | health => "/healthz".toList
  | defaults => "/api/v1/defaults".toList
  | convert => "/api/v1/convert".toList
  | lint => "/api/v1/lint".toList
  | run => "/api/v1/run".toList

/-- The method that an endpoint is asked with. -/
def method : Endpoint → Text
  | health => "GET".toList
  | defaults => "GET".toList
  | convert => "POST".toList
  | lint => "POST".toList
  | run => "POST".toList

/-- A path without the slashes at its end. -/
def withoutSlashes (path : Text) : Text := (path.reverse.dropWhile (· == '/')).reverse

/-- The endpoint at a path; slashes at the end of a path do not count. -/
def ofPath? (path : Text) : Option Endpoint :=
  all.find? fun e => e.path == withoutSlashes path

end Endpoint

/-- The largest number of characters of a text that is taken. -/
def standardLimit : Int := 20 * 1024 * 1024

/-- The code that an error envelope has for a status. -/
def codeOf (status : Nat) : String :=
  if status = 404 then "not_found"
  else if status = 400 ∨ status = 413 ∨ status = 422 then "bad_request"
  else "internal_error"

/-- An error envelope. -/
def errorResponse (status : Nat) (message : String) : Response :=
  ⟨status, Json.objectOf [("error", Json.objectOf [
    ("code", Json.stringOf (codeOf status)), ("message", Json.stringOf message)])]⟩

/-- A plain detail, for requests that lead nowhere. -/
def detailResponse (status : Nat) (detail : String) : Response :=
  ⟨status, Json.objectOf [("detail", Json.stringOf detail)]⟩

/-- An answer that went well. -/
def okResponse (members : List (String × Value)) : Response := ⟨200, Json.objectOf members⟩

/-! ### Requests with a text -/

/-- A text and the profile to treat it by. -/
structure TextRequest where
  profile : Profile
  text : Text

/-- What is wrong with the text of a request. -/
def textViolations (members : Members) : List Profile.Violation :=
  match Profile.member? members "text" with
  | some (.string _) => []
  | some _ => [⟨.notAString, [.name "text".toList]⟩]
  | none => [⟨.missing, [.name "text".toList]⟩]

/-- What is said about the violation of a request.  A request tells of a part that is no
object in the same way as of a body that is none. -/
def violationMessage (v : Profile.Violation) : String :=
  match v.kind with
  | .notAnObject _ => (Profile.Violation.Kind.notAnObject none).message
  | kind => kind.message

/-- The request that the members of a body stand for. -/
def ofMembers (members : Members) : Except String TextRequest :=
  match Profile.violations members ++ textViolations members with
  | v :: _ => .error (violationMessage v)
  | [] =>
      let text := ((Profile.member? members "text").bind Value.text?).getD []
      .ok ⟨.ofMembers members, text⟩

/-- The request that a body stands for, or the answer to a body that stands for none. -/
def readBody (body : Option Encoding.Bytes) : Except Response TextRequest :=
  match body.getD [] with
  | [] => .error (errorResponse 400 Profile.Violation.Kind.missing.message)
  | bytes =>
      match (Encoding.decodeUnicode? bytes).map Json.read with
      | none => .error (detailResponse 400 "There was an error parsing the body")
      | some (.error _) => .error (errorResponse 400 "JSON decode error")
      | some (.ok (.object members)) => (ofMembers members).mapError (errorResponse 400)
      | some (.ok _) =>
          .error (errorResponse 400 (Profile.Violation.Kind.notAnObject none).message)

/-- Findings and their number. -/
def findingsMembers (l : List Finding) : List (String × Value) :=
  [("findings", Finding.listToJson l), ("count", Json.natOf l.length)]

/-- What an engine says to a request at one of the endpoints that take a text. -/
def perform (endpoint : Endpoint) (engine : Engine) (text : Text) :
    Except Engine.Fault Response :=
  match endpoint with
  | .lint => do
      let findings ← engine.lint text
      return okResponse (findingsMembers findings)
  | .run => do
      let (converted, findings) ← engine.run text
      return okResponse (("text", .string converted) :: findingsMembers findings)
  | _ => do
      let converted ← engine.convert text
      return okResponse [("text", .string converted)]

/-- The answer to a request with a text; `engineOf` gives the engine of a profile. -/
def answerText (engineOf : Profile → Except Rejection Engine) (limit : Int)
    (endpoint : Endpoint) (body : Option Encoding.Bytes) : Response :=
  match readBody body with
  | .error response => response
  | .ok request =>
      if limit < request.text.length then
        errorResponse 413 s!"text too large (> {toString limit} chars)"
      else
        match engineOf request.profile with
        | .error (.status code detail) => errorResponse code detail
        | .error (.failure detail) => errorResponse 500 detail
        | .ok engine =>
            match perform endpoint engine request.text with
            | .ok response => response
            | .error fault => errorResponse 500 fault.message

/-! ### All requests -/

/-- The engine of a profile, or the fault of building it as a failure. -/
def buildEngine (profile : Profile) : Except Rejection Engine :=
  match profile.engine? with
  | .ok engine => .ok engine
  | .error fault => .error (.failure fault.message)

/-- The defaults, with the replacement table of a new engine. -/
def defaults : Response :=
  okResponse [
    ("options", Settings.allOn.toJson),
    ("chars", Engine.standard.tables.toJson),
    ("numerals", Engine.standard.numerals.toJson)]

/-- The answer to a request; `engineOf` gives the engine of a profile, and texts of more
than `limit` characters are refused. -/
def answer (engineOf : Profile → Except Rejection Engine) (limit : Int) (request : Request) :
    Response :=
  match Endpoint.ofPath? request.path with
  | none => detailResponse 404 "Not Found"
  | some endpoint =>
      if request.method ≠ endpoint.method then detailResponse 405 "Method Not Allowed"
      else
        match endpoint with
        | .health => okResponse [("ok", .bool true)]
        | .defaults => defaults
        | endpoint => answerText engineOf limit endpoint request.body

end JapaneseProse.Service
