import ScreenFlow.Http.Percent
import ScreenFlow.Http.Status
import ScreenFlow.Text.Encoded

namespace ScreenFlow.Http

/-! Requests, and what comes back for them. Of a response its status and its body count: its phrase
is the usual one of the status, and its text is UTF-8, whatever its head says about either. -/

inductive Method where
  | get
  | post
  | delete
  deriving DecidableEq, Repr

def Method.word : Method → String
  | .get => "GET"
  | .post => "POST"
  | .delete => "DELETE"

structure Request where
  method : Method
  address : String
  authorization : Option String
  contentType : Option String
  body : List UInt8
  deriving DecidableEq, Repr

structure Response where
  status : Nat
  body : List UInt8
  deriving DecidableEq, Repr

/-- What becomes of a request: it is answered, nobody is reached who could answer it, or the line
itself breaks. -/
inductive Reply where
  | answered (response : Response)
  | unreachable (reason : String)
  | broken
  deriving DecidableEq, Repr

/-! ## Bodies -/

inductive Body where
  | empty
  | form (entries : List (String × Text))
  | upload (entries : List (String × String)) (name fileName : String) (content : List UInt8)
  deriving DecidableEq, Repr

namespace Body

def lineEnd : List UInt8 := [13, 10]

def part (boundary : String) (headers : List String) (content : List UInt8) : List UInt8 :=
  Text.Utf8.encode s!"--{boundary}" ++ lineEnd ++
    headers.flatMap (fun header => Text.Utf8.encode header ++ lineEnd) ++ lineEnd ++ content ++
    lineEnd

def disposition (name : String) : String := s!"Content-Disposition: form-data; name=\"{name}\""

def uploaded (boundary : String) (entries : List (String × String)) (name fileName : String)
    (content : List UInt8) : List UInt8 :=
  entries.flatMap (fun (name, value) =>
    part boundary [disposition name] (Text.Utf8.encode value)) ++
    part boundary [s!"{disposition name}; filename=\"{fileName}\"",
      "Content-Type: application/json"] content ++
    Text.Utf8.encode s!"--{boundary}--" ++ lineEnd

/-- The bytes of a body. A form with a text that holds a surrogate has none. -/
def bytes (boundary : String) : Body → Except Fault (List UInt8)
  | .empty => .ok []
  | .form entries => do
      let entries ← entries.mapM fun (name, value) => do
        return (name, ← orFault .unencodable value.string?)
      return Text.Utf8.encodeChars (Percent.form entries)
  | .upload entries name fileName content => .ok (uploaded boundary entries name fileName content)

def contentType (boundary : String) : Body → Option String
  | .empty => none
  | .form _ => some "application/x-www-form-urlencoded"
  | .upload .. => some s!"multipart/form-data; boundary={boundary}"

end Body

end ScreenFlow.Http
