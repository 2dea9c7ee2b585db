import Masking.Http.Response
import Masking.Text.Search

/-! Requests, and the path in the address they ask for. -/

namespace Masking.Http

/-- A request as it reaches the service. -/
structure Request where
  method : String
  /-- The address that was asked for, as it was sent. -/
  target : String
  headers : Headers
  body : String
deriving DecidableEq, Inhabited

/-- Headers as they were sent, their names in lower case. -/
def Headers.ofSent (headers : List (String × String)) : Headers :=
  headers.map fun (name, value) => (String.ofList (name.toList.map Text.lowerAscii), value)

/-- The part of an address before its query and its fragment. -/
def beforeQuery : List Char → List Char
  | [] => []
  | c :: rest => if c = '?' ∨ c = '#' then [] else c :: beforeQuery rest

/-- What follows the host name of an address. -/
def afterHost : List Char → List Char
  | [] => []
  | c :: rest => if c = '/' ∨ c = '?' ∨ c = '#' then c :: rest else afterHost rest

/-- What follows the scheme of an address that begins with one. -/
def afterScheme : List Char → Option (List Char)
  | [] => none
  | ':' :: '/' :: '/' :: rest => some rest
  | c :: rest => if c = '/' ∨ c = '?' ∨ c = '#' then none else afterScheme rest

/-- The path of an address. An address with a scheme but no path has the path `/`, and one that is
only a host name has none. -/
def pathOf (address : List Char) : List Char :=
  match address with
  | [] => []
  | '/' :: rest => '/' :: beforeQuery rest
  | c :: rest =>
      match afterScheme (c :: rest) with
      | some rest =>
          match beforeQuery (afterHost rest) with
          | [] => ['/']
          | path => path
      | none => if c = '*' then ['*'] else []

/-- The path that a request asks for. -/
def Request.path (request : Request) : String :=
  String.ofList (pathOf request.target.toList)

end Masking.Http
