import Masking.Store.Config
import Masking.Store.Execution
import Masking.Text.Address
import Masking.Text.Percent

/-! The backend over a Redis server: the URL that stands for its settings, the greeting on a new
connection, and a network in which servers are found or not. -/

namespace Masking.Store.Redis

/-- The name of the backend. -/
def name : String := "redis"

/-- A password that counts: an empty one is none. -/
def secret (password : Option String) : Option String :=
  password.filter fun password => ¬ password.isEmpty

/-- The URL of a server and database, with the password in it percent-encoded. -/
def url (address : String) (password : Option String) (database : Int) : String :=
  let user :=
    match secret password with
    | some password => ":" ++ Text.percentEncode password ++ "@"
    | none => ""
  "redis://" ++ user ++ address ++ "/" ++ String.ofList (Text.signedDecimal database)

/-- Whether a character may not stand in the name of a host. -/
def isForbidden (c : Char) : Bool :=
  c.toNat = 0 || [' ', '#', '/', ':', '<', '>', '?', '@', '[', '\\', ']', '^', '|'].contains c

/-- Where the name of a host ends: at the first colon that is not between brackets. -/
def hostEnd : (inBrackets : Bool) → List Char → List Char × Option (List Char)
  | _, [] => ([], none)
  | inBrackets, c :: rest =>
      if c = ':' ∧ ¬ inBrackets then ([], some rest)
      else
        let next := if c = '[' then true else if c = ']' then false else inBrackets
        let (host, port) := hostEnd next rest
        (c :: host, port)

/-- Whether the name of a host can stand in a URL. -/
def isHost (host : List Char) : Bool :=
  match host with
  | '[' :: rest =>
      match rest.reverse with
      | ']' :: inner => (Text.readIpv6 inner.reverse).isSome
      | _ => false
  | _ => !host.any isForbidden

/-- The characters that end the part of a URL which names the server. -/
def endsAuthority (c : Char) : Bool :=
  c = '/' || c = '?' || c = '#'

/-- What is wrong with the URL of an address, if anything is. An empty host is malformed after a
user and before a port, and missing otherwise. -/
def urlProblem (address : String) (password : Option String) (database : Int) : Option String :=
  let text := ((url address password database).toList.drop "redis://".length).filter fun c =>
    c ≠ '\t' ∧ c ≠ '\n' ∧ c ≠ '\r'
  let authority := text.takeWhile fun c => !endsAuthority c
  let path := (text.drop authority.length).takeWhile fun c => c ≠ '?' ∧ c ≠ '#'
  let server := (authority.reverse.takeWhile fun c => c ≠ '@').reverse
  let hasUser := server.length < authority.length
  let (host, port) := hostEnd false server
  let portFits : Bool :=
    match port with
    | some port => port.isEmpty || (Text.readPort port).isSome
    | none => true
  let malformed := some "Redis URL did not parse- InvalidClientConfig"
  if host.isEmpty ∧ (hasUser ∨ port.isSome) then malformed
  else if ¬ isHost host ∨ ¬ portFits then malformed
  else if host.isEmpty then some "Missing hostname- InvalidClientConfig"
  else
    let trimmed := ((path.dropWhile fun c => c = '/').reverse.dropWhile fun c => c = '/').reverse
    let digits :=
      match trimmed with
      | '-' :: rest => rest
      | '+' :: rest => rest
      | _ => trimmed
    if trimmed.isEmpty ∨ (Text.readDecimal digits).isSome then none
    else some "Invalid database number- InvalidClientConfig"

/-- What a server replies to a command. -/
inductive Reply where
  | ok
  | nothing
  | text (value : String)
  | failure (message : String)
deriving DecidableEq, Inhabited

/-- A server over states of type `σ`: it answers commands, which are lists of words. -/
abbrev Server (σ : Type) := σ → List String → Reply × σ

/-- A connection to a server: whether it is still open, and the state of the server. -/
structure Link (σ : Type) where
  isOpen : Bool
  server : σ

/-- An operation that sends one command. On a connection that was closed it fails. -/
def send {σ β : Type} (server : Server σ) (operation : String) (command : List String)
    (result : Reply → β) (link : Link σ) : Attempt (Link σ) β :=
  if link.isOpen then
    let (reply, state) := server link.server command
    let link : Link σ := { link with server := state }
    let outcome :=
      match reply with
      | .failure message => .error (.transport name operation message)
      | reply => .ok (result reply)
    ⟨link, [], some 0, (outcome, link)⟩
  else
    ⟨link, [], some 0, (.error (.transport name operation "connection closed"), link)⟩

/-- The command that writes a key. A lifetime is given in whole seconds, at least one. -/
def writeCommand (key value : String) : Option Duration → List String
  | none => ["SET", key, value]
  | some ttl => ["SETEX", key, String.ofList (Text.decimal (Nat.max (ttl / 1000) 1)), value]

/-- The backend over a connection. Closing it only forgets the connection. -/
def backend {σ : Type} (server : Server σ) : Backend (Link σ) where
  name := name
  get _ link key :=
    send server "get" ["GET", key]
      (fun reply => match reply with
        | .text value => some value
        | _ => none) link
  set _ link key value ttl := send server "set" (writeCommand key value ttl) (fun _ => ()) link
  ping _ link := send server "ping" ["PING"] (fun _ => ()) link
  close _ link :=
    let closed : Link σ := { link with isOpen := false }
    ⟨closed, [], some 0, (.ok (), closed)⟩

/-- The commands by which a connection is set up. -/
def greeting (password : Option String) (database : Int) : List (List String) :=
  ((secret password).toList.map fun password => ["AUTH", password])
    ++ (if database = 0 then []
        else [["SELECT", String.ofList (Text.signedDecimal database)]])

/-- Send commands as long as none fails. -/
def sendAll {σ : Type} (server : Server σ) : List (List String) → σ → Except String Unit × σ
  | [], state => (.ok (), state)
  | command :: rest, state =>
      match server state command with
      | (.failure message, state) => (.error message, state)
      | (_, state) => sendAll server rest state

/-- What is found at an address: a server, or nothing that can be reached, and why. -/
inductive Network (σ : Type) where
  | unreachable (reason : String)
  | reachable (server : Server σ) (state : σ)

/-- Connect to a server. An address that makes no URL is refused before anything is sent. -/
def connect {σ : Type} (network : Network σ) (address : String) (password : Option String)
    (database : Int) : Except Error (Link σ) :=
  match urlProblem address password database with
  | some problem => .error (.connection name address problem)
  | none =>
      match network with
      | .unreachable reason => .error (.connection name address reason)
      | .reachable server state =>
          match sendAll server (greeting password database) state with
          | (.ok (), state) => .ok ⟨true, state⟩
          | (.error message, _) => .error (.connection name address message)

end Masking.Store.Redis
