/-!
# Kinds of messages

Every kind has the upper-case name and the number that the protocol gives it.
-/

namespace Wamp

inductive MessageKind where
  | hello
  | welcome
  | abort
  | challenge
  | authenticate
  | goodbye
  | error
  | publish
  | published
  | subscribe
  | subscribed
  | unsubscribe
  | unsubscribed
  | event
  | call
  | cancel
  | result
  | register
  | registered
  | unregister
  | unregistered
  | invocation
  | interrupt
  | yield
  deriving DecidableEq, Repr

namespace MessageKind

def all : List MessageKind :=
  [.hello, .welcome, .abort, .challenge, .authenticate, .goodbye, .error, .publish, .published,
    .subscribe, .subscribed, .unsubscribe, .unsubscribed, .event, .call, .cancel, .result,
    .register, .registered, .unregister, .unregistered, .invocation, .interrupt, .yield]

def name : MessageKind → String
  | .hello => "HELLO"
  | .welcome => "WELCOME"
  | .abort => "ABORT"
  | .challenge => "CHALLENGE"
  | .authenticate => "AUTHENTICATE"
  | .goodbye => "GOODBYE"
  | .error => "ERROR"
  | .publish => "PUBLISH"
  | .published => "PUBLISHED"
  | .subscribe => "SUBSCRIBE"
  | .subscribed => "SUBSCRIBED"
  | .unsubscribe => "UNSUBSCRIBE"
  | .unsubscribed => "UNSUBSCRIBED"
  | .event => "EVENT"
  | .call => "CALL"
  | .cancel => "CANCEL"
  | .result => "RESULT"
  | .register => "REGISTER"
  | .registered => "REGISTERED"
  | .unregister => "UNREGISTER"
  | .unregistered => "UNREGISTERED"
  | .invocation => "INVOCATION"
  | .interrupt => "INTERRUPT"
  | .yield => "YIELD"

def code : MessageKind → Nat
  | .hello => 1
  | .welcome => 2
  | .abort => 3
  | .challenge => 4
  | .authenticate => 5
  | .goodbye => 6
  | .error => 8
  | .publish => 16
  | .published => 17
  | .subscribe => 32
  | .subscribed => 33
  | .unsubscribe => 34
  | .unsubscribed => 35
  | .event => 36
  | .call => 48
  | .cancel => 49
  | .result => 50
  | .register => 64
  | .registered => 65
  | .unregister => 66
  | .unregistered => 67
  | .invocation => 68
  | .interrupt => 69
  | .yield => 70

theorem mem_all (kind : MessageKind) : kind ∈ all := by
  cases kind <;> decide

/-- No kind bears this number. -/
structure UnknownCode where
  code : Nat
  deriving DecidableEq, Repr

def UnknownCode.message (unknown : UnknownCode) : String :=
  s!"unknown message type {unknown.code}"

def ofCode (code : Nat) : Except UnknownCode MessageKind :=
  match all.find? fun kind => kind.code == code with
  | some kind => .ok kind
  | none => .error { code }

def ofName? (name : String) : Option MessageKind :=
  all.find? fun kind => kind.name == name

theorem ofCode_code (kind : MessageKind) : ofCode kind.code = .ok kind := by
  cases kind <;> rfl

theorem ofName?_name (kind : MessageKind) : ofName? kind.name = some kind := by
  cases kind <;> decide

end MessageKind

end Wamp
